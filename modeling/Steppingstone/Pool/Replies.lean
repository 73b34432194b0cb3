/-
  Steppingstone.Pool.Replies — which request of a list a reply is taken for.

  A reply carries the guid and the request id, so it goes to the first request
  of the list with that guid, and the list counts replies.  A load that is
  answered with status NORMAL succeeds, whether its payload can be read or not.
-/
import Mathlib.Data.List.Induction
import Mathlib.Data.List.Perm.Subperm
import Steppingstone.Pool.WriteBack

namespace Steppingstone.Pool

variable {μ : Type}

/-! ## §1. What a reply carries. -/

/-- The message of a reply with status NORMAL, if it can be read. -/
def CacheReply.payload : CacheReply μ → Option μ
  | .result true (some m) => m
  | _ => none

/-- The reply can be parsed. -/
def CacheReply.isReadable : CacheReply μ → Bool
  | .unparsable => false
  | .result _ _ => true

namespace Request

/-- The request loads. -/
def isLoad (r : Request μ) : Bool :=
  match r.requestType with
  | .load | .loadOnce => true
  | _ => false

/-- The request succeeds with this reply of its own: the status is NORMAL, and a
load can read what was loaded. -/
def succeeds (r : Request μ) (reply : CacheReply μ) : Bool :=
  reply.isNormal && (!r.isLoad || reply.payload.isSome)

/-- The request sends a packet. -/
def Sends (r : Request μ) : Prop := r.opcodeAndStream ≠ none

instance (r : Request μ) : Decidable r.Sends :=
  inferInstanceAs (Decidable (¬ _))

end Request

namespace RequestList

/-- A list as it is committed. -/
structure Fresh (rl : RequestList μ) : Prop where
  count : rl.complatedCount = 0
  complated : rl.complated = false
  success : ∀ r ∈ rl.requestVec, r.success = false

/-- The reply to the `k`-th request arrives. -/
def deliverOne (replies : Nat → CacheReply μ) (rl : RequestList μ) (k : Nat) : RequestList μ :=
  match rl.requestVec[k]? with
  | some r => rl.handlePacket r.guid (replies k)
  | none => rl

/-- The replies arrive in some order. -/
def deliver (replies : Nat → CacheReply μ) (rl : RequestList μ) (order : List Nat) :
    RequestList μ :=
  order.foldl (deliverOne replies) rl

/-- Some of the packets of the list, each once. -/
structure SentPackets (rl : RequestList μ) (order : List Nat) : Prop where
  nodup : order.Nodup
  sends : ∀ k ∈ order, ∃ r, rl.requestVec[k]? = some r ∧ r.Sends

/-- **Every reply is attributed to its request**: whichever packets of the list
were answered, in any order, the list is complete exactly when each request has
its reply, and then each request has the status its reply carries and each load
its message. -/
def Attributed (rl : RequestList μ) (replies : Nat → CacheReply μ) : Prop :=
  ∀ order, rl.SentPackets order →
    ((rl.deliver replies order).complated = true ↔ ∀ k < rl.requestVec.length, k ∈ order) ∧
    ((rl.deliver replies order).complated = true → ∀ k r, rl.requestVec[k]? = some r →
      ∃ r', (rl.deliver replies order).requestVec[k]? = some r' ∧
        r'.success = r.succeeds (replies k) ∧
        (r.isLoad = true → r'.message = (replies k).payload.or r.message))

/-- The request of a list that takes the replies for a guid. -/
def taker (rl : RequestList μ) (guid : UInt64) : Nat :=
  rl.requestVec.findIdx (·.guid == guid)

/-- **The condition** on the replies: the status of each reply that can be read is
what the request that takes it comes to by its own reply, and a request that
takes none fails. -/
def Attributable (rl : RequestList μ) (replies : Nat → CacheReply μ) : Prop :=
  ∀ k r, rl.requestVec[k]? = some r →
    (∀ t, rl.requestVec[rl.taker r.guid]? = some t → (replies k).isReadable = true →
      (replies k).isNormal = t.succeeds (replies (rl.taker r.guid))) ∧
    (rl.taker r.guid ≠ k → r.succeeds (replies k) = false)

end RequestList

/-! ## §2. One reply. -/

section

variable {rs : List (Request μ)} {guid : UInt64} {reply : CacheReply μ}

/-- The first request with the guid takes the reply. -/
theorem handleFirst_getElem? (k : Nat) :
    (handleFirst guid reply rs)[k]? = (rs[k]?).map fun r =>
      if k = rs.findIdx (·.guid == guid) then r.handlePacket reply else r := by
  induction rs generalizing k with
  | nil => rfl
  | cons r rs ih =>
      rw [handleFirst, List.findIdx_cons]
      by_cases hr : r.guid = guid
      · rw [if_pos hr]
        cases k with
        | zero => simp [hr]
        | succ k => simp [hr]
      · have hne : (r.guid == guid) = false := by simpa using hr
        rw [if_neg hr, hne]
        cases k with
        | zero => simp
        | succ k =>
            rw [List.getElem?_cons_succ, List.getElem?_cons_succ, ih]
            simp

theorem handleFirst_length : (handleFirst guid reply rs).length = rs.length := by
  induction rs with
  | nil => rfl
  | cons r rs ih =>
      rw [handleFirst]
      split
      · rfl
      · rw [List.length_cons, List.length_cons, ih]

/-- The guids of a list do not change. -/
theorem handleFirst_findIdx (g : UInt64) :
    (handleFirst guid reply rs).findIdx (·.guid == g) = rs.findIdx (·.guid == g) := by
  induction rs with
  | nil => rfl
  | cons r rs ih =>
      rw [handleFirst]
      split
      · rw [List.findIdx_cons, List.findIdx_cons, (r.handlePacket_spec reply).1]
      · rw [List.findIdx_cons, List.findIdx_cons, ih]

end

namespace Request

variable {r : Request μ} {reply : CacheReply μ}

theorem handlePacket_unreadable (h : reply.isReadable = false) : r.handlePacket reply = r := by
  match reply with
  | .unparsable => rfl
  | .result normal message => exact absurd h (by simp [CacheReply.isReadable])

theorem handlePacket_success (h : reply.isReadable = true) :
    (r.handlePacket reply).success = reply.isNormal := by
  match reply with
  | .unparsable => exact absurd h (by simp [CacheReply.isReadable])
  | .result false message => rfl
  | .result true message => exact r.success_of_isNormal _ rfl

/-- A load takes the payload. -/
theorem handlePacket_message (h : r.isLoad = true) :
    (r.handlePacket reply).message = reply.payload.or r.message := by
  match reply with
  | .unparsable => rfl
  | .result false message => rfl
  | .result true message =>
      obtain ⟨requestType, guid, stored, ownerGuid, success, complated, changes⟩ := r
      match requestType, message with
      | .load, none | .load, some none | .load, some (some m) => rfl
      | .loadOnce, none | .loadOnce, some none | .loadOnce, some (some m) => rfl
      | .add, _ | .query, _ | .update, _ | .flush, _ | .delete, _ | .addWithFlush, _ =>
          exact absurd h (by simp [isLoad])

theorem handlePacket_guid : (r.handlePacket reply).guid = r.guid :=
  (r.handlePacket_spec reply).1

theorem handlePacket_isLoad : (r.handlePacket reply).isLoad = r.isLoad := by
  obtain ⟨success, message, h⟩ := r.handlePacket_eq reply
  rw [h]
  rfl

end Request

/-! ## §3. All replies. -/

/-- A request after the replies it takes, in their order. -/
def Request.takeAll (r : Request μ) (replies : List (CacheReply μ)) : Request μ :=
  replies.foldl Request.handlePacket r

namespace Request

variable {r : Request μ} {replies : List (CacheReply μ)} {reply : CacheReply μ}

theorem takeAll_append (x : CacheReply μ) :
    r.takeAll (replies ++ [x]) = (r.takeAll replies).handlePacket x := by
  unfold takeAll
  rw [List.foldl_append]
  rfl

theorem takeAll_guid : (r.takeAll replies).guid = r.guid := by
  induction replies using List.reverseRecOn with
  | nil => rfl
  | append_singleton xs x ih =>
      rw [takeAll_append, handlePacket_guid, ih]

/-- The last reply that can be read decides. -/
theorem takeAll_success (h : reply.isReadable = true) :
    (r.takeAll (replies ++ [reply])).success = reply.isNormal := by
  rw [takeAll_append, handlePacket_success h]

/-- Replies that agree leave the status they carry. -/
theorem takeAll_success_of_forall {b : Bool}
    (hr : r.success = b ∨ ∃ x ∈ replies, x.isReadable = true)
    (h : ∀ x ∈ replies, x.isReadable = true → x.isNormal = b) :
    (r.takeAll replies).success = b := by
  induction replies generalizing r with
  | nil =>
      obtain hr | ⟨x, hx, -⟩ := hr
      · exact hr
      · exact absurd hx (List.not_mem_nil)
  | cons x xs ih =>
      show (takeAll (r.handlePacket x) xs).success = b
      have hxs : ∀ y ∈ xs, y.isReadable = true → y.isNormal = b :=
        fun y hy => h y (List.mem_cons_of_mem _ hy)
      by_cases hx : x.isReadable = true
      · refine ih (.inl ?_) hxs
        rw [handlePacket_success hx]
        exact h x (List.mem_cons_self ..) hx
      · rw [handlePacket_unreadable (by simpa using hx)]
        refine ih ?_ hxs
        obtain hr | ⟨y, hy, hread⟩ := hr
        · exact .inl hr
        · obtain heq | hmem := List.mem_cons.mp hy
          · exact absurd (heq ▸ hread) hx
          · exact .inr ⟨y, hmem, hread⟩

/-- A load keeps the one message its replies carry. -/
theorem takeAll_message_of_forall {v : Option μ} (hload : r.isLoad = true)
    (hr : r.message = v ∨ ∃ x ∈ replies, x.payload ≠ none)
    (h : ∀ x ∈ replies, x.payload = none ∨ x.payload = v) :
    (r.takeAll replies).message = v := by
  induction replies generalizing r with
  | nil =>
      obtain hr | ⟨x, hx, -⟩ := hr
      · exact hr
      · exact absurd hx (List.not_mem_nil)
  | cons x xs ih =>
      show (takeAll (r.handlePacket x) xs).message = v
      have hload' : (r.handlePacket x).isLoad = true := by
        rw [handlePacket_isLoad]
        exact hload
      have hxs : ∀ y ∈ xs, y.payload = none ∨ y.payload = v :=
        fun y hy => h y (List.mem_cons_of_mem _ hy)
      by_cases hx : x.payload = none
      · refine ih hload' ?_ hxs
        rw [handlePacket_message hload, hx, Option.none_or]
        obtain hr | ⟨y, hy, hsome⟩ := hr
        · exact .inl hr
        · obtain heq | hmem := List.mem_cons.mp hy
          · exact absurd hx (heq ▸ hsome)
          · exact .inr ⟨y, hmem, hsome⟩
      · have hv : x.payload = v := (h x (List.mem_cons_self ..)).resolve_left hx
        refine ih hload' (.inl ?_) hxs
        rw [handlePacket_message hload, hv]
        cases v with
        | none => exact absurd hv hx
        | some m => rfl

/-- What carries a message is a success. -/
theorem succeeds_of_payload {x : CacheReply μ} (h : x.payload ≠ none) : r.succeeds x = true := by
  match x with
  | .unparsable => exact absurd rfl h
  | .result false _ => exact absurd rfl h
  | .result true none => exact absurd rfl h
  | .result true (some none) => exact absurd rfl h
  | .result true (some (some m)) => simp [succeeds, CacheReply.isNormal, CacheReply.payload]

theorem isReadable_of_succeeds {x : CacheReply μ} (h : r.succeeds x = true) :
    x.isReadable = true := by
  match x with
  | .unparsable => exact absurd h (by simp [succeeds, CacheReply.isNormal])
  | .result _ _ => rfl

end Request

namespace RequestList

variable {rl : RequestList μ} {replies : Nat → CacheReply μ} {order : List Nat}

/-- The reply to the `j`-th request is taken for the `k`-th. -/
def TakenFor (rl : RequestList μ) (j k : Nat) : Prop :=
  (rl.requestVec[j]?).map (fun r => rl.taker r.guid) = some k

instance (rl : RequestList μ) (j k : Nat) : Decidable (rl.TakenFor j k) :=
  inferInstanceAs (Decidable (_ = _))

/-- The replies the `k`-th request takes. -/
def takenBy (rl : RequestList μ) (replies : Nat → CacheReply μ) (order : List Nat) (k : Nat) :
    List (CacheReply μ) :=
  (order.filter fun j => rl.TakenFor j k).map replies

/-- One more reply is taken by one request. -/
theorem takenBy_append {j : Nat} {r : Request μ} (hr : rl.requestVec[j]? = some r) (k : Nat) :
    rl.takenBy replies (order ++ [j]) k =
      if k = rl.taker r.guid then rl.takenBy replies order k ++ [replies j]
      else rl.takenBy replies order k := by
  have htaken : rl.TakenFor j k ↔ k = rl.taker r.guid := by
    unfold TakenFor
    rw [hr, Option.map_some, Option.some.injEq]
    exact eq_comm
  unfold takenBy
  rw [List.filter_append, List.map_append]
  by_cases hk : k = rl.taker r.guid
  · rw [if_pos hk, List.filter_singleton, decide_eq_true (htaken.mpr hk)]
    rfl
  · rw [if_neg hk, List.filter_singleton, decide_eq_false (mt htaken.mp hk)]
    exact List.append_nil _

theorem handlePacket_of_mem {r : Request μ} (hr : r ∈ rl.requestVec) (reply : CacheReply μ) :
    rl.handlePacket r.guid reply =
      { rl with
        requestVec := handleFirst r.guid reply rl.requestVec
        complatedCount := rl.complatedCount + 1
        complated := rl.complated || rl.complatedCount + 1 == rl.requestVec.length } := by
  have hany : rl.requestVec.any (·.guid == r.guid) = true :=
    List.any_eq_true.mpr ⟨r, hr, by simp⟩
  unfold handlePacket
  rw [if_pos hany]

theorem deliver_append (k : Nat) :
    rl.deliver replies (order ++ [k]) = deliverOne replies (rl.deliver replies order) k := by
  unfold deliver
  rw [List.foldl_append]
  rfl

/-- **What replies do to a list**: each request takes the replies with its guid
if it is the first one with that guid, and every reply is counted. -/
theorem deliver_spec (replies : Nat → CacheReply μ) (horder : ∀ j ∈ order, j < rl.requestVec.length) :
    (∀ k : Nat, (rl.deliver replies order).requestVec[k]? =
      (rl.requestVec[k]?).map fun r => r.takeAll (rl.takenBy replies order k)) ∧
    (rl.deliver replies order).requestVec.length = rl.requestVec.length ∧
    (∀ g, (rl.deliver replies order).taker g = rl.taker g) ∧
    (rl.deliver replies order).complatedCount = rl.complatedCount + order.length ∧
    ((rl.deliver replies order).complated = true ↔ rl.complated = true ∨
      rl.complatedCount < rl.requestVec.length ∧
        rl.requestVec.length ≤ rl.complatedCount + order.length) := by
  induction order using List.reverseRecOn with
  | nil =>
      refine ⟨?_, rfl, fun _ => rfl, rfl, ?_⟩
      · intro k
        show rl.requestVec[k]? = _
        cases rl.requestVec[k]? <;> rfl
      · show rl.complated = true ↔ _
        rw [List.length_nil]
        constructor
        · exact .inl
        · intro h
          obtain h | h := h
          · exact h
          · omega
  | append_singleton order j ih =>
      obtain ⟨hget, hlen, htaker, hcount, hdone⟩ := ih fun i hi => horder i (List.mem_append_left _ hi)
      have hj : j < rl.requestVec.length := horder j (by simp)
      obtain ⟨r, hr⟩ : ∃ r, rl.requestVec[j]? = some r :=
        ⟨_, List.getElem?_eq_getElem hj⟩
      have hrj := hget j
      rw [hr, Option.map_some] at hrj
      -- the request the reply answers has kept its guid
      have hone : rl.deliver replies (order ++ [j])
          = (rl.deliver replies order).handlePacket r.guid (replies j) := by
        rw [deliver_append]
        unfold deliverOne
        rw [hrj]
        show (rl.deliver replies order).handlePacket (Request.guid _) (replies j) = _
        rw [Request.takeAll_guid]
      have hstep := handlePacket_of_mem (List.mem_of_getElem? hrj) (replies j)
      rw [Request.takeAll_guid, ← hone] at hstep
      rw [hstep]
      refine ⟨?_, handleFirst_length.trans hlen, ?_, ?_, ?_⟩
      · intro k
        have hfind : (rl.deliver replies order).requestVec.findIdx (·.guid == r.guid)
            = rl.taker r.guid := htaker r.guid
        show (handleFirst r.guid (replies j) (rl.deliver replies order).requestVec)[k]? = _
        rw [handleFirst_getElem?, hget, Option.map_map, hfind, takenBy_append hr]
        refine Option.map_congr ?_
        intro x _
        show (if k = rl.taker r.guid then (x.takeAll _).handlePacket (replies j) else x.takeAll _) = _
        by_cases hk : k = rl.taker r.guid
        · rw [if_pos hk, if_pos hk, Request.takeAll_append]
        · rw [if_neg hk, if_neg hk]
      · intro g
        exact (handleFirst_findIdx g).trans (htaker g)
      · show (rl.deliver replies order).complatedCount + 1 = _
        rw [hcount, List.length_append]
        rfl
      · show ((rl.deliver replies order).complated || (rl.deliver replies order).complatedCount + 1
          == (rl.deliver replies order).requestVec.length) = true ↔ _
        rw [Bool.or_eq_true, hdone, beq_iff_eq, hcount, hlen, List.length_append,
          List.length_singleton, or_assoc]
        -- the count reaches the length when it was below it and no longer is
        apply or_congr_right
        omega

/-! ## §4. Attribution. -/

theorem SentPackets.lt (h : rl.SentPackets order) : ∀ j ∈ order, j < rl.requestVec.length := by
  intro j hj
  obtain ⟨r, hr, -⟩ := h.sends j hj
  exact (List.getElem?_eq_some_iff.mp hr).1

/-- A list is complete after as many replies as it has requests, if it has any. -/
theorem Fresh.complated_iff (hfresh : rl.Fresh) (hne : rl.requestVec ≠ [])
    (h : rl.SentPackets order) :
    (rl.deliver replies order).complated = true ↔ ∀ k < rl.requestVec.length, k ∈ order := by
  have hle : order.Subperm (List.range rl.requestVec.length) :=
    List.subperm_of_subset h.nodup fun j hj => List.mem_range.mpr (h.lt j hj)
  obtain ⟨-, -, -, -, hdone⟩ := deliver_spec replies h.lt
  rw [hdone, hfresh.complated, hfresh.count]
  have hlen : order.length ≤ rl.requestVec.length := by
    simpa using hle.length_le
  have hpos : 0 < rl.requestVec.length := List.length_pos_iff.mpr hne
  constructor
  · intro hall k hk
    have hfull : rl.requestVec.length ≤ order.length := by
      obtain hall | hall := hall
      · exact absurd hall (by simp)
      · omega
    have hperm := hle.perm_of_length_le (by rw [List.length_range]; exact hfull)
    exact hperm.mem_iff.mpr (List.mem_range.mpr hk)
  · intro hall
    have hsub : (List.range rl.requestVec.length).Subperm order :=
      List.subperm_of_subset List.nodup_range fun k hk => hall k (List.mem_range.mp hk)
    have := hsub.length_le
    rw [List.length_range] at this
    exact .inr ⟨by omega, by omega⟩

/-- The request that takes the replies for a guid of the list. -/
theorem taker_spec {k : Nat} {r : Request μ} (hr : rl.requestVec[k]? = some r) :
    ∃ t, rl.requestVec[rl.taker r.guid]? = some t ∧ t.guid = r.guid := by
  have hex : ∃ x ∈ rl.requestVec, (x.guid == r.guid) = true :=
    ⟨r, List.mem_of_getElem? hr, by simp⟩
  have hlt : rl.taker r.guid < rl.requestVec.length := List.findIdx_lt_length_of_exists hex
  refine ⟨_, List.getElem?_eq_getElem hlt, ?_⟩
  exact eq_of_beq (List.findIdx_getElem (w := hlt))

/-- A request that does not take its own reply takes none. -/
theorem takenBy_eq_nil {k : Nat} {r : Request μ} (hr : rl.requestVec[k]? = some r)
    (hk : rl.taker r.guid ≠ k) : rl.takenBy replies order k = [] := by
  unfold takenBy
  rw [List.map_eq_nil_iff, List.filter_eq_nil_iff]
  intro j _ hj
  obtain ⟨x, hx, hxk⟩ := Option.map_eq_some_iff.mp (of_decide_eq_true hj)
  obtain ⟨t, ht, htg⟩ := taker_spec hx
  rw [hxk, hr] at ht
  obtain rfl : r = t := Option.some.inj ht
  exact hk (by rw [htg]; exact hxk)

/-- The replies a request takes: its own and those of later requests for its guid. -/
theorem mem_takenBy {k : Nat} {x : CacheReply μ} (hx : x ∈ rl.takenBy replies order k) :
    ∃ j r, rl.requestVec[j]? = some r ∧ rl.taker r.guid = k ∧ x = replies j := by
  obtain ⟨j, hj, rfl⟩ := List.mem_map.mp hx
  obtain ⟨r, hr, hk⟩ := Option.map_eq_some_iff.mp (of_decide_eq_true (List.mem_filter.mp hj).2)
  exact ⟨j, r, hr, hk, rfl⟩

theorem own_mem_takenBy {k : Nat} {r : Request μ} (hr : rl.requestVec[k]? = some r)
    (hk : rl.taker r.guid = k) (hmem : k ∈ order) :
    replies k ∈ rl.takenBy replies order k := by
  refine List.mem_map.mpr ⟨k, List.mem_filter.mpr ⟨hmem, decide_eq_true ?_⟩, rfl⟩
  unfold TakenFor
  rw [hr, Option.map_some, hk]

/-- Under the condition each request ends with what its own reply carries. -/
theorem Attributable.outcome (hfresh : rl.Fresh) (h : rl.Attributable replies) {k : Nat}
    {r : Request μ} (hr : rl.requestVec[k]? = some r) (hmem : k ∈ order) :
    (r.takeAll (rl.takenBy replies order k)).success = r.succeeds (replies k) ∧
    (r.isLoad = true →
      (r.takeAll (rl.takenBy replies order k)).message = (replies k).payload.or r.message) := by
  have hfail : r.success = false := hfresh.success r (List.mem_of_getElem? hr)
  by_cases hk : rl.taker r.guid = k
  · have hown : replies k ∈ rl.takenBy replies order k := own_mem_takenBy hr hk hmem
    -- the replies of the later requests for its guid agree with its own
    have hagree : ∀ x ∈ rl.takenBy replies order k,
        (x.isReadable = true → x.isNormal = r.succeeds (replies k)) ∧
        (x = replies k ∨ x.payload = none) := by
      intro x hx
      obtain ⟨j, y, hy, hyk, rfl⟩ := mem_takenBy hx
      have hj := h j y hy
      rw [hyk] at hj
      refine ⟨hj.1 r hr, ?_⟩
      by_cases hjk : k = j
      · rw [hjk]
        exact .inl rfl
      · refine .inr (Classical.byContradiction fun hp => ?_)
        have := Request.succeeds_of_payload (r := y) hp
        rw [hj.2 hjk] at this
        exact absurd this (by simp)
    constructor
    · apply Request.takeAll_success_of_forall
      · by_cases hok : r.succeeds (replies k) = true
        · exact .inr ⟨_, hown, Request.isReadable_of_succeeds hok⟩
        · exact .inl (by rw [hfail]; simpa using hok)
      · exact fun x hx => (hagree x hx).1
    · intro hload
      apply Request.takeAll_message_of_forall hload
      · by_cases hp : (replies k).payload = none
        · exact .inl (by rw [hp, Option.none_or])
        · exact .inr ⟨_, hown, hp⟩
      · intro x hx
        obtain hx | hx := (hagree x hx).2
        · rw [hx]
          cases (replies k).payload with
          | none => exact .inl rfl
          | some m => exact .inr rfl
        · exact .inl hx
  · -- it takes no reply, so its own has to be a failure
    rw [takenBy_eq_nil hr hk]
    have hno := (h k r hr).2 hk
    refine ⟨hfail.trans hno.symm, fun _ => ?_⟩
    have hp : (replies k).payload = none := by
      refine Classical.byContradiction fun hp => ?_
      rw [Request.succeeds_of_payload hp] at hno
      exact absurd hno (by simp)
    rw [hp]
    rfl

/-- All packets of a list, one of them last. -/
theorem sentPackets_last (hsends : ∀ r ∈ rl.requestVec, r.Sends) {k : Nat}
    (hk : k < rl.requestVec.length) :
    rl.SentPackets ((List.range rl.requestVec.length).erase k ++ [k]) ∧
    ∀ j < rl.requestVec.length, j ∈ (List.range rl.requestVec.length).erase k ++ [k] := by
  have hperm : ((List.range rl.requestVec.length).erase k ++ [k]).Perm
      (List.range rl.requestVec.length) :=
    List.perm_append_comm.trans
      (List.perm_cons_erase (List.mem_range.mpr hk)).symm
  refine ⟨⟨hperm.nodup_iff.mpr List.nodup_range, ?_⟩, ?_⟩
  · intro j hj
    have hlt := List.mem_range.mp (hperm.mem_iff.mp hj)
    exact ⟨_, List.getElem?_eq_getElem hlt, hsends _ (List.getElem_mem hlt)⟩
  · intro j hj
    exact hperm.mem_iff.mpr (List.mem_range.mpr hj)

/-- A list without requests is never complete, though nothing is left to answer. -/
theorem Attributed.requestVec_ne_nil (hfresh : rl.Fresh) (h : rl.Attributed replies) :
    rl.requestVec ≠ [] := by
  intro hnil
  have hsent : rl.SentPackets [] := ⟨List.nodup_nil, nofun⟩
  have hdone : (rl.deliver replies []).complated = true :=
    (h [] hsent).1.mpr fun k hk => by
      rw [hnil] at hk
      exact absurd hk (Nat.not_lt_zero k)
  exact absurd (hfresh.complated.symm.trans hdone) Bool.false_ne_true

/-- **Replies are attributed to their requests** exactly when there are requests
and the replies meet the condition, or a request of the list sends no packet;
then the list is never complete. -/
theorem attributed_iff (hfresh : rl.Fresh) :
    rl.Attributed replies ↔
      rl.requestVec ≠ [] ∧ ((∃ r ∈ rl.requestVec, ¬ r.Sends) ∨ rl.Attributable replies) := by
  constructor
  · intro h
    have hne := h.requestVec_ne_nil hfresh
    refine ⟨hne, ?_⟩
    by_cases hsends : ∀ r ∈ rl.requestVec, r.Sends
    · refine .inr fun k r hr => ?_
      -- the reply to this request arrives last
      have hk : k < rl.requestVec.length := (List.getElem?_eq_some_iff.mp hr).1
      obtain ⟨hsent, hall⟩ := sentPackets_last hsends hk
      obtain ⟨hget, -, -, -, -⟩ := deliver_spec replies hsent.lt
      have hdone : (rl.deliver replies _).complated = true :=
        (hfresh.complated_iff hne hsent).mpr hall
      have hout := (h _ hsent).2 hdone
      refine ⟨fun t ht hread => ?_, fun hne => ?_⟩
      · obtain ⟨t', ht', hok, -⟩ := hout _ t ht
        rw [hget, ht, Option.map_some] at ht'
        rw [← hok, ← Option.some.inj ht', takenBy_append hr, if_pos rfl,
          Request.takeAll_success hread]
      · obtain ⟨r', hr', hok, -⟩ := hout k r hr
        rw [hget, hr, Option.map_some, takenBy_eq_nil hr hne] at hr'
        rw [← hok, ← Option.some.inj hr']
        exact hfresh.success r (List.mem_of_getElem? hr)
    · refine .inl ?_
      simpa using hsends
  · intro ⟨hne, h⟩ order hsent
    obtain ⟨hget, -, -, -, -⟩ := deliver_spec replies hsent.lt
    refine ⟨hfresh.complated_iff hne hsent, fun hdone k r hr => ?_⟩
    have hall := (hfresh.complated_iff hne hsent).mp hdone
    have hk : k < rl.requestVec.length := (List.getElem?_eq_some_iff.mp hr).1
    obtain ⟨x, hx, hno⟩ | hcond := h
    · -- the packet of a request that sends none is not among the answered ones
      obtain ⟨j, hj⟩ := List.mem_iff_getElem?.mp hx
      obtain ⟨y, hy, hyes⟩ := hsent.sends j (hall j (List.getElem?_eq_some_iff.mp hj).1)
      rw [hj] at hy
      exact absurd (Option.some.inj hy ▸ hyes) hno
    · refine ⟨_, by rw [hget, hr, Option.map_some], ?_⟩
      exact hcond.outcome hfresh hr (hall k hk)

end RequestList

/-- A load, and an ADD and an UPDATE of one entity, as the flush of a player sends them. -/
def addAndUpdate : RequestList Nat where
  requestId := 1
  requestVec :=
    [{ requestType := .load, guid := 7, message := none, ownerGuid := 5 },
     { requestType := .add, guid := 9, message := some 1, ownerGuid := 5 },
     { requestType := .update, guid := 9, message := some 2, ownerGuid := 5 }]

/-- One load. -/
def oneLoad : RequestList Nat where
  requestId := 1
  requestVec := [{ requestType := .load, guid := 7, message := none, ownerGuid := 5 }]

/-- A list that is committed without a request. -/
def noRequest : RequestList Nat where
  requestId := 1
  requestVec := []

theorem addAndUpdate_fresh : addAndUpdate.Fresh where
  count := rfl
  complated := rfl
  success r hr := by
    revert r
    decide

/-- The load is answered with its message, both writes fail: nothing is mixed up. -/
theorem failed_writes_attributed :
    addAndUpdate.Attributed (fun k => .result (k == 0) (some (some 3))) := by
  refine (RequestList.attributed_iff addAndUpdate_fresh).mpr
    ⟨List.cons_ne_nil _ _, .inr fun k r hr => ?_⟩
  match k, hr with
  | 0, hr | 1, hr | 2, hr =>
      obtain rfl := Option.some.inj hr
      refine ⟨fun t ht _ => ?_, by decide⟩
      obtain rfl := Option.some.inj ht
      rfl

/-- **The first request takes both replies**: the failed ADD is reported as
written and the UPDATE as failed.  A load whose payload cannot be read is
reported as loaded.  And a list without requests is not complete. -/
theorem first_takes_both :
    ¬ addAndUpdate.Attributed (fun k => .result (k != 1) (some (some 3))) ∧
    ¬ oneLoad.Attributed (fun _ => .result true (some none)) ∧
    ¬ noRequest.Attributed (fun _ => .unparsable) := by
  refine ⟨?_, ?_, ?_⟩
  · intro h
    have hsent : addAndUpdate.SentPackets [0, 1, 2] :=
      ⟨by decide, fun k hk => by
        match k, hk with
        | 0, _ | 1, _ | 2, _ => exact ⟨_, rfl, by decide⟩⟩
    obtain ⟨r', hr', hok, -⟩ := (h _ hsent).2 rfl 1 _ rfl
    obtain rfl := Option.some.inj hr'
    exact absurd hok (by decide)
  · intro h
    have hsent : oneLoad.SentPackets [0] :=
      ⟨by decide, fun k hk => by
        match k, hk with
        | 0, _ => exact ⟨_, rfl, by decide⟩⟩
    obtain ⟨r', hr', hok, -⟩ := (h _ hsent).2 rfl 0 _ rfl
    obtain rfl := Option.some.inj hr'
    exact absurd hok (by decide)
  · intro h
    exact h.requestVec_ne_nil ⟨rfl, rfl, fun _ hr => absurd hr List.not_mem_nil⟩ rfl

end Steppingstone.Pool
