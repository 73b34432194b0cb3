/-
  Steppingstone.Pool.Completion — which committed lists finish.

  A list waits for as many replies as it has requests, but a request without a
  message sends no packet, and a list without requests is never looked at
  again.  Such a list stays in `m_request_info_vec` for ever.
-/
import Steppingstone.Pool.Bookkeeping
import Steppingstone.Pool.Replies

namespace Steppingstone.Pool

open Std (TreeMap)
open NestedMap

variable {μ : Type}

/-! ## §1. The property. -/

/-- The list has a request, and each of them sends a packet. -/
def RequestInfo.SendsAll (ri : RequestInfo μ) : Prop :=
  ri.requestList.requestVec ≠ [] ∧ ∀ r ∈ ri.requestList.requestVec, r.Sends

/-- The lists whose callback has run. -/
def PoolHistory.called (w : PoolHistory μ) : List Nat :=
  w.replies.filterMap fun ev => ev.completed.map (·.requestList.requestId)

/-- **The list finishes**: at the end of every run that answers its packets, its
callback has run once and it has left the vector. -/
def Finishes (cfg : PoolCfg) (w : PoolHistory μ) (requestId : Nat) : Prop :=
  ∀ as w', (historySystem cfg).run w as = some w' →
    (∀ p ∈ w'.pool.inFlight, p.requestId ≠ requestId) →
    w'.called.count requestId = 1 ∧
    ∀ ri ∈ w'.pool.requestInfoVec, ri.requestList.requestId ≠ requestId

/-- **Nothing blocks the pool**: every list waits for a packet that is still to
be answered, and the counter counts no more than the lists of a batch. -/
structure Unblocked (s : PoolImp μ) : Prop where
  waiting : ∀ ri ∈ s.requestInfoVec, ∃ p ∈ s.inFlight, p.requestId = ri.requestList.requestId
  counter : s.updateToDbNum ≤ s.requestInfoVec.countP (·.isBatch)
  /-- When every packet is answered the counter is back at 0. -/
  idle : s.inFlight = [] → s.requestInfoVec = [] ∧ s.updateToDbNum = 0

/-- The condition on the lists that a step commits: a plugin's list has a request
and each of its requests a packet, and a batch starts only when every pending
ADD or UPDATE that it sends has its message. -/
def CommitsSend (w : PoolHistory μ) : Action μ → Prop
  | .commit requests => requests ≠ [] ∧ ∀ r ∈ requests, r.Sends
  | .update => StartsBatch w.pool → ∀ info ∈ values w.pool.dbEntityMap, info.opType ≠ .remove →
      ∀ e ∈ w.pool.entityMap[info.guid]?, e.isFlushing = false → e.message ≠ none
  | _ => True

/-! ## §2. What a list waits for. -/

/-- The packets in flight with the request id. -/
def PoolImp.flying (s : PoolImp μ) (requestId : Nat) : Nat :=
  s.inFlight.countP (·.requestId == requestId)

/-- The list waits: replies taken and packets in flight are together the packets
it has sent. -/
structure Waiting (s : PoolImp μ) (ri : RequestInfo μ) : Prop where
  bound : ri.requestList.requestId ≤ s.requestId
  notDone : ri.requestList.complated = false
  short : ri.requestList.requestVec = [] ∨
    ri.requestList.complatedCount < ri.requestList.requestVec.length
  count : ri.requestList.complatedCount + s.flying ri.requestList.requestId
    = ri.requestList.requestVec.countP (fun r => decide r.Sends)
  packets : ∀ p ∈ s.inFlight, p.requestId = ri.requestList.requestId →
    ∃ r ∈ ri.requestList.requestVec, r.guid = p.guid

/-- **The invariant** of every run. -/
structure Counted (s : PoolImp μ) : Prop where
  lists : ∀ ri ∈ s.requestInfoVec, Waiting s ri
  ids : (s.requestInfoVec.map (·.requestList.requestId)).Nodup
  packets : ∀ p ∈ s.inFlight, p.requestId ≤ s.requestId
  counter : s.updateToDbNum ≤ s.requestInfoVec.countP (·.isBatch)

/-- More packets with other ids are none of the list's business. -/
theorem Waiting.of_sent {s s' : PoolImp μ} {ri : RequestInfo μ} (h : Waiting s ri)
    (hid : s.requestId ≤ s'.requestId) {new : List (CachePacket μ)}
    (hin : s'.inFlight = s.inFlight ++ new) (hnew : ∀ p ∈ new, s.requestId < p.requestId) :
    Waiting s' ri := by
  have hbound := h.bound
  have hother : ∀ p ∈ new, p.requestId ≠ ri.requestList.requestId := by
    intro p hp
    have := hnew p hp
    omega
  refine ⟨Nat.le_trans hbound hid, h.notDone, h.short, ?_, ?_⟩
  · have hzero : new.countP (·.requestId == ri.requestList.requestId) = 0 :=
      List.countP_eq_zero.mpr fun p hp => by simpa using hother p hp
    have hcount := h.count
    unfold PoolImp.flying at hcount ⊢
    rw [hin, List.countP_append, hzero]
    exact hcount
  · intro p hp hpid
    rw [hin] at hp
    obtain hp | hp := List.mem_append.mp hp
    · exact h.packets p hp hpid
    · exact absurd hpid (hother p hp)

theorem Counted.of_call {s s' : PoolImp μ} (h : Counted s) (hcall : Call s s') : Counted s' := by
  obtain ⟨coins, hin, hids⟩ := hcall.sent
  refine ⟨?_, ?_, ?_, ?_⟩
  · rw [hcall.requestInfoVec]
    exact fun ri hri => (h.lists ri hri).of_sent hcall.requestId hin fun p hp => (hids p hp).1
  · rw [hcall.requestInfoVec]
    exact h.ids
  · intro p hp
    have hle := hcall.requestId
    rw [hin] at hp
    obtain hp | hp := List.mem_append.mp hp
    · have := h.packets p hp
      omega
    · exact (hids p hp).2
  · rw [hcall.requestInfoVec, hcall.updateToDbNum]
    exact h.counter

theorem counted_new (cfg : PoolCfg) : Counted ({ cfg } : PoolImp μ) where
  lists _ hri := absurd hri (List.not_mem_nil)
  ids := List.nodup_nil
  packets _ hp := absurd hp (List.not_mem_nil)
  counter := Nat.le_refl _

/-! ## §3. A list is committed. -/

namespace RequestList

variable (rl : RequestList μ) (lineId transactionId : UInt32)

theorem packets_requestId : ∀ p ∈ rl.packets lineId transactionId, p.requestId = rl.requestId := by
  intro p hp
  obtain ⟨e, -, he⟩ := List.mem_filterMap.mp hp
  obtain ⟨x, -, rfl⟩ := Option.map_eq_some_iff.mp he
  rfl

theorem packets_guid : ∀ p ∈ rl.packets lineId transactionId,
    ∃ r ∈ rl.requestVec, r.guid = p.guid := by
  intro p hp
  obtain ⟨⟨r, k⟩, hr, he⟩ := List.mem_filterMap.mp hp
  obtain ⟨x, -, rfl⟩ := Option.map_eq_some_iff.mp he
  exact ⟨r, List.mem_of_getElem? (List.mk_mem_zipIdx_iff_getElem?.mp hr), rfl⟩

/-- There is one packet for each request that sends one. -/
theorem packets_length :
    (rl.packets lineId transactionId).length = rl.requestVec.countP (fun r => decide r.Sends) := by
  unfold packets
  rw [List.length_filterMap_eq_countP]
  have hfst : rl.requestVec = rl.requestVec.zipIdx.map Prod.fst := by
    rw [List.zipIdx_map_fst]
  conv_rhs => rw [hfst, List.countP_map]
  refine List.countP_congr ?_
  intro e _
  unfold Request.Sends
  cases h : e.1.opcodeAndStream with
  | none => simp [h]
  | some x => simp [h]

end RequestList

/-- **A committed list waits for its packets**, and the others are not concerned. -/
theorem Counted.commit {s t : PoolImp μ} (h : Counted s)
    (hvec : t.requestInfoVec = s.requestInfoVec) (hin : t.inFlight = s.inFlight)
    (hid : t.requestId = s.requestId + 1) (requests : List (Request μ)) (callBack : CallBack)
    (hnum : t.updateToDbNum ≤ s.updateToDbNum + if callBack == .updateToDb then 1 else 0) :
    Counted (t.commit { requestId := s.requestId + 1, requestVec := requests } callBack) := by
  let rl : RequestList μ := { requestId := s.requestId + 1, requestVec := requests }
  let ri : RequestInfo μ := { requestList := rl, callBack }
  let new := rl.packets t.cfg.lineId t.nextTransactionId
  have hnew : ∀ p ∈ new, p.requestId = s.requestId + 1 := rl.packets_requestId _ _
  have hvec' : (t.commit rl callBack).requestInfoVec = s.requestInfoVec ++ [ri] := by
    show t.requestInfoVec ++ _ = _
    rw [hvec]
  have hin' : (t.commit rl callBack).inFlight = s.inFlight ++ new := by
    show t.inFlight ++ _ = _
    rw [hin]
  have hid' : (t.commit rl callBack).requestId = s.requestId + 1 := hid
  show Counted (t.commit rl callBack)
  refine ⟨?_, ?_, ?_, ?_⟩
  · intro x hx
    rw [hvec'] at hx
    obtain hx | hx := List.mem_append.mp hx
    · refine (h.lists x hx).of_sent (by omega) hin' fun p hp => ?_
      have := hnew p hp
      omega
    · obtain rfl := List.mem_singleton.mp hx
      have hold : s.inFlight.countP (·.requestId == s.requestId + 1) = 0 := by
        refine List.countP_eq_zero.mpr fun p hp => ?_
        have hle := h.packets p hp
        have hne : p.requestId ≠ s.requestId + 1 := by omega
        simpa using hne
      have hall : new.countP (·.requestId == s.requestId + 1) = new.length := by
        refine List.countP_eq_length.mpr fun p hp => ?_
        simpa using hnew p hp
      refine ⟨Nat.le_of_eq hid'.symm, rfl, ?_, ?_, ?_⟩
      · cases requests with
        | nil => exact .inl rfl
        | cons r rs => exact .inr (Nat.zero_lt_succ _)
      · show 0 + (t.commit rl callBack).flying (s.requestId + 1) = _
        unfold PoolImp.flying
        rw [hin', List.countP_append, hold, hall, Nat.zero_add, Nat.zero_add]
        exact rl.packets_length _ _
      · intro p hp hpid
        rw [hin'] at hp
        obtain hp | hp := List.mem_append.mp hp
        · have hle := h.packets p hp
          have hpid' : p.requestId = s.requestId + 1 := hpid
          omega
        · exact rl.packets_guid _ _ p hp
  · rw [hvec', List.map_append]
    refine List.nodup_append.mpr ⟨h.ids, List.pairwise_singleton .., ?_⟩
    intro k hk k' hk' heq
    obtain ⟨x, hx, rfl⟩ := List.mem_map.mp hk
    have hle := (h.lists x hx).bound
    have hk'' : k' = s.requestId + 1 := List.mem_singleton.mp hk'
    omega
  · intro p hp
    rw [hin'] at hp
    obtain hp | hp := List.mem_append.mp hp
    · have := h.packets p hp
      omega
    · have := hnew p hp
      omega
  · rw [hvec', List.countP_append, List.countP_singleton]
    have hc := h.counter
    show t.updateToDbNum ≤ _ + if callBack == .updateToDb then 1 else 0
    omega

theorem Counted.startBatch {s : PoolImp μ} (h : Counted s) : Counted s.startBatch := by
  refine s.startBatch_induction (I := Counted)
    ⟨fun ri hri => ?_, h.ids, h.packets, h.counter⟩ ?_
  · obtain ⟨h1, h2, h3, h4, h5⟩ := h.lists ri hri
    exact ⟨h1, h2, h3, h4, h5⟩
  · intro t o m _ _ ht
    obtain ⟨id, up, log, hid, heq⟩ | ⟨-, up, heq⟩ := t.updateOwner_cases (o, m)
    · rw [heq]
      refine ⟨fun ri hri => ?_, ht.ids, fun p hp => Nat.le_trans (ht.packets p hp) hid,
        ht.counter⟩
      exact (ht.lists ri hri).of_sent hid (List.append_nil _).symm (by simp)
    · rw [heq]
      have hc := ht.commit (t := { t.openList m with updateToDbNum := t.updateToDbNum + 1 })
        rfl rfl rfl (batchRequests t.entityMap m) .updateToDb (Nat.le_refl _)
      refine ⟨fun ri hri => ?_, hc.ids, hc.packets, hc.counter⟩
      obtain ⟨h1, h2, h3, h4, h5⟩ := hc.lists ri hri
      exact ⟨h1, h2, h3, h4, h5⟩

/-! ## §4. A reply arrives. -/

section Reply

variable {s : PoolImp μ} {i : Nat} {p : CachePacket μ} {ri : RequestInfo μ}

/-- The packet that is answered is not in flight any more. -/
theorem flying_eraseIdx (hp : s.inFlight[i]? = some p) (requestId : Nat) :
    s.flying requestId = (s.inFlight.eraseIdx i).countP (·.requestId == requestId)
      + if p.requestId = requestId then 1 else 0 := by
  obtain ⟨hi, rfl⟩ := List.getElem?_eq_some_iff.mp hp
  unfold PoolImp.flying
  rw [← (List.getElem_cons_eraseIdx_perm hi).countP_eq, List.countP_cons]
  simp

/-- A list that the packet does not belong to goes on waiting. -/
theorem Waiting.of_other {s' : PoolImp μ} (h : Waiting s ri) (hp : s.inFlight[i]? = some p)
    (hin : s'.inFlight = s.inFlight.eraseIdx i) (hid : s'.requestId = s.requestId)
    (hne : ri.requestList.requestId ≠ p.requestId) : Waiting s' ri := by
  refine ⟨Nat.le_trans h.bound (Nat.le_of_eq hid.symm), h.notDone, h.short, ?_, ?_⟩
  · have hfly := flying_eraseIdx hp ri.requestList.requestId
    have hcount := h.count
    rw [if_neg (Ne.symm hne)] at hfly
    rw [hfly] at hcount
    unfold PoolImp.flying
    rw [hin]
    exact hcount
  · intro q hq hqid
    rw [hin] at hq
    exact h.packets q (List.mem_of_mem_eraseIdx hq) hqid

theorem Request.handlePacket_sends (r : Request μ) (reply : CacheReply μ) :
    (r.handlePacket reply).Sends ↔ r.Sends := by
  unfold Request.Sends
  match reply with
  | .unparsable => exact Iff.rfl
  | .result false message => exact Iff.rfl
  | .result true message =>
      -- only requests that need no message take one
      obtain ⟨requestType, guid, stored, ownerGuid, success, changes⟩ := r
      match requestType, message with
      | .load, none | .load, some none | .load, some (some m) => exact Iff.rfl
      | .loadOnce, none | .loadOnce, some none | .loadOnce, some (some m) => exact Iff.rfl
      | .query, none | .query, some none | .query, some (some m) => exact Iff.rfl
      | .add, _ | .update, _ | .flush, _ | .delete, _ | .addWithFlush, _ => exact Iff.rfl

/-- The requests of a list that send a packet go on being so. -/
theorem handleFirst_sends (g : UInt64) (reply : CacheReply μ) (rs : List (Request μ)) :
    (handleFirst g reply rs).map (fun r => decide r.Sends) = rs.map fun r => decide r.Sends := by
  induction rs with
  | nil => rfl
  | cons r rs ih =>
      rw [handleFirst]
      split
      · rw [List.map_cons, List.map_cons, decide_eq_decide.mpr (r.handlePacket_sends reply)]
      · rw [List.map_cons, List.map_cons, ih]

theorem RequestInfo.sendsAll_iff : ri.SendsAll ↔
    0 < ri.requestList.requestVec.length ∧
    ri.requestList.requestVec.countP (fun r => decide r.Sends)
      = ri.requestList.requestVec.length := by
  unfold RequestInfo.SendsAll
  rw [List.length_pos_iff, List.countP_eq_length]
  simp only [decide_eq_true_eq]

/-- **The list takes the reply**: it counts one more, and is complete when it has
counted all its requests. -/
theorem Waiting.taken (h : Waiting s ri) (hp : s.inFlight[i]? = some p)
    (hid : p.requestId = ri.requestList.requestId) (reply : CacheReply μ) :
    ri.requestList.handlePacket p.guid reply =
      { ri.requestList with
        requestVec := handleFirst p.guid reply ri.requestList.requestVec
        complatedCount := ri.requestList.complatedCount + 1
        complated := ri.requestList.complatedCount + 1
          == ri.requestList.requestVec.length } ∧
    ri.requestList.complatedCount + 1
        + (s.inFlight.eraseIdx i).countP (·.requestId == ri.requestList.requestId)
      = ri.requestList.requestVec.countP (fun r => decide r.Sends) ∧
    0 < ri.requestList.requestVec.length := by
  obtain ⟨r, hr, hrg⟩ := h.packets p (List.mem_of_getElem? hp) hid
  refine ⟨?_, ?_, List.length_pos_of_mem hr⟩
  · have heq := RequestList.handlePacket_of_mem hr reply
    rw [hrg, h.notDone, Bool.false_or] at heq
    exact heq
  · have hfly := flying_eraseIdx hp ri.requestList.requestId
    have hcount := h.count
    rw [if_pos hid] at hfly
    omega

/-- A list that the reply does not complete goes on waiting. -/
theorem Waiting.of_taken {s' : PoolImp μ} (h : Waiting s ri) (hp : s.inFlight[i]? = some p)
    (hid : p.requestId = ri.requestList.requestId) (reply : CacheReply μ)
    (hin : s'.inFlight = s.inFlight.eraseIdx i) (hrid : s'.requestId = s.requestId)
    (hopen : ¬ (ri.requestList.handlePacket p.guid reply).complated = true) :
    Waiting s' { ri with requestList := ri.requestList.handlePacket p.guid reply } := by
  obtain ⟨heq, hcount, hpos⟩ := h.taken hp hid reply
  rw [heq] at hopen ⊢
  have hne : ri.requestList.complatedCount + 1 ≠ ri.requestList.requestVec.length := by
    simpa using hopen
  have hsends := congrArg (List.countP id) (handleFirst_sends p.guid reply ri.requestList.requestVec)
  rw [List.countP_map, List.countP_map] at hsends
  refine ⟨Nat.le_trans h.bound (Nat.le_of_eq hrid.symm), by simpa using hopen, .inr ?_, ?_, ?_⟩
  · show ri.requestList.complatedCount + 1 < (handleFirst _ _ _).length
    rw [handleFirst_length]
    obtain hnil | hshort := h.short
    · rw [hnil] at hpos
      exact absurd hpos (Nat.lt_irrefl 0)
    · omega
  · show ri.requestList.complatedCount + 1 + s'.flying ri.requestList.requestId
      = (handleFirst _ _ _).countP (id ∘ fun r => decide r.Sends)
    rw [hsends]
    unfold PoolImp.flying
    rw [hin]
    exact hcount
  · intro q hq hqid
    rw [hin] at hq
    obtain ⟨r, hr, hrg⟩ := h.packets q (List.mem_of_mem_eraseIdx hq) hqid
    have hkeys := congrArg (List.map Prod.snd)
      (handleFirst_keys p.guid reply ri.requestList.requestVec)
    rw [List.map_map, List.map_map] at hkeys
    have hmem : q.guid ∈ (handleFirst p.guid reply ri.requestList.requestVec).map (·.guid) := by
      show q.guid ∈ (handleFirst p.guid reply ri.requestList.requestVec).map
        (Prod.snd ∘ fun r : Request μ => (r.ownerGuid, r.guid))
      rw [hkeys]
      exact List.mem_map.mpr ⟨r, hr, hrg⟩
    exact List.mem_map.mp hmem

/-- A list that the reply completes has sent a packet for each request. -/
theorem Waiting.sendsAll_of_completed (h : Waiting s ri) (hp : s.inFlight[i]? = some p)
    (hid : p.requestId = ri.requestList.requestId) (reply : CacheReply μ)
    (hdone : (ri.requestList.handlePacket p.guid reply).complated = true) : ri.SendsAll := by
  obtain ⟨heq, hcount, hpos⟩ := h.taken hp hid reply
  rw [heq] at hdone
  have hlen : ri.requestList.complatedCount + 1 = ri.requestList.requestVec.length :=
    eq_of_beq hdone
  have hle := List.countP_le_length (p := fun r => decide (Request.Sends r))
    (l := ri.requestList.requestVec)
  exact RequestInfo.sendsAll_iff.mpr ⟨hpos, by omega⟩

/-- **The cases of a reply**: no list has its id, or one list takes it and stays,
or one list takes it and is complete. -/
theorem takeReply_cases (s : PoolImp μ) (i : Nat) (p : CachePacket μ) (reply : CacheReply μ) :
    let done := (handleVec p.guid p.requestId reply s.requestInfoVec).2
    let s' := s.takeReply i p reply
    s'.inFlight = s.inFlight.eraseIdx i ∧ s'.requestId = s.requestId ∧
    ((done = none ∧ s'.requestInfoVec = s.requestInfoVec ∧
        s'.updateToDbNum = s.updateToDbNum ∧
        ∀ ri ∈ s.requestInfoVec, ri.requestList.requestId ≠ p.requestId) ∨
      ∃ pre ri post, s.requestInfoVec = pre ++ ri :: post ∧
        p.requestId = ri.requestList.requestId ∧
        let ri' : RequestInfo μ :=
          { ri with requestList := ri.requestList.handlePacket p.guid reply }
        ((¬ ri'.requestList.complated = true ∧ done = none ∧
            s'.requestInfoVec = pre ++ ri' :: post ∧ s'.updateToDbNum = s.updateToDbNum) ∨
          (ri'.requestList.complated = true ∧ done = some ri' ∧
            s'.requestInfoVec = pre ++ post ∧
            s'.updateToDbNum = s.updateToDbNum - if ri.isBatch = true then 1 else 0))) := by
  obtain ⟨hvec, -, hin, hid, hnum, -⟩ :=
    PoolImp.handlePacket_books { s with inFlight := s.inFlight.eraseIdx i } p.guid p.requestId
      reply
  refine ⟨hin, hid, ?_⟩
  show (_ ∧ PoolImp.requestInfoVec _ = _ ∧ _) ∨ _
  unfold PoolImp.takeReply
  dsimp only at hvec hnum ⊢
  obtain ⟨hout, hfind⟩ | ⟨pre, ri, post, heq, hri, -, hout⟩ :=
    handleVec_cases p.guid p.requestId reply s.requestInfoVec
  · rw [hout] at hvec hnum
    refine .inl ⟨by rw [hout], hvec, hnum, fun ri hri heq => ?_⟩
    exact List.find?_eq_none.mp hfind ri hri (by simpa using heq)
  · refine .inr ⟨pre, ri, post, heq, hri.symm, ?_⟩
    by_cases hdone : (ri.requestList.handlePacket p.guid reply).complated = true
    · rw [if_pos hdone] at hout
      rw [hout] at hvec hnum
      refine .inr ⟨hdone, by rw [hout], hvec, ?_⟩
      rw [hnum]
      unfold RequestInfo.isBatch
      match ri with
      | ⟨rl, .plugin⟩ => rfl
      | ⟨rl, .updateToDb⟩ => rfl
    · rw [if_neg hdone] at hout
      rw [hout] at hvec hnum
      exact .inl ⟨hdone, by rw [hout], hvec, hnum⟩

/-- Another list has another id. -/
theorem other_id {pre post : List (RequestInfo μ)} {x y : RequestInfo μ}
    (h : ((pre ++ x :: post).map (·.requestList.requestId)).Nodup) (hy : y ∈ pre ++ post) :
    y.requestList.requestId ≠ x.requestList.requestId := by
  have hperm := (@List.perm_middle _ x pre post).map (·.requestList.requestId)
  have hnd := hperm.nodup_iff.mp h
  rw [List.map_cons, List.nodup_cons] at hnd
  intro heq
  exact hnd.1 (List.mem_map.mpr ⟨y, hy, heq⟩)

/-- **A reply keeps the counts.** -/
theorem Counted.takeReply (h : Counted s) (hp : s.inFlight[i]? = some p)
    (reply : CacheReply μ) : Counted (s.takeReply i p reply) := by
  obtain ⟨hin, hid, hcases⟩ := takeReply_cases s i p reply
  have hpackets : ∀ q ∈ (s.takeReply i p reply).inFlight,
      q.requestId ≤ (s.takeReply i p reply).requestId := by
    intro q hq
    rw [hin] at hq
    rw [hid]
    exact h.packets q (List.mem_of_mem_eraseIdx hq)
  obtain ⟨-, hvec, hnum, hne⟩ | ⟨pre, x, post, hold, hpid, hcases⟩ := hcases
  · refine ⟨?_, ?_, hpackets, ?_⟩
    · rw [hvec]
      exact fun y hy => (h.lists y hy).of_other hp hin hid (hne y hy)
    · rw [hvec]
      exact h.ids
    · rw [hvec, hnum]
      exact h.counter
  · have hx : Waiting s x := h.lists x (by rw [hold]; simp)
    have hids := h.ids
    have hcounter := h.counter
    rw [hold] at hids hcounter
    have hothers : ∀ y ∈ pre ++ post, Waiting (s.takeReply i p reply) y := by
      intro y hy
      refine (h.lists y ?_).of_other hp hin hid ?_
      · rw [hold]
        exact mem_middle.mpr (.inr hy)
      · rw [hpid]
        exact other_id hids hy
    rw [List.countP_append, List.countP_cons] at hcounter
    obtain ⟨hopen, -, hvec, hnum⟩ | ⟨-, -, hvec, hnum⟩ := hcases
    · refine ⟨?_, ?_, hpackets, ?_⟩
      · intro y hy
        rw [hvec] at hy
        obtain rfl | hy := mem_middle.mp hy
        · exact hx.of_taken hp hpid reply hin hid hopen
        · exact hothers y hy
      · rw [hvec, List.map_append, List.map_cons]
        rw [List.map_append, List.map_cons] at hids
        show (_ ++ (x.requestList.handlePacket p.guid reply).requestId :: _).Nodup
        rw [handlePacket_requestId]
        exact hids
      · rw [hvec, hnum, List.countP_append, List.countP_cons]
        exact hcounter
    · refine ⟨fun y hy => hothers y (by rw [hvec] at hy; exact hy), ?_, hpackets, ?_⟩
      · rw [hvec]
        refine hids.sublist (List.Sublist.map _ ?_)
        exact List.Sublist.append_left (List.sublist_cons_self _ _) _
      · rw [hvec, List.countP_append]
        omega

end Reply

/-! ## §5. Every run. -/

/-- **The invariant**, with the lists whose callback has run. -/
structure Served (w : PoolHistory μ) : Prop where
  counted : Counted w.pool
  once : w.called.Nodup
  left : ∀ k ∈ w.called, k ≤ w.pool.requestId ∧
    ∀ ri ∈ w.pool.requestInfoVec, ri.requestList.requestId ≠ k

/-- What became of a list: it is still there, or it was complete. -/
def Fate (ri : RequestInfo μ) (w : PoolHistory μ) : Prop :=
  (∃ ri' ∈ w.pool.requestInfoVec, ri'.requestList.requestId = ri.requestList.requestId ∧
    (ri'.SendsAll ↔ ri.SendsAll)) ∨
  (ri.requestList.requestId ∈ w.called ∧ ri.SendsAll)

theorem sendsAll_handlePacket (ri : RequestInfo μ) (g : UInt64) (reply : CacheReply μ) :
    RequestInfo.SendsAll { ri with requestList := ri.requestList.handlePacket g reply }
      ↔ ri.SendsAll := by
  rw [RequestInfo.sendsAll_iff, RequestInfo.sendsAll_iff]
  unfold RequestList.handlePacket
  split
  · have hsends := congrArg (List.countP id) (handleFirst_sends g reply ri.requestList.requestVec)
    rw [List.countP_map, List.countP_map] at hsends
    show 0 < (handleFirst _ _ _).length ∧ (handleFirst _ _ _).countP
      (id ∘ fun r => decide r.Sends) = (handleFirst _ _ _).length ↔ _
    rw [hsends, handleFirst_length]
    exact Iff.rfl
  · exact Iff.rfl

/-- **One step**: the invariant holds on, called lists stay called, and each list
is still there or was complete. -/
theorem Served.step {w w' : PoolHistory μ} {a : Action μ} (h : Served w)
    (hst : w.step a = some w') :
    Served w' ∧ (∀ k ∈ w.called, k ∈ w'.called) ∧
    ∀ ri ∈ w.pool.requestInfoVec, Fate ri w' := by
  obtain ⟨-, hcall, heq⟩ | ⟨-, -, rfl⟩ | ⟨-, -, rfl⟩ | ⟨requests, -, rfl⟩ |
    ⟨i, p, reply, -, hp, rfl⟩ := PoolHistory.step_cases hst
  · have hcalled : w'.called = w.called := by
      rw [heq]
      rfl
    refine ⟨⟨h.counted.of_call hcall, by rw [hcalled]; exact h.once, ?_⟩, ?_, ?_⟩
    · intro k hk
      rw [hcalled] at hk
      rw [hcall.requestInfoVec]
      exact ⟨Nat.le_trans (h.left k hk).1 hcall.requestId, (h.left k hk).2⟩
    · rw [hcalled]
      exact fun k hk => hk
    · intro ri hri
      exact .inl ⟨ri, by rw [hcall.requestInfoVec]; exact hri, rfl, Iff.rfl⟩
  · obtain ⟨hlists, hids, hpackets, -⟩ := h.counted
    refine ⟨⟨⟨fun ri hri => ?_, hids, hpackets, Nat.zero_le _⟩, h.once, h.left⟩,
      fun k hk => hk, fun ri hri => .inl ⟨ri, hri, rfl, Iff.rfl⟩⟩
    obtain ⟨h1, h2, h3, h4, h5⟩ := hlists ri hri
    exact ⟨h1, h2, h3, h4, h5⟩
  · obtain ⟨-, hle, hnew⟩ := startBatch_counts w.pool
    refine ⟨⟨h.counted.startBatch, h.once, ?_⟩, fun k hk => hk, ?_⟩
    · intro k hk
      obtain ⟨hk1, hk2⟩ := h.left k hk
      refine ⟨Nat.le_trans hk1 hle, fun ri hri => ?_⟩
      obtain hold | hid := hnew ri hri
      · exact hk2 ri hold
      · omega
    · intro ri hri
      obtain ⟨-, -, ⟨lists, hvec, -, -⟩, -⟩ := w.pool.startBatch_spec
      refine .inl ⟨ri, ?_, rfl, Iff.rfl⟩
      show ri ∈ w.pool.startBatch.requestInfoVec
      rw [hvec]
      exact List.mem_append_left _ hri
  · have hc := h.counted.commit
      (t := { w.pool with requestId := w.pool.requestId + 1 }) rfl rfl rfl requests .plugin
      (Nat.le_refl _)
    refine ⟨⟨hc, h.once, ?_⟩, fun k hk => hk, ?_⟩
    · intro k hk
      obtain ⟨hk1, hk2⟩ := h.left k hk
      refine ⟨Nat.le_succ_of_le hk1, fun ri hri => ?_⟩
      obtain hri | hri := List.mem_append.mp
        (show ri ∈ w.pool.requestInfoVec ++ [_] from hri)
      · exact hk2 ri hri
      · rw [List.mem_singleton.mp hri]
        show w.pool.requestId + 1 ≠ k
        omega
    · exact fun ri hri => .inl ⟨ri, List.mem_append_left _ hri, rfl, Iff.rfl⟩
  · have hc := h.counted.takeReply hp reply
    obtain ⟨-, hid, hcases⟩ := takeReply_cases w.pool i p reply
    have hcalled : (w.takeReply i p reply).called
        = ((handleVec p.guid p.requestId reply w.pool.requestInfoVec).2.map
            (·.requestList.requestId)).toList ++ w.called := by
      unfold PoolHistory.called PoolHistory.takeReply
      rw [List.filterMap_cons]
      unfold ReplyEvent.completed
      cases (handleVec p.guid p.requestId reply w.pool.requestInfoVec).2 <;> rfl
    obtain ⟨hdone, hvec, -, -⟩ | ⟨pre, x, post, hold, hpid, hcases⟩ := hcases
    · rw [hdone] at hcalled
      refine ⟨⟨hc, by rw [hcalled]; exact h.once, ?_⟩, ?_, ?_⟩
      · intro k hk
        rw [hcalled] at hk
        show k ≤ (w.pool.takeReply i p reply).requestId ∧
          ∀ ri ∈ (w.pool.takeReply i p reply).requestInfoVec, _
        rw [hid, hvec]
        exact h.left k hk
      · rw [hcalled]
        exact fun k hk => hk
      · intro ri hri
        refine .inl ⟨ri, ?_, rfl, Iff.rfl⟩
        show ri ∈ (w.pool.takeReply i p reply).requestInfoVec
        rw [hvec]
        exact hri
    · have hx : x ∈ w.pool.requestInfoVec := by
        rw [hold]
        exact mem_middle.mpr (.inl rfl)
      have hids := h.counted.ids
      rw [hold] at hids
      -- whichever list it is, it is the one that took the reply or another one
      have hsplit : ∀ y, y ∈ w.pool.requestInfoVec ↔ y = x ∨ y ∈ pre ++ post := by
        intro y
        rw [hold]
        exact mem_middle
      have hothers : ∀ y ∈ pre ++ post, y ∈ w.pool.requestInfoVec :=
        fun y hy => (hsplit y).mpr (.inr hy)
      obtain ⟨-, hdone, hvec, -⟩ | ⟨hcompl, hdone, hvec, -⟩ := hcases
      · rw [hdone] at hcalled
        refine ⟨⟨hc, by rw [hcalled]; exact h.once, ?_⟩, ?_, ?_⟩
        · intro k hk
          rw [hcalled] at hk
          obtain ⟨hk1, hk2⟩ := h.left k hk
          refine ⟨Nat.le_trans hk1 (Nat.le_of_eq hid.symm), fun ri hri => ?_⟩
          have hri' : ri ∈ (w.pool.takeReply i p reply).requestInfoVec := hri
          rw [hvec] at hri'
          obtain rfl | hri' := mem_middle.mp hri'
          · show (x.requestList.handlePacket p.guid reply).requestId ≠ k
            rw [handlePacket_requestId]
            exact hk2 x hx
          · exact hk2 ri (hothers ri hri')
        · rw [hcalled]
          exact fun k hk => hk
        · intro ri hri
          have hmem : ∀ y, y ∈ pre ++ { x with
              requestList := x.requestList.handlePacket p.guid reply } :: post →
              y ∈ (w.pool.takeReply i p reply).requestInfoVec := by
            intro y hy
            rw [hvec]
            exact hy
          obtain rfl | hri := (hsplit ri).mp hri
          · refine .inl ⟨_, hmem _ (mem_middle.mpr (.inl rfl)), ?_, ?_⟩
            · exact handlePacket_requestId _ _ _
            · exact sendsAll_handlePacket _ _ _
          · exact .inl ⟨ri, hmem _ (mem_middle.mpr (.inr hri)), rfl, Iff.rfl⟩
      · rw [hdone] at hcalled
        replace hcalled : (w.takeReply i p reply).called
            = x.requestList.requestId :: w.called := by
          rw [hcalled]
          show (x.requestList.handlePacket p.guid reply).requestId :: w.called = _
          rw [handlePacket_requestId]
        refine ⟨⟨hc, ?_, ?_⟩, ?_, ?_⟩
        · rw [hcalled]
          exact List.nodup_cons.mpr ⟨fun hmem => (h.left _ hmem).2 x hx rfl, h.once⟩
        · intro k hk
          rw [hcalled] at hk
          show k ≤ (w.pool.takeReply i p reply).requestId ∧
            ∀ ri ∈ (w.pool.takeReply i p reply).requestInfoVec, _
          rw [hid, hvec]
          obtain rfl | hk := List.mem_cons.mp hk
          · exact ⟨(h.counted.lists x hx).bound, fun ri hri => other_id hids hri⟩
          · exact ⟨(h.left k hk).1, fun ri hri => (h.left k hk).2 ri (hothers ri hri)⟩
        · rw [hcalled]
          exact fun k hk => List.mem_cons_of_mem _ hk
        · intro ri hri
          obtain rfl | hri := (hsplit ri).mp hri
          · refine .inr ⟨by rw [hcalled]; exact List.mem_cons_self .., ?_⟩
            exact (h.counted.lists _ hx).sendsAll_of_completed hp hpid reply hcompl
          · refine .inl ⟨ri, ?_, rfl, Iff.rfl⟩
            show ri ∈ (w.pool.takeReply i p reply).requestInfoVec
            rw [hvec]
            exact hri

/-- **A run**: the invariant holds on, and each list is still there or was complete. -/
theorem Served.run {cfg : PoolCfg} {as : List (Action μ)} {w w' : PoolHistory μ} (h : Served w)
    (hrun : (historySystem cfg).run w as = some w') :
    Served w' ∧ (∀ k ∈ w.called, k ∈ w'.called) ∧
    ∀ ri ∈ w.pool.requestInfoVec, Fate ri w' := by
  induction as generalizing w with
  | nil =>
      obtain rfl : w = w' := Option.some.inj hrun
      exact ⟨h, fun k hk => hk, fun ri hri => .inl ⟨ri, hri, rfl, Iff.rfl⟩⟩
  | cons a as ih =>
      obtain ⟨m, hst, hrun⟩ := TransSys.run_cons_eq_some.mp hrun
      obtain ⟨hm, hcalled, hfate⟩ := h.step hst
      obtain ⟨hw', hcalled', hfate'⟩ := ih hm hrun
      refine ⟨hw', fun k hk => hcalled' k (hcalled k hk), fun ri hri => ?_⟩
      obtain ⟨ri', hri', hid, hsends⟩ | ⟨hmem, hsends⟩ := hfate ri hri
      · obtain ⟨x, hx, hxid, hxs⟩ | ⟨hmem, hxs⟩ := hfate' ri' hri'
        · exact .inl ⟨x, hx, hxid.trans hid, hxs.trans hsends⟩
        · exact .inr ⟨hid ▸ hmem, hsends.mp hxs⟩
      · exact .inr ⟨hcalled' _ hmem, hsends⟩

theorem reachable_served {cfg : PoolCfg} {w : PoolHistory μ}
    (hw : (historySystem cfg).Reachable w) : Served w := by
  refine hw.invariant (I := Served) ?_ ?_
  · intro w hinit
    have heq : w = { pool := { cfg } } := hinit
    rw [heq]
    exact ⟨counted_new cfg, List.nodup_nil, fun k hk => absurd hk (List.not_mem_nil)⟩
  · intro w a w' h _ hst
    exact (h.step hst).1

/-- The cache can answer everything it has received. -/
theorem answers_all (cfg : PoolCfg) (w : PoolHistory μ) :
    ∃ as w', (historySystem cfg).run w as = some w' ∧ w'.pool.inFlight = [] := by
  match hn : w.pool.inFlight.length with
  | 0 => exact ⟨[], w, rfl, List.length_eq_zero_iff.mp hn⟩
  | n + 1 =>
      obtain ⟨p, hp⟩ : ∃ p, w.pool.inFlight[0]? = some p :=
        ⟨_, List.getElem?_eq_getElem (by omega)⟩
      have hst : (historySystem cfg).step w (.reply 0 .unparsable)
          = some (w.takeReply 0 p .unparsable) := PoolHistory.step_reply hp .unparsable
      obtain ⟨hin, -⟩ := takeReply_cases w.pool 0 p .unparsable
      have hlen : (w.takeReply 0 p .unparsable).pool.inFlight.length = n := by
        show (w.pool.takeReply 0 p .unparsable).inFlight.length = n
        rw [hin, List.length_eraseIdx, hn]
        simp
      obtain ⟨as, w', hrun, hnil⟩ := answers_all cfg (w.takeReply 0 p .unparsable)
      exact ⟨.reply 0 .unparsable :: as, w', TransSys.run_cons_eq_some.mpr ⟨_, hst, hrun⟩, hnil⟩
termination_by w.pool.inFlight.length
decreasing_by omega

/-- A list finishes exactly when each of its requests has a packet, and it has any. -/
theorem Served.finishes_iff {cfg : PoolCfg} {w : PoolHistory μ} (h : Served w)
    {ri : RequestInfo μ} (hri : ri ∈ w.pool.requestInfoVec) :
    Finishes cfg w ri.requestList.requestId ↔ ri.SendsAll := by
  constructor
  · intro hfin
    obtain ⟨as, w', hrun, hnil⟩ := answers_all cfg w
    obtain ⟨-, hgone⟩ := hfin as w' hrun (by rw [hnil]; simp)
    obtain ⟨x, hx, hid, -⟩ | ⟨-, hsends⟩ := (h.run hrun).2.2 ri hri
    · exact absurd hid (hgone x hx)
    · exact hsends
  · intro hsends as w' hrun hanswered
    obtain ⟨hw', -, hfate⟩ := h.run hrun
    obtain ⟨x, hx, hid, hxs⟩ | ⟨hmem, -⟩ := hfate ri hri
    · -- a list that still waits has a packet in flight
      have hwait := hw'.counted.lists x hx
      have hzero : w'.pool.flying x.requestList.requestId = 0 := by
        refine List.countP_eq_zero.mpr fun p hp => ?_
        rw [hid]
        simpa using hanswered p hp
      have hcount := hwait.count
      obtain ⟨hpos, hall⟩ := RequestInfo.sendsAll_iff.mp (hxs.mpr hsends)
      obtain hnil | hshort := hwait.short
      · rw [hnil] at hpos
        exact absurd hpos (Nat.lt_irrefl 0)
      · omega
    · exact ⟨by rw [hw'.once.count, if_pos hmem], (hw'.left _ hmem).2⟩

/-! ## §6. Runs that commit such lists only. -/

/-- Under the condition the requests that a batch makes send packets. -/
theorem batchRequests_send {w : PoolHistory μ} (hc : CommitsSend w .update)
    (hstart : StartsBatch w.pool) (hpending : Pending w.pool) {o : UInt64} {m : DbEntityMap}
    (hm : w.pool.dbEntityMap[o]? = some m) :
    ∀ r ∈ batchRequests w.pool.entityMap m, r.Sends := by
  intro r hr
  obtain ⟨g, info, hg, k, hturn⟩ := mem_batchRequests.mp hr
  have hentry : entry w.pool.dbEntityMap o g = some info := by
    rw [entry_of_getElem? hm]
    exact hg
  have hmsg := hc hstart info (mem_values.mpr ⟨o, g, hentry⟩)
  unfold DbEntityInfo.turn at hturn
  rw [(hpending o g info hentry).notRequested] at hturn
  simp only [Bool.false_eq_true, if_false] at hturn
  split at hturn
  · -- a REMOVE needs no message
    cases hturn
    simp [Request.Sends, Request.opcodeAndStream]
  · next hrem =>
      split at hturn
      · cases hturn
      · next e he =>
          have hmsg' := hmsg hrem e he
          split at hturn
          · cases hturn
          · next hflush =>
              have hsome := hmsg' (by simpa using hflush)
              split at hturn
              · cases hturn
                simp [Request.Sends, Request.opcodeAndStream, hsome]
              · cases hturn
                simp [Request.Sends, Request.opcodeAndStream, hsome]
              · cases hturn

/-- Only lists that can finish are in the vector. -/
structure AllSend (w : PoolHistory μ) : Prop where
  served : Served w
  pending : Pending w.pool
  sends : ∀ ri ∈ w.pool.requestInfoVec, ri.SendsAll

theorem AllSend.step {w w' : PoolHistory μ} {a : Action μ} (h : AllSend w)
    (hc : CommitsSend w a) (hst : w.step a = some w') : AllSend w' := by
  refine ⟨(h.served.step hst).1, PoolHistory.pending_step h.pending hst, ?_⟩
  obtain ⟨-, hcall, -⟩ | ⟨-, -, rfl⟩ | ⟨rfl, hstart, rfl⟩ | ⟨requests, rfl, rfl⟩ |
    ⟨i, p, reply, -, -, rfl⟩ := PoolHistory.step_cases hst
  · rw [hcall.requestInfoVec]
    exact h.sends
  · exact h.sends
  · obtain ⟨lists, hvec, hfresh, -, -⟩ := startBatch_lists h.pending
    intro ri hri
    have hri' : ri ∈ w.pool.startBatch.requestInfoVec := hri
    rw [hvec] at hri'
    obtain hold | hnew := List.mem_append.mp hri'
    · exact h.sends ri hold
    · obtain ⟨-, o, m, hm, hne, hrv, -, -⟩ := hfresh ri hnew
      unfold RequestInfo.SendsAll
      rw [hrv]
      exact ⟨hne, batchRequests_send hc hstart h.pending hm⟩
  · intro ri hri
    obtain hri | hri := List.mem_append.mp
      (show ri ∈ w.pool.requestInfoVec ++ [_] from hri)
    · exact h.sends ri hri
    · rw [List.mem_singleton.mp hri]
      exact hc
  · obtain ⟨-, -, hcases⟩ := takeReply_cases w.pool i p reply
    have hsends := h.sends
    intro ri hri
    have hri' : ri ∈ (w.pool.takeReply i p reply).requestInfoVec := hri
    obtain ⟨-, hvec, -, -⟩ | ⟨pre, x, post, hold, -, hcases⟩ := hcases
    · rw [hvec] at hri'
      exact hsends ri hri'
    · rw [hold] at hsends
      -- a reply touches the list that it belongs to only
      have hothers : ∀ y ∈ pre ++ post, y.SendsAll := by
        intro y hy
        refine hsends y ?_
        exact mem_middle.mpr (.inr hy)
      obtain ⟨-, -, hvec, -⟩ | ⟨-, -, hvec, -⟩ := hcases
      · rw [hvec] at hri'
        obtain rfl | hri' := mem_middle.mp hri'
        · exact (sendsAll_handlePacket _ _ _).mpr (hsends x (by simp))
        · exact hothers ri hri'
      · rw [hvec] at hri'
        exact hothers ri hri'

theorem AllSend.unblocked {w : PoolHistory μ} (h : AllSend w) : Unblocked w.pool := by
  have hwaiting : ∀ ri ∈ w.pool.requestInfoVec,
      ∃ p ∈ w.pool.inFlight, p.requestId = ri.requestList.requestId := by
    intro ri hri
    have hw := h.served.counted.lists ri hri
    obtain ⟨hpos, hall⟩ := RequestInfo.sendsAll_iff.mp (h.sends ri hri)
    have hcount := hw.count
    have hfly : 0 < w.pool.flying ri.requestList.requestId := by
      obtain hnil | hshort := hw.short
      · rw [hnil] at hpos
        exact absurd hpos (Nat.lt_irrefl 0)
      · omega
    obtain ⟨p, hp, hid⟩ := List.countP_pos_iff.mp hfly
    exact ⟨p, hp, eq_of_beq hid⟩
  refine ⟨hwaiting, h.served.counted.counter, fun hnil => ?_⟩
  have hvec : w.pool.requestInfoVec = [] := by
    refine List.eq_nil_iff_forall_not_mem.mpr fun ri hri => ?_
    obtain ⟨p, hp, -⟩ := hwaiting ri hri
    rw [hnil] at hp
    exact absurd hp (List.not_mem_nil)
  have hcounter := h.served.counted.counter
  rw [hvec, List.countP_nil] at hcounter
  exact ⟨hvec, by omega⟩

/-- **Which lists finish**: in every state of every run, the list in the vector
finishes exactly when it has a request and sends a packet for each; and in every
run that commits only such lists nothing blocks the pool. -/
theorem committed_finish (cfg : PoolCfg) :
    (∀ w : PoolHistory μ, (historySystem cfg).Reachable w → ∀ ri ∈ w.pool.requestInfoVec,
      (Finishes cfg w ri.requestList.requestId ↔ ri.SendsAll)) ∧
    (∀ w : PoolHistory μ, (historySystem cfg).ReachableWhen CommitsSend w →
      Unblocked w.pool) := by
  refine ⟨fun w hw ri hri => (reachable_served hw).finishes_iff hri, fun w hw => ?_⟩
  refine AllSend.unblocked (hw.invariant (I := AllSend) ?_ ?_)
  · intro w hinit
    have heq : w = { pool := { cfg } } := hinit
    rw [heq]
    refine ⟨reachable_served (.start rfl), fun o g info h => ?_,
      fun ri hri => absurd hri (List.not_mem_nil)⟩
    simp at h
  · intro w a w' h hc hst
    exact h.step hc hst

/-- **Silent lists stay**: a list without requests, and the batch of an entity
whose message was dropped while its ADD was pending.  No packet is in flight, and
the counter stays at 1 for the second. -/
theorem silent_lists_stay :
    (∃ w, (historySystem ⟨1, false⟩ : TransSys (PoolHistory Nat) (Action Nat)).run
        { pool := { cfg := ⟨1, false⟩ } } [.commit []] = some w ∧
      w.pool.inFlight = [] ∧ ∃ ri ∈ w.pool.requestInfoVec,
        ¬ Finishes ⟨1, false⟩ w ri.requestList.requestId) ∧
    (∃ w, (historySystem ⟨1, false⟩ : TransSys (PoolHistory Nat) (Action Nat)).run
        { pool := { cfg := ⟨1, false⟩ } }
        [.add 0x0800000000000001 (some 5) true 0x0100000000000001,
          .remove 0x0800000000000001 false false, .update] = some w ∧
      w.pool.inFlight = [] ∧ w.pool.updateToDbNum = 1 ∧ ∃ ri ∈ w.pool.requestInfoVec,
        ¬ Finishes ⟨1, false⟩ w ri.requestList.requestId) := by
  -- nothing is in flight, so the list would have to be gone already
  have hstuck : ∀ w : PoolHistory Nat, w.pool.inFlight = [] → ∀ ri ∈ w.pool.requestInfoVec,
      ¬ Finishes ⟨1, false⟩ w ri.requestList.requestId := by
    intro w hnil ri hri hfin
    obtain ⟨-, hgone⟩ := hfin [] w rfl (by rw [hnil]; simp)
    exact hgone ri hri rfl
  constructor
  · obtain ⟨w, hw, hnil, ri, hri⟩ :
        ∃ w, (historySystem ⟨1, false⟩ : TransSys (PoolHistory Nat) (Action Nat)).run
            { pool := { cfg := ⟨1, false⟩ } } [.commit []] = some w ∧
          w.pool.inFlight = [] ∧ ∃ ri, ri ∈ w.pool.requestInfoVec :=
      ⟨_, rfl, rfl, _, List.mem_cons_self ..⟩
    exact ⟨w, hw, hnil, ri, hri, hstuck w hnil ri hri⟩
  · obtain ⟨w, hw, hnil, hnum, hlen⟩ :
        ∃ w, (historySystem ⟨1, false⟩ : TransSys (PoolHistory Nat) (Action Nat)).run
            { pool := { cfg := ⟨1, false⟩ } }
            [.add 0x0800000000000001 (some 5) true 0x0100000000000001,
              .remove 0x0800000000000001 false false, .update] = some w ∧
          w.pool.inFlight.length = 0 ∧ w.pool.updateToDbNum = 1 ∧
          w.pool.requestInfoVec.length = 1 :=
      ⟨_, rfl, by decide +kernel, by decide +kernel, by decide +kernel⟩
    have hnil' := List.length_eq_zero_iff.mp hnil
    obtain ⟨ri, hri⟩ := List.length_eq_one_iff.mp hlen
    have hmem : ri ∈ w.pool.requestInfoVec := by
      rw [hri]
      exact List.mem_singleton_self ri
    exact ⟨w, hw, hnil', hnum, ri, hmem, hstuck w hnil' ri hmem⟩

end Steppingstone.Pool
