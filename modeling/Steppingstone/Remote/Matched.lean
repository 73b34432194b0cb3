/-
  Steppingstone.Remote.Matched — the entries of a guid and the replies that are to come for it.

  The entries of a guid stand in the order of the calls.  They serve the right replies while the
  replies come in that order: all from one server, each packet handed over before the next call of the
  guid.  Where the calls could overtake each other, they have to be for one map and one list.
-/
import Steppingstone.Lib.FirstMatch
import Steppingstone.Remote.Model

namespace Steppingstone.Remote

open FirstMatch (find?_split filter_eraseP filter_eraseP_of_disjoint map_append_cons)

/-! ## §1. What is to hold. -/

/-- The reply was handed on with the map and the list of its request. -/
def Delivered.IsRight (d : Delivered) : Prop :=
  d.mapId = d.request.mapId ∧ d.requestId = d.request.requestId

/-- **Replies are delivered for the requests they answer**, all of them, and when no more are to come
    no entry is left. -/
structure Faithful (s : State) : Prop where
  delivered : ∀ d ∈ s.delivered, d.IsRight
  known : s.unknown = []
  /-- An `ONLY_REMOVE` that is under way has no reply, and no entry. -/
  drained : (∀ c ∈ s.replies ++ s.toServers ++ s.calling, c.info.requestId = 0) → s.guidVec = []

/-- The packets and replies that a server has in its order. -/
def State.inFlight (s : State) : List Sent := s.replies ++ s.toServers

/-- A packet of the guid that is answered. -/
def Sent.asks (guid : UInt64) (c : Sent) : Bool := c.info.guid = guid && c.info.requestId ≠ 0

/-- A call overtakes none of the guid, and is overtaken by none, but for calls of the same map and
    list. -/
def Ordered (size : Nat) (s : State) : Act → Prop
  | .cacheOutput info ownerGuid => info.requestId ≠ 0 →
      (∀ c ∈ s.inFlight, c.asks info.guid = true →
        c.server = serverOf size ownerGuid ∨ c.info = info) ∧
      (∀ c ∈ s.calling, c.asks info.guid = true → c.info = info)
  | .output _ => True
  | .answer _ => True
  | .syncRead _ => True

instance decidableOrdered (size : Nat) (s : State) : (a : Act) → Decidable (Ordered size s a)
  | .cacheOutput info ownerGuid =>
      inferInstanceAs (Decidable (info.requestId ≠ 0 →
        (∀ c ∈ s.inFlight, c.asks info.guid = true →
          c.server = serverOf size ownerGuid ∨ c.info = info) ∧
        (∀ c ∈ s.calling, c.asks info.guid = true → c.info = info)))
  | .output _ => instDecidableTrue
  | .answer _ => instDecidableTrue
  | .syncRead _ => instDecidableTrue

/-! ## §2. The requests of a guid. -/

/-- What the packets of the guid ask for, in their order. -/
def asked (guid : UInt64) (cs : List Sent) : List ReqPackInfo := (cs.filter (·.asks guid)).map (·.info)

/-- The entries of the guid. -/
def entriesOf (guid : UInt64) (es : List ReqPackInfo) : List ReqPackInfo :=
  es.filter fun e => e.guid = guid

theorem guid_of_asks {c : Sent} {guid : UInt64} (h : c.asks guid = true) : c.info.guid = guid :=
  of_decide_eq_true (Bool.and_eq_true_iff.mp h).1

/-- A request with an id asks for its guid. -/
theorem asks_self {c : Sent} (h : c.info.requestId ≠ 0) : c.asks c.info.guid = true :=
  Bool.and_eq_true_iff.mpr ⟨decide_eq_true rfl, decide_eq_true h⟩

theorem asked_append (guid : UInt64) (cs cs' : List Sent) :
    asked guid (cs ++ cs') = asked guid cs ++ asked guid cs' := by
  unfold asked
  rw [List.filter_append, List.map_append]

theorem asked_cons_of_asks {guid : UInt64} {c : Sent} (h : c.asks guid = true) (cs : List Sent) :
    asked guid (c :: cs) = c.info :: asked guid cs := by
  unfold asked
  rw [List.filter_cons_of_pos h]
  rfl

theorem asked_cons_of_not_asks {guid : UInt64} {c : Sent} (h : ¬ c.asks guid = true)
    (cs : List Sent) : asked guid (c :: cs) = asked guid cs := by
  unfold asked
  rw [List.filter_cons_of_neg h]

theorem asked_nil (guid : UInt64) : asked guid [] = [] := rfl

/-- Behind packets that ask for the same, a packet may as well stand first. -/
theorem asked_middle {guid : UInt64} {c : Sent} (pre post : List Sent)
    (h : ∀ x ∈ pre, x.asks guid = true → c.asks guid = true → x.info = c.info) :
    asked guid (pre ++ c :: post) = asked guid (c :: (pre ++ post)) := by
  rw [asked_append]
  by_cases hc : c.asks guid = true
  · rw [asked_cons_of_asks hc, asked_cons_of_asks hc, asked_append]
    apply map_append_cons
    intro x hx
    obtain ⟨hin, hasks⟩ := List.mem_filter.mp hx
    exact h x hin hasks hc
  · rw [asked_cons_of_not_asks hc, asked_cons_of_not_asks hc, asked_append]

theorem entriesOf_append (guid : UInt64) (es es' : List ReqPackInfo) :
    entriesOf guid (es ++ es') = entriesOf guid es ++ entriesOf guid es' := List.filter_append ..

/-- The first entry of the guid, and what is left without it. -/
theorem getMapID_of_head {es rest : List ReqPackInfo} {e : ReqPackInfo} {guid : UInt64}
    (h : entriesOf guid es = e :: rest) :
    getMapID es guid = (some e, es.eraseP fun e => e.guid = guid) := by
  have hfind : es.find? (fun e => e.guid = guid) = some e := by
    rw [← List.head?_filter]
    show (entriesOf guid es).head? = some e
    rw [h]
    rfl
  unfold getMapID
  rw [hfind]

/-! ## §3. The invariant. -/

/-- Packets of the guid that could overtake each other are for one map and one list. -/
structure Settled (guid : UInt64) (s : State) : Prop where
  inFlight : ∀ c ∈ s.inFlight, ∀ c' ∈ s.inFlight ++ s.calling, c.asks guid = true →
    c'.asks guid = true → c.server = c'.server ∨ c.info = c'.info
  calling : ∀ c ∈ s.calling, ∀ c' ∈ s.calling, c.asks guid = true → c'.asks guid = true →
    c.info = c'.info

/-- What holds in every state: entries and packets of a guid keep one order. -/
structure Inv (s : State) : Prop where
  /-- The entries of a guid are what its replies will be for, in their order. -/
  matched : ∀ guid, entriesOf guid s.guidVec = asked guid (s.inFlight ++ s.calling)
  settled : ∀ guid, Settled guid s
  answered : ∀ c ∈ s.replies, c.info.requestId ≠ 0
  delivered : ∀ d ∈ s.delivered, d.IsRight
  known : s.unknown = []

theorem inv_init : Inv init where
  matched := fun _ => rfl
  settled := by
    intro guid
    constructor
    · intro c hc
      exact absurd hc List.not_mem_nil
    · intro c hc
      exact absurd hc List.not_mem_nil
  answered := by
    intro c hc
    exact absurd hc List.not_mem_nil
  delivered := by
    intro d hd
    exact absurd hd List.not_mem_nil
  known := rfl

/-- Fewer packets in flight and in calls. -/
theorem Settled.mono {guid : UInt64} {s s' : State} (h : Settled guid s)
    (hflight : ∀ c ∈ s'.inFlight, c ∈ s.inFlight) (hcalling : ∀ c ∈ s'.calling, c ∈ s.calling) :
    Settled guid s' := by
  constructor
  · intro c hc c' hc'
    apply h.inFlight c (hflight c hc) c'
    exact List.mem_append.mpr ((List.mem_append.mp hc').imp (hflight c') (hcalling c'))
  · intro c hc c' hc'
    exact h.calling c (hcalling c hc) c' (hcalling c' hc')

/-- **A new call keeps the packets settled** exactly when it is ordered. -/
theorem settled_cacheOutput_iff {size : Nat} {s : State} (h : ∀ guid, Settled guid s)
    (info : ReqPackInfo) (ownerGuid : UInt64) :
    (∀ guid, Settled guid (cacheOutput size s info ownerGuid)) ↔
      Ordered size s (.cacheOutput info ownerGuid) := by
  have hlast : ∀ cs : List Sent, (⟨serverOf size ownerGuid, info⟩ : Sent) ∈
      cs ++ [⟨serverOf size ownerGuid, info⟩] :=
    fun cs => List.mem_append_right _ (List.mem_singleton_self _)
  constructor
  · intro hs hid
    have hasks : (⟨serverOf size ownerGuid, info⟩ : Sent).asks info.guid = true := asks_self hid
    constructor
    · intro c hc hcasks
      exact (hs info.guid).inFlight c hc _ (List.mem_append_right _ (hlast _)) hcasks hasks
    · intro c hc hcasks
      exact (hs info.guid).calling c (List.mem_append_left _ hc) _ (hlast _) hcasks hasks
  · intro hord guid
    -- a packet that asks for the guid is an old one, or the new one with its request id
    have hnew : ∀ c' ∈ s.calling ++ [⟨serverOf size ownerGuid, info⟩], c'.asks guid = true →
        c' ∈ s.calling ∨ (c' = ⟨serverOf size ownerGuid, info⟩ ∧ info.guid = guid ∧
          info.requestId ≠ 0) := by
      intro c' hc' hasks
      cases List.mem_append.mp hc' with
      | inl hold => exact .inl hold
      | inr hin =>
          have heq := List.mem_singleton.mp hin
          rw [heq] at hasks
          obtain ⟨hguid, hid⟩ := Bool.and_eq_true_iff.mp hasks
          exact .inr ⟨heq, of_decide_eq_true hguid, of_decide_eq_true hid⟩
    constructor
    · intro c hc c' hc' hasks hasks'
      cases List.mem_append.mp hc' with
      | inl hflight =>
          exact (h guid).inFlight c hc c' (List.mem_append_left _ hflight) hasks hasks'
      | inr hcall =>
          cases hnew c' hcall hasks' with
          | inl hold =>
              exact (h guid).inFlight c hc c' (List.mem_append_right _ hold) hasks hasks'
          | inr heq =>
              obtain ⟨heq, hguid, hid⟩ := heq
              rw [heq]
              exact (hord hid).1 c hc (hguid ▸ hasks)
    · intro c hc c' hc' hasks hasks'
      cases hnew c hc hasks with
      | inl hold =>
          cases hnew c' hc' hasks' with
          | inl hold' => exact (h guid).calling c hold c' hold' hasks hasks'
          | inr heq' =>
              obtain ⟨heq', hguid, hid⟩ := heq'
              rw [heq']
              exact (hord hid).2 c hold (hguid ▸ hasks)
      | inr heq =>
          obtain ⟨heq, hguid, hid⟩ := heq
          rw [heq]
          cases hnew c' hc' hasks' with
          | inl hold' => exact ((hord hid).2 c' hold' (hguid ▸ hasks')).symm
          | inr heq' => rw [heq'.1]

/-- A new call makes an entry for what it asks. -/
theorem Inv.cacheOutput {size : Nat} {s : State} (h : Inv s) {info : ReqPackInfo}
    {ownerGuid : UInt64} (hord : Ordered size s (.cacheOutput info ownerGuid)) :
    Inv (cacheOutput size s info ownerGuid) where
  matched := by
    intro guid
    show entriesOf guid (if info.requestId ≠ 0 then s.guidVec ++ [info] else s.guidVec) =
      asked guid (s.inFlight ++ (s.calling ++ [⟨serverOf size ownerGuid, info⟩]))
    rw [← List.append_assoc, asked_append, ← h.matched]
    by_cases hid : info.requestId ≠ 0
    · rw [if_pos hid, entriesOf_append]
      apply congrArg
      by_cases hguid : info.guid = guid
      · rw [asked_cons_of_asks (hguid ▸ asks_self hid)]
        exact List.filter_cons_of_pos (decide_eq_true hguid)
      · rw [asked_cons_of_not_asks fun hasks => hguid (guid_of_asks hasks)]
        exact List.filter_cons_of_neg fun heq => hguid (of_decide_eq_true heq)
    · have hnot : ¬ (⟨serverOf size ownerGuid, info⟩ : Sent).asks guid = true := by
        intro hasks
        exact hid (of_decide_eq_true (Bool.and_eq_true_iff.mp hasks).2)
      rw [if_neg hid, asked_cons_of_not_asks hnot, asked_nil, List.append_nil]
  settled := (settled_cacheOutput_iff h.settled info ownerGuid).mpr hord
  answered := h.answered
  delivered := h.delivered
  known := h.known

/-- A packet that is handed over was called for the same as all calls of its guid. -/
theorem Inv.output {s : State} (h : Inv s) {c : Sent} (hc : c ∈ s.calling) : Inv (output s c) := by
  obtain ⟨pre, post, -, hsplit, herase⟩ := List.exists_erase_eq hc
  have hpre : ∀ x ∈ pre, x ∈ s.calling := by
    intro x hx
    rw [hsplit]
    exact List.mem_append_left _ hx
  have hleft : ∀ x ∈ s.calling.erase c, x ∈ s.calling := fun x hx => List.mem_of_mem_erase hx
  have hflight : ∀ x ∈ (Remote.output s c).inFlight, x ∈ s.inFlight ∨ x = c := by
    intro x hx
    replace hx : x ∈ s.replies ++ (s.toServers ++ [c]) := hx
    rw [← List.append_assoc] at hx
    exact (List.mem_append.mp hx).imp id List.mem_singleton.mp
  refine ⟨?_, ?_, h.answered, h.delivered, h.known⟩
  · intro guid
    show entriesOf guid s.guidVec =
      asked guid (s.replies ++ (s.toServers ++ [c]) ++ s.calling.erase c)
    rw [h.matched, ← List.append_assoc, List.append_assoc (s.replies ++ s.toServers), herase, hsplit]
    show asked guid (s.replies ++ s.toServers ++ _) = _
    rw [asked_append guid (s.replies ++ s.toServers), asked_middle, ← asked_append]
    · rfl
    · intro x hx hasks hasks'
      exact (h.settled guid).calling x (hpre x hx) c hc hasks hasks'
  · intro guid
    have hold := h.settled guid
    have hcalling := List.mem_append_right s.inFlight hc
    constructor
    · intro x hx y hy hasks hasks'
      -- the packet that was handed over was called for what the other calls are for
      cases List.mem_append.mp hy with
      | inl hyflight =>
          cases hflight x hx with
          | inl hx =>
              cases hflight y hyflight with
              | inl hy =>
                  exact hold.inFlight x hx y (List.mem_append_left _ hy) hasks hasks'
              | inr heq => exact heq ▸ hold.inFlight x hx c hcalling hasks (heq ▸ hasks')
          | inr heq =>
              rw [heq] at hasks ⊢
              cases hflight y hyflight with
              | inl hy =>
                  exact (hold.inFlight y hy c hcalling hasks' hasks).imp Eq.symm Eq.symm
              | inr heq' => exact .inl (heq' ▸ rfl)
      | inr hycall =>
          cases hflight x hx with
          | inl hx =>
              exact hold.inFlight x hx y (List.mem_append_right _ (hleft y hycall)) hasks hasks'
          | inr heq =>
              rw [heq] at hasks ⊢
              exact .inr (hold.calling c hc y (hleft y hycall) hasks hasks')
    · intro x hx y hy
      exact hold.calling x (hleft x hx) y (hleft y hy)

/-- The packet a server works on stands behind packets of other servers only. -/
theorem Inv.before_same {s : State} (h : Inv s) {guid : UInt64} {pre : List Sent} {c : Sent} {k : Nat}
    (hpre : ∀ x ∈ pre, x ∈ s.inFlight) (hc : c ∈ s.inFlight) (hk : c.server = k)
    (hother : ∀ x ∈ pre, decide (x.server = k) = false) :
    ∀ x ∈ pre, x.asks guid = true → c.asks guid = true → x.info = c.info := by
  intro x hx hasks hasks'
  have hne : x.server ≠ c.server := by
    rw [hk]
    exact of_decide_eq_false (hother x hx)
  exact ((h.settled guid).inFlight x (hpre x hx) c (List.mem_append_left _ hc) hasks hasks').resolve_left
    hne

/-- The answer of a server keeps the invariant. -/
theorem Inv.answer {s : State} (h : Inv s) {k : Nat} {c : Sent}
    (hfind : s.toServers.find? (fun c => c.server = k) = some c) :
    Inv { s with
      toServers := s.toServers.eraseP fun c => c.server = k
      replies := if c.info.requestId ≠ 0 then s.replies ++ [c] else s.replies } := by
  obtain ⟨pre, post, hsplit, herase, hk, hother⟩ := find?_split hfind
  have hin : ∀ x, x ∈ pre ++ c :: post → x ∈ s.inFlight := by
    intro x hx
    exact List.mem_append_right _ (hsplit ▸ hx)
  have hc : c ∈ s.inFlight := hin c (List.mem_append_right _ List.mem_cons_self)
  have hpre : ∀ x ∈ pre, x ∈ s.inFlight := fun x hx => hin x (List.mem_append_left _ hx)
  have hreplies : ∀ x ∈ (if c.info.requestId ≠ 0 then s.replies ++ [c] else s.replies),
      x ∈ s.replies ∨ (x = c ∧ c.info.requestId ≠ 0) := by
    intro x hx
    by_cases hid : c.info.requestId ≠ 0
    · rw [if_pos hid] at hx
      exact (List.mem_append.mp hx).imp id fun hin => ⟨List.mem_singleton.mp hin, hid⟩
    · rw [if_neg hid] at hx
      exact .inl hx
  refine ⟨?_, ?_, ?_, h.delivered, h.known⟩
  · intro guid
    show entriesOf guid s.guidVec = asked guid ((if c.info.requestId ≠ 0 then s.replies ++ [c]
      else s.replies) ++ (s.toServers.eraseP fun c => c.server = k) ++ s.calling)
    have hmiddle := @asked_middle guid c pre post
      (h.before_same hpre hc (of_decide_eq_true hk) hother)
    have hold : asked guid s.inFlight = asked guid s.replies ++ asked guid (c :: (pre ++ post)) := by
      show asked guid (s.replies ++ s.toServers) = _
      rw [asked_append, hsplit, hmiddle]
    rw [h.matched, asked_append, asked_append, hold, herase]
    apply congrArg (· ++ _)
    by_cases hid : c.info.requestId ≠ 0
    · rw [if_pos hid, asked_append, asked_append, List.append_assoc, ← asked_append guid [c]]
      rfl
    · rw [if_neg hid, asked_append, asked_cons_of_not_asks]
      intro hasks
      exact hid (of_decide_eq_true (Bool.and_eq_true_iff.mp hasks).2)
  · intro guid
    apply (h.settled guid).mono
    · intro x hx
      cases List.mem_append.mp hx with
      | inl hrep =>
          cases hreplies x hrep with
          | inl hold => exact List.mem_append_left _ hold
          | inr heq => exact heq.1 ▸ hc
      | inr hserv => exact List.mem_append_right _ (List.mem_of_mem_eraseP hserv)
    · exact fun x hx => hx
  · intro x hx
    cases hreplies x hx with
    | inl hold => exact h.answered x hold
    | inr heq => exact heq.1 ▸ heq.2

/-- The reply finds the entry of its request. -/
theorem Inv.syncRead {s : State} (h : Inv s) {k : Nat} {c : Sent}
    (hfind : s.replies.find? (fun c => c.server = k) = some c) :
    Inv (syncRead { s with replies := s.replies.eraseP fun c => c.server = k } c.info) := by
  obtain ⟨pre, post, hsplit, herase, hk, hother⟩ := find?_split hfind
  have hcin : c ∈ s.replies := by
    rw [hsplit]
    exact List.mem_append_right _ List.mem_cons_self
  have hc : c ∈ s.inFlight := List.mem_append_left _ hcin
  have hpre : ∀ x ∈ pre, x ∈ s.inFlight := by
    intro x hx
    apply List.mem_append_left
    rw [hsplit]
    exact List.mem_append_left _ hx
  have hasks := asks_self (h.answered c hcin)
  -- what is to come for a guid, with this reply in front
  have hentries : ∀ guid, entriesOf guid s.guidVec =
      asked guid (c :: (pre ++ post ++ s.toServers ++ s.calling)) := by
    intro guid
    rw [h.matched]
    show asked guid (s.replies ++ s.toServers ++ s.calling) = _
    rw [hsplit, List.append_assoc, List.append_assoc, List.cons_append, asked_middle pre _
      (h.before_same hpre hc (of_decide_eq_true hk) hother)]
    simp only [List.append_assoc]
  have hhead : entriesOf c.info.guid s.guidVec =
      c.info :: asked c.info.guid (pre ++ post ++ s.toServers ++ s.calling) := by
    rw [hentries, asked_cons_of_asks hasks]
  unfold Remote.syncRead
  rw [getMapID_of_head hhead]
  refine ⟨?_, ?_, ?_, ?_, h.known⟩
  · intro guid
    show entriesOf guid (s.guidVec.eraseP fun e => e.guid = c.info.guid) =
      asked guid ((s.replies.eraseP fun c => c.server = k) ++ s.toServers ++ s.calling)
    rw [herase]
    by_cases hguid : guid = c.info.guid
    · rw [hguid]
      show (s.guidVec.eraseP _).filter _ = _
      rw [filter_eraseP]
      show (entriesOf c.info.guid s.guidVec).tail = _
      rw [hhead]
      rfl
    · have hdisjoint : ∀ e : ReqPackInfo, decide (e.guid = c.info.guid) = true →
          decide (e.guid = guid) = false := by
        intro e he
        rw [of_decide_eq_true he]
        exact decide_eq_false fun heq => hguid heq.symm
      show (s.guidVec.eraseP _).filter _ = _
      rw [filter_eraseP_of_disjoint hdisjoint]
      show entriesOf guid s.guidVec = _
      rw [hentries, asked_cons_of_not_asks fun hasks => hguid (guid_of_asks hasks).symm]
  · intro guid
    apply (h.settled guid).mono
    · intro x hx
      exact List.mem_append.mpr ((List.mem_append.mp hx).imp List.mem_of_mem_eraseP id)
    · exact fun x hx => hx
  · intro x hx
    exact h.answered x (List.mem_of_mem_eraseP hx)
  · intro d hd
    cases List.mem_append.mp hd with
    | inl hold => exact h.delivered d hold
    | inr hnew => exact List.mem_singleton.mp hnew ▸ ⟨rfl, rfl⟩

/-- **Ordered steps keep the entries matched.** -/
theorem inv_step {size : Nat} {s s' : State} {a : Act} (h : Inv s) (hord : Ordered size s a)
    (hst : step size s a = some s') : Inv s' := by
  cases a with
  | cacheOutput info ownerGuid =>
      rw [← Option.some.inj hst]
      exact h.cacheOutput hord
  | output c =>
      obtain ⟨hc, heq⟩ := Option.ite_none_right_eq_some.mp hst
      rw [← Option.some.inj heq]
      exact h.output hc
  | answer k =>
      simp only [step] at hst
      split at hst
      · cases hst
      · next c hfind =>
          rw [← Option.some.inj hst]
          exact h.answer hfind
  | syncRead k =>
      simp only [step] at hst
      split at hst
      · cases hst
      · next c hfind =>
          rw [← Option.some.inj hst]
          exact h.syncRead hfind

/-! ## §4. Runs. -/

/-- **In ordered runs each reply is handed on for the request it answers**, and no entry outlasts the
    replies. -/
theorem reachable_faithful {size : Nat} {s : State}
    (hr : (system size).ReachableWhen (Ordered size) s) : Faithful s := by
  have hinv : Inv s := by
    apply hr.invariant (I := Inv)
    · intro s hs
      obtain rfl : s = init := hs
      exact inv_init
    · intro s a s' hi hord hst
      exact inv_step hi hord hst
  refine ⟨hinv.delivered, hinv.known, ?_⟩
  intro hnone
  apply List.eq_nil_iff_forall_not_mem.mpr
  intro e he
  have hnil : entriesOf e.guid s.guidVec = [] := by
    rw [hinv.matched]
    refine List.map_eq_nil_iff.mpr (List.filter_eq_nil_iff.mpr fun c hc hasks => ?_)
    exact of_decide_eq_true (Bool.and_eq_true_iff.mp hasks).2 (hnone c hc)
  have hin : e ∈ entriesOf e.guid s.guidVec := List.mem_filter.mpr ⟨he, decide_eq_true rfl⟩
  rw [hnil] at hin
  exact absurd hin List.not_mem_nil

/-- Two maps ask for guid 7 of owner 5, one after the other, with an `ONLY_REMOVE` in between. -/
def orderedRun : List Act :=
  [.cacheOutput ⟨1, 7, 100⟩ 5, .output ⟨1, ⟨1, 7, 100⟩⟩, .cacheOutput ⟨0, 7, 100⟩ 5,
    .output ⟨1, ⟨0, 7, 100⟩⟩, .cacheOutput ⟨1, 7, 200⟩ 5, .output ⟨1, ⟨1, 7, 200⟩⟩,
    .answer 1, .answer 1, .answer 1, .syncRead 1, .syncRead 1]

/-- A run in order. -/
theorem faithful_orderedRun : ∃ s, (system 2).run init orderedRun = some s ∧ Faithful s := by
  have hmeets : (system 2).RunMeets (Ordered 2) init orderedRun := by decide +kernel
  have hsome : ((system 2).run init orderedRun).isSome = true := by decide +kernel
  obtain ⟨s, hrun⟩ := Option.isSome_iff_exists.mp hsome
  exact ⟨s, hrun, reachable_faithful (TransSys.reachableWhen_of_run rfl hmeets hrun)⟩

/-- Two maps ask for guid 7, one of them with another owner, and that server is faster. -/
def twoServers : List Act :=
  [.cacheOutput ⟨1, 7, 100⟩ 4, .output ⟨0, ⟨1, 7, 100⟩⟩, .cacheOutput ⟨1, 7, 200⟩ 5,
    .output ⟨1, ⟨1, 7, 200⟩⟩, .answer 1, .syncRead 1]

/-- Two maps ask for guid 7 of owner 5, and the second call ends first. -/
def twoScenes : List Act :=
  [.cacheOutput ⟨1, 7, 100⟩ 5, .cacheOutput ⟨1, 7, 200⟩ 5, .output ⟨1, ⟨1, 7, 200⟩⟩,
    .output ⟨1, ⟨1, 7, 100⟩⟩, .answer 1, .syncRead 1]

/-- **Replies are exchanged**: what map 200 asked for is handed on for map 100. -/
theorem crossed :
    ((system 2).run init twoServers).map (·.delivered) = some [⟨⟨1, 7, 200⟩, 100, 1⟩] ∧
      ((system 2).run init twoScenes).map (·.delivered) = some [⟨⟨1, 7, 200⟩, 100, 1⟩] ∧
      ¬ (⟨⟨1, 7, 200⟩, 100, 1⟩ : Delivered).IsRight := by
  refine ⟨by decide +kernel, by decide +kernel, ?_⟩
  intro h
  exact absurd h.1 (by decide)

end Steppingstone.Remote
