/-
  Steppingstone.Member.Directed — the replies of the member system and the sessions they go to.

  While the indexes of the requests under way differ from session to session, and no session is lost
  with a reply outstanding, the route map leads from each reply to the session that asked.  Nothing
  else does: equal indexes share one route, and a route outlives its session.
-/
import Steppingstone.Member.Model
import Steppingstone.Lib.Lookup

namespace Steppingstone.Member

/-! ## §1. What is to hold. -/

/-- The session at the address is number `i`, and it is connected. -/
def State.Serves (s : State) (a : Address) (i : Nat) : Prop :=
  s.sessions a = some i ∧ s.connected i = true

/-- The requests that may still be answered. -/
def State.pending (s : State) : List Request := s.atGate ++ s.outputPacketVec

/-- The addresses that the cooler holds. -/
def State.cooling (s : State) : List Address :=
  s.lostConnectionSet ++ s.cleaning ++ s.cleanedConnectionQue.map (·.memberSession)

/-- A reply went to the session that issued its request, while that was connected. -/
def Written.ToRequester (w : Written) : Prop :=
  w.target = some w.request.session ∧ w.connected = true

/-- **Replies reach the requester only, and no deleted session is used.** -/
structure Directed (s : State) : Prop where
  written : ∀ w ∈ s.written, w.ToRequester
  /-- The session that the output thread is about to write to is not deleted. -/
  writing : ∀ r a, s.writing = some (r, a) → (s.sessions a).isSome
  /-- Neither are those that the cooler is about to close or to delete. -/
  cooling : ∀ a ∈ s.cooling, (s.sessions a).isSome

/-- An index is used by one session at a time, and a session is lost when no reply to it is
    outstanding. -/
def Exclusive (s : State) : Act → Prop
  | .register a => (s.route a).getD a = a ∧ ∀ r ∈ s.pending, r.index ≠ a
  | .request a _ requestIndex =>
      (s.route requestIndex.toUInt64).getD a = a ∧
        ∀ r ∈ s.pending, r.index = requestIndex.toUInt64 → s.sessions a = some r.session
  | .disconnect a =>
      (∀ r ∈ s.pending, s.route r.index ≠ some a) ∧ s.writing.map (·.2) ≠ some a
  | .gateReply _ => True
  | .gateLost _ => True
  | .processPacket => True
  | .processWrite => True
  | .takeLost _ => True
  | .clean _ => True
  | .delete => True

instance decidableExclusive (s : State) : (act : Act) → Decidable (Exclusive s act)
  | .register _ => instDecidableAnd
  | .request _ _ _ => instDecidableAnd
  | .disconnect _ => instDecidableAnd
  | .gateReply _ => instDecidableTrue
  | .gateLost _ => instDecidableTrue
  | .processPacket => instDecidableTrue
  | .processWrite => instDecidableTrue
  | .takeLost _ => instDecidableTrue
  | .clean _ => instDecidableTrue
  | .delete => instDecidableTrue

/-! ## §2. What the functions do. -/

theorem reading_eq_some {s : State} {a : Address} {i : Nat} :
    s.reading a = some i ↔ s.Serves a i := by
  unfold State.reading State.Serves
  match h : s.sessions a with
  | none =>
      constructor
      · intro hi
        cases hi
      · intro hi
        cases hi.1
  | some j =>
      show (if s.connected j = true then some j else none) = some i ↔ _
      by_cases hj : s.connected j = true
      · rw [if_pos hj]
        constructor
        · intro hi
          exact ⟨hi, Option.some.inj hi ▸ hj⟩
        · intro hi
          exact hi.1
      · rw [if_neg hj]
        constructor
        · intro hi
          cases hi
        · intro hi
          exact absurd (Option.some.inj hi.1 ▸ hi.2) hj

/-- An index that is there already keeps its session. -/
theorem addMemberRoute_eq (s : State) (k : UInt64) (a : Address) :
    addMemberRoute s k a =
      { s with route := Function.update s.route k (some ((s.route k).getD a)) } := by
  unfold addMemberRoute
  match h : s.route k with
  | none => rfl
  | some b =>
      show s = { s with route := Function.update s.route k (some b) }
      rw [← h, Function.update_eq_self]

theorem getMemberByRoute_eq (s : State) (k : UInt64) :
    getMemberByRoute s k = (s.route k, { s with route := Function.update s.route k none }) := by
  unfold getMemberByRoute
  match h : s.route k with
  | some a => rfl
  | none =>
      show (none, s) = (none, { s with route := Function.update s.route k none })
      rw [← h, Function.update_eq_self]

/-- The route of the reply is taken out, and its session is to be written to. -/
theorem processPacket_eq (s : State) (r : Request) (hidle : s.writing = none) :
    processPacket s r =
      { s with
        route := Function.update s.route r.index none
        writing := (s.route r.index).map fun a => (r, a) } := by
  unfold processPacket
  rw [getMemberByRoute_eq]
  match h : s.route r.index with
  | some a => rfl
  | none =>
      show { s with route := _ } = { s with route := _, writing := none }
      rw [← hidle]

theorem lostConnection_eq (s : State) (a : Address) :
    lostConnection s a =
      { s with lostConnectionSet :=
          if a ∈ s.lostConnectionSet then s.lostConnectionSet else s.lostConnectionSet ++ [a] } := by
  unfold lostConnection
  by_cases h : a ∈ s.lostConnectionSet
  · rw [if_pos h, if_pos h]
  · rw [if_neg h, if_neg h]

/-- A request becomes pending under a route to its session, or to the one that has the index. -/
theorem input_eq (s : State) (opcode : Opcode) (a : Address) (r : Request) :
    ∃ atGate outputPacketVec, input s opcode a r =
        { s with
          route := Function.update s.route r.index (some ((s.route r.index).getD a))
          atGate := atGate
          outputPacketVec := outputPacketVec } ∧
      ∀ r', r' ∈ atGate ++ outputPacketVec ↔ r' = r ∨ r' ∈ s.pending := by
  unfold input
  rw [addMemberRoute_eq]
  have hmem : ∀ (l l' : List Request) (r' : Request),
      r' ∈ l ++ [r] ++ l' ↔ r' = r ∨ r' ∈ l ++ l' := by
    intro l l' r'
    simp only [List.mem_append, List.mem_singleton]
    tauto
  cases opcode.isForGate with
  | true => exact ⟨s.atGate ++ [r], s.outputPacketVec, rfl, hmem _ _⟩
  | false =>
      refine ⟨s.atGate, s.outputPacketVec ++ [r], rfl, ?_⟩
      intro r'
      rw [← List.append_assoc, ← List.append_nil (_ ++ [r]), hmem, List.append_nil]
      exact Iff.rfl

/-- The output thread goes on only when it is idle and a reply is there. -/
theorem step_processPacket {s s' : State} (hst : step s .processPacket = some s') :
    ∃ r rest, s.writing = none ∧ s.outputPacketVec = r :: rest ∧
      s' = processPacket { s with outputPacketVec := rest } r := by
  simp only [step] at hst
  split at hst
  · next r rest hidle hout => exact ⟨r, rest, hidle, hout, (Option.some.inj hst).symm⟩
  · cases hst

theorem step_delete {s s' : State} (hst : step s .delete = some s') :
    ∃ info rest, s.cleanedConnectionQue = info :: rest ∧
      s' = deleteCoolerInfo { s with cleanedConnectionQue := rest } info := by
  simp only [step] at hst
  split at hst
  · next info rest hclean hque =>
      obtain ⟨-, heq⟩ := Option.ite_none_right_eq_some.mp hst
      exact ⟨info, rest, hque, (Option.some.inj heq).symm⟩
  · cases hst

theorem mem_pending_gateLost {s : State} {r r' : Request}
    (hr' : r' ∈ s.atGate.erase r ++ s.outputPacketVec) : r' ∈ s.pending :=
  List.mem_append.mpr ((List.mem_append.mp hr').imp List.mem_of_mem_erase id)

theorem mem_pending_gateReply {s : State} {r r' : Request} (hr : r ∈ s.atGate)
    (hr' : r' ∈ s.atGate.erase r ++ (s.outputPacketVec ++ [r])) : r' ∈ s.pending := by
  rw [← List.append_assoc] at hr'
  cases List.mem_append.mp hr' with
  | inl hold => exact mem_pending_gateLost hold
  | inr heq => exact List.mem_append_left _ (List.mem_singleton.mp heq ▸ hr)

/-- A session that is cleaned stays with the cooler. -/
theorem cooling_clean {s : State} {a : Address} (ha : a ∈ s.cleaning) :
    (cleanMemberSession s a).cooling.Perm s.cooling := by
  show (s.lostConnectionSet ++ s.cleaning.erase a ++
    (s.cleanedConnectionQue ++ [_]).map CoolerInfo.memberSession).Perm _
  unfold State.cooling
  rw [List.map_append, List.append_assoc, List.append_assoc]
  apply List.Perm.append_left
  have hmoved : (s.cleaning.erase a ++ (s.cleanedConnectionQue.map (·.memberSession) ++ [a])).Perm
      (a :: (s.cleaning.erase a ++ s.cleanedConnectionQue.map (·.memberSession))) := by
    rw [← List.append_assoc]
    exact List.perm_append_singleton a _
  exact hmoved.trans ((List.perm_cons_erase ha).symm.append_right _)

/-! ## §3. The objects. -/

/-- Numbers and addresses are used once at a time, and the cooler holds lost sessions, each once. -/
structure Kept (s : State) : Prop where
  fresh : ∀ a i, s.sessions a = some i → i < s.next
  unique : ∀ a b i, s.sessions a = some i → s.sessions b = some i → a = b
  issued : ∀ r ∈ s.pending, r.session < s.next
  nodup : s.cooling.Nodup
  lost : ∀ a ∈ s.cooling, ∃ i, s.sessions a = some i ∧ s.connected i = false

theorem kept_init : Kept init where
  fresh := by
    intro a i h
    cases h
  unique := by
    intro a b i h
    cases h
  issued := by
    intro r h
    exact absurd h List.not_mem_nil
  nodup := List.nodup_nil
  lost := by
    intro a h
    exact absurd h List.not_mem_nil

/-- A connected session is not with the cooler. -/
theorem Kept.not_cooling {s : State} (hk : Kept s) {a : Address} {i : Nat} (h : s.Serves a i) :
    a ∉ s.cooling := by
  intro ha
  obtain ⟨j, hj, hlost⟩ := hk.lost a ha
  have heq : j = i := Option.some.inj (hj.symm.trans h.1)
  rw [heq, h.2] at hlost
  cases hlost

/-- A step that leaves the objects alone. -/
theorem Kept.frame {s s' : State} (hk : Kept s) (hsessions : s'.sessions = s.sessions)
    (hconnected : s'.connected = s.connected) (hnext : s'.next = s.next)
    (hissued : ∀ r ∈ s'.pending, r.session < s.next) (hcooling : s'.cooling.Perm s.cooling) :
    Kept s' where
  fresh := by
    rw [hsessions, hnext]
    exact hk.fresh
  unique := by
    rw [hsessions]
    exact hk.unique
  issued := by
    rw [hnext]
    exact hissued
  nodup := hcooling.nodup_iff.mpr hk.nodup
  lost := by
    intro a ha
    rw [hsessions, hconnected]
    exact hk.lost a (hcooling.mem_iff.mp ha)

/-- A request of a session that is there. -/
theorem Kept.input {s : State} (hk : Kept s) (opcode : Opcode) (a : Address) (r : Request)
    (hr : r.session < s.next) : Kept (input s opcode a r) := by
  obtain ⟨atGate, outputPacketVec, heq, hmem⟩ := input_eq s opcode a r
  rw [heq]
  apply hk.frame
  · rfl
  · rfl
  · rfl
  · intro r' hr'
    cases (hmem r').mp hr' with
    | inl h => exact h ▸ hr
    | inr h => exact hk.issued r' h
  · exact .refl _

/-- A new object at a free address. -/
theorem Kept.created {s : State} (hk : Kept s) {a : Address} (hfree : s.sessions a = none) :
    Kept { s with
      sessions := Function.update s.sessions a (some s.next)
      connected := Function.update s.connected s.next true
      next := s.next + 1 } where
  fresh := by
    intro b i h
    show i < s.next + 1
    obtain ⟨-, rfl⟩ | ⟨-, h⟩ := Lookup.update_some.mp h
    · exact Nat.lt_succ_self s.next
    · have := hk.fresh b i h
      omega
  unique := by
    have hother : ∀ b i, Function.update s.sessions a (some s.next) b = some i →
        (b = a ∧ i = s.next) ∨ (i < s.next ∧ s.sessions b = some i) := by
      intro b i h
      exact (Lookup.update_some.mp h).imp id fun h => ⟨hk.fresh b i h.2, h.2⟩
    intro b c i hb hc
    -- a number below `next` is that of an old session
    cases hother b i hb with
    | inl hnew =>
        cases hother c i hc with
        | inl hnew' => exact hnew.1.trans hnew'.1.symm
        | inr hold =>
            have := hold.1
            have := hnew.2
            omega
    | inr hold =>
        cases hother c i hc with
        | inl hnew =>
            have := hold.1
            have := hnew.2
            omega
        | inr hold' => exact hk.unique b c i hold.2 hold'.2
  issued := by
    intro r hr
    exact Nat.lt_succ_of_lt (hk.issued r hr)
  nodup := hk.nodup
  lost := by
    intro b hb
    obtain ⟨i, hi, hlost⟩ := hk.lost b hb
    have hne : b ≠ a := by
      intro heq
      rw [heq, hfree] at hi
      cases hi
    have hnew : i ≠ s.next := Nat.ne_of_lt (hk.fresh b i hi)
    refine ⟨i, ?_, ?_⟩
    · show Function.update s.sessions a (some s.next) b = some i
      rw [Function.update_of_ne hne, hi]
    · show Function.update s.connected s.next true i = false
      rw [Function.update_of_ne hnew, hlost]

/-- A session is lost, and comes to the cooler. -/
theorem Kept.disconnected {s : State} (hk : Kept s) {a : Address} {i : Nat} (h : s.Serves a i) :
    Kept (lostConnection { s with connected := Function.update s.connected i false } a) := by
  have hout := hk.not_cooling h
  have hset : a ∉ s.lostConnectionSet := fun ha =>
    hout (List.mem_append_left _ (List.mem_append_left _ ha))
  rw [lostConnection_eq]
  have hcooling : (s.lostConnectionSet ++ [a] ++ s.cleaning ++
      s.cleanedConnectionQue.map (·.memberSession)).Perm (a :: s.cooling) := by
    show List.Perm _ (a :: (s.lostConnectionSet ++ s.cleaning ++ _))
    rw [List.append_assoc, List.append_assoc, List.append_assoc]
    exact List.perm_middle
  have hnew : (if a ∈ s.lostConnectionSet then s.lostConnectionSet
      else s.lostConnectionSet ++ [a]) = s.lostConnectionSet ++ [a] := if_neg hset
  constructor
  · exact hk.fresh
  · exact hk.unique
  · exact hk.issued
  · show (_ ++ s.cleaning ++ _).Nodup
    rw [hnew]
    exact hcooling.nodup_iff.mpr (List.nodup_cons.mpr ⟨hout, hk.nodup⟩)
  · intro b hb
    replace hb : b ∈ _ ++ s.cleaning ++ s.cleanedConnectionQue.map (·.memberSession) := hb
    rw [hnew] at hb
    cases List.mem_cons.mp (hcooling.mem_iff.mp hb) with
    | inl heq =>
        refine ⟨i, heq ▸ h.1, ?_⟩
        show Function.update s.connected i false i = false
        rw [Function.update_self]
    | inr hold =>
        obtain ⟨j, hj, hlost⟩ := hk.lost b hold
        refine ⟨j, hj, ?_⟩
        show Function.update s.connected i false j = false
        by_cases hji : j = i
        · rw [hji, Function.update_self]
        · rw [Function.update_of_ne hji, hlost]

/-- The first session of the queue is deleted, when nothing is left to clean. -/
theorem Kept.deleted {s : State} (hk : Kept s) {info : CoolerInfo} {rest : List CoolerInfo}
    (hque : s.cleanedConnectionQue = info :: rest) :
    Kept (deleteCoolerInfo { s with cleanedConnectionQue := rest } info) := by
  have hperm : s.cooling.Perm (info.memberSession ::
      (s.lostConnectionSet ++ s.cleaning ++ rest.map (·.memberSession))) := by
    unfold State.cooling
    rw [hque]
    exact List.perm_middle
  obtain ⟨hout, hnodup⟩ := List.nodup_cons.mp (hperm.nodup_iff.mp hk.nodup)
  have hold : ∀ b i, Function.update s.sessions info.memberSession none b = some i →
      s.sessions b = some i :=
    fun b i h => (Lookup.update_none.mp h).2
  constructor
  · intro b i h
    exact hk.fresh b i (hold b i h)
  · intro b c i hb hc
    exact hk.unique b c i (hold b i hb) (hold c i hc)
  · exact hk.issued
  · exact hnodup
  · intro b hb
    obtain ⟨i, hi, hlost⟩ := hk.lost b (hperm.mem_iff.mpr (List.mem_cons_of_mem _ hb))
    have hne : b ≠ info.memberSession := by
      intro heq
      rw [heq] at hb
      exact hout hb
    refine ⟨i, ?_, hlost⟩
    show Function.update s.sessions info.memberSession none b = some i
    rw [Function.update_of_ne hne, hi]

/-- The output thread takes a reply. -/
theorem Kept.taken {s : State} (hk : Kept s) {r : Request} {rest : List Request}
    (hidle : s.writing = none) (hout : s.outputPacketVec = r :: rest) :
    Kept (processPacket { s with outputPacketVec := rest } r) := by
  rw [processPacket_eq { s with outputPacketVec := rest } r hidle]
  apply hk.frame
  · rfl
  · rfl
  · rfl
  · intro r' hr'
    apply hk.issued
    show r' ∈ s.atGate ++ s.outputPacketVec
    rw [hout]
    exact List.mem_append.mpr ((List.mem_append.mp hr').imp id (List.mem_cons_of_mem _))
  · exact .refl _

/-- **Every step keeps the objects.** -/
theorem kept_step {s s' : State} {act : Act} (hk : Kept s) (hst : step s act = some s') :
    Kept s' := by
  cases act with
  | register a =>
      obtain ⟨hfree, heq⟩ := Option.ite_none_right_eq_some.mp hst
      rw [← Option.some.inj heq]
      exact (hk.created (Option.isNone_iff_eq_none.mp hfree)).input .queryRole a ⟨s.next, a⟩
        (Nat.lt_succ_self _)
  | request a opcode requestIndex =>
      obtain ⟨i, hi, heq⟩ := Option.map_eq_some_iff.mp hst
      rw [← heq]
      exact hk.input _ _ _ (hk.fresh a i (reading_eq_some.mp hi).1)
  | gateReply r =>
      obtain ⟨hr, heq⟩ := Option.ite_none_right_eq_some.mp hst
      rw [← Option.some.inj heq]
      exact hk.frame rfl rfl rfl (fun r' hr' => hk.issued r' (mem_pending_gateReply hr hr'))
        (.refl _)
  | gateLost r =>
      obtain ⟨hr, heq⟩ := Option.ite_none_right_eq_some.mp hst
      rw [← Option.some.inj heq]
      exact hk.frame rfl rfl rfl (fun r' hr' => hk.issued r' (mem_pending_gateLost hr'))
        (.refl _)
  | processPacket =>
      obtain ⟨r, rest, hidle, hout, heq⟩ := step_processPacket hst
      rw [heq]
      exact hk.taken hidle hout
  | processWrite =>
      obtain ⟨w, -, heq⟩ := Option.map_eq_some_iff.mp hst
      rw [← heq]
      exact hk.frame rfl rfl rfl hk.issued (.refl _)
  | disconnect a =>
      obtain ⟨i, hi, heq⟩ := Option.map_eq_some_iff.mp hst
      rw [← heq]
      exact hk.disconnected (reading_eq_some.mp hi)
  | takeLost now =>
      obtain ⟨hdone, heq⟩ := Option.ite_none_right_eq_some.mp hst
      rw [← Option.some.inj heq]
      have hempty : s.cleaning = [] :=
        List.isEmpty_iff.mp (Bool.and_eq_true_iff.mp hdone).1
      have hcooling : (takeLost s now).cooling = s.cooling := by
        show [] ++ s.lostConnectionSet ++ _ = s.lostConnectionSet ++ s.cleaning ++ _
        rw [hempty, List.nil_append, List.append_nil]
        rfl
      exact hk.frame rfl rfl rfl hk.issued (hcooling ▸ .refl _)
  | clean a =>
      obtain ⟨ha, heq⟩ := Option.ite_none_right_eq_some.mp hst
      rw [← Option.some.inj heq]
      exact hk.frame rfl rfl rfl hk.issued (cooling_clean ha)
  | delete =>
      obtain ⟨info, rest, hque, heq⟩ := step_delete hst
      rw [heq]
      exact hk.deleted hque

theorem Kept.lt_next {s : State} (hk : Kept s) {a : Address} {i : Nat} (h : s.Serves a i) :
    i < s.next := hk.fresh a i h.1

/-! ## §4. The routes. -/

/-- The routes of pending requests, and what was made of the routes so far, lead to those who
    asked. -/
structure Sound (s : State) : Prop where
  routed : ∀ r ∈ s.pending, ∀ a, s.route r.index = some a → s.Serves a r.session
  writing : ∀ r a, s.writing = some (r, a) → s.Serves a r.session
  written : ∀ w ∈ s.written, w.ToRequester

theorem sound_init : Sound init where
  routed := by
    intro r h
    exact absurd h List.not_mem_nil
  writing := by
    intro r a h
    cases h
  written := by
    intro w h
    exact absurd h List.not_mem_nil

/-- A step that makes no request and no route, and loses no session that is served. -/
theorem Sound.frame {s s' : State} (hs : Sound s) (hpending : ∀ r ∈ s'.pending, r ∈ s.pending)
    (hroute : s'.route = s.route) (hserves : ∀ a i, s.Serves a i → s'.Serves a i)
    (hwriting : s'.writing = s.writing) (hwritten : s'.written = s.written) : Sound s' where
  routed := by
    intro r hr a ha
    rw [hroute] at ha
    exact hserves _ _ (hs.routed r (hpending r hr) a ha)
  writing := by
    intro r a h
    rw [hwriting] at h
    exact hserves _ _ (hs.writing r a h)
  written := by
    rw [hwritten]
    exact hs.written

/-- **A request keeps the routes right** exactly when its index has no other session. -/
theorem sound_input_iff {s : State} (hs : Sound s) (opcode : Opcode) {a : Address} {r : Request}
    (hserves : s.Serves a r.session) (hunique : ∀ b, s.Serves b r.session → b = a) :
    Sound (input s opcode a r) ↔ (s.route r.index).getD a = a ∧
      ∀ r' ∈ s.pending, r'.index = r.index → r'.session = r.session := by
  obtain ⟨atGate, outputPacketVec, heq, hmem⟩ := input_eq s opcode a r
  rw [heq]
  have hself : Function.update s.route r.index (some ((s.route r.index).getD a)) r.index =
      some ((s.route r.index).getD a) := Function.update_self ..
  constructor
  · intro h
    have hroute : (s.route r.index).getD a = a :=
      hunique _ (h.routed r ((hmem r).mpr (.inl rfl)) _ hself)
    refine ⟨hroute, ?_⟩
    intro r' hr' hindex
    have hserves' : s.Serves a r'.session := by
      apply h.routed r' ((hmem r').mpr (.inr hr')) a
      show Function.update s.route r.index (some ((s.route r.index).getD a)) r'.index = some a
      rw [hindex, hself, hroute]
    exact Option.some.inj (hserves'.1.symm.trans hserves.1)
  · intro h
    obtain ⟨hroute, hsame⟩ := h
    refine ⟨?_, hs.writing, hs.written⟩
    intro r' hr' b hb
    replace hb : Function.update s.route r.index (some ((s.route r.index).getD a)) r'.index =
        some b := hb
    by_cases hindex : r'.index = r.index
    · -- both the new request and the old ones of the index are of the session at `a`
      rw [hindex, hself, hroute] at hb
      have hsession : r'.session = r.session := by
        cases (hmem r').mp hr' with
        | inl hnew => exact congrArg _ hnew
        | inr hold => exact hsame r' hold hindex
      rw [← Option.some.inj hb, hsession]
      exact hserves
    · rw [Function.update_of_ne hindex] at hb
      have hold : r' ∈ s.pending :=
        ((hmem r').mp hr').resolve_left fun heq => hindex (congrArg _ heq)
      exact hs.routed r' hold b hb

theorem sound_register_iff {s : State} (hk : Kept s) (hs : Sound s) {a : Address}
    (hfree : s.sessions a = none) :
    Sound (handleMemberSession s a) ↔ Exclusive s (.register a) := by
  have hfreeServes : ∀ b i, s.Serves b i → b ≠ a := by
    intro b i h heq
    have := h.1
    rw [heq, hfree] at this
    cases this
  have hs' : Sound { s with
      sessions := Function.update s.sessions a (some s.next)
      connected := Function.update s.connected s.next true
      next := s.next + 1 } := by
    refine hs.frame (fun _ h => h) rfl ?_ rfl rfl
    intro b i h
    constructor
    · show Function.update s.sessions a (some s.next) b = some i
      rw [Function.update_of_ne (hfreeServes b i h), h.1]
    · show Function.update s.connected s.next true i = true
      rw [Function.update_of_ne (Nat.ne_of_lt (hk.lt_next h)), h.2]
  -- the answer to a register is made like those to the queries
  show Sound (input _ .queryRole a ⟨s.next, a⟩) ↔ _
  rw [sound_input_iff hs']
  · show _ ∧ (∀ r' ∈ s.pending, r'.index = a → r'.session = s.next) ↔
      _ ∧ ∀ r' ∈ s.pending, r'.index ≠ a
    apply and_congr_right
    intro _
    constructor
    · intro h r' hr' hindex
      -- an old request is not of the new session
      have := hk.issued r' hr'
      have := h r' hr' hindex
      omega
    · intro h r' hr' hindex
      exact absurd hindex (h r' hr')
  · exact ⟨Function.update_self .., Function.update_self ..⟩
  · intro b hb
    exact (hk.created hfree).unique b a s.next hb.1 (Function.update_self ..)

/-- **A session that is lost** leaves the routes right exactly when none leads to it. -/
theorem sound_disconnect_iff {s : State} (hk : Kept s) (hs : Sound s) {a : Address} {i : Nat}
    (h : s.Serves a i) :
    Sound (lostConnection { s with connected := Function.update s.connected i false } a) ↔
      Exclusive s (.disconnect a) := by
  rw [lostConnection_eq]
  have hlost : ∀ b j, s.sessions b = some j → Function.update s.connected i false j = true →
      b ≠ a := by
    intro b j hj hconn heq
    rw [heq, h.1] at hj
    rw [← Option.some.inj hj, Function.update_self] at hconn
    cases hconn
  have hkept : ∀ b j, s.Serves b j → b ≠ a →
      s.sessions b = some j ∧ Function.update s.connected i false j = true := by
    intro b j hj hne
    have hji : j ≠ i := by
      intro heq
      exact hne (hk.unique b a i (heq ▸ hj.1) h.1)
    refine ⟨hj.1, ?_⟩
    rw [Function.update_of_ne hji, hj.2]
  constructor
  · intro hs'
    constructor
    · intro r hr hroute
      have hserves := hs'.routed r hr a hroute
      exact hlost a r.session hserves.1 hserves.2 rfl
    · intro hwriting
      obtain ⟨w, hw, hwa⟩ := Option.map_eq_some_iff.mp hwriting
      have hserves := hs'.writing w.1 w.2 hw
      exact hlost w.2 w.1.session hserves.1 hserves.2 hwa
  · intro hexcl
    obtain ⟨hroute, hwriting⟩ := hexcl
    refine ⟨?_, ?_, hs.written⟩
    · intro r hr b hb
      apply hkept b r.session (hs.routed r hr b hb)
      intro heq
      exact hroute r hr (heq ▸ hb)
    · intro r b hw
      apply hkept b r.session (hs.writing r b hw)
      intro heq
      rw [hw, heq] at hwriting
      exact hwriting rfl

/-- The reply at the head is given to the session its route leads to. -/
theorem Sound.taken {s : State} (hs : Sound s) {r : Request} {rest : List Request}
    (hidle : s.writing = none) (hout : s.outputPacketVec = r :: rest) :
    Sound (processPacket { s with outputPacketVec := rest } r) := by
  rw [processPacket_eq { s with outputPacketVec := rest } r hidle]
  have hr : r ∈ s.pending := by
    apply List.mem_append_right
    rw [hout]
    exact List.mem_cons_self
  refine ⟨?_, ?_, hs.written⟩
  · intro r' hr' b hb
    have hold : r' ∈ s.pending := by
      show r' ∈ s.atGate ++ s.outputPacketVec
      rw [hout]
      exact List.mem_append.mpr ((List.mem_append.mp hr').imp id (List.mem_cons_of_mem _))
    exact hs.routed r' hold b (Lookup.update_none.mp hb).2
  · intro r' b hw
    obtain ⟨c, hc, heq⟩ := Option.map_eq_some_iff.mp hw
    obtain ⟨rfl, rfl⟩ := Prod.mk.inj heq
    exact hs.routed r hr c hc

/-- A write through the right pointer. -/
theorem Sound.wrote {s : State} (hs : Sound s) {r : Request} {a : Address}
    (hw : s.writing = some (r, a)) : Sound (processWrite s r a) := by
  have hserves := hs.writing r a hw
  refine ⟨hs.routed, ?_, ?_⟩
  · intro r' b h
    cases h
  · intro w hin
    cases List.mem_append.mp hin with
    | inl hold => exact hs.written w hold
    | inr hnew =>
        rw [List.mem_singleton.mp hnew]
        refine ⟨hserves.1, ?_⟩
        show ((s.sessions a).map s.connected).getD false = true
        rw [hserves.1]
        exact hserves.2

/-- The sessions that are deleted serve nobody. -/
theorem Sound.deleted {s : State} (hk : Kept s) (hs : Sound s) {info : CoolerInfo}
    {rest : List CoolerInfo} (hque : s.cleanedConnectionQue = info :: rest) :
    Sound (deleteCoolerInfo { s with cleanedConnectionQue := rest } info) := by
  have hin : info.memberSession ∈ s.cooling := by
    apply List.mem_append_right
    rw [hque]
    exact List.mem_cons_self
  refine hs.frame (fun _ h => h) rfl ?_ rfl rfl
  intro a i h
  have hne : a ≠ info.memberSession := fun heq => hk.not_cooling h (heq ▸ hin)
  refine ⟨?_, h.2⟩
  show Function.update s.sessions info.memberSession none a = some i
  rw [Function.update_of_ne hne, h.1]

/-- **A step keeps the routes right exactly when it is exclusive.** -/
theorem sound_step_iff {s s' : State} {act : Act} (hk : Kept s) (hs : Sound s)
    (hst : step s act = some s') : Sound s' ↔ Exclusive s act := by
  cases act with
  | register a =>
      obtain ⟨hfree, heq⟩ := Option.ite_none_right_eq_some.mp hst
      rw [← Option.some.inj heq]
      exact sound_register_iff hk hs (Option.isNone_iff_eq_none.mp hfree)
  | request a opcode requestIndex =>
      obtain ⟨i, hi, heq⟩ := Option.map_eq_some_iff.mp hst
      have hserves := reading_eq_some.mp hi
      rw [← heq, sound_input_iff hs opcode hserves
        (fun b hb => hk.unique b a i hb.1 hserves.1)]
      show _ ∧ (∀ r' ∈ s.pending, r'.index = requestIndex.toUInt64 → r'.session = i) ↔
        _ ∧ ∀ r' ∈ s.pending, r'.index = requestIndex.toUInt64 → s.sessions a = some r'.session
      rw [hserves.1]
      apply and_congr_right
      intro _
      constructor
      · intro h r' hr' hindex
        rw [h r' hr' hindex]
      · intro h r' hr' hindex
        exact (Option.some.inj (h r' hr' hindex)).symm
  | gateReply r =>
      obtain ⟨hr, heq⟩ := Option.ite_none_right_eq_some.mp hst
      rw [← Option.some.inj heq]
      exact iff_of_true (hs.frame (fun r' hr' => mem_pending_gateReply hr hr') rfl
        (fun _ _ h => h) rfl rfl) trivial
  | gateLost r =>
      obtain ⟨-, heq⟩ := Option.ite_none_right_eq_some.mp hst
      rw [← Option.some.inj heq]
      exact iff_of_true (hs.frame (fun r' hr' => mem_pending_gateLost hr') rfl
        (fun _ _ h => h) rfl rfl) trivial
  | processPacket =>
      obtain ⟨r, rest, hidle, hout, heq⟩ := step_processPacket hst
      rw [heq]
      exact iff_of_true (hs.taken hidle hout) trivial
  | processWrite =>
      obtain ⟨w, hw, heq⟩ := Option.map_eq_some_iff.mp hst
      rw [← heq]
      exact iff_of_true (hs.wrote hw) trivial
  | disconnect a =>
      obtain ⟨i, hi, heq⟩ := Option.map_eq_some_iff.mp hst
      rw [← heq]
      exact sound_disconnect_iff hk hs (reading_eq_some.mp hi)
  | takeLost now =>
      obtain ⟨-, heq⟩ := Option.ite_none_right_eq_some.mp hst
      rw [← Option.some.inj heq]
      exact iff_of_true (hs.frame (fun _ h => h) rfl (fun _ _ h => h) rfl rfl) trivial
  | clean a =>
      obtain ⟨-, heq⟩ := Option.ite_none_right_eq_some.mp hst
      rw [← Option.some.inj heq]
      exact iff_of_true (hs.frame (fun _ h => h) rfl (fun _ _ h => h) rfl rfl) trivial
  | delete =>
      obtain ⟨info, rest, hque, heq⟩ := step_delete hst
      rw [heq]
      exact iff_of_true (hs.deleted hk hque) trivial

/-! ## §5. Runs. -/

/-- **In exclusive runs replies reach the requester only**, and no deleted session is used. -/
theorem reachable_directed {s : State} (hr : system.ReachableWhen Exclusive s) : Directed s := by
  have hinv : Kept s ∧ Sound s := by
    apply hr.invariant (I := fun s => Kept s ∧ Sound s)
    · intro s hs
      obtain rfl : s = init := hs
      exact ⟨kept_init, sound_init⟩
    · intro s act s' hi hc hst
      exact ⟨kept_step hi.1 hst, (sound_step_iff hi.1 hi.2 hst).mpr hc⟩
  obtain ⟨hk, hs⟩ := hinv
  constructor
  · exact hs.written
  · intro r a hw
    rw [(hs.writing r a hw).1]
    rfl
  · intro a ha
    obtain ⟨i, hi, -⟩ := hk.lost a ha
    rw [hi]
    rfl

/-- Two sessions ask with indexes of their own, are answered and lost, and the cooler deletes one
    of them. -/
def exclusiveRun : List Act :=
  [.register 4096, .register 8192, .processPacket, .processWrite, .processPacket, .processWrite,
    .request 4096 .memberLogin 1, .request 8192 .queryRole 2, .gateReply ⟨0, 1⟩,
    .processPacket, .processWrite, .processPacket, .processWrite, .disconnect 4096, .takeLost 0,
    .clean 4096, .takeLost 15, .delete]

theorem directed_exclusiveRun : ∃ s, system.run init exclusiveRun = some s ∧ Directed s := by
  have hmeets : system.RunMeets Exclusive init exclusiveRun := by decide +kernel
  have hsome : (system.run init exclusiveRun).isSome = true := by decide +kernel
  obtain ⟨s, hrun⟩ := Option.isSome_iff_exists.mp hsome
  exact ⟨s, hrun, reachable_directed (TransSys.reachableWhen_of_run rfl hmeets hrun)⟩

/-- Two sessions ask with index 1, and the first one is answered first. -/
def equalIndexes : List Act :=
  [.register 4096, .register 8192, .processPacket, .processWrite, .processPacket, .processWrite,
    .request 4096 .memberLogin 1, .request 8192 .queryRole 1, .processPacket, .processWrite]

/-- A session asks, is lost and deleted, and is answered then. -/
def lostTooEarly : List Act :=
  [.register 4096, .processPacket, .processWrite, .request 4096 .memberLogin 1, .disconnect 4096,
    .takeLost 0, .clean 4096, .takeLost 15, .delete, .gateReply ⟨0, 1⟩, .processPacket,
    .processWrite]

theorem not_directed_of_last {s : Option State} {w : Written}
    (hlast : s.bind (·.written.getLast?) = some w) (hw : ¬ w.ToRequester) :
    ∃ s', s = some s' ∧ s'.written.getLast? = some w ∧ ¬ Directed s' := by
  obtain ⟨s', hs', hget⟩ := Option.bind_eq_some_iff.mp hlast
  refine ⟨s', hs', hget, ?_⟩
  intro hdir
  exact hw (hdir.written w (List.mem_of_getLast? hget))

/-- **Replies go astray**: what session 1 asked is told to session 0, and a reply is written to a
    session that is deleted. -/
theorem misdirected :
    (∃ s, system.run init equalIndexes = some s ∧
      s.written.getLast? = some ⟨⟨1, 1⟩, some 0, true⟩ ∧ ¬ Directed s) ∧
    (∃ s, system.run init lostTooEarly = some s ∧
      s.written.getLast? = some ⟨⟨0, 1⟩, none, false⟩ ∧ ¬ Directed s) := by
  constructor
  · apply not_directed_of_last
    · decide +kernel
    · intro h
      cases h.1
  · apply not_directed_of_last
    · decide +kernel
    · intro h
      cases h.1

end Steppingstone.Member
