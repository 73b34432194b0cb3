/-
  Steppingstone.SessionPool.TearDown — how the sessions of the pool come to their end.

  What the pool tells of a session, and when it deletes it, follows a small machine: two close
  notifications in either order, repetitions without effect.  The containers do not follow it: the
  notification that comes second leaves its own pool's map alone, and the set of sessions with
  writes is never emptied.
-/
import Steppingstone.SessionPool.Model
import Steppingstone.Lib.Lookup

namespace Steppingstone.SessionPool

/-! ## §1. The phases of a session. -/

/-- How far a session has come. -/
inductive Phase
  | unborn | connected | open | readClosed | writeClosed | gone
  deriving DecidableEq, Repr

/-- The entry of the session in the info map. -/
def Phase.info : Phase → Option SessionStatus
  | .open => some {}
  | .readClosed => some ⟨1, true, false⟩
  | .writeClosed => some ⟨1, false, true⟩
  | _ => none

/-- How often `connectionClosed` has been reported. -/
def Phase.reports : Phase → Nat
  | .readClosed | .writeClosed | .gone => 1
  | _ => 0

/-- How often the session has been deleted. -/
def Phase.deletes : Phase → Nat
  | .gone => 1
  | _ => 0

/-- The sides whose close has been notified. -/
def Phase.noticed : Phase → Side → Bool
  | .readClosed, .read | .writeClosed, .write | .gone, _ => true
  | _, _ => false

/-- A close notification. -/
def Phase.notify : Phase → Side → Phase
  | .open, .read => .readClosed
  | .open, .write => .writeClosed
  | .readClosed, .write | .writeClosed, .read => .gone
  | p, _ => p

/-- Session `x` of the pool is in phase `p`. -/
structure At (s : Pool) (x : SessionId) (p : Phase) : Prop where
  info : s.infoMap x = p.info
  reports : (s.connectionClosed.map Prod.fst).count x = p.reports
  deletes : s.deleted.count x = p.deletes
  noticed : p ≠ .connected → ∀ side, (x, side) ∈ s.noticed ↔ p.noticed side = true
  /-- A write side that closed first has taken the session out of the input pool. -/
  input : p = .writeClosed → s.inputMap x = none
  unborn : p = .unborn ↔ s.next ≤ x
  connected : p = .connected ↔ x ∈ s.connected

/-- The two states agree on what the phase of `x` speaks of. -/
structure Same (s s' : Pool) (x : SessionId) : Prop where
  info : s'.infoMap x = s.infoMap x
  reports : (s'.connectionClosed.map Prod.fst).count x = (s.connectionClosed.map Prod.fst).count x
  deletes : s'.deleted.count x = s.deleted.count x
  noticed : ∀ side, (x, side) ∈ s'.noticed ↔ (x, side) ∈ s.noticed
  input : s.inputMap x = none → s'.inputMap x = none
  unborn : s'.next ≤ x ↔ s.next ≤ x
  connected : x ∈ s'.connected ↔ x ∈ s.connected

theorem Same.refl (s : Pool) (x : SessionId) : Same s s x :=
  ⟨rfl, rfl, rfl, fun _ => Iff.rfl, id, Iff.rfl, Iff.rfl⟩

theorem Same.trans {s s' s'' : Pool} {x : SessionId} (h : Same s s' x) (h' : Same s' s'' x) :
    Same s s'' x where
  info := h'.info.trans h.info
  reports := h'.reports.trans h.reports
  deletes := h'.deletes.trans h.deletes
  noticed side := (h'.noticed side).trans (h.noticed side)
  input hn := h'.input (h.input hn)
  unborn := h'.unborn.trans h.unborn
  connected := h'.connected.trans h.connected

/-- The phase does not change where nothing it speaks of does. -/
theorem At.same {s s' : Pool} {x : SessionId} {p : Phase} (h : At s x p) (hs : Same s s' x) :
    At s' x p where
  info := hs.info.trans h.info
  reports := hs.reports.trans h.reports
  deletes := hs.deletes.trans h.deletes
  noticed hp side := (hs.noticed side).trans (h.noticed hp side)
  input hp := hs.input (h.input hp)
  unborn := h.unborn.trans hs.unborn.symm
  connected := h.connected.trans hs.connected.symm

/-! ## §2. What the parts of a step leave alone. -/

theorem same_setThread (s : Pool) (t : Nat) (thread : OutputThread) (x : SessionId) :
    Same s (s.setThread t thread) x :=
  ⟨rfl, rfl, rfl, fun _ => Iff.rfl, id, Iff.rfl, Iff.rfl⟩

theorem same_outputRemove (s : Pool) (y x : SessionId) : Same s (outputRemoveSession s y) x := by
  unfold outputRemoveSession
  split
  · exact ⟨rfl, rfl, rfl, fun _ => Iff.rfl, id, Iff.rfl, Iff.rfl⟩
  · exact ⟨rfl, rfl, rfl, fun _ => Iff.rfl, id, Iff.rfl, Iff.rfl⟩

theorem same_handleOutputStream (s : Pool) (y x : SessionId) : Same s (handleOutputStream s y) x := by
  unfold handleOutputStream
  split
  · exact ⟨rfl, rfl, rfl, fun _ => Iff.rfl, id, Iff.rfl, Iff.rfl⟩
  · exact ⟨rfl, rfl, rfl, fun _ => Iff.rfl, id, Iff.rfl, Iff.rfl⟩

theorem same_outputHandle (s : Pool) (y x : SessionId) : Same s (outputHandleSession s y) x := by
  unfold outputHandleSession
  split
  · exact ⟨rfl, rfl, rfl, fun _ => Iff.rfl, id, Iff.rfl, Iff.rfl⟩
  · exact ⟨rfl, rfl, rfl, fun _ => Iff.rfl, id, Iff.rfl, Iff.rfl⟩

theorem same_inputHandle (s : Pool) {y x : SessionId} (hne : x ≠ y) :
    Same s (inputHandleSession s y) x := by
  unfold inputHandleSession
  split
  · exact Same.refl s x
  · refine { Same.refl s x with input := fun hn => ?_ }
    show Function.update s.inputMap y _ x = none
    rw [Function.update_of_ne hne, hn]

theorem same_inputRemove (s : Pool) (y x : SessionId) : Same s (inputRemoveSession s y) x := by
  refine { Same.refl s x with input := fun hn => ?_ }
  show Function.update s.inputMap y none x = none
  by_cases hxy : x = y
  · rw [hxy, Function.update_self]
  · rw [Function.update_of_ne hxy, hn]

/-- A close notification is about one session. -/
theorem same_onSessionCloseNotify (s : Pool) {y x : SessionId} (hne : x ≠ y) (side : Side) :
    Same s (onSessionCloseNotify s y side) x := by
  have hinfo : ∀ (s : Pool) (o : Option SessionStatus),
      Same s { s with infoMap := Function.update s.infoMap y o } x := fun s o =>
    { Same.refl s x with info := Function.update_of_ne hne _ _ }
  unfold onSessionCloseNotify
  split
  · exact Same.refl s x
  · split
    · exact Same.refl s x
    · rename_i st _ _
      simp only
      split
      · have hreport : Same s { s with
            infoMap := Function.update s.infoMap y (some (st.close side))
            connectionClosed := s.connectionClosed ++ [(y, side)] } x := by
          refine { hinfo s (some (st.close side)) with reports := ?_ }
          show ((s.connectionClosed ++ [(y, side)]).map Prod.fst).count x = _
          simp [Ne.symm hne]
        cases side with
        | read => exact hreport.trans (same_outputRemove _ y x)
        | write => exact hreport.trans (same_inputRemove _ y x)
      · split
        · refine { Same.refl s x with info := ?_, deletes := ?_ }
          · show Function.update (Function.update s.infoMap y _) y none x = _
            rw [Function.update_of_ne hne, Function.update_of_ne hne]
          · show (s.deleted ++ [y]).count x = _
            simp [Ne.symm hne]
        · exact hinfo s _

/-- A notification is about one session. -/
theorem same_notify (s : Pool) {y x : SessionId} (hne : x ≠ y) (side : Side) :
    Same s (notify s y side) x := by
  have hghost : Same s (if y < s.next then { s with noticed := s.noticed ++ [(y, side)] } else s) x := by
    split
    · refine { Same.refl s x with noticed := fun side' => ?_ }
      show (x, side') ∈ s.noticed ++ [(y, side)] ↔ _
      simp [hne]
    · exact Same.refl s x
  exact hghost.trans (same_onSessionCloseNotify _ hne side)

/-! ## §3. A notification moves the phase. -/

theorem onSessionCloseNotify_none {s : Pool} {x : SessionId} (h : s.infoMap x = none) (side : Side) :
    onSessionCloseNotify s x side = s := by
  unfold onSessionCloseNotify
  rw [h]

/-- A repeated notification. -/
theorem onSessionCloseNotify_again {s : Pool} {x : SessionId} {st : SessionStatus} {side : Side}
    (h : s.infoMap x = some st) (hc : st.closed side = true) : onSessionCloseNotify s x side = s := by
  unfold onSessionCloseNotify
  rw [h]
  exact if_pos hc

/-- The first side to close. -/
theorem onSessionCloseNotify_first {s : Pool} {x : SessionId} {st : SessionStatus} {side : Side}
    (h : s.infoMap x = some st) (hc : st.closed side = false) (href : st.refNo = 2) :
    onSessionCloseNotify s x side =
      (match side with
      | .read => fun s => outputRemoveSession s x
      | .write => fun s => inputRemoveSession s x) { s with
        infoMap := Function.update s.infoMap x (some (st.close side))
        connectionClosed := s.connectionClosed ++ [(x, side)] } := by
  have hone : (st.close side).refNo = 1 := by
    cases side with
    | read => show st.refNo - 1 = 1; omega
    | write => show st.refNo - 1 = 1; omega
  unfold onSessionCloseNotify
  rw [h]
  simp only [hc, hone, if_true, if_false, Bool.false_eq_true]
  cases side <;> rfl

/-- The second one. -/
theorem onSessionCloseNotify_second {s : Pool} {x : SessionId} {st : SessionStatus} {side : Side}
    (h : s.infoMap x = some st) (hc : st.closed side = false) (href : st.refNo = 1) :
    onSessionCloseNotify s x side = { s with
      deleted := s.deleted ++ [x]
      infoMap := Function.update s.infoMap x none } := by
  have hzero : (st.close side).refNo = 0 := by
    cases side with
    | read => show st.refNo - 1 = 0; omega
    | write => show st.refNo - 1 = 0; omega
  unfold onSessionCloseNotify
  rw [h]
  have hne : ¬ (st.close side).refNo = 1 := by omega
  simp only [hc, Bool.false_eq_true, if_false, if_neg hne, if_pos hzero, Function.update_idem]

/-- The ghost entry of a notification is the phase's. -/
theorem noticed_notify {s : Pool} {x : SessionId} {p : Phase} (h : At s x p)
    (hu : p ≠ .unborn) (hc : p ≠ .connected) (side side' : Side) :
    (x, side') ∈ s.noticed ++ [(x, side)] ↔ (p.notify side).noticed side' = true := by
  have hone : (x, side') ∈ [(x, side)] ↔ side' = side := by simp
  rw [List.mem_append, h.noticed hc side', hone]
  cases p with
  | unborn => exact absurd rfl hu
  | connected => exact absurd rfl hc
  | «open» => cases side <;> cases side' <;> decide
  | readClosed => cases side <;> cases side' <;> decide
  | writeClosed => cases side <;> cases side' <;> decide
  | gone => cases side <;> cases side' <;> decide

/-- **A notification moves the phase** as the machine says, and repeats have no effect. -/
theorem at_notify {s : Pool} {x : SessionId} {p : Phase} (h : At s x p) (side : Side) :
    At (notify s x side) x (p.notify side) := by
  by_cases hu : p = .unborn
  · subst hu
    have hnext : ¬ x < s.next := Nat.not_lt.mpr (h.unborn.mp rfl)
    unfold notify
    rw [if_neg hnext, onSessionCloseNotify_none h.info]
    cases side <;> exact h
  have hnext : x < s.next := Nat.lt_of_not_le fun hle => hu (h.unborn.mpr hle)
  unfold notify
  rw [if_pos hnext]
  -- what the ghost list says after the step does not depend on the branch
  have hghost := fun hc => noticed_notify h hu hc side
  by_cases hc : p = .connected
  · subst hc
    rw [onSessionCloseNotify_none (s := { s with noticed := s.noticed ++ [(x, side)] }) h.info]
    cases side <;> exact { h with noticed := fun hne => absurd rfl hne }
  replace hghost := hghost hc
  have hcon : x ∉ s.connected := fun hm => hc (h.connected.mpr hm)
  have hreports := h.reports
  have hdeletes := h.deletes
  -- the session stays accepted
  have hborn : ∀ q : Phase, q ≠ .unborn → (q = .unborn ↔ s.next ≤ x) :=
    fun q hq => ⟨fun he => absurd he hq, fun he => absurd hnext (Nat.not_lt.mpr he)⟩
  have hjoined : ∀ q : Phase, q ≠ .connected → (q = .connected ↔ x ∈ s.connected) :=
    fun q hq => ⟨fun he => absurd he hq, fun he => absurd he hcon⟩
  have hsecond : p.reports = 1 → p.deletes = 0 → p.notify side = .gone →
      At { s with
        noticed := s.noticed ++ [(x, side)]
        deleted := s.deleted ++ [x]
        infoMap := Function.update s.infoMap x none } x .gone := by
    intro hone hzero hgone
    rw [hgone] at hghost
    exact {
      info := Function.update_self ..
      reports := hreports.trans hone
      deletes := by
        show (s.deleted ++ [x]).count x = 1
        simp [hdeletes.trans hzero]
      noticed := fun _ => hghost
      input := fun he => (by cases he)
      unborn := hborn _ (by decide)
      connected := hjoined _ (by decide) }
  cases p with
  | unborn => exact absurd rfl hu
  | connected => exact absurd rfl hc
  | gone =>
      rw [onSessionCloseNotify_none (s := { s with noticed := s.noticed ++ [(x, side)] }) h.info]
      cases side <;> exact { h with noticed := fun _ => hghost }
  | «open» =>
      rw [onSessionCloseNotify_first (s := { s with noticed := s.noticed ++ [(x, side)] })
        (show s.infoMap x = some {} from h.info) (by cases side <;> rfl) rfl]
      have hcount : (((s.connectionClosed ++ [(x, side)]).map Prod.fst).count x) = 1 := by
        have h0 : (s.connectionClosed.map Prod.fst).count x = 0 := hreports
        simp [h0]
      cases side with
      | read =>
          refine At.same ?_ (same_outputRemove _ x x)
          exact {
            info := Function.update_self ..
            reports := hcount
            deletes := hdeletes
            noticed := fun _ => hghost
            input := fun he => (by cases he)
            unborn := hborn _ (by decide)
            connected := hjoined _ (by decide) }
      | write =>
          exact {
            info := Function.update_self ..
            reports := hcount
            deletes := hdeletes
            noticed := fun _ => hghost
            input := fun _ => Function.update_self ..
            unborn := hborn _ (by decide)
            connected := hjoined _ (by decide) }
  | readClosed =>
      cases side with
      | read =>
          rw [onSessionCloseNotify_again (s := { s with noticed := s.noticed ++ [(x, .read)] })
            h.info rfl]
          exact { h with noticed := fun _ => hghost }
      | write =>
          rw [onSessionCloseNotify_second (s := { s with noticed := s.noticed ++ [(x, .write)] })
            h.info rfl rfl]
          exact hsecond rfl rfl rfl
  | writeClosed =>
      cases side with
      | write =>
          rw [onSessionCloseNotify_again (s := { s with noticed := s.noticed ++ [(x, .write)] })
            h.info rfl]
          exact { h with noticed := fun _ => hghost }
      | read =>
          rw [onSessionCloseNotify_second (s := { s with noticed := s.noticed ++ [(x, .read)] })
            h.info rfl rfl]
          exact hsecond rfl rfl rfl

/-! ## §4. Every session, in every run. -/

/-- Every session is in a phase. -/
def Phased (s : Pool) : Prop := ∀ x, ∃ p, At s x p

theorem phased_init (i o : Nat) : Phased (init i o) := fun x =>
  ⟨.unborn, rfl, rfl, rfl, fun _ side => ⟨fun h => absurd h List.not_mem_nil, fun h => (by cases h)⟩,
    fun h => (by cases h), ⟨fun _ => Nat.zero_le x, fun _ => rfl⟩,
    ⟨fun h => (by cases h), fun h => absurd h List.not_mem_nil⟩⟩

theorem phased_same {s s' : Pool} (h : Phased s) (hs : ∀ x, Same s s' x) : Phased s' := fun x =>
  (h x).imp fun _ hp => hp.same (hs x)

/-- A notification leaves every session in a phase. -/
theorem phased_notify {s : Pool} (h : Phased s) (y : SessionId) (side : Side) :
    Phased (notify s y side) := by
  intro x
  obtain ⟨p, hp⟩ := h x
  by_cases hxy : x = y
  · subst hxy
    exact ⟨_, at_notify hp side⟩
  · exact ⟨p, hp.same (same_notify s hxy side)⟩

/-- The number of the next session is not taken. -/
theorem at_next {s : Pool} (h : Phased s) : At s s.next .unborn := by
  obtain ⟨p, hp⟩ := h s.next
  have hu : p = .unborn := hp.unborn.mpr (Nat.le_refl _)
  subst hu
  exact hp

/-- Taking the next number leaves the older sessions alone. -/
theorem same_next (s : Pool) {x : SessionId} (hne : x ≠ s.next) :
    Same s { s with next := s.next + 1 } x := by
  refine { Same.refl s x with unborn := ?_ }
  show s.next + 1 ≤ x ↔ s.next ≤ x
  have hne' : ¬ x = s.next := hne
  constructor
  · intro h
    exact Nat.le_of_succ_le h
  · intro h
    exact Nat.lt_of_le_of_ne h (Ne.symm hne')

/-- So does a new session. -/
theorem phased_accept {s : Pool} (h : Phased s) :
    Phased (onSessionOpenNotify { s with next := s.next + 1 } s.next) := by
  intro x
  have hopen : (if s.infoMap s.next = none then
      Function.update s.infoMap s.next (some {}) else s.infoMap) =
        Function.update s.infoMap s.next (some {}) := if_pos (at_next h).info
  by_cases hx : x = s.next
  · subst hx
    have hnew := at_next h
    refine ⟨.open, At.same ?_ (same_outputHandle _ s.next s.next)⟩
    have hbase : At { s with
        next := s.next + 1
        newConnections := s.newConnections ++ [(s.next, false)]
        infoMap := Function.update s.infoMap s.next (some {}) } s.next .open := {
      info := Function.update_self ..
      reports := hnew.reports
      deletes := hnew.deletes
      noticed := fun _ side => hnew.noticed (fun he => (by cases he)) side
      input := fun he => (by cases he)
      unborn := ⟨fun he => (by cases he), fun he => absurd he (Nat.not_succ_le_self _)⟩
      connected := ⟨fun he => (by cases he), fun he => (by cases hnew.connected.mpr he)⟩ }
    unfold inputHandleSession
    simp only [hopen]
    split
    · exact hbase
    · exact { hbase with input := fun he => (by cases he) }
  · obtain ⟨p, hp⟩ := h x
    refine ⟨p, hp.same ((same_next s hx).trans ?_)⟩
    have hinfo : Same { s with next := s.next + 1 } { s with
        next := s.next + 1
        newConnections := s.newConnections ++ [(s.next, false)]
        infoMap := Function.update s.infoMap s.next (some {}) } x :=
      { Same.refl _ x with info := Function.update_of_ne hx _ _ }
    unfold onSessionOpenNotify
    simp only [hopen]
    exact hinfo.trans ((same_inputHandle _ hx).trans (same_outputHandle _ s.next x))

/-- So does a connection. -/
theorem phased_connect {s : Pool} (h : Phased s) :
    Phased (sessionConnect { s with next := s.next + 1 } s.next) := by
  intro x
  by_cases hx : x = s.next
  · subst hx
    have hnew := at_next h
    -- whatever the two pools did, these fields are as they were
    have hfields : ∀ t : Pool, (outputHandleSession (inputHandleSession t s.next) s.next).infoMap =
          t.infoMap ∧
        (outputHandleSession (inputHandleSession t s.next) s.next).connectionClosed =
          t.connectionClosed ∧
        (outputHandleSession (inputHandleSession t s.next) s.next).deleted = t.deleted ∧
        (outputHandleSession (inputHandleSession t s.next) s.next).next = t.next := by
      intro t
      unfold outputHandleSession inputHandleSession
      split <;> split <;> exact ⟨rfl, rfl, rfl, rfl⟩
    obtain ⟨hinfo, hreports, hdeleted, hnext⟩ := hfields { s with next := s.next + 1 }
    refine ⟨.connected, ?_, ?_, ?_, fun he => absurd rfl he, fun he => (by cases he), ?_, ?_⟩
    · exact (congrFun hinfo s.next).trans hnew.info
    · exact (congrArg (fun l => (l.map Prod.fst).count s.next) hreports).trans hnew.reports
    · exact (congrArg (fun l => l.count s.next) hdeleted).trans hnew.deletes
    · refine ⟨fun he => (by cases he), fun he => ?_⟩
      replace he : (outputHandleSession (inputHandleSession { s with next := s.next + 1 } s.next)
        s.next).next ≤ s.next := he
      rw [hnext] at he
      exact absurd he (Nat.not_succ_le_self _)
    · exact ⟨fun _ => List.mem_append_right _ List.mem_cons_self, fun _ => rfl⟩
  · obtain ⟨p, hp⟩ := h x
    refine ⟨p, hp.same ((same_next s hx).trans
      (((same_inputHandle _ hx).trans (same_outputHandle _ s.next x)).trans ?_))⟩
    refine { Same.refl _ x with connected := ?_ }
    show x ∈ _ ++ [s.next] ↔ _
    simp [hx]

/-- **Every step** does. -/
theorem phased_step {s s' : Pool} {a : Act} (h : Phased s) (hs : step s a = some s') :
    Phased s' := by
  cases a with
  | accept =>
      obtain rfl := Option.some.inj hs
      exact phased_accept h
  | connect =>
      obtain rfl := Option.some.inj hs
      exact phased_connect h
  | notify x side =>
      obtain rfl := Option.some.inj hs
      exact phased_notify h x side
  | remove x =>
      obtain rfl := Option.some.inj hs
      exact phased_same h fun y => same_outputRemove s x y
  | write x =>
      obtain rfl := Option.some.inj hs
      exact phased_same h fun y => same_handleOutputStream s x y
  | letGo t x =>
      replace hs : (if x ∈ (s.threads t).removeSet then _ else none) = some s' := hs
      split at hs
      · split at hs
        · obtain rfl := Option.some.inj hs
          exact phased_notify (phased_same h fun y => same_setThread s t _ y) x .write
        · obtain rfl := Option.some.inj hs
          exact phased_same h fun y => same_setThread s t _ y
      · cases hs
  | takeIn t =>
      obtain rfl := Option.some.inj hs
      exact phased_same h fun y => same_setThread s t _ y
  | writeError t x =>
      replace hs : (if x ∈ (s.threads t).active then _ else none) = some s' := hs
      split at hs
      · obtain rfl := Option.some.inj hs
        exact phased_notify (phased_same h fun y => same_setThread s t _ y) x .write
      · cases hs

/-- **Every session is in a phase** of the machine in every state that any run reaches. -/
theorem reachable_phase {s : Pool} (h : system.Reachable s) : Phased s := by
  refine TransSys.ReachableWhen.invariant h ?_ ?_
  · intro s hs
    obtain ⟨i, o, rfl⟩ := hs
    exact phased_init i o
  · intro s a s' hp _ hst
    exact phased_step hp hst

/-! ## §5. The containers. -/

theorem mem_insertSession {x y : SessionId} {l : List SessionId} (h : x ∈ insertSession y l) :
    x ∈ l ∨ x = y := by
  unfold insertSession at h
  split at h
  · exact Or.inl h
  · exact (List.mem_append.mp h).imp id List.mem_singleton.mp

theorem mem_takeIn {x : SessionId} (new : List SessionId) {l : List SessionId}
    (h : x ∈ new.foldl (fun l y => insertSession y l) l) : x ∈ l ∨ x ∈ new := by
  induction new generalizing l with
  | nil => exact Or.inl h
  | cons y new ih =>
      obtain h | h := ih h
      · obtain h | h := mem_insertSession h
        · exact Or.inl h
        · exact Or.inr (h ▸ List.mem_cons_self)
      · exact Or.inr (List.mem_cons_of_mem _ h)

/-- The sets of an output thread that refer to a session. -/
def OutputThread.Has (thread : OutputThread) (x : SessionId) : Prop :=
  x ∈ thread.addSet ∨ x ∈ thread.writeSet ∨ x ∈ thread.removeSet ∨ x ∈ thread.active

/-- A thread that lets sessions go refers to no other. -/
theorem OutputThread.Has.of_subset {thread : OutputThread} {removeSet active : List SessionId}
    {x : SessionId} (hremove : removeSet ⊆ thread.removeSet) (hactive : active ⊆ thread.active)
    (h : OutputThread.Has { thread with removeSet, active } x) : thread.Has x :=
  h.imp id (Or.imp id (Or.imp (@hremove x) (@hactive x)))

/-- Taking the added sessions in brings no other. -/
theorem OutputThread.Has.of_takeIn {thread : OutputThread} {x : SessionId}
    (h : OutputThread.Has { thread with
      addSet := []
      active := thread.addSet.foldl (fun l y => insertSession y l) thread.active } x) :
    thread.Has x := by
  obtain h | h | h | h := h
  · cases h
  · exact Or.inr (Or.inl h)
  · exact Or.inr (Or.inr (Or.inl h))
  · obtain h | h := mem_takeIn _ h
    · exact Or.inr (Or.inr (Or.inr h))
    · exact Or.inl h

/-- Changing a thread's sets does not bring in a session that the pool did not hold. -/
theorem outputHeld_setThread {s : Pool} {t : Nat} {thread : OutputThread} {x : SessionId}
    (hsub : thread.Has x → (s.threads t).Has x ∨ (s.outputMap x).isSome)
    (h : OutputHeld (s.setThread t thread) x) : OutputHeld s x := by
  obtain h | ⟨t', hlt, h⟩ := h
  · exact Or.inl h
  · replace h : (Function.update s.threads t thread t').Has x := h
    by_cases ht : t' = t
    · subst ht
      rw [Function.update_self] at h
      obtain h | h := hsub h
      · exact Or.inr ⟨t', hlt, h⟩
      · exact Or.inl h
    · rw [Function.update_of_ne ht] at h
      exact Or.inr ⟨t', hlt, h⟩

/-- Nor does any container of the pool. -/
theorem held_setThread {s : Pool} {t : Nat} {thread : OutputThread} {x : SessionId}
    (hsub : thread.Has x → (s.threads t).Has x ∨ (s.outputMap x).isSome)
    (h : Held (s.setThread t thread) x) : Held s x :=
  h.imp id fun h => h.imp id (outputHeld_setThread hsub)

/-- Taking an entry out of the output map. -/
theorem held_outputErase {s : Pool} {x y : SessionId}
    (h : Held { s with outputMap := Function.update s.outputMap y none } x) : Held s x := by
  obtain h | h | h | h := h
  · exact Or.inl h
  · exact Or.inr (Or.inl h)
  · exact Or.inr (Or.inr (Or.inl (Lookup.isSome_of_update_none h)))
  · exact Or.inr (Or.inr (Or.inr h))

/-- Removing a session brings none in. -/
theorem held_outputRemove {s : Pool} {x y : SessionId} (h : Held (outputRemoveSession s y) x) :
    Held s x := by
  unfold outputRemoveSession at h
  split at h
  · rename_i t ht
    refine held_setThread ?_ (held_outputErase h)
    intro hm
    obtain hm | hm | hm | hm := hm
    · exact Or.inl (Or.inl hm)
    · exact Or.inl (Or.inr (Or.inl hm))
    · obtain hm | rfl := mem_insertSession hm
      · exact Or.inl (Or.inr (Or.inr (Or.inl hm)))
      · exact Or.inr (by rw [ht]; rfl)
    · exact Or.inl (Or.inr (Or.inr (Or.inr hm)))
  · exact h

theorem held_handleOutputStream {s : Pool} {x y : SessionId}
    (h : Held (handleOutputStream s y) x) : Held s x := by
  unfold handleOutputStream at h
  split at h
  · rename_i t ht
    refine held_setThread ?_ h
    intro hm
    obtain hm | hm | hm | hm := hm
    · exact Or.inl (Or.inl hm)
    · obtain hm | rfl := mem_insertSession hm
      · exact Or.inl (Or.inr (Or.inl hm))
      · exact Or.inr (by rw [ht]; rfl)
    · exact Or.inl (Or.inr (Or.inr (Or.inl hm)))
    · exact Or.inl (Or.inr (Or.inr (Or.inr hm)))
  · exact h

theorem held_inputRemove {s : Pool} {x y : SessionId} (h : Held (inputRemoveSession s y) x) :
    Held s x := by
  obtain h | h | h := h
  · exact Or.inl h
  · exact Or.inr (Or.inl (Lookup.isSome_of_update_none h))
  · exact Or.inr (Or.inr h)

/-- An entry of the info map changes, or goes, only where there was one. -/
theorem held_info {s : Pool} {x y : SessionId} {o : Option SessionStatus}
    (hy : (s.infoMap y).isSome) (h : Held { s with infoMap := Function.update s.infoMap y o } x) :
    Held s x := by
  obtain h | h := h
  · replace h : (Function.update s.infoMap y o x).isSome := h
    by_cases hxy : x = y
    · exact Or.inl (hxy ▸ hy)
    · rw [Function.update_of_ne hxy] at h
      exact Or.inl h
  · exact Or.inr h

/-- A close notification brings no session into a container. -/
theorem held_onSessionCloseNotify {s : Pool} {x y : SessionId} {side : Side}
    (h : Held (onSessionCloseNotify s y side) x) : Held s x := by
  unfold onSessionCloseNotify at h
  split at h
  · exact h
  · rename_i st hst
    have hy : (s.infoMap y).isSome := by rw [hst]; rfl
    split at h
    · exact h
    · simp only at h
      split at h
      · cases side with
        | read =>
            have hold := held_outputRemove h
            exact held_info (o := some (st.close .read)) hy hold
        | write =>
            have hold := held_inputRemove h
            exact held_info (o := some (st.close .write)) hy hold
      · split at h
        · rw [Function.update_idem] at h
          exact held_info (o := none) hy h
        · exact held_info (o := some (st.close side)) hy h

/-- A notification brings none in. -/
theorem held_notify {s : Pool} {x y : SessionId} {side : Side} (h : Held (notify s y side) x) :
    Held s x := by
  unfold notify at h
  split at h
  · have hold := held_onSessionCloseNotify h
    exact hold
  · exact held_onSessionCloseNotify h

/-- The two pools take in one session. -/
theorem held_outputHandle {s : Pool} {x y : SessionId} (hne : x ≠ y)
    (h : Held (outputHandleSession s y) x) : Held s x := by
  unfold outputHandleSession at h
  split at h
  · exact h
  · simp only at h
    have hmap : ∀ t, Held { s.setThread (s.outputIndex % s.outputThreads)
        { s.threads (s.outputIndex % s.outputThreads) with
          addSet := insertSession y (s.threads (s.outputIndex % s.outputThreads)).addSet } with
        outputMap := Function.update s.outputMap y (some t)
        outputIndex := s.outputIndex + 1 } x →
      Held (s.setThread (s.outputIndex % s.outputThreads)
        { s.threads (s.outputIndex % s.outputThreads) with
          addSet := insertSession y (s.threads (s.outputIndex % s.outputThreads)).addSet }) x := by
      intro t h
      obtain h | h | h | h := h
      · exact Or.inl h
      · exact Or.inr (Or.inl h)
      · replace h : (Function.update s.outputMap y (some t) x).isSome := h
        rw [Function.update_of_ne hne] at h
        exact Or.inr (Or.inr (Or.inl h))
      · exact Or.inr (Or.inr (Or.inr h))
    refine held_setThread ?_ (hmap _ h)
    intro hm
    obtain hm | hm | hm | hm := hm
    · obtain hm | hm := mem_insertSession hm
      · exact Or.inl (Or.inl hm)
      · exact absurd hm hne
    · exact Or.inl (Or.inr (Or.inl hm))
    · exact Or.inl (Or.inr (Or.inr (Or.inl hm)))
    · exact Or.inl (Or.inr (Or.inr (Or.inr hm)))

theorem held_inputHandle {s : Pool} {x y : SessionId} (hne : x ≠ y)
    (h : Held (inputHandleSession s y) x) : Held s x := by
  unfold inputHandleSession at h
  split at h
  · exact h
  · obtain h | h | h := h
    · exact Or.inl h
    · replace h : (Function.update s.inputMap y _ x).isSome := h
      rw [Function.update_of_ne hne] at h
      exact Or.inr (Or.inl h)
    · exact Or.inr (Or.inr h)

/-- **Only a new session enters a container.** -/
theorem held_step {s s' : Pool} {a : Act} {x : SessionId} (hx : x < s.next)
    (hs : step s a = some s') (h : Held s' x) : Held s x := by
  have hne : x ≠ s.next := Nat.ne_of_lt hx
  cases a with
  | accept =>
      obtain rfl := Option.some.inj hs
      have h := held_inputHandle hne (held_outputHandle hne h)
      obtain h | h := h
      · replace h : ((if s.infoMap s.next = none then
          Function.update s.infoMap s.next (some {}) else s.infoMap) x).isSome := h
        split at h
        · rw [Function.update_of_ne hne] at h
          exact Or.inl h
        · exact Or.inl h
      · exact Or.inr h
  | connect =>
      obtain rfl := Option.some.inj hs
      exact held_inputHandle (s := { s with next := s.next + 1 }) hne (held_outputHandle hne h)
  | notify y side =>
      obtain rfl := Option.some.inj hs
      exact held_notify h
  | remove y =>
      obtain rfl := Option.some.inj hs
      exact held_outputRemove h
  | write y =>
      obtain rfl := Option.some.inj hs
      exact held_handleOutputStream h
  | letGo t y =>
      replace hs : (if y ∈ (s.threads t).removeSet then _ else none) = some s' := hs
      split at hs
      · split at hs
        · obtain rfl := Option.some.inj hs
          refine held_setThread (fun hm => Or.inl ?_) (held_notify h)
          exact hm.of_subset (List.filter_subset_self _) (List.filter_subset_self _)
        · obtain rfl := Option.some.inj hs
          refine held_setThread (fun hm => Or.inl ?_) h
          exact hm.of_subset (List.filter_subset_self _) (List.Subset.refl _)
      · cases hs
  | takeIn t =>
      obtain rfl := Option.some.inj hs
      exact held_setThread (fun hm => Or.inl hm.of_takeIn) h
  | writeError t y =>
      replace hs : (if y ∈ (s.threads t).active then _ else none) = some s' := hs
      split at hs
      · obtain rfl := Option.some.inj hs
        refine held_setThread (fun hm => Or.inl ?_) (held_notify h)
        exact hm.of_subset (List.Subset.refl _) (List.filter_subset_self _)
      · cases hs

/-! ## §6. The whole claim. -/

/-- A session is torn down exactly once. -/
structure TornDown (s : Pool) (x : SessionId) : Prop where
  /-- `connectionClosed` is reported once, when a side closes. -/
  reported : (s.connectionClosed.map Prod.fst).count x =
    if (x, .read) ∈ s.noticed ∨ (x, .write) ∈ s.noticed then 1 else 0
  /-- The session is deleted once, when both sides have closed. -/
  deleted : s.deleted.count x =
    if (x, .read) ∈ s.noticed ∧ (x, .write) ∈ s.noticed then 1 else 0
  /-- After that no container refers to it. -/
  unreferenced : x ∈ s.deleted → ¬ Held s x

/-- The condition on a close notification: the session was accepted, and when the notification is
    the second one, the output pool has let the session go and the input pool has no entry of it.
    Only a write side that closes first takes the entry out. -/
def Orderly (s : Pool) (x : SessionId) (side : Side) : Prop :=
  x ∉ s.connected ∧
    match s.infoMap x with
    | some st =>
        match side with
        | .write => st.closedRead = true → s.inputMap x = none ∧ ¬ OutputHeld s x
        | .read => st.closedWrite = true → ¬ OutputHeld s x
    | none => True

instance (s : Pool) (x : SessionId) (side : Side) : Decidable (Orderly s x side) := by
  unfold Orderly
  split
  · split <;> infer_instance
  · infer_instance

/-- The condition on a step: its close notification, if it makes one, is orderly. -/
def OrderlyStep (s : Pool) : Act → Prop
  | .notify x side => Orderly s x side
  | .letGo t x =>
      x ∈ (s.threads t).active → Orderly (s.setThread t { s.threads t with
        removeSet := (s.threads t).removeSet.filter (· ≠ x)
        active := (s.threads t).active.filter (· ≠ x) }) x .write
  | .writeError t x =>
      Orderly (s.setThread t { s.threads t with
        active := (s.threads t).active.filter (· ≠ x) }) x .write
  | _ => True

instance (s : Pool) (a : Act) : Decidable (OrderlyStep s a) := by
  unfold OrderlyStep
  split <;> infer_instance

/-- What orderly runs keep. -/
structure Clean (s : Pool) : Prop where
  phased : Phased s
  unreferenced : ∀ x, x ∈ s.deleted → ¬ Held s x
  quiet : ∀ x, x ∈ s.connected → ∀ side, (x, side) ∉ s.noticed

/-- What a close notification does to the lists. -/
theorem notify_lists (s : Pool) (x : SessionId) (side : Side) :
    (notify s x side).connected = s.connected ∧
      (∀ p, p ∈ (notify s x side).noticed → p ∈ s.noticed ∨ p.1 = x) ∧
      (∀ y, y ∈ (notify s x side).deleted → y ∈ s.deleted ∨ y = x) := by
  have hclose : ∀ s : Pool, (onSessionCloseNotify s x side).connected = s.connected ∧
      (onSessionCloseNotify s x side).noticed = s.noticed ∧
      ∀ y, y ∈ (onSessionCloseNotify s x side).deleted → y ∈ s.deleted ∨ y = x := by
    intro s
    unfold onSessionCloseNotify outputRemoveSession inputRemoveSession
    split
    · exact ⟨rfl, rfl, fun y hy => Or.inl hy⟩
    · split
      · exact ⟨rfl, rfl, fun y hy => Or.inl hy⟩
      · simp only
        split
        · cases side with
          | read =>
              simp only
              split
              · exact ⟨rfl, rfl, fun y hy => Or.inl hy⟩
              · exact ⟨rfl, rfl, fun y hy => Or.inl hy⟩
          | write => exact ⟨rfl, rfl, fun y hy => Or.inl hy⟩
        · split
          · refine ⟨rfl, rfl, fun y hy => ?_⟩
            exact (List.mem_append.mp hy).imp id List.mem_singleton.mp
          · exact ⟨rfl, rfl, fun y hy => Or.inl hy⟩
  unfold notify
  split
  · obtain ⟨hcon, hnot, hdel⟩ := hclose { s with noticed := s.noticed ++ [(x, side)] }
    refine ⟨hcon, fun p hp => ?_, hdel⟩
    rw [hnot] at hp
    exact (List.mem_append.mp hp).imp id fun h => by rw [List.mem_singleton.mp h]
  · obtain ⟨hcon, hnot, hdel⟩ := hclose s
    exact ⟨hcon, fun p hp => Or.inl (hnot ▸ hp), hdel⟩

/-- A deleted session is older than the next one. -/
theorem lt_next_of_deleted {s : Pool} (h : Phased s) {x : SessionId} (hx : x ∈ s.deleted) :
    x < s.next := by
  obtain ⟨p, hp⟩ := h x
  refine Nat.lt_of_not_le fun hle => ?_
  have hu := hp.unborn.mpr hle
  subst hu
  have h0 : s.deleted.count x = 0 := hp.deletes
  exact absurd hx (List.count_eq_zero.mp h0)

/-- The notification that deletes a session finds it in no other container. -/
theorem unreferenced_notify {s : Pool} (h : Clean s) {x : SessionId} {side : Side}
    (ho : Orderly s x side) (hd : x ∈ (notify s x side).deleted) : ¬ Held (notify s x side) x := by
  by_cases hold : x ∈ s.deleted
  · exact fun hh => h.unreferenced x hold (held_notify hh)
  obtain ⟨p, hp⟩ := h.phased x
  have hnew := at_notify hp side
  have hgone : p.notify side = .gone := by
    have hcount : (p.notify side).deletes ≠ 0 := by
      rw [← hnew.deletes]
      exact Nat.ne_of_gt (List.count_pos_iff.mpr hd)
    cases hq : p.notify side <;> rw [hq] at hcount <;> first | rfl | exact absurd rfl hcount
  have hcount0 : s.deleted.count x = 0 := List.count_eq_zero.mpr hold
  have hpd := hp.deletes
  rw [hcount0] at hpd
  -- the phase before was half closed
  have hhalf : p = .writeClosed ∧ side = .read ∨ p = .readClosed ∧ side = .write := by
    cases p with
    | unborn => cases side <;> cases hgone
    | connected => cases side <;> cases hgone
    | «open» => cases side <;> cases hgone
    | gone => cases hpd
    | readClosed =>
        cases side with
        | read => cases hgone
        | write => exact Or.inr ⟨rfl, rfl⟩
    | writeClosed =>
        cases side with
        | read => exact Or.inl ⟨rfl, rfl⟩
        | write => cases hgone
  have hfree : s.inputMap x = none ∧ ¬ OutputHeld s x := by
    have hsecond := ho.2
    rw [hp.info] at hsecond
    obtain ⟨rfl, rfl⟩ | ⟨rfl, rfl⟩ := hhalf
    · exact ⟨hp.input rfl, hsecond rfl⟩
    · exact hsecond rfl
  have hnext : x < s.next := by
    refine Nat.lt_of_not_le fun hle => ?_
    have hu := hp.unborn.mpr hle
    obtain ⟨rfl, rfl⟩ | ⟨rfl, rfl⟩ := hhalf <;> cases hu
  have hsecond : notify s x side = { s with
      noticed := s.noticed ++ [(x, side)]
      deleted := s.deleted ++ [x]
      infoMap := Function.update s.infoMap x none } := by
    unfold notify
    rw [if_pos hnext]
    obtain ⟨rfl, rfl⟩ | ⟨rfl, rfl⟩ := hhalf
    · exact onSessionCloseNotify_second (s := { s with noticed := s.noticed ++ [(x, .read)] })
        hp.info rfl rfl
    · exact onSessionCloseNotify_second (s := { s with noticed := s.noticed ++ [(x, .write)] })
        hp.info rfl rfl
  intro hh
  rw [hsecond] at hh
  obtain hh | hh | hh := hh
  · replace hh : (Function.update s.infoMap x none x).isSome := hh
    rw [Function.update_self] at hh
    cases hh
  · replace hh : (s.inputMap x).isSome := hh
    rw [hfree.1] at hh
    cases hh
  · exact hfree.2 hh

/-- An orderly notification is clean. -/
theorem clean_notify {s : Pool} (h : Clean s) {x : SessionId} {side : Side}
    (ho : Orderly s x side) : Clean (notify s x side) where
  phased := phased_notify h.phased x side
  unreferenced y hy := by
    by_cases hyx : y = x
    · subst hyx
      exact unreferenced_notify h ho hy
    · have hold := ((notify_lists s x side).2.2 y hy).resolve_right hyx
      exact fun hh => h.unreferenced y hold (held_notify hh)
  quiet y hy side' hm := by
    rw [(notify_lists s x side).1] at hy
    obtain hold | heq := (notify_lists s x side).2.1 _ hm
    · exact h.quiet y hy side' hold
    · replace heq : y = x := heq
      exact ho.1 (heq ▸ hy)

/-- A step without a notification. -/
theorem clean_quiet {s s' : Pool} {a : Act} (h : Clean s) (hs : step s a = some s')
    (hdel : s'.deleted = s.deleted) (hnot : s'.noticed = s.noticed)
    (hcon : ∀ x, x ∈ s'.connected → x ∈ s.connected ∨ x = s.next) : Clean s' where
  phased := phased_step h.phased hs
  unreferenced x hx hh := by
    rw [hdel] at hx
    exact h.unreferenced x hx (held_step (lt_next_of_deleted h.phased hx) hs hh)
  quiet x hx side hm := by
    rw [hnot] at hm
    obtain hx | rfl := hcon x hx
    · exact h.quiet x hx side hm
    · have := (at_next h.phased).noticed (fun he => (by cases he)) side
      cases this.mp hm

/-- Letting sessions go is clean. -/
theorem clean_setThread {s : Pool} (h : Clean s) {t : Nat} {thread : OutputThread}
    (hsub : ∀ x, thread.Has x → (s.threads t).Has x) : Clean (s.setThread t thread) where
  phased := phased_same h.phased fun x => same_setThread s t thread x
  unreferenced x hx hh := h.unreferenced x hx (held_setThread (fun hm => Or.inl (hsub x hm)) hh)
  quiet := h.quiet

/-- **An orderly step** is clean. -/
theorem clean_step {s s' : Pool} {a : Act} (h : Clean s) (ho : OrderlyStep s a)
    (hs : step s a = some s') : Clean s' := by
  have hhandle : ∀ (t : Pool) (y : SessionId),
      (outputHandleSession (inputHandleSession t y) y).deleted = t.deleted ∧
      (outputHandleSession (inputHandleSession t y) y).noticed = t.noticed ∧
      (outputHandleSession (inputHandleSession t y) y).connected = t.connected := by
    intro t y
    unfold outputHandleSession inputHandleSession
    split <;> split <;> exact ⟨rfl, rfl, rfl⟩
  cases a with
  | accept =>
      have hs' := hs
      obtain rfl := Option.some.inj hs'
      obtain ⟨hdel, hnot, hcon⟩ := hhandle _ s.next
      exact clean_quiet h hs hdel hnot fun x hx => Or.inl (hcon ▸ hx)
  | connect =>
      have hs' := hs
      obtain rfl := Option.some.inj hs'
      obtain ⟨hdel, hnot, hcon⟩ := hhandle { s with next := s.next + 1 } s.next
      refine clean_quiet h hs hdel hnot fun x hx => ?_
      obtain hx | hx := List.mem_append.mp hx
      · exact Or.inl (hcon ▸ hx)
      · exact Or.inr (List.mem_singleton.mp hx)
  | notify x side =>
      obtain rfl := Option.some.inj hs
      exact clean_notify h ho
  | remove x =>
      have hs' := hs
      obtain rfl := Option.some.inj hs'
      have hfields : (outputRemoveSession s x).deleted = s.deleted ∧
          (outputRemoveSession s x).noticed = s.noticed ∧
          (outputRemoveSession s x).connected = s.connected := by
        unfold outputRemoveSession
        split <;> exact ⟨rfl, rfl, rfl⟩
      exact clean_quiet h hs hfields.1 hfields.2.1 fun y hy => Or.inl (hfields.2.2 ▸ hy)
  | write x =>
      have hs' := hs
      obtain rfl := Option.some.inj hs'
      have hfields : (handleOutputStream s x).deleted = s.deleted ∧
          (handleOutputStream s x).noticed = s.noticed ∧
          (handleOutputStream s x).connected = s.connected := by
        unfold handleOutputStream
        split <;> exact ⟨rfl, rfl, rfl⟩
      exact clean_quiet h hs hfields.1 hfields.2.1 fun y hy => Or.inl (hfields.2.2 ▸ hy)
  | letGo t x =>
      replace hs : (if x ∈ (s.threads t).removeSet then _ else none) = some s' := hs
      split at hs
      · split at hs
        · rename_i hactive
          obtain rfl := Option.some.inj hs
          have hclean : Clean (s.setThread t { s.threads t with
              removeSet := (s.threads t).removeSet.filter (· ≠ x)
              active := (s.threads t).active.filter (· ≠ x) }) :=
            clean_setThread h fun y hm =>
              hm.of_subset (List.filter_subset_self _) (List.filter_subset_self _)
          exact clean_notify hclean (ho hactive)
        · obtain rfl := Option.some.inj hs
          exact clean_setThread h fun y hm =>
            hm.of_subset (List.filter_subset_self _) (List.Subset.refl _)
      · cases hs
  | takeIn t =>
      obtain rfl := Option.some.inj hs
      exact clean_setThread h fun y hm => hm.of_takeIn
  | writeError t x =>
      replace hs : (if x ∈ (s.threads t).active then _ else none) = some s' := hs
      split at hs
      · obtain rfl := Option.some.inj hs
        have hclean : Clean (s.setThread t { s.threads t with
            active := (s.threads t).active.filter (· ≠ x) }) :=
          clean_setThread h fun y hm =>
            hm.of_subset (List.Subset.refl _) (List.filter_subset_self _)
        exact clean_notify hclean ho
      · cases hs

/-- What the phases say of the reports and deletions. -/
theorem Clean.tornDown {s : Pool} (h : Clean s) (x : SessionId) : TornDown s x := by
  obtain ⟨p, hp⟩ := h.phased x
  have hside : ∀ side, (x, side) ∈ s.noticed ↔ p.noticed side = true := by
    intro side
    by_cases hc : p = .connected
    · subst hc
      refine ⟨fun hm => absurd hm (h.quiet x (hp.connected.mp rfl) side), fun hn => ?_⟩
      cases side <;> cases hn
    · exact hp.noticed hc side
  refine ⟨?_, ?_, h.unreferenced x⟩
  · rw [hp.reports]
    simp only [hside]
    cases p <;> rfl
  · rw [hp.deletes]
    simp only [hside]
    cases p <;> rfl

/-- **Sessions are torn down exactly once** in runs whose second close notifications come when both
    pools have let the session go. -/
theorem reachable_tornDown {s : Pool} (h : system.ReachableWhen OrderlyStep s) (x : SessionId) :
    TornDown s x := by
  refine Clean.tornDown (TransSys.ReachableWhen.invariant (I := Clean) h ?_ ?_) x
  · intro s hs
    obtain ⟨i, o, rfl⟩ := hs
    exact ⟨phased_init i o, fun x hx => absurd hx List.not_mem_nil,
      fun x hx => absurd hx List.not_mem_nil⟩
  · intro s a s' hc ho hst
    exact clean_step hc ho hst

/-- The application gives a session up, and its read side closes afterwards. -/
def givenUp : List Act := [.accept, .takeIn 0, .remove 0, .letGo 0 0, .notify 0 .read]

/-- A run in which a session is given up. -/
theorem reachable_tornDown_givenUp :
    ∃ s, system.run (init 1 1) givenUp = some s ∧ s.deleted = [0] ∧ TornDown s 0 := by
  obtain ⟨s, hs⟩ : ∃ s, system.run (init 1 1) givenUp = some s := ⟨_, rfl⟩
  refine ⟨s, hs, ?_, ?_⟩
  · obtain rfl := Option.some.inj hs
    rfl
  · exact reachable_tornDown (TransSys.reachableWhen_of_run ⟨1, 1, rfl⟩ (by decide) hs) 0

/-- **Deleted, and still held.**  The client hangs up, the output pool follows: the input pool's map
    keeps the session. -/
theorem deleted_still_held :
    ¬ ∀ s : Pool, system.Reachable s → ∀ x, TornDown s x := by
  intro h
  obtain ⟨s, hs⟩ : ∃ s, system.run (init 1 1)
      [.accept, .takeIn 0, .notify 0 .read, .letGo 0 0] = some s := ⟨_, rfl⟩
  have hr : system.Reachable s := TransSys.reachable_of_run ⟨1, 1, rfl⟩ hs
  obtain rfl := Option.some.inj hs
  exact (h _ hr 0).unreferenced List.mem_cons_self (Or.inr (Or.inl rfl))

end Steppingstone.SessionPool
