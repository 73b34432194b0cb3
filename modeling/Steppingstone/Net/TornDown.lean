/-
  Steppingstone.Net.TornDown — which sessions of netcore are deleted.

  The pool itself never uses a session that it has deleted, and deletes none twice.  But the reader
  that has told of the end may still be in `handle_input` when the pass of the output thread
  deletes its session.  And the pool can lose a session: a close that comes before the output thread
  has taken the session in, and a failed write between the close and the next pass, leave one that
  no pass will ever find.
-/
import Steppingstone.Net.SessionPool

namespace Steppingstone.Net.Sessions

variable {s s' : State} {a b : Address} {t : Nat} {act : Act}

/-! ## §1. Lost sessions. -/

namespace State

/-- The reader has ended, and the session is still there. -/
def Closed (s : State) (a : Address) : Prop := s.alive a = true ∧ s.reading a = false

/-- The next pass of the thread finds the session. -/
def OnItsWay (s : State) (a : Address) : Prop :=
  ∃ t, a ∈ (s.threads t).removeCellSessionSet ∧ a ∈ (s.threads t).cellSessionSet

/-- Closed, and no longer known where it must be known to be deleted. -/
def Lost (s : State) (a : Address) : Prop := s.Closed a ∧ ¬ s.OnItsWay a

end State

/-- The step loses the session. -/
def Loses (s : State) : Act → Address → Prop
  | .readClosed a, b => b = a ∧ ¬ ∃ t, s.outputMap a = some t ∧ a ∈ (s.threads t).cellSessionSet
  | .write _ a failed, b => b = a ∧ failed = true ∧ s.reading a = false
  | _, _ => False

/-- A thread and the others. -/
theorem onItsWay_iff (t : Nat) : s.OnItsWay b ↔
    b ∈ (s.threads t).removeCellSessionSet ∧ b ∈ (s.threads t).cellSessionSet ∨
      ∃ t', t' ≠ t ∧ b ∈ (s.threads t').removeCellSessionSet ∧
        b ∈ (s.threads t').cellSessionSet := by
  constructor
  · rintro ⟨t', h⟩
    by_cases heq : t' = t
    · exact .inl (heq ▸ h)
    · exact .inr ⟨t', heq, h⟩
  · rintro (h | ⟨t', -, h⟩)
    · exact ⟨t, h⟩
    · exact ⟨t', h⟩

/-- Which sessions are on their way after a thread was changed. -/
theorem onItsWay_setThread (thread : OutputThread) : (s.setThread t thread).OnItsWay b ↔
    b ∈ thread.removeCellSessionSet ∧ b ∈ thread.cellSessionSet ∨
      ∃ t', t' ≠ t ∧ b ∈ (s.threads t').removeCellSessionSet ∧
        b ∈ (s.threads t').cellSessionSet := by
  rw [onItsWay_iff t, threads_setThread, if_pos rfl]
  refine or_congr_right (exists_congr fun t' => and_congr_right fun hne => ?_)
  rw [threads_setThread, if_neg hne]

/-- A thread that still has the session, or still has not. -/
theorem onItsWay_setThread_of {thread : OutputThread}
    (hsame : b ∈ thread.removeCellSessionSet ∧ b ∈ thread.cellSessionSet ↔
      b ∈ (s.threads t).removeCellSessionSet ∧ b ∈ (s.threads t).cellSessionSet) :
    (s.setThread t thread).OnItsWay b ↔ s.OnItsWay b := by
  rw [onItsWay_setThread, onItsWay_iff t, hsame]

/-- A change of a thread that keeps a session's way loses none. -/
theorem lost_setThread_of {thread : OutputThread}
    (hsame : b ∈ thread.removeCellSessionSet ∧ b ∈ thread.cellSessionSet ↔
      b ∈ (s.threads t).removeCellSessionSet ∧ b ∈ (s.threads t).cellSessionSet) :
    (s.setThread t thread).Lost b ↔ s.Lost b :=
  and_congr_right fun _ => not_congr (onItsWay_setThread_of hsame)

/-- A session that is read is not on its way out. -/
theorem Shape.not_onItsWay_of_reading (h : Shape s) (ha : s.reading a = true) :
    ¬ s.OnItsWay a := by
  rintro ⟨t, hremove, -⟩
  have hclosed := (h.removing t a hremove).1
  rw [ha] at hclosed
  cases hclosed

/-! ## §2. What the steps do to them. -/

theorem lost_newSession (ha : s.alive a = false) :
    ((s.newSession a).inputHandleSession a).Lost b ↔ s.Lost b := by
  show (_ ∧ _) ∧ ¬ s.OnItsWay b ↔ (_ ∧ _) ∧ ¬ s.OnItsWay b
  refine and_congr_left fun _ => ?_
  show Function.update s.alive a true b = true ∧ Function.update s.reading a true b = false ↔ _
  by_cases hb : b = a
  · subst hb
    simp [ha]
  · rw [Function.update_of_ne hb, Function.update_of_ne hb]

/-- Giving a session to a thread loses none. -/
theorem lost_outputHandleSession : (s.outputHandleSession a).Lost b ↔ s.Lost b := by
  unfold State.outputHandleSession
  split
  · rfl
  · show (s.setThread _ { s.threads _ with addCellSessionSet := _ }).Lost b ↔ _
    exact lost_setThread_of Iff.rfl

/-- The thread that learns of a close finds the session if it has it. -/
theorem Shape.onItsWay_remove (h : Shape s) (hmap : s.outputMap a = some t) :
    (s.setThread t { s.threads t with
      removeCellSessionSet := (s.threads t).removeCellSessionSet.insert a }).OnItsWay a ↔
        a ∈ (s.threads t).cellSessionSet := by
  rw [onItsWay_setThread]
  constructor
  · rintro (⟨-, hcell⟩ | ⟨t', hne, hremove, -⟩)
    · exact hcell
    · exact absurd (h.home t' t a (.inr (.inr (.inl hremove))) (.inl hmap)) hne
  · intro hcell
    exact .inl ⟨List.mem_insert_self, hcell⟩

/-- A close loses the session when no thread has it. -/
theorem lost_readClosed (h : Shape s) (ha : s.reading a = true) :
    (s.readClosed a).Lost b ↔ s.Lost b ∨ Loses s (.readClosed a) b := by
  have halive := h.reading a ha
  have hnot := h.not_onItsWay_of_reading ha
  rw [h.readClosed_eq ha]
  unfold State.outputRemoveSession
  dsimp only
  cases hmap : s.outputMap a with
  | none =>
      show (s.alive b = true ∧ Function.update s.reading a false b = false) ∧ ¬ s.OnItsWay b ↔ _
      by_cases hb : b = a
      · subst hb
        simp [State.Lost, State.Closed, Loses, halive, hmap, hnot]
      · rw [Function.update_of_ne hb]
        simp [State.Lost, State.Closed, Loses, hb]
  | some t =>
      show (s.alive b = true ∧ Function.update s.reading a false b = false) ∧
        ¬ (s.setThread t _).OnItsWay b ↔ _
      by_cases hb : b = a
      · subst hb
        rw [h.onItsWay_remove hmap]
        simp [State.Lost, State.Closed, Loses, halive, hmap, ha]
      · rw [Function.update_of_ne hb, onItsWay_setThread_of (by simp [hb])]
        simp [State.Lost, State.Closed, Loses, hb]

theorem lost_handleClose (p : Address × Nat) : (s.handleClose p).Lost b ↔ s.Lost b := by
  unfold State.handleClose State.use
  split <;> rfl

/-- Letting a session go loses none. -/
theorem lost_letGo (h : Shape s) (ha : a ∈ (s.threads t).removeCellSessionSet) :
    (s.letGo t a).Lost b ↔ s.Lost b := by
  by_cases hcell : a ∈ (s.threads t).cellSessionSet
  · rw [h.letGo_eq ha hcell]
    show (Function.update s.alive a false b = true ∧ s.reading b = false) ∧
      ¬ (s.setThread t _).OnItsWay b ↔ _
    by_cases hb : b = a
    · subst hb
      have hway : s.OnItsWay b := ⟨t, ha, hcell⟩
      simp [State.Lost, hway]
    · rw [Function.update_of_ne hb, onItsWay_setThread_of (by simp [hb])]
      rfl
  · rw [letGo_of_not_mem hcell]
    by_cases hb : b = a
    · subst hb
      exact lost_setThread_of (by simp [hcell])
    · exact lost_setThread_of (by simp [hb])

/-- Taking the added ones in loses none. -/
theorem lost_takeIn (hrest : (s.threads t).removeCellSessionSet = []) :
    (s.takeIn t).Lost b ↔ s.Lost b :=
  lost_setThread_of (by simp [hrest])

/-- A failed write loses a session that is closed. -/
theorem lost_write (h : Shape s) (ha : a ∈ (s.threads t).cellSessionSet) (failed : Bool) :
    (s.write t a failed).Lost b ↔ s.Lost b ∨ Loses s (.write t a failed) b := by
  have hheld : s.Held t a := .inr (.inr (.inr ha))
  have halive := h.held t a hheld
  rw [h.write_eq ha]
  cases failed with
  | false => simp [Loses]
  | true =>
      rw [if_pos rfl]
      by_cases hb : b = a
      · subst hb
        have hnot : ¬ (s.setThread t { s.threads t with
            cellSessionSet := (s.threads t).cellSessionSet.filter (· ≠ b) }).OnItsWay b := by
          rw [onItsWay_setThread]
          rintro (⟨-, hcell⟩ | ⟨t', hne, hremove, -⟩)
          · exact absurd rfl (of_decide_eq_true (List.mem_filter.mp hcell).2)
          · exact hne (h.home t' t b (.inr (.inr (.inl hremove))) hheld)
        show (s.alive b = true ∧ s.reading b = false) ∧ _ ↔ _
        simp only [State.Lost, State.Closed, Loses, halive, hnot]
        simp only [true_and, not_false_eq_true, and_true]
        exact (or_iff_right_of_imp And.left).symm
      · rw [lost_setThread_of (by simp [hb])]
        simp [Loses, hb]

/-- **How a session gets lost**; and it stays so. -/
theorem lost_step (h : Shape s) (hst : step s act = some s') (b : Address) :
    s'.Lost b ↔ s.Lost b ∨ Loses s act b := by
  cases taken_of_step hst with
  | @accept a ha =>
      rw [lost_outputHandleSession, lost_newSession ha]
      exact (or_iff_left id).symm
  | @connect a ha =>
      exact (lost_newSession ha).trans (or_iff_left id).symm
  | @connectOutput a _ =>
      rw [lost_outputHandleSession]
      exact (or_iff_left id).symm
  | @readClosed a ha =>
      exact lost_readClosed h ha
  | @handleClose p _ =>
      exact (lost_handleClose p).trans (or_iff_left id).symm
  | @pass t _ =>
      have hkeep : (s.pass t).Lost b ↔ s.Lost b := (h.pass_induction
        (I := fun u => u.Lost b ↔ s.Lost b) (J := fun u => u.Lost b ↔ s.Lost b) Iff.rfl
        (fun u a hu ha hI => (lost_letGo hu ha).trans hI)
        fun u _ hrest hI => (lost_takeIn hrest).trans hI).2
      exact hkeep.trans (or_iff_left id).symm
  | @write t a failed ha =>
      exact lost_write h ha failed

/-! ## §3. Deleted sessions. -/

/-- Every session is deleted once at most. -/
structure Deaths (s : State) : Prop where
  born : ∀ a, s.alive a = true → s.born a < s.next
  one : ∀ a b, s.alive a = true → s.alive b = true → s.born a = s.born b → a = b
  deleted : ∀ n ∈ s.deleted, n < s.next
  fresh : ∀ a, s.alive a = true → s.born a ∉ s.deleted
  once : s.deleted.Nodup
  returning : ∀ p ∈ s.returning, p.2 < s.next

theorem Deaths.newSession (h : Deaths s) : Deaths ((s.newSession a).inputHandleSession a) := by
  obtain ⟨h1, h2, h3, h4, h5, h6⟩ := h
  constructor <;> simp only [State.newSession, State.inputHandleSession] <;>
    grind [Function.update_apply]

theorem Deaths.outputHandleSession (h : Deaths s) : Deaths (s.outputHandleSession a) := by
  unfold State.outputHandleSession
  split
  · exact h
  · exact ⟨h.born, h.one, h.deleted, h.fresh, h.once, h.returning⟩

theorem Deaths.outputRemoveSession (h : Deaths s) : Deaths (s.outputRemoveSession a) := by
  unfold State.outputRemoveSession
  split
  · exact h
  · exact ⟨h.born, h.one, h.deleted, h.fresh, h.once, h.returning⟩

theorem Deaths.readClosed (h : Deaths s) (hs : Shape s) (ha : s.reading a = true) :
    Deaths (s.readClosed a) := by
  rw [hs.readClosed_eq ha]
  refine Deaths.outputRemoveSession ⟨h.born, h.one, h.deleted, h.fresh, h.once, ?_⟩
  intro p hp
  obtain hp | hp := List.mem_append.mp hp
  · exact h.returning p hp
  · obtain rfl := List.mem_singleton.mp hp
    exact h.born a (hs.reading a ha)

theorem Deaths.handleClose (h : Deaths s) (p : Address × Nat) : Deaths (s.handleClose p) := by
  have hreturning : ∀ q ∈ s.returning.filter (· ≠ p), q.2 < s.next := fun q hq =>
    h.returning q (List.mem_filter.mp hq).1
  unfold State.handleClose State.use
  split
  · exact ⟨h.born, h.one, h.deleted, h.fresh, h.once, hreturning⟩
  · exact ⟨h.born, h.one, h.deleted, h.fresh, h.once, hreturning⟩

theorem Deaths.setThread (h : Deaths s) (thread : OutputThread) : Deaths (s.setThread t thread) :=
  ⟨h.born, h.one, h.deleted, h.fresh, h.once, h.returning⟩

theorem Deaths.letGo (h : Deaths s) (hs : Shape s)
    (ha : a ∈ (s.threads t).removeCellSessionSet) : Deaths (s.letGo t a) := by
  by_cases hcell : a ∈ (s.threads t).cellSessionSet
  · rw [hs.letGo_eq ha hcell]
    have halive := hs.held t a (.inr (.inr (.inl ha)))
    obtain ⟨h1, h2, h3, h4, h5, h6⟩ := h
    constructor <;> simp only [State.setThread] <;> grind [Function.update_apply]
  · rw [letGo_of_not_mem hcell]
    exact h.setThread _

/-- **Every step** deletes a session once at most. -/
theorem Deaths.step (h : Deaths s) (hs : Shape s) (hst : step s act = some s') : Deaths s' := by
  cases taken_of_step hst with
  | @accept a _ =>
      exact h.newSession.outputHandleSession
  | @connect a _ =>
      have hnew := h.newSession (a := a)
      exact ⟨hnew.born, hnew.one, hnew.deleted, hnew.fresh, hnew.once, hnew.returning⟩
  | @connectOutput a _ =>
      exact Deaths.outputHandleSession ⟨h.born, h.one, h.deleted, h.fresh, h.once, h.returning⟩
  | @readClosed a ha =>
      exact h.readClosed hs ha
  | @handleClose p _ =>
      exact h.handleClose p
  | @pass t _ =>
      exact (hs.pass_induction (I := Deaths) (J := Deaths) h
        (fun u a hu ha hI => hI.letGo hu ha) fun u _ _ hI => hI.setThread _).2
  | @write t a failed ha =>
      rw [hs.write_eq ha]
      split
      · exact h.setThread _
      · exact h

/-! ## §4. Sessions that are still there. -/

/-- The pass deletes the session. -/
def Deletes (s : State) : Act → Address → Prop
  | .pass t, a => a ∈ (s.threads t).removeCellSessionSet ∧ a ∈ (s.threads t).cellSessionSet
  | _, _ => False

/-- One removal of a pass: what it deletes is there before and not after. -/
theorem intact_letGo {p : Address × Nat} (h : Shape s)
    (hb : b ∈ (s.threads t).removeCellSessionSet) :
    (s.letGo t b).Intact p ∧ ¬ Deletes (s.letGo t b) (.pass t) p.1 ↔
      s.Intact p ∧ ¬ Deletes s (.pass t) p.1 := by
  obtain ⟨a, n⟩ := p
  by_cases hcell : b ∈ (s.threads t).cellSessionSet
  · rw [h.letGo_eq hb hcell]
    by_cases hab : a = b
    · subst hab
      simp [State.Intact, Deletes, State.setThread, hb, hcell]
    · simp [State.Intact, Deletes, State.setThread, hab]
  · rw [letGo_of_not_mem hcell]
    by_cases hab : a = b
    · subst hab
      simp [State.Intact, Deletes, State.setThread, hcell]
    · simp [State.Intact, Deletes, State.setThread, hab]

/-- Letting a session go leaves the numbers of the others. -/
theorem Shape.letGo_born (h : Shape s) (hb : b ∈ (s.threads t).removeCellSessionSet) :
    (s.letGo t b).born = s.born := by
  by_cases hcell : b ∈ (s.threads t).cellSessionSet
  · rw [h.letGo_eq hb hcell]
    rfl
  · rw [letGo_of_not_mem hcell]
    rfl

theorem born_outputHandleSession : (s.outputHandleSession b).born = s.born := by
  unfold State.outputHandleSession
  split <;> rfl

theorem born_newSession (halive : s.alive a = true) (hb : s.alive b = false) :
    ((s.newSession b).inputHandleSession b).born a = s.born a := by
  have hne : a ≠ b := by
    rintro rfl
    rw [halive] at hb
    cases hb
  exact Function.update_of_ne hne ..

/-- A session that is there keeps its number. -/
theorem born_step (h : Shape s) (halive : s.alive a = true) (hst : step s act = some s') :
    s'.born a = s.born a := by
  cases taken_of_step hst with
  | @accept b hb =>
      rw [born_outputHandleSession, born_newSession halive hb]
  | @connect b hb =>
      exact born_newSession halive hb
  | @connectOutput b _ =>
      rw [born_outputHandleSession]
  | @readClosed b hb =>
      rw [h.readClosed_eq hb]
      unfold State.outputRemoveSession
      dsimp only
      split <;> rfl
  | @handleClose p _ =>
      unfold State.handleClose State.use
      dsimp only
      split <;> rfl
  | @pass t _ =>
      refine (h.pass_induction (I := fun u => u.born a = s.born a)
        (J := fun u => u.born a = s.born a) rfl ?_ fun u _ _ hI => hI).2
      intro u b hu hb hI
      rw [hu.letGo_born hb, hI]
  | @write t b failed hb =>
      rw [h.write_eq hb]
      split <;> rfl

/-- **The next pass** deletes the sessions that it finds. -/
theorem Shape.pass_deletes (h : Shape s) (hremove : a ∈ (s.threads t).removeCellSessionSet)
    (hcell : a ∈ (s.threads t).cellSessionSet) : s.born a ∈ (s.pass t).deleted := by
  refine (h.pass_induction
    (I := fun u => a ∈ (u.threads t).removeCellSessionSet ∧ a ∈ (u.threads t).cellSessionSet ∧
      u.born a = s.born a ∨ s.born a ∈ u.deleted)
    (J := fun u => s.born a ∈ u.deleted) (.inl ⟨hremove, hcell, rfl⟩) ?_ ?_).2
  · intro u b hu hb hI
    by_cases hfound : b ∈ (u.threads t).cellSessionSet
    · rw [hu.letGo_eq hb hfound]
      obtain ⟨hremove, hcell, hborn⟩ | hdeleted := hI
      · by_cases hab : a = b
        · -- it is this one's turn
          subst hab
          rw [← hborn]
          exact .inr (List.mem_append_right _ (List.mem_singleton_self _))
        · refine .inl ⟨?_, ?_, hborn⟩
          · simp [State.setThread, hremove, hab]
          · simp [State.setThread, hcell, hab]
      · exact .inr (List.mem_append_left _ hdeleted)
    · rw [letGo_of_not_mem hfound]
      obtain ⟨hremove, hcell, hborn⟩ | hdeleted := hI
      · have hab : a ≠ b := by
          rintro rfl
          exact hfound hcell
        refine .inl ⟨?_, ?_, hborn⟩
        · simp [State.setThread, hremove, hab]
        · simp [State.setThread, hcell]
      · exact .inr hdeleted
  · intro u _ hrest hI
    obtain ⟨hmem, -⟩ | hdeleted := hI
    · rw [hrest] at hmem
      exact absurd hmem List.not_mem_nil
    · exact hdeleted

/-- No session has been used after it was deleted, and none will be when its reader returns. -/
def State.Safe (s : State) : Prop := s.dangling = [] ∧ ∀ p ∈ s.returning, s.Intact p

/-- No pass deletes a session whose reader has not returned. -/
def Returned (s : State) (act : Act) : Prop := ∀ p ∈ s.returning, ¬ Deletes s act p.1

/-- A new session makes nothing unsafe. -/
theorem safe_newSession (hd : Deaths s) (ha : s.alive a = false) :
    ((s.newSession a).inputHandleSession a).Safe ↔ s.Safe := by
  refine and_congr_right fun _ => forall₂_congr fun p hp => ?_
  have hlt := hd.returning p hp
  show Function.update s.alive a true p.1 = true ∧ Function.update s.born a s.next p.1 = p.2 ↔ _
  by_cases hpa : p.1 = a
  · rw [hpa, Function.update_self, Function.update_self]
    unfold State.Intact
    rw [hpa, ha]
    simp only [Bool.false_eq_true, false_and, true_and, iff_false]
    omega
  · rw [Function.update_of_ne hpa, Function.update_of_ne hpa]
    rfl

theorem safe_outputHandleSession : (s.outputHandleSession a).Safe ↔ s.Safe := by
  unfold State.outputHandleSession
  split <;> rfl

theorem safe_outputRemoveSession : (s.outputRemoveSession a).Safe ↔ s.Safe := by
  unfold State.outputRemoveSession
  split <;> rfl

/-- A closed read makes nothing unsafe. -/
theorem safe_readClosed (h : Shape s) (ha : s.reading a = true) :
    (s.readClosed a).Safe ↔ s.Safe := by
  have hthere : s.Intact (a, s.born a) := ⟨h.reading a ha, rfl⟩
  rw [h.readClosed_eq ha, safe_outputRemoveSession]
  refine and_congr_right fun _ => ?_
  show (∀ p ∈ s.returning ++ [(a, s.born a)], s.Intact p) ↔ _
  rw [List.forall_mem_append, List.forall_mem_singleton, and_iff_left hthere]

/-- The reader returns from a session that is still there, or from one that is not. -/
theorem safe_handleClose {p : Address × Nat} (hp : p ∈ s.returning) :
    (s.handleClose p).Safe ↔ s.Safe := by
  unfold State.handleClose State.use
  dsimp only
  split
  · rename_i hthere
    refine and_congr_right fun _ => ⟨fun hall q hq => ?_, fun hall q hq => ?_⟩
    · by_cases hqp : q = p
      · exact hqp ▸ hthere
      · exact hall q (List.mem_filter.mpr ⟨hq, decide_eq_true hqp⟩)
    · exact hall q (List.mem_filter.mp hq).1
  · rename_i hgone
    constructor
    · rintro ⟨hempty, -⟩
      exact absurd hempty (List.append_ne_nil_of_right_ne_nil _ (List.cons_ne_nil _ _))
    · rintro ⟨-, hall⟩
      exact absurd (hall p hp) hgone

/-- Letting a session go leaves the readers alone. -/
theorem Shape.letGo_returning (h : Shape s) (hb : b ∈ (s.threads t).removeCellSessionSet) :
    (s.letGo t b).returning = s.returning ∧ (s.letGo t b).dangling = s.dangling := by
  by_cases hcell : b ∈ (s.threads t).cellSessionSet
  · rw [h.letGo_eq hb hcell]
    exact ⟨rfl, rfl⟩
  · rw [letGo_of_not_mem hcell]
    exact ⟨rfl, rfl⟩

/-- A pass leaves the sessions that it does not delete. -/
theorem Shape.pass_intact (h : Shape s) (p : Address × Nat) :
    (s.pass t).Intact p ↔ s.Intact p ∧ ¬ Deletes s (.pass t) p.1 := by
  refine (h.pass_induction
    (I := fun u => u.Intact p ∧ ¬ Deletes u (.pass t) p.1 ↔
      s.Intact p ∧ ¬ Deletes s (.pass t) p.1)
    (J := fun u => u.Intact p ↔ s.Intact p ∧ ¬ Deletes s (.pass t) p.1) Iff.rfl ?_ ?_).2
  · intro u b hu hb hI
    exact (intact_letGo hu hb).trans hI
  · intro u _ hrest hI
    have hnone : ¬ Deletes u (.pass t) p.1 := by
      rintro ⟨hmem, -⟩
      rw [hrest] at hmem
      exact List.not_mem_nil hmem
    rw [and_iff_left hnone] at hI
    exact hI

/-- A pass is safe when the readers of what it deletes have returned. -/
theorem Shape.safe_pass (h : Shape s) : (s.pass t).Safe ↔ s.Safe ∧ Returned s (.pass t) := by
  obtain ⟨hreturning, hdangling⟩ := (h.pass_induction
    (I := fun u => u.returning = s.returning ∧ u.dangling = s.dangling)
    (J := fun u => u.returning = s.returning ∧ u.dangling = s.dangling) ⟨rfl, rfl⟩
    (fun u b hu hb hI => ⟨(hu.letGo_returning hb).1.trans hI.1,
      (hu.letGo_returning hb).2.trans hI.2⟩) fun u _ _ hI => hI).2
  unfold State.Safe Returned
  rw [hreturning, hdangling, and_assoc, ← forall₂_and]
  refine and_congr_right fun _ => forall₂_congr fun p _ => h.pass_intact p

/-- **What makes a session be used after its deletion**, and that nothing undoes it. -/
theorem safe_step (h : Shape s) (hd : Deaths s) (hst : step s act = some s') :
    s'.Safe ↔ s.Safe ∧ Returned s act := by
  cases taken_of_step hst with
  | @accept a ha =>
      rw [safe_outputHandleSession, safe_newSession hd ha]
      exact (and_iff_left fun _ _ => id).symm
  | @connect a ha =>
      exact (safe_newSession hd ha).trans (and_iff_left fun _ _ => id).symm
  | @connectOutput a _ =>
      rw [safe_outputHandleSession]
      exact (and_iff_left fun _ _ => id).symm
  | @readClosed a ha =>
      exact (safe_readClosed h ha).trans (and_iff_left fun _ _ => id).symm
  | @handleClose p hp =>
      exact (safe_handleClose hp).trans (and_iff_left fun _ _ => id).symm
  | @pass t _ =>
      exact h.safe_pass
  | @write t a failed ha =>
      rw [h.write_eq ha]
      refine Iff.trans ?_ (and_iff_left fun _ _ => id).symm
      split <;> rfl

/-! ## §5. Runs. -/

/-- The session can still be deleted. -/
def State.Deletable (s : State) (a : Address) : Prop :=
  ∃ as s', (poolSystem s.outputThreads).run s as = some s' ∧ s.born a ∈ s'.deleted

/-- Each close finds the session with its thread, and no write of a closed session fails. -/
def Timely (s : State) : Act → Prop
  | .readClosed a => ∃ t, s.outputMap a = some t ∧ a ∈ (s.threads t).cellSessionSet
  | .write _ a failed => failed = true → s.reading a = true
  | _ => True

/-- A step is timely when it loses no session. -/
theorem timely_iff : Timely s act ↔ ∀ b, ¬ Loses s act b := by
  cases act with
  | readClosed a => simp [Timely, Loses]
  | write t a failed => simp [Timely, Loses]
  | _ => simp [Timely, Loses]

/-- **A closed session can be deleted exactly when it is on its way.** -/
theorem deletable_iff (h : Shape s) (hd : Deaths s) (hclosed : s.Closed a) :
    s.Deletable a ↔ s.OnItsWay a := by
  constructor
  · rintro ⟨as, s', hrun, hdeleted⟩
    apply Classical.byContradiction
    intro hnot
    -- it stays lost, and there
    have hkept := TransSys.run_invariant
      (I := fun u => Shape u ∧ Deaths u ∧ u.Lost a ∧ u.born a = s.born a) ?_
      ⟨h, hd, ⟨hclosed, hnot⟩, rfl⟩ hrun
    · obtain ⟨-, hd', hlost, hborn⟩ := hkept
      exact hd'.fresh a hlost.1.1 (hborn ▸ hdeleted)
    · intro u act u' hu hst
      obtain ⟨hu, hdu, hlost, hborn⟩ := hu
      exact ⟨hu.step hst, hdu.step hu hst, (lost_step hu hst a).mpr (.inl hlost),
        (born_step hu hlost.1.1 hst).trans hborn⟩
  · rintro ⟨t, hremove, hcell⟩
    have hst : step s (.pass t) = some (s.pass t) :=
      if_pos (h.thread t a (.inr (.inr (.inl hremove))))
    exact ⟨[.pass t], s.pass t, TransSys.run_cons_eq_some.mpr ⟨_, hst, rfl⟩,
      h.pass_deletes hremove hcell⟩

theorem deaths_init (n : Nat) : Deaths (init n) := by
  refine ⟨?_, ?_, ?_, ?_, ?_, ?_⟩ <;> simp [init]

/-- **In every run** every session is deleted once at most. -/
theorem reachable_deaths {n : Nat} (hs : (poolSystem n).Reachable s) : Shape s ∧ Deaths s := by
  refine hs.invariant (I := fun s => Shape s ∧ Deaths s) ?_ ?_
  · rintro t rfl
    exact ⟨shape_init n, deaths_init n⟩
  · intro u act u' hu _ hst
    exact ⟨hu.1.step hst, hu.2.step hu.1 hst⟩

/-- **The sessions of a pool.**  In every run no session is deleted twice, and whatever the pool,
its threads and its owner know is there.  No reader returns from a session that is deleted exactly
when no pass deletes one whose reader has not returned.  And every closed session can be deleted, as
the next pass of its thread does, exactly when all closes found the session with its thread and no
write of a closed session failed. -/
theorem sessions_freed (outputThreads : Nat) :
    (∀ s, (poolSystem outputThreads).Reachable s →
      s.deleted.Nodup ∧
        ∀ a, (∃ t, s.Held t a) ∨ a ∈ s.connecting ∨ a ∈ s.sessionSet ∨ s.reading a = true ∨
          (s.referenceNo a).isSome = true → s.alive a = true) ∧
      ∀ as s, (poolSystem outputThreads).run (init outputThreads) as = some s →
        (s.Safe ↔ (poolSystem outputThreads).RunMeets Returned (init outputThreads) as) ∧
          ((∀ a, s.Closed a → s.Deletable a) ↔
            (poolSystem outputThreads).RunMeets Timely (init outputThreads) as) := by
  refine ⟨?_, fun as s hrun => ⟨?_, ?_⟩⟩
  · intro s hs
    obtain ⟨h, hd⟩ := reachable_deaths hs
    refine ⟨hd.once, ?_⟩
    rintro a (⟨t, ht⟩ | ha | ha | ha | ha)
    · exact h.held t a ht
    · exact (h.connecting a ha).1
    · exact h.reading a ((h.sessionSet a).mp ha)
    · exact h.reading a ha
    · rw [h.count a] at ha
      apply Decidable.byContradiction
      intro hnot
      rw [if_neg hnot] at ha
      cases ha
  · have hmeets := TransSys.run_iff_runMeets (C := Returned)
      (I := fun s => Shape s ∧ Deaths s) (P := State.Safe)
      (fun u act u' hu hst => ⟨hu.1.step hst, hu.2.step hu.1 hst⟩)
      (fun u act u' hu hst => safe_step hu.1 hu.2 hst)
      ⟨shape_init _, deaths_init _⟩ hrun
    have hstart : (init outputThreads).Safe := ⟨rfl, nofun⟩
    rwa [and_iff_right hstart] at hmeets
  · have hmeets := TransSys.run_iff_runMeets (C := Timely)
      (I := fun s => Shape s ∧ Deaths s) (P := fun s => ∀ a, ¬ s.Lost a)
      (fun u act u' hu hst => ⟨hu.1.step hst, hu.2.step hu.1 hst⟩) ?_
      ⟨shape_init _, deaths_init _⟩ hrun
    · obtain ⟨h, hd⟩ := reachable_deaths (TransSys.reachable_of_run rfl hrun)
      have hstart : ∀ a, ¬ (init outputThreads).Lost a := by
        rintro a ⟨⟨halive, -⟩, -⟩
        cases halive
      rw [and_iff_right hstart] at hmeets
      rw [← hmeets]
      refine forall_congr' fun a => ?_
      unfold State.Lost
      rw [not_and, not_not]
      exact imp_congr_right fun hclosed => deletable_iff h hd hclosed
    · intro u act u' hu hst
      rw [timely_iff, ← forall_and]
      refine forall_congr' fun b => ?_
      rw [lost_step hu.1 hst b, not_or]

/-- A connection that ends before the first pass stays for ever. -/
example :
    ((poolSystem 1).run (init 1)
      [.accept 0, .readClosed 0, .handleClose (0, 0), .pass 0, .pass 0]).map
        (fun s => (s.alive 0, s.deleted)) = some (true, []) := by decide

end Steppingstone.Net.Sessions
