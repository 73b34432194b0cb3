/-
  Steppingstone.Lib.Progress — what a transition system can do from a state.

  A statement that something stays possible: from here a run of steps of a kind leads to a state
  with what is wanted.
-/
import Steppingstone.Lib.TransSys

namespace TransSys

variable {S A : Type*}

/-- A run of steps that meet `C` leads from the one state to the other. -/
inductive Leads (M : TransSys S A) (C : S → A → Prop) : S → S → Prop
  | refl (s : S) : Leads M C s s
  | step {s m s' : S} {a : A} : C s a → M.step s a = some m → Leads M C m s' → Leads M C s s'

variable {M : TransSys S A} {C D : S → A → Prop} {s m s' : S}

/-- One step. -/
theorem Leads.one {a : A} (hc : C s a) (hst : M.step s a = some s') : M.Leads C s s' :=
  .step hc hst (.refl s')

/-- One run after the other. -/
theorem Leads.trans (h : M.Leads C s m) (h' : M.Leads C m s') : M.Leads C s s' := by
  induction h with
  | refl => exact h'
  | step hc hst _ ih => exact .step hc hst (ih h')

/-- The run itself. -/
theorem Leads.exists_run (h : M.Leads C s s') :
    ∃ as, M.RunMeets C s as ∧ M.run s as = some s' := by
  induction h with
  | refl s => exact ⟨[], trivial, rfl⟩
  | @step s m s' a hc hst _ ih =>
      obtain ⟨as, hmeets, hrun⟩ := ih
      exact ⟨a :: as, ⟨hc, m, hst, hmeets⟩, run_cons_eq_some.mpr ⟨m, hst, hrun⟩⟩

/-- **A run** from a reachable state ends in a reachable state. -/
theorem ReachableWhen.leads (hs : M.ReachableWhen D s) (hCD : ∀ s a, C s a → D s a)
    (h : M.Leads C s s') : M.ReachableWhen D s' := by
  induction h with
  | refl => exact hs
  | step hc hst _ ih => exact ih (.next hs (hCD _ _ hc) hst)

/-- What the steps keep, a run keeps. -/
theorem Leads.invariant {I : S → Prop} (hI : ∀ s a s', I s → C s a → M.step s a = some s' → I s')
    (hs : I s) (h : M.Leads C s s') : I s' := by
  induction h with
  | refl => exact hs
  | step hc hst _ ih => exact ih (hI _ _ _ hs hc hst)

/-- **Progress rule**: with a run that makes the measure smaller wherever it is not `0`, there is
one to a state where it is. -/
theorem leads_of_decreasing {I : S → Prop} (μ : S → Nat)
    (hI : ∀ s, I s → μ s ≠ 0 → ∃ m, M.Leads C s m ∧ I m ∧ μ m < μ s) (hs : I s) :
    ∃ s', M.Leads C s s' ∧ I s' ∧ μ s' = 0 := by
  induction hn : μ s using Nat.strongRecOn generalizing s with
  | _ n ih =>
      by_cases h0 : μ s = 0
      · exact ⟨s, .refl s, hs, h0⟩
      · obtain ⟨m, hm, him, hlt⟩ := hI s hs h0
        obtain ⟨s', hs', hi, hz⟩ := ih (μ m) (hn ▸ hlt) him rfl
        exact ⟨s', hm.trans hs', hi, hz⟩

end TransSys
