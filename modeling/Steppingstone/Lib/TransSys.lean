/-
  Steppingstone.Lib.TransSys — transition systems with partial, labelled steps.

  A system has a set of initial states and a partial step function: every
  choice of the environment (which message arrives, which answer is given)
  is part of the label, so a run is a list of labels and can be executed.
-/
import Mathlib.Data.List.Basic

/-- A labelled transition system; `step s a = none` when `a` cannot happen in `s`. -/
structure TransSys (S A : Type*) where
  /-- The states a run can start in. -/
  init : S → Prop
  /-- One step. -/
  step : S → A → Option S

namespace TransSys

variable {S A : Type*}

/-! ## §1. Runs. -/

/-- Execute a list of labels, stopping at the first one that is not enabled. -/
def run (M : TransSys S A) : S → List A → Option S
  | s, [] => some s
  | s, a :: as => (M.step s a).bind (fun s' => M.run s' as)

theorem run_cons_eq_some {M : TransSys S A} {s s' : S} {a : A} {as : List A} :
    M.run s (a :: as) = some s' ↔ ∃ m, M.step s a = some m ∧ M.run m as = some s' := by
  simp only [run, Option.bind_eq_some_iff]

/-- A run in two parts. -/
theorem run_append {M : TransSys S A} {s : S} {as bs : List A} :
    M.run s (as ++ bs) = (M.run s as).bind (fun m => M.run m bs) := by
  induction as generalizing s with
  | nil => rfl
  | cons a as ih =>
      show (M.step s a).bind _ = ((M.step s a).bind _).bind _
      rw [Option.bind_assoc]
      exact congrArg _ (funext fun m => ih)

/-- Every step of the run meets `C`, and the run is enabled throughout. -/
def RunMeets (M : TransSys S A) (C : S → A → Prop) : S → List A → Prop
  | _, [] => True
  | s, a :: as => C s a ∧ ∃ s', M.step s a = some s' ∧ M.RunMeets C s' as

/-- A run in two parts meets the condition when both parts do. -/
theorem RunMeets.append {M : TransSys S A} {C : S → A → Prop} {s m : S} {as bs : List A}
    (h : M.RunMeets C s as) (hrun : M.run s as = some m) (h' : M.RunMeets C m bs) :
    M.RunMeets C s (as ++ bs) := by
  induction as generalizing s with
  | nil =>
      obtain rfl : s = m := Option.some.inj hrun
      exact h'
  | cons a as ih =>
      obtain ⟨hc, t, hst, hrest⟩ := h
      obtain ⟨t', hst', hrun'⟩ := run_cons_eq_some.mp hrun
      obtain rfl : t = t' := by simpa [hst] using hst'
      exact ⟨hc, t, hst, ih hrest hrun'⟩

/-- A run that meets a condition meets every other one that follows from it where the run is. -/
theorem RunMeets.mono_at {M : TransSys S A} {C D : S → A → Prop} {s : S} {as : List A}
    (h : M.RunMeets C s as)
    (hCD : ∀ n m a, M.run s (as.take n) = some m → as[n]? = some a → C m a → D m a) :
    M.RunMeets D s as := by
  induction as generalizing s with
  | nil => trivial
  | cons a as ih =>
      obtain ⟨hc, t, hst, hrest⟩ := h
      refine ⟨hCD 0 s a rfl rfl hc, t, hst, ih hrest ?_⟩
      intro n m b hrun hb hcb
      exact hCD (n + 1) m b (run_cons_eq_some.mpr ⟨t, hst, hrun⟩) hb hcb

/-- A run of labels that meet the condition in every state. -/
theorem runMeets_of_forall {M : TransSys S A} {C : S → A → Prop} {s s' : S} {as : List A}
    (h : ∀ a ∈ as, ∀ t, C t a) (hrun : M.run s as = some s') : M.RunMeets C s as := by
  induction as generalizing s with
  | nil => trivial
  | cons a as ih =>
      obtain ⟨t, hst, hrun'⟩ := run_cons_eq_some.mp hrun
      exact ⟨h a (List.mem_cons_self ..) s, t, hst,
        ih (fun x hx => h x (List.mem_cons_of_mem _ hx)) hrun'⟩

/-- A condition on the labels alone is met by a run when every label of it meets it. -/
theorem runMeets_label_iff {M : TransSys S A} {K : A → Prop} {s s' : S} {as : List A}
    (hrun : M.run s as = some s') : M.RunMeets (fun _ => K) s as ↔ ∀ a ∈ as, K a := by
  refine ⟨fun h => ?_, fun h => runMeets_of_forall (fun a ha _ => h a ha) hrun⟩
  induction as generalizing s with
  | nil => exact List.forall_mem_nil _
  | cons a as ih =>
      obtain ⟨hk, t, hst, hrest⟩ := h
      obtain ⟨t', hst', hrun'⟩ := run_cons_eq_some.mp hrun
      obtain rfl : t = t' := Option.some.inj (hst.symm.trans hst')
      exact List.forall_mem_cons.mpr ⟨hk, ih hrun' hrest⟩

/-- Where a step is enabled exactly when it meets `C`, a run is enabled exactly when its steps do. -/
theorem run_isSome_iff {M : TransSys S A} {C : S → A → Prop}
    (h : ∀ s a, (M.step s a).isSome = true ↔ C s a) {s : S} {as : List A} :
    (M.run s as).isSome = true ↔ M.RunMeets C s as := by
  induction as generalizing s with
  | nil => exact ⟨fun _ => trivial, fun _ => rfl⟩
  | cons a as ih =>
      match hst : M.step s a with
      | none =>
          have hrun : M.run s (a :: as) = none := by
            show (M.step s a).bind _ = none
            rw [hst]
            rfl
          rw [hrun]
          constructor
          · intro hsome
            cases hsome
          · intro hm
            obtain ⟨_, t, ht, _⟩ := hm
            rw [hst] at ht
            cases ht
      | some t =>
          have hrun : M.run s (a :: as) = M.run t as := by
            show (M.step s a).bind _ = _
            rw [hst]
            rfl
          have hc : C s a := (h s a).mp (by rw [hst]; rfl)
          rw [hrun, ih]
          constructor
          · intro hm
            exact ⟨hc, t, hst, hm⟩
          · intro hm
            obtain ⟨_, t', ht', hm⟩ := hm
            obtain rfl : t = t' := Option.some.inj (hst.symm.trans ht')
            exact hm

/-- A condition that can be checked step by step can be checked along a run. -/
instance decidableRunMeets (M : TransSys S A) (C : S → A → Prop)
    [∀ s a, Decidable (C s a)] : (s : S) → (as : List A) → Decidable (M.RunMeets C s as)
  | _, [] => isTrue trivial
  | s, a :: as =>
      match h : M.step s a with
      | none => isFalse (by rintro ⟨-, s', hs', -⟩; rw [h] at hs'; cases hs')
      | some s' =>
          have := decidableRunMeets M C s' as
          decidable_of_iff (C s a ∧ M.RunMeets C s' as) ⟨
            fun hm => ⟨hm.1, s', h, hm.2⟩,
            by rintro ⟨hc, m, hm, hrest⟩; rw [h] at hm; cases hm; exact ⟨hc, hrest⟩⟩

/-! ## §2. Reachability by steps that meet a condition. -/

/-- The states reached by runs all of whose steps meet `C`. -/
inductive ReachableWhen (M : TransSys S A) (C : S → A → Prop) : S → Prop
  | start {s : S} : M.init s → ReachableWhen M C s
  | next {s s' : S} {a : A} :
      ReachableWhen M C s → C s a → M.step s a = some s' → ReachableWhen M C s'

/-- The states reached by any run. -/
abbrev Reachable (M : TransSys S A) : S → Prop :=
  M.ReachableWhen (fun _ _ => True)

variable {M : TransSys S A} {C D : S → A → Prop}

/-- **Invariant rule**: initially true and preserved by the steps that meet `C`. -/
theorem ReachableWhen.invariant {I : S → Prop} {s : S} (hs : M.ReachableWhen C s)
    (h0 : ∀ s, M.init s → I s)
    (hstep : ∀ s a s', I s → C s a → M.step s a = some s' → I s') : I s := by
  induction hs with
  | start hi => exact h0 _ hi
  | next _ hc hst ih => exact hstep _ _ _ ih hc hst

theorem ReachableWhen.mono (hCD : ∀ s a, C s a → D s a) {s : S}
    (hs : M.ReachableWhen C s) : M.ReachableWhen D s := by
  induction hs with
  | start hi => exact .start hi
  | next _ hc hst ih => exact .next ih (hCD _ _ hc) hst

/-- A run from a reachable state that meets `C` all along ends in a reachable state. -/
theorem ReachableWhen.run {s s' : S} {as : List A} (hs : M.ReachableWhen C s)
    (hm : M.RunMeets C s as) (hr : M.run s as = some s') : M.ReachableWhen C s' := by
  induction as generalizing s with
  | nil =>
      obtain rfl : s = s' := by simpa [TransSys.run] using hr
      exact hs
  | cons a as ih =>
      obtain ⟨hc, m, hst, hm'⟩ := hm
      obtain ⟨m', hst', hr'⟩ := run_cons_eq_some.mp hr
      obtain rfl : m = m' := by simpa [hst] using hst'
      exact ih (.next hs hc hst) hm' hr'

/-- An executed run whose steps all meet `C` witnesses reachability. -/
theorem reachableWhen_of_run {s s' : S} {as : List A} (h0 : M.init s)
    (hm : M.RunMeets C s as) (hr : M.run s as = some s') : M.ReachableWhen C s' :=
  ReachableWhen.run (.start h0) hm hr

/-- Without a condition, every executed run witnesses reachability. -/
theorem reachable_of_run {s s' : S} {as : List A} (h0 : M.init s)
    (hr : M.run s as = some s') : M.Reachable s' := by
  have key : ∀ (as : List A) (s : S), M.Reachable s → M.run s as = some s' →
      M.Reachable s' := by
    intro as
    induction as with
    | nil =>
        intro s hs hr
        obtain rfl : s = s' := by simpa [TransSys.run] using hr
        exact hs
    | cons a as ih =>
        intro s hs hr
        obtain ⟨m, hst, hr'⟩ := run_cons_eq_some.mp hr
        exact ih m (.next hs trivial hst) hr'
  exact key as s (.start h0) hr

/-! ## §3. Exact runs. -/

/-- Under the invariant `I` a step keeps `P` exactly when it meets `C`, and none
restores it: **the runs that keep `P` are those whose steps all meet `C`**. -/
theorem run_iff_runMeets {I P : S → Prop}
    (hI : ∀ s a s', I s → M.step s a = some s' → I s')
    (hP : ∀ s a s', I s → M.step s a = some s' → (P s' ↔ P s ∧ C s a))
    {s s' : S} {as : List A} (hs : I s) (hr : M.run s as = some s') :
    P s' ↔ P s ∧ M.RunMeets C s as := by
  induction as generalizing s with
  | nil =>
      obtain rfl : s = s' := Option.some.inj hr
      exact (and_iff_left trivial).symm
  | cons a as ih =>
      obtain ⟨m, hst, hr'⟩ := run_cons_eq_some.mp hr
      rw [ih (hI s a m hs hst) hr', hP s a m hs hst, and_assoc]
      refine and_congr_right fun _ => ⟨?_, ?_⟩
      · intro h
        exact ⟨h.1, m, hst, h.2⟩
      · intro h
        obtain ⟨hc, m', hst', hrest⟩ := h
        obtain rfl : m = m' := Option.some.inj (hst.symm.trans hst')
        exact ⟨hc, hrest⟩

/-- Where a step from a state with `P` leads to one with `P` exactly when it meets `C`, **`P` holds
all along a run exactly when every step of it meets `C`**. -/
theorem always_iff_runMeets {P : S → Prop}
    (hP : ∀ s a s', P s → M.step s a = some s' → (P s' ↔ C s a))
    {s s' : S} {as : List A} (hs : P s) (hr : M.run s as = some s') :
    (∀ bs t, bs <+: as → M.run s bs = some t → P t) ↔ M.RunMeets C s as := by
  induction as generalizing s with
  | nil =>
      refine ⟨fun _ => trivial, ?_⟩
      rintro - bs t hbs hrun
      obtain rfl := List.prefix_nil.mp hbs
      obtain rfl : s = t := Option.some.inj hrun
      exact hs
  | cons a as ih =>
      obtain ⟨m, hst, hr'⟩ := run_cons_eq_some.mp hr
      constructor
      · intro h
        have hone : M.run s [a] = some m := run_cons_eq_some.mpr ⟨m, hst, rfl⟩
        have hm : P m := h [a] m ⟨as, rfl⟩ hone
        refine ⟨(hP s a m hs hst).mp hm, m, hst, (ih hm hr').mp ?_⟩
        intro bs t hbs hrun
        exact h (a :: bs) t (List.cons_prefix_cons.mpr ⟨rfl, hbs⟩)
          (run_cons_eq_some.mpr ⟨m, hst, hrun⟩)
      · rintro ⟨hc, m', hst', hmeets⟩ bs t hbs hrun
        obtain rfl : m = m' := Option.some.inj (hst.symm.trans hst')
        have hm : P m := (hP s a m hs hst).mpr hc
        cases bs with
        | nil =>
            obtain rfl : s = t := Option.some.inj hrun
            exact hs
        | cons b bs =>
            obtain ⟨rfl, hpre⟩ := List.cons_prefix_cons.mp hbs
            obtain ⟨u, hu, hrun⟩ := run_cons_eq_some.mp hrun
            obtain rfl : m = u := Option.some.inj (hst.symm.trans hu)
            exact (ih hm hr').mpr hmeets bs t hpre hrun

/-- What every step of a kind keeps holds after a run of such steps. -/
theorem run_invariant_of_forall {I : S → Prop} {K : A → Prop}
    (hI : ∀ s a s', I s → K a → M.step s a = some s' → I s') {s s' : S} {as : List A}
    (hs : I s) (has : ∀ a ∈ as, K a) (hr : M.run s as = some s') : I s' := by
  induction as generalizing s with
  | nil =>
      obtain rfl : s = s' := Option.some.inj hr
      exact hs
  | cons a as ih =>
      obtain ⟨m, hst, hr'⟩ := run_cons_eq_some.mp hr
      have hm : I m := hI s a m hs (has a (List.mem_cons_self ..)) hst
      exact ih hm (fun b hb => has b (List.mem_cons_of_mem _ hb)) hr'

/-- What every step keeps holds after a run. -/
theorem run_invariant {I : S → Prop} (hI : ∀ s a s', I s → M.step s a = some s' → I s')
    {s s' : S} {as : List A} (hs : I s) (hr : M.run s as = some s') : I s' :=
  run_invariant_of_forall (K := fun _ => True) (fun s a s' h _ hst => hI s a s' h hst) hs
    (fun _ _ => trivial) hr

end TransSys
