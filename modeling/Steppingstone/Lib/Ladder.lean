/-
  Steppingstone.Lib.Ladder — levels that are bought with points.

  A level is left when there are enough points for it, up to the top.  A level that no price is
  known of ends the climb, and is looked at before the top is: at a top with a price the points are
  lost, at one without they are kept.
-/
import Mathlib.Algebra.BigOperators.Intervals
import Mathlib.Tactic.Common

namespace Ladder

/-- Levels are bought while there are points: the points that are left, and the level. -/
def climb (price : Nat → Option Nat) (top points level : Nat) : Nat × Nat :=
  match price level with
  | none => (points, level)
  | some n =>
      if top ≤ level then (0, level)
      else if n ≤ points then climb price top (points - n) (level + 1)
      else (points, level)
termination_by top - level

/-- What the levels from the first up to the last cost. -/
def cost (price : Nat → Option Nat) (first last : Nat) : Nat :=
  ∑ level ∈ Finset.Ico first last, (price level).getD 0

variable {price : Nat → Option Nat} {top points level : Nat}

theorem cost_self (price : Nat → Option Nat) (level : Nat) : cost price level level = 0 := by
  unfold cost
  rw [Finset.Ico_self, Finset.sum_empty]

theorem cost_succ {last n : Nat} (hlt : level < last) (hn : price level = some n) :
    cost price level last = n + cost price (level + 1) last := by
  unfold cost
  rw [Finset.sum_eq_sum_Ico_succ_bot hlt, hn]
  rfl

variable (price points) in
/-- The level does not fall, and rises up to the top only. -/
theorem climb_level (h : level ≤ top) :
    level ≤ (climb price top points level).2 ∧ (climb price top points level).2 ≤ top := by
  fun_induction climb price top points level with
  | case1 => exact ⟨Nat.le_refl _, h⟩
  | case2 => exact ⟨Nat.le_refl _, h⟩
  | case3 points level n _ hlt _ ih =>
      obtain ⟨hle, htop⟩ := ih (by omega)
      exact ⟨by omega, htop⟩
  | case4 => exact ⟨Nat.le_refl _, h⟩

/-- Is the level a top that has a price? -/
def Lost (price : Nat → Option Nat) (top level : Nat) : Prop :=
  level = top ∧ (price top).isSome

variable (price points) in
/-- **What the levels cost, and what is left, is what there was**, unless it is lost at the top. -/
theorem climb_paid (h : level ≤ top) :
    (Lost price top (climb price top points level).2 → (climb price top points level).1 = 0) ∧
      (¬ Lost price top (climb price top points level).2 →
        cost price level (climb price top points level).2 + (climb price top points level).1
          = points) := by
  fun_induction climb price top points level with
  | case1 points level hnone =>
      refine ⟨fun hlost => ?_, fun _ => ?_⟩
      · obtain ⟨rfl, hsome⟩ := hlost
        rw [hnone] at hsome
        cases hsome
      · show cost price level level + points = points
        rw [cost_self, Nat.zero_add]
  | case2 points level n hn htop =>
      have hlost : Lost price top level := by
        obtain rfl : level = top := by omega
        exact ⟨rfl, by rw [hn]; rfl⟩
      exact ⟨fun _ => rfl, fun hnot => absurd hlost hnot⟩
  | case3 points level n hn hlt hle ih =>
      obtain ⟨hlost, hpaid⟩ := ih (by omega)
      obtain ⟨hup, -⟩ := climb_level price (points - n) (show level + 1 ≤ top by omega)
      refine ⟨hlost, fun hnot => ?_⟩
      have hrest := hpaid hnot
      rw [cost_succ (by omega) hn]
      omega
  | case4 points level n hn hlt _ =>
      refine ⟨fun hlost => ?_, fun _ => ?_⟩
      · have heq : level = top := hlost.1
        omega
      · show cost price level level + points = points
        rw [cost_self, Nat.zero_add]

/-- **What is left does not buy the next level.** -/
theorem climb_below {n : Nat} (hlt : (climb price top points level).2 < top)
    (hn : price (climb price top points level).2 = some n) :
    (climb price top points level).1 < n := by
  fun_induction climb price top points level with
  | case1 points level hnone =>
      rw [hnone] at hn
      cases hn
  | case2 points level m _ htop =>
      have hlevel : level < top := hlt
      omega
  | case3 points level m _ _ _ ih => exact ih hlt hn
  | case4 points level m hm _ hless =>
      obtain rfl : m = n := Option.some.inj (hm.symm.trans hn)
      show points < m
      omega

/-- **Points that come later** are climbed with from where the first ones led. -/
theorem climb_add (more : Nat) :
    climb price top (points + more) level
      = climb price top ((climb price top points level).1 + more)
          (climb price top points level).2 := by
  fun_induction climb price top points level with
  | case1 => rfl
  | case2 points level n hn htop =>
      -- at the top both lose everything
      show climb price top (points + more) level = climb price top (0 + more) level
      rw [climb, climb, hn]
      simp only [if_pos htop]
  | case3 points level n hn hlt hle ih =>
      have hmore : points + more - n = points - n + more := by omega
      rw [climb, hn]
      simp only [if_neg hlt, if_pos (Nat.le_add_right_of_le hle), hmore]
      exact ih
  | case4 => rfl

/-- A climb ends at a level without a price. -/
theorem climb_of_none (h : price level = none) : climb price top points level = (points, level) := by
  rw [climb, h]

/-- At a top with a price nothing is left. -/
theorem climb_of_lost (h : Lost price top level) : climb price top points level = (0, level) := by
  obtain ⟨rfl, hsome⟩ := h
  obtain ⟨n, hn⟩ := Option.isSome_iff_exists.mp hsome
  rw [climb, hn]
  simp only [if_pos (Nat.le_refl level)]

end Ladder
