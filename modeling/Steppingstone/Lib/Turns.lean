/-
  Steppingstone.Lib.Turns — lists in which two values take turns.
-/
import Mathlib.Data.List.Basic
import Mathlib.Data.List.Induction

namespace Turns

variable {α : Type*}

/-- `x`, `y`, `x`, and so on. -/
def Alternate (x y : α) : List α → Prop
  | [] => True
  | z :: zs => z = x ∧ Alternate y x zs

variable {x y z : α} {zs : List α}

theorem mem_alternate (h : Alternate x y zs) : ∀ w ∈ zs, w = x ∨ w = y := by
  induction zs generalizing x y with
  | nil =>
      intro w hw
      exact absurd hw List.not_mem_nil
  | cons z zs ih =>
      intro w hw
      cases List.mem_cons.mp hw with
      | inl heq => exact .inl (heq.trans h.1)
      | inr hrest => exact (ih h.2 w hrest).symm

variable [DecidableEq α]

/-- The value that is to come after a list that ends in this. -/
def next (x y : α) (last : Option α) : α := if last = some x then y else x

/-- In a list that starts with the other value, the turns are the same. -/
theorem next_swap (hne : x ≠ y) (h : Alternate y x zs) :
    next y x zs.getLast? = next x y (x :: zs).getLast? := by
  induction zs using List.reverseRecOn with
  | nil =>
      show (if (none : Option α) = some y then x else y) = if some x = some x then y else x
      rw [if_pos rfl, if_neg (by simp)]
  | append_singleton zs w _ =>
      have hlast : (x :: (zs ++ [w])).getLast? = some w := by
        rw [← List.cons_append, List.getLast?_append]
        rfl
      have hlast' : (zs ++ [w]).getLast? = some w := by
        rw [List.getLast?_append]
        rfl
      rw [hlast, hlast']
      unfold next
      -- the last value is one of the two, so exactly one of the tests is met
      cases mem_alternate h w (List.mem_append_right _ List.mem_cons_self) with
      | inl heq =>
          rw [heq, if_pos rfl, if_neg fun h => hne (Option.some.inj h).symm]
      | inr heq =>
          rw [heq, if_pos rfl, if_neg fun h => hne (Option.some.inj h)]

/-- **One more value**: it has to be the other one than the last. -/
theorem alternate_snoc (hne : x ≠ y) :
    Alternate x y (zs ++ [z]) ↔ Alternate x y zs ∧ z = next x y zs.getLast? := by
  induction zs generalizing x y with
  | nil =>
      show z = x ∧ True ↔ True ∧ z = next x y none
      rw [and_true, true_and]
      rfl
  | cons w zs ih =>
      show w = x ∧ Alternate y x (zs ++ [z]) ↔ (w = x ∧ Alternate y x zs) ∧ _
      rw [ih hne.symm, and_assoc]
      apply and_congr_right
      intro hw
      apply and_congr_right
      intro halt
      rw [hw, next_swap hne halt]

end Turns
