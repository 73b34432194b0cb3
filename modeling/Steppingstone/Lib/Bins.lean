/-
  Steppingstone.Lib.Bins — values kept in a fixed number of bins.
-/
import Mathlib.Data.List.FinRange
import Mathlib.Data.List.Nodup
import Mathlib.Data.List.Pairwise
import Mathlib.Logic.Function.Basic
import Mathlib.Tactic.Common

namespace Bins

variable {α : Type*} {n : Nat}

/-! ## §1. What the bins hold. -/

/-- All values, bin by bin. -/
def all (bins : Fin n → List α) : List α := (List.finRange n).flatMap bins

/-- A value is added to one bin. -/
def put (bins : Fin n → List α) (i : Fin n) (x : α) : Fin n → List α :=
  Function.update bins i (bins i ++ [x])

variable {bins : Fin n → List α} {x : α}

/-- What is in the bins. -/
theorem mem_all : x ∈ all bins ↔ ∃ i, x ∈ bins i := by
  unfold all
  rw [List.mem_flatMap]
  exact exists_congr fun i => and_iff_right (List.mem_finRange i)

theorem put_self (i : Fin n) : put bins i x i = bins i ++ [x] := Function.update_self ..

theorem put_of_ne {i j : Fin n} (h : j ≠ i) : put bins i x j = bins j := Function.update_of_ne h ..

/-- A bin that is in none of the given ones may change. -/
theorem flatMap_update {i : Fin n} {is : List (Fin n)} (h : i ∉ is) (xs : List α) :
    is.flatMap (Function.update bins i xs) = is.flatMap bins :=
  List.flatMap_congr fun _ hj => Function.update_of_ne (ne_of_mem_of_not_mem hj h) ..

/-- One more in a bin is one more in all. -/
theorem flatMap_put_perm {i : Fin n} {is : List (Fin n)} (hnodup : is.Nodup) (hi : i ∈ is) :
    (is.flatMap (put bins i x)).Perm (x :: is.flatMap bins) := by
  induction is with
  | nil => cases hi
  | cons j is ih =>
      obtain ⟨hj, hrest⟩ := List.nodup_cons.mp hnodup
      rw [List.flatMap_cons, List.flatMap_cons]
      obtain rfl | hi := List.mem_cons.mp hi
      · have hsame : is.flatMap (put bins i x) = is.flatMap bins := flatMap_update hj _
        rw [put_self, hsame, List.append_assoc]
        exact List.perm_middle
      · have hne : j ≠ i := fun heq => hj (heq ▸ hi)
        rw [put_of_ne hne]
        exact ((ih hrest hi).append_left _).trans List.perm_middle

/-- **A value that is put into a bin is added once.** -/
theorem all_put_perm (bins : Fin n → List α) (i : Fin n) (x : α) :
    (all (put bins i x)).Perm (x :: all bins) :=
  flatMap_put_perm (List.nodup_finRange n) (List.mem_finRange i)

/-- A value is in exactly one bin, and once. -/
def HoldsOnce [DecidableEq α] (bins : Fin n → List α) (x : α) : Prop :=
  ∃ i, (bins i).count x = 1 ∧ ∀ j, j ≠ i → x ∉ bins j

/-- **If no value is there twice**, each is in exactly one bin. -/
theorem holdsOnce_of_nodup [DecidableEq α] (hnodup : (all bins).Nodup) (hx : x ∈ all bins) :
    HoldsOnce bins x := by
  obtain ⟨hbin, hapart⟩ := List.nodup_flatMap.mp hnodup
  obtain ⟨i, hi⟩ := mem_all.mp hx
  refine ⟨i, List.count_eq_one_of_mem (hbin i (List.mem_finRange i)) hi, fun j hj hmem => ?_⟩
  have : Std.Symm (Function.onFun List.Disjoint bins) := ⟨fun _ _ h _ hx hy => h hy hx⟩
  exact hapart.forall (List.mem_finRange i) (List.mem_finRange j) hj.symm hi hmem

/-! ## §2. Filling. -/

/-- The bins are filled one after another, each up to the capacity. -/
def fill (capacity : Nat) : List (Fin n) → List α → (Fin n → List α) → Fin n → List α
  | [], _, bins => bins
  | i :: is, xs, bins =>
      fill capacity is (xs.drop capacity) (Function.update bins i (bins i ++ xs.take capacity))

variable {capacity : Nat}

theorem fill_of_notMem {i : Fin n} {is : List (Fin n)} (h : i ∉ is) (xs : List α) :
    fill capacity is xs bins i = bins i := by
  induction is generalizing xs bins with
  | nil => rfl
  | cons j is ih =>
      rw [List.mem_cons, not_or] at h
      unfold fill
      rw [ih h.2, Function.update_of_ne h.1]

/-- **Empty bins hold the values in order.** -/
theorem flatMap_fill {is : List (Fin n)} (hnodup : is.Nodup) (xs : List α)
    (hempty : ∀ i ∈ is, bins i = []) :
    is.flatMap (fill capacity is xs bins) = xs.take (is.length * capacity) := by
  induction is generalizing xs bins with
  | nil =>
      rw [List.length_nil, Nat.zero_mul, List.take_zero]
      rfl
  | cons i is ih =>
      obtain ⟨hi, hrest⟩ := List.nodup_cons.mp hnodup
      have hfirst : fill capacity (i :: is) xs bins i = xs.take capacity := by
        unfold fill
        rw [fill_of_notMem hi, Function.update_self, hempty i (List.mem_cons_self ..),
          List.nil_append]
      have hothers : ∀ j ∈ is, Function.update bins i (bins i ++ xs.take capacity) j = [] := by
        intro j hj
        rw [Function.update_of_ne (ne_of_mem_of_not_mem hj hi)]
        exact hempty j (List.mem_cons_of_mem _ hj)
      rw [List.flatMap_cons, hfirst]
      unfold fill
      rw [ih hrest _ hothers, ← List.take_add, List.length_cons, Nat.succ_mul, Nat.add_comm]

/-- **No bin is filled above the capacity.** -/
theorem length_fill_le {is : List (Fin n)} (hnodup : is.Nodup) (xs : List α)
    (hempty : ∀ i ∈ is, bins i = []) (hle : ∀ i, (bins i).length ≤ capacity) (i : Fin n) :
    (fill capacity is xs bins i).length ≤ capacity := by
  induction is generalizing xs bins with
  | nil => exact hle i
  | cons j is ih =>
      obtain ⟨hj, hrest⟩ := List.nodup_cons.mp hnodup
      unfold fill
      rw [hempty j (List.mem_cons_self ..), List.nil_append]
      refine ih hrest _ (fun k hk => ?_) fun k => ?_
      · rw [Function.update_of_ne (ne_of_mem_of_not_mem hk hj)]
        exact hempty k (List.mem_cons_of_mem _ hk)
      · by_cases hk : k = j
        · rw [hk, Function.update_self]
          exact List.length_take_le ..
        · rw [Function.update_of_ne hk]
          exact hle k

end Bins
