/-
  Steppingstone.Lib.MapSum — the sum of a measure over the values of a map.

  A counter beside a map is right as long as it moves with this sum.  A key that gets a new value
  moves it by the difference of the two; the equation adds on both sides, so that it also says what
  happens when the sum falls.
-/
import Mathlib.Tactic.Ring
import Std.Data.TreeMap.Lemmas

namespace MapSum

open Std (TreeMap TransOrd LawfulEqOrd)

variable {α β : Type}

/-- The sum of `f` over the values. -/
def total [Ord α] (f : β → Nat) (m : TreeMap α β) : Nat := m.foldl (fun n _ v => n + f v) 0

theorem total_eq_sum [Ord α] (f : β → Nat) (m : TreeMap α β) :
    total f m = (m.toList.map fun e => f e.2).sum := by
  have hfold : ∀ (l : List (α × β)) (n : Nat),
      l.foldl (fun n e => n + f e.2) n = n + (l.map fun e => f e.2).sum := by
    intro l
    induction l with
    | nil => exact fun n => rfl
    | cons e l ih =>
        intro n
        rw [List.foldl_cons, ih, List.map_cons, List.sum_cons, Nat.add_assoc]
  unfold total
  rw [TreeMap.foldl_eq_foldl_toList, hfold, Nat.zero_add]

/-! ## Taking one key out. -/

/-- The value of a key and the values of the others. -/
theorem sum_of_mem [BEq α] [LawfulBEq α] (f : β → Nat) {l : List (α × β)} {k : α} {v : β}
    (hkeys : l.Pairwise fun a b => a.1 ≠ b.1) (h : (k, v) ∈ l) :
    (l.map fun e => f e.2).sum
      = f v + ((l.filter fun e => ¬ (k == e.1) = true).map fun e => f e.2).sum := by
  induction l with
  | nil => exact absurd h List.not_mem_nil
  | cons e l ih =>
      obtain ⟨hhead, htail⟩ := List.pairwise_cons.mp hkeys
      match List.mem_cons.mp h with
      | Or.inl hfirst =>
          -- the others have other keys
          have hothers : l.filter (fun e => ¬ (k == e.1) = true) = l := by
            refine List.filter_eq_self.mpr fun a ha => ?_
            have hne : k ≠ a.1 := by
              have hne := hhead a ha
              rwa [← hfirst] at hne
            simp [hne]
          rw [← hfirst, List.map_cons, List.sum_cons, List.filter_cons_of_neg (by simp), hothers]
      | Or.inr hlater =>
          have hne : e.1 ≠ k := hhead (k, v) hlater
          rw [List.map_cons, List.sum_cons, List.filter_cons_of_pos (by simp [hne.symm]),
            List.map_cons, List.sum_cons, ih htail hlater]
          omega

section

variable [Ord α] [TransOrd α] [LawfulEqOrd α] [BEq α] [LawfulBEq α] (f : β → Nat) (m : TreeMap α β)

/-- The sum over the other keys. -/
theorem total_eq_add (k : α) :
    total f m = ((m[k]?).map f).getD 0
      + ((m.toList.filter fun e => ¬ (k == e.1) = true).map fun e => f e.2).sum := by
  have hkeys : m.toList.Pairwise fun a b => a.1 ≠ b.1 := by
    refine m.distinct_keys_toList.imp fun hne he => hne ?_
    rw [he]
    exact Std.ReflOrd.compare_self
  rw [total_eq_sum]
  match hk : m[k]? with
  | some v => exact sum_of_mem f hkeys (TreeMap.mem_toList_iff_getElem?_eq_some.mpr hk)
  | none =>
      have hothers : m.toList.filter (fun e => ¬ (k == e.1) = true) = m.toList := by
        refine List.filter_eq_self.mpr fun e he => ?_
        have hne : k ≠ e.1 := by
          intro hsame
          rw [hsame, TreeMap.mem_toList_iff_getElem?_eq_some.mp he] at hk
          cases hk
        simp [hne]
      rw [hothers]
      exact (Nat.zero_add _).symm

/-- **A key that gets a value**: the old value goes and the new one comes. -/
theorem total_insert (k : α) (v : β) :
    total f (m.insert k v) + ((m[k]?).map f).getD 0 = total f m + f v := by
  have hinsert : total f (m.insert k v) = f v
      + ((m.toList.filter fun e => ¬ (k == e.1) = true).map fun e => f e.2).sum := by
    rw [total_eq_sum, (TreeMap.toList_insert_perm.map _).sum_nat]
    rfl
  have hold := total_eq_add f m k
  omega

end

end MapSum
