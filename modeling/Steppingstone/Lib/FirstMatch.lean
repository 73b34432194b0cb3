/-
  Steppingstone.Lib.FirstMatch — taking the first element that matches out of a list.

  Several queues that are kept in one list, each element with its queue, are read this way: the first
  match of a queue is its head.
-/
import Mathlib.Data.List.Basic

namespace FirstMatch

variable {α β : Type*} {p q : α → Bool} {l : List α} {a : α}

/-- The first match, with what stands before it and behind. -/
theorem find?_split (h : l.find? p = some a) :
    ∃ pre post, l = pre ++ a :: post ∧ l.eraseP p = pre ++ post ∧ p a = true ∧
      ∀ x ∈ pre, p x = false := by
  induction l with
  | nil => cases h
  | cons x xs ih =>
      by_cases hx : p x = true
      · rw [List.find?_cons_of_pos hx] at h
        rw [← Option.some.inj h]
        refine ⟨[], xs, rfl, ?_, hx, ?_⟩
        · rw [List.eraseP_cons_of_pos hx]
          rfl
        · intro y hy
          exact absurd hy List.not_mem_nil
      · rw [List.find?_cons_of_neg hx] at h
        obtain ⟨pre, post, heq, herase, ha, hpre⟩ := ih h
        refine ⟨x :: pre, post, ?_, ?_, ha, ?_⟩
        · rw [heq]
          rfl
        · rw [List.eraseP_cons_of_neg hx, herase]
          rfl
        · intro y hy
          cases List.mem_cons.mp hy with
          | inl heq => exact heq ▸ Bool.eq_false_iff.mpr hx
          | inr hin => exact hpre y hin

/-- Of those that match, the first one is gone. -/
theorem filter_eraseP (l : List α) : (l.eraseP p).filter p = (l.filter p).tail := by
  induction l with
  | nil => rfl
  | cons x xs ih =>
      by_cases hx : p x = true
      · rw [List.eraseP_cons_of_pos hx, List.filter_cons_of_pos hx]
        rfl
      · rw [List.eraseP_cons_of_neg hx, List.filter_cons_of_neg hx, List.filter_cons_of_neg hx, ih]

/-- Of the others, none is gone. -/
theorem filter_eraseP_of_disjoint (hpq : ∀ x, p x = true → q x = false) (l : List α) :
    (l.eraseP p).filter q = l.filter q := by
  induction l with
  | nil => rfl
  | cons x xs ih =>
      by_cases hx : p x = true
      · rw [List.eraseP_cons_of_pos hx, List.filter_cons_of_neg]
        rw [hpq x hx]
        exact Bool.false_ne_true
      · rw [List.eraseP_cons_of_neg hx]
        by_cases hq : q x = true
        · rw [List.filter_cons_of_pos hq, List.filter_cons_of_pos hq, ih]
        · rw [List.filter_cons_of_neg hq, List.filter_cons_of_neg hq, ih]

/-- Behind elements of one image, one more of that image may as well stand first. -/
theorem map_append_cons (f : α → β) (b : β) (rest : List β) (h : ∀ x ∈ l, f x = b) :
    l.map f ++ b :: rest = b :: (l.map f ++ rest) := by
  induction l with
  | nil => rfl
  | cons x xs ih =>
      have hx : f x = b := h x List.mem_cons_self
      have htail := ih fun y hy => h y (List.mem_cons_of_mem x hy)
      show f x :: (xs.map f ++ b :: rest) = b :: f x :: (xs.map f ++ rest)
      rw [htail, hx]

end FirstMatch
