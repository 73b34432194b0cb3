/-
  Steppingstone.Lib.NestedMap — ordered maps of ordered maps, seen as one map
  with two keys.

  `entry m a b` is the value under the outer key `a` and the inner key `b`.
  The lemmas say how an insertion or an erasure at either level changes it.
-/
import Mathlib.Tactic.Common

open Std (TreeMap TransCmp LawfulEqCmp LawfulEqOrd TransOrd)

namespace NestedMap

variable {α β γ : Type*} [Ord α] [Ord β]

/-- The value under an outer and an inner key. -/
def entry (m : TreeMap α (TreeMap β γ)) (a : α) (b : β) : Option γ :=
  (m[a]?).bind (fun t => t[b]?)

/-- All values, in the order of the keys. -/
def values (m : TreeMap α (TreeMap β γ)) : List γ :=
  m.toList.flatMap (fun p => p.2.toList.map Prod.snd)

theorem entry_of_getElem? {m : TreeMap α (TreeMap β γ)} {a : α} {t : TreeMap β γ}
    (h : m[a]? = some t) (b : β) : entry m a b = t[b]? := by
  simp [entry, h]

/-- An entry is one of an inner map. -/
theorem entry_eq_some {m : TreeMap α (TreeMap β γ)} {a : α} {b : β} {v : γ} :
    entry m a b = some v ↔ ∃ t, m[a]? = some t ∧ t[b]? = some v := by
  simp only [entry, Option.bind_eq_some_iff]

@[simp]
theorem entry_empty [TransOrd α] (a : α) (b : β) :
    entry ({} : TreeMap α (TreeMap β γ)) a b = none := by
  simp [entry]

variable [TransOrd α] [LawfulEqOrd α]

/-- The entries after an inner map was put in. -/
theorem entry_insert [DecidableEq α] (m : TreeMap α (TreeMap β γ)) (a a' : α)
    (t : TreeMap β γ) (b : β) :
    entry (m.insert a t) a' b = if a' = a then t[b]? else entry m a' b := by
  unfold entry
  rw [TreeMap.getElem?_insert]
  by_cases h : a' = a
  · simp [h]
  · have hne : ¬ compare a a' = .eq := by
      intro hc
      exact h (LawfulEqOrd.eq_of_compare hc).symm
    simp [h, hne]

/-- The entries after an inner map was taken out. -/
theorem entry_erase [DecidableEq α] (m : TreeMap α (TreeMap β γ)) (a a' : α) (b : β) :
    entry (m.erase a) a' b = if a' = a then none else entry m a' b := by
  unfold entry
  rw [TreeMap.getElem?_erase]
  by_cases h : a' = a
  · simp [h]
  · have hne : ¬ compare a a' = .eq := by
      intro hc
      exact h (LawfulEqOrd.eq_of_compare hc).symm
    simp [h, hne]

variable [TransOrd β] [LawfulEqOrd β]

/-- Insertion into the inner map `t` of `a`. -/
theorem entry_insert_insert [DecidableEq α] [DecidableEq β] (m : TreeMap α (TreeMap β γ))
    {a : α} {t : TreeMap β γ} (ht : ∀ b, t[b]? = entry m a b) (b : β) (v : γ)
    (a' : α) (b' : β) :
    entry (m.insert a (t.insert b v)) a' b'
      = if a' = a ∧ b' = b then some v else entry m a' b' := by
  rw [entry_insert]
  by_cases ha : a' = a
  · subst ha
    rw [if_pos rfl, TreeMap.getElem?_insert, ht]
    by_cases hb : b' = b
    · simp [hb]
    · have hne : ¬ compare b b' = .eq := by
        intro hc
        exact hb (LawfulEqOrd.eq_of_compare hc).symm
      simp [hb, hne]
  · simp [ha]

/-- Erasure from the inner map `t` of `a`. -/
theorem entry_insert_erase [DecidableEq α] [DecidableEq β] (m : TreeMap α (TreeMap β γ))
    {a : α} {t : TreeMap β γ} (ht : ∀ b, t[b]? = entry m a b) (b : β) (a' : α) (b' : β) :
    entry (m.insert a (t.erase b)) a' b'
      = if a' = a ∧ b' = b then none else entry m a' b' := by
  rw [entry_insert]
  by_cases ha : a' = a
  · subst ha
    rw [if_pos rfl, TreeMap.getElem?_erase, ht]
    by_cases hb : b' = b
    · simp [hb]
    · have hne : ¬ compare b b' = .eq := by
        intro hc
        exact hb (LawfulEqOrd.eq_of_compare hc).symm
      simp [hb, hne]
  · simp [ha]

/-- **Listing**: the values are those of the entries. -/
theorem mem_values {m : TreeMap α (TreeMap β γ)} {v : γ} :
    v ∈ values m ↔ ∃ a b, entry m a b = some v := by
  simp only [values, List.mem_flatMap, List.mem_map, Prod.exists, entry_eq_some,
    TreeMap.mem_toList_iff_getElem?_eq_some]
  constructor
  · rintro ⟨a, t, ht, b, w, hw, rfl⟩
    exact ⟨a, b, t, ht, hw⟩
  · rintro ⟨a, b, t, ht, hv⟩
    exact ⟨a, t, ht, b, v, hv, rfl⟩

end NestedMap
