/-
  Steppingstone.Lib.SecondaryIndex — a map and an index into it by a field of its values.

  The index should name, for every value of the field, the one key whose entry has it.  An entry
  that comes has to be put into both; an entry that changes may leave the index alone exactly if
  the field stays.
-/
import Mathlib.Logic.Function.Basic

namespace SecondaryIndex

variable {κ ν α : Type*} [DecidableEq κ] {field : α → ν} {m : κ → Option α}
  {index : ν → Option κ}

/-- The index finds a key exactly if its entry has that field. -/
def Agrees (field : α → ν) (m : κ → Option α) (index : ν → Option κ) : Prop :=
  ∀ n k, index n = some k ↔ ∃ v, m k = some v ∧ field v = n

/-- No two entries have the same field. -/
def Distinct (field : α → ν) (m : κ → Option α) : Prop :=
  ∀ k k' v v', m k = some v → m k' = some v' → field v = field v' → k = k'

/-- A field that a new entry may have is not in the index. -/
theorem Agrees.eq_none (h : Agrees field m index) {k : κ} {v : α} (hk : m k = none)
    (hdistinct : Distinct field (Function.update m k (some v))) : index (field v) = none := by
  match hindex : index (field v) with
  | none => rfl
  | some k' =>
      obtain ⟨v', hv', hfield⟩ := (h _ _).mp hindex
      have hne : k' ≠ k := by
        intro he
        rw [he, hk] at hv'
        cases hv'
      have hother : Function.update m k (some v) k' = some v' := by
        rw [Function.update_of_ne hne]
        exact hv'
      exact absurd (hdistinct k' k v' v hother (Function.update_self ..) hfield) hne

/-- **A new entry** is put into the map and into the index. -/
theorem Agrees.add [DecidableEq ν] (h : Agrees field m index) {k : κ} {v : α}
    (hk : m k = none) (hv : index (field v) = none) :
    Agrees field (Function.update m k (some v)) (Function.update index (field v) (some k)) := by
  intro n k'
  by_cases hn : n = field v
  · rw [hn, Function.update_self]
    constructor
    · intro hkey
      rw [← Option.some.inj hkey, Function.update_self]
      exact ⟨v, rfl, rfl⟩
    · intro hentry
      obtain ⟨w, hw, hfield⟩ := hentry
      -- only the new entry has the field
      by_cases he : k' = k
      · rw [he]
      · -- the field was not in the index before
        rw [Function.update_of_ne he] at hw
        have hindex := (h (field v) k').mpr ⟨w, hw, hfield⟩
        rw [hv] at hindex
        cases hindex
  · -- the index stays under another field, which the new entry has not
    rw [Function.update_of_ne hn, h n k']
    by_cases he : k' = k
    · rw [he, Function.update_self, hk]
      constructor
      · intro hentry
        obtain ⟨w, hw, -⟩ := hentry
        cases hw
      · intro hentry
        obtain ⟨w, hw, hfield⟩ := hentry
        rw [← Option.some.inj hw] at hfield
        exact absurd hfield.symm hn
    · rw [Function.update_of_ne he]

/-- **A changed entry** leaves the index right exactly if its field stays. -/
theorem Agrees.change_iff (h : Agrees field m index) {k : κ} {u v : α} (hk : m k = some u) :
    Agrees field (Function.update m k (some v)) index ↔ field v = field u := by
  constructor
  · intro h'
    -- the new field leads to the key, and did so before
    have hindex := (h' (field v) k).mpr ⟨v, Function.update_self .., rfl⟩
    obtain ⟨w, hw, hfield⟩ := (h (field v) k).mp hindex
    rw [hk] at hw
    rw [← hfield, ← Option.some.inj hw]
  · intro hsame n k'
    rw [h n k']
    by_cases he : k' = k
    · rw [he, Function.update_self, hk]
      constructor
      · intro hentry
        obtain ⟨w, hw, hfield⟩ := hentry
        exact ⟨v, rfl, by rw [hsame, Option.some.inj hw, hfield]⟩
      · intro hentry
        obtain ⟨w, hw, hfield⟩ := hentry
        exact ⟨u, rfl, by rw [← hsame, Option.some.inj hw, hfield]⟩
    · rw [Function.update_of_ne he]

end SecondaryIndex
