/-
  Steppingstone.Lib.Lookup — looking up a key after a change, in a tree map or in a map that is a
  function.

  The keys are compared by equality, as a reader of an invariant wants them.
-/
import Mathlib.Logic.Function.Basic
import Mathlib.Tactic.Common

namespace Lookup

open Std (TreeMap LawfulEqOrd TransOrd)

variable {κ α : Type*} [Ord κ] [TransOrd κ] [LawfulEqOrd κ] [DecidableEq κ]

/-- The key that is written, and all the others. -/
theorem getElem?_insert (m : TreeMap κ α) (k k' : κ) (v : α) :
    (m.insert k v)[k']? = if k' = k then some v else m[k']? := by
  rw [TreeMap.getElem?_insert]
  by_cases hk : k' = k
  · rw [if_pos hk, if_pos (by rw [hk]; exact Std.ReflCmp.compare_self)]
  · rw [if_neg hk, if_neg]
    intro he
    exact hk (Std.LawfulEqCmp.eq_of_compare he).symm

/-- The key that is taken out, and all the others. -/
theorem getElem?_erase (m : TreeMap κ α) (k k' : κ) :
    (m.erase k)[k']? = if k' = k then none else m[k']? := by
  rw [TreeMap.getElem?_erase]
  by_cases hk : k' = k
  · rw [if_pos hk, if_pos (by rw [hk]; exact Std.ReflCmp.compare_self)]
  · rw [if_neg hk, if_neg]
    intro he
    exact hk (Std.LawfulEqCmp.eq_of_compare he).symm

/-- Several keys are written, all with one value. -/
theorem getElem?_foldl_insert (ks : List κ) (m : TreeMap κ α) (k : κ) (v : α) :
    (ks.foldl (fun m k => m.insert k v) m)[k]? = if k ∈ ks then some v else m[k]? := by
  induction ks generalizing m with
  | nil => rfl
  | cons x ks ih =>
      rw [List.foldl_cons, ih, getElem?_insert]
      by_cases hin : k ∈ ks
      · rw [if_pos hin, if_pos (List.mem_cons_of_mem x hin)]
      · rw [if_neg hin]
        by_cases hk : k = x
        · rw [if_pos hk, if_pos (hk ▸ List.mem_cons_self)]
        · rw [if_neg hk, if_neg]
          intro hcons
          obtain he | hin' := List.mem_cons.mp hcons
          · exact hk he
          · exact hin hin'

omit [DecidableEq κ] in
/-- The entries of the list are those that are found. -/
theorem mem_toList (m : TreeMap κ α) (e : κ × α) : e ∈ m.toList ↔ m[e.1]? = some e.2 :=
  TreeMap.mem_toList_iff_getElem?_eq_some

/-- The first entry of a key in the list is what is found under it. -/
theorem find?_toList (m : TreeMap κ α) (k : κ) :
    (m.toList.find? fun e => e.1 = k).map (·.2) = m[k]? := by
  cases h : m.toList.find? fun e => e.1 = k with
  | some e =>
      have hkey : e.1 = k := by simpa using List.find?_some h
      show some e.2 = m[k]?
      rw [← hkey]
      exact ((mem_toList m e).mp (List.mem_of_find?_eq_some h)).symm
  | none =>
      show none = m[k]?
      cases hv : m[k]? with
      | none => rfl
      | some v =>
          have hmem : (k, v) ∈ m.toList := (mem_toList m (k, v)).mpr hv
          exact absurd (decide_eq_true rfl) (List.find?_eq_none.mp h (k, v) hmem)

/-- Several entries are added, as `std::map::insert` adds them: what is there stays. -/
theorem getElem?_foldl_insertIfNew (es : List (κ × α)) (m : TreeMap κ α) (k : κ) :
    (es.foldl (fun m e => m.insertIfNew e.1 e.2) m)[k]?
      = m[k]?.or ((es.find? fun e => e.1 = k).map (·.2)) := by
  induction es generalizing m with
  | nil => exact Option.or_none.symm
  | cons x es ih =>
      have hstep : (m.insertIfNew x.1 x.2)[k]? =
          if x.1 = k ∧ ¬ x.1 ∈ m then some x.2 else m[k]? := by
        rw [TreeMap.getElem?_insertIfNew]
        by_cases hk : x.1 = k
        · simp [hk]
        · have hne : compare x.1 k ≠ .eq := fun he => hk (Std.LawfulEqCmp.eq_of_compare he)
          simp [hk, hne]
      rw [List.foldl_cons, ih, hstep, List.find?_cons]
      by_cases hk : x.1 = k
      · rw [decide_eq_true hk]
        by_cases hin : x.1 ∈ m
        · have hsome : m[k]?.isSome = true := by
            rw [← hk]
            exact TreeMap.isSome_getElem?_iff_mem.mpr hin
          obtain ⟨v, hv⟩ := Option.isSome_iff_exists.mp hsome
          rw [if_neg (fun h => h.2 hin), hv]
          rfl
        · have hnone : m[k]? = none := by
            rw [← hk]
            exact TreeMap.getElem?_eq_none hin
          rw [if_pos ⟨hk, hin⟩, hnone]
          rfl
      · rw [decide_eq_false hk, if_neg fun h => hk h.1]

/-! ## §2. Maps that are functions. -/

section Function

variable {ι β : Type*} [DecidableEq ι] {m : ι → Option β} {i k : ι} {v w : β}

/-- What is found is the new entry, or was there under another key. -/
theorem update_some : Function.update m i (some v) k = some w ↔
    (k = i ∧ w = v) ∨ (k ≠ i ∧ m k = some w) := by
  by_cases hk : k = i
  · rw [hk, Function.update_self, Option.some.injEq]
    exact ⟨fun h => .inl ⟨rfl, h.symm⟩, fun h => (h.resolve_right fun h => h.1 rfl).2.symm⟩
  · rw [Function.update_of_ne hk]
    exact ⟨fun h => .inr ⟨hk, h⟩, fun h => (h.resolve_left fun h => hk h.1).2⟩

/-- What is found was there under another key. -/
theorem update_none : Function.update m i none k = some w ↔ k ≠ i ∧ m k = some w := by
  by_cases hk : k = i
  · rw [hk, Function.update_self]
    exact ⟨fun h => absurd h (Option.some_ne_none w).symm, fun h => absurd rfl h.1⟩
  · rw [Function.update_of_ne hk]
    exact ⟨fun h => ⟨hk, h⟩, fun h => h.2⟩

theorem isSome_of_update_none (h : (Function.update m i none k).isSome) : (m k).isSome := by
  obtain ⟨w, hw⟩ := Option.isSome_iff_exists.mp h
  rw [(update_none.mp hw).2]
  rfl

end Function

end Lookup
