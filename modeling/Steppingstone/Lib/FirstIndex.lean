/-
  Steppingstone.Lib.FirstIndex — an index that is filled until a key comes a second time.

  Such an index finds the first item of every key exactly if, from the first repeated key on, no
  key is new.
-/
import Steppingstone.Lib.Lookup

namespace FirstIndex

open Std (TreeMap LawfulEqOrd TransOrd)

variable {κ α : Type*} [Ord κ] [TransOrd κ] [LawfulEqOrd κ] [DecidableEq κ]

omit [TransOrd κ] [LawfulEqOrd κ] [DecidableEq κ] in
/-- Items go in one by one; at the first key that is there already the filling ends. -/
def fill : List (κ × α) → TreeMap κ α → TreeMap κ α
  | [], index => index
  | (key, item) :: items, index =>
      if key ∈ index then index else fill items (index.insert key item)

omit [Ord κ] [TransOrd κ] [LawfulEqOrd κ] in
/-- The first item of a key. -/
def first (items : List (κ × α)) (key : κ) : Option α :=
  (items.find? fun e => e.1 = key).map (·.2)

omit [Ord κ] [TransOrd κ] [LawfulEqOrd κ] [DecidableEq κ] in
/-- Once a key has come that was seen before, only such keys come. -/
def NoneNewAfterRepeat (seen keys : List κ) : Prop :=
  ∀ before key after, keys = before ++ key :: after → key ∈ seen ++ before →
    ∀ key' ∈ after, key' ∈ seen ++ before

omit [Ord κ] [TransOrd κ] [LawfulEqOrd κ] [DecidableEq κ] in
theorem noneNewAfterRepeat_nil (seen : List κ) : NoneNewAfterRepeat seen [] := by
  intro before key after h
  exact absurd h.symm (by simp)

omit [Ord κ] [TransOrd κ] [LawfulEqOrd κ] [DecidableEq κ] in
theorem noneNewAfterRepeat_cons (seen : List κ) (key : κ) (keys : List κ) :
    NoneNewAfterRepeat seen (key :: keys) ↔
      (key ∈ seen → ∀ key' ∈ keys, key' ∈ seen) ∧ NoneNewAfterRepeat (seen ++ [key]) keys := by
  constructor
  · intro h
    constructor
    · intro hkey
      simpa using h [] key keys rfl (by simpa using hkey)
    · intro before k after hsplit hk
      have hcons := h (key :: before) k after (by rw [hsplit, List.cons_append])
      simp only [List.append_assoc, List.singleton_append] at hk ⊢
      exact hcons hk
  · intro h before k after hsplit hk
    cases before with
    | nil =>
        injection hsplit with hhead htail
        rw [List.append_nil] at hk ⊢
        rw [← htail]
        exact h.1 (hhead ▸ hk)
    | cons b before =>
        injection hsplit with hhead htail
        have htl := h.2 before k after htail
        simp only [List.append_assoc, List.singleton_append] at htl
        rw [← hhead] at hk ⊢
        exact htl hk

omit [Ord κ] [TransOrd κ] [LawfulEqOrd κ] [DecidableEq κ] in
/-- After a key that was seen before, all keys must be such. -/
theorem noneNewAfterRepeat_cons_old {seen : List κ} {key : κ} (hkey : key ∈ seen) (keys : List κ) :
    NoneNewAfterRepeat seen (key :: keys) ↔ ∀ key' ∈ keys, key' ∈ seen := by
  rw [noneNewAfterRepeat_cons]
  constructor
  · intro h
    exact h.1 hkey
  · intro h
    refine ⟨fun _ => h, ?_⟩
    intro before k after hsplit _ k' hk'
    have hmem : k' ∈ keys := by
      rw [hsplit]
      simp [hk']
    simp [h k' hmem]

omit [Ord κ] [TransOrd κ] [LawfulEqOrd κ] in
theorem first_cons (key : κ) (item : α) (items : List (κ × α)) (k : κ) :
    first ((key, item) :: items) k = if key = k then some item else first items k := by
  unfold first
  rw [List.find?_cons]
  by_cases hk : key = k <;> simp [hk]

omit [Ord κ] [TransOrd κ] [LawfulEqOrd κ] in
theorem first_eq_none {items : List (κ × α)} {k : κ} :
    first items k = none ↔ k ∉ items.map (·.1) := by
  unfold first
  rw [Option.map_eq_none_iff, List.find?_eq_none]
  constructor
  · intro h hk
    obtain ⟨e, he, hek⟩ := List.mem_map.mp hk
    exact h e he (decide_eq_true hek)
  · intro h e he hek
    exact h (List.mem_map.mpr ⟨e, he, of_decide_eq_true hek⟩)

omit [Ord κ] [TransOrd κ] [LawfulEqOrd κ] in
/-- The first item of a key, where the items are places. -/
theorem first_mapIdx {β : Type*} (keyOf : β → κ) (place : Nat → α) (l : List β) (k : κ) :
    first (l.mapIdx fun j b => (keyOf b, place j)) k
      = (l.findIdx? fun b => keyOf b = k).map place := by
  induction l generalizing place with
  | nil => rfl
  | cons b l ih =>
      rw [List.mapIdx_cons, first_cons, List.findIdx?_cons, ih fun j => place (j + 1)]
      by_cases hk : keyOf b = k
      · rw [if_pos hk, if_pos (decide_eq_true hk)]
        rfl
      · rw [if_neg hk, if_neg (fun he => hk (of_decide_eq_true he)), Option.map_map]
        rfl

omit [LawfulEqOrd κ] in
/-- An index that is left as it is finds the first item of every key, if it has all keys. -/
theorem getElem?_or_first_iff {items : List (κ × α)} {index : TreeMap κ α} :
    (∀ k, index[k]? = index[k]?.or (first items k)) ↔ ∀ k ∈ items.map (·.1), k ∈ index := by
  constructor
  · intro h k hk
    by_contra hnew
    have hfirst := h k
    rw [TreeMap.getElem?_eq_none hnew, Option.none_or] at hfirst
    exact first_eq_none.mp hfirst.symm hk
  · intro h k
    cases hv : index[k]? with
    | some v => rfl
    | none =>
        have hnew : k ∉ index := by
          intro hm
          have hsome := TreeMap.isSome_getElem?_iff_mem.mpr hm
          rw [hv] at hsome
          exact absurd hsome (by simp)
        rw [Option.none_or, first_eq_none.mpr fun hm => hnew (h k hm)]

/-- A new key is found, and nothing else changes. -/
theorem getElem?_insert_or {index : TreeMap κ α} {key : κ} (hkey : key ∉ index) (item : α)
    (items : List (κ × α)) (k : κ) :
    (index.insert key item)[k]?.or (first items k)
      = index[k]?.or (first ((key, item) :: items) k) := by
  rw [Lookup.getElem?_insert, first_cons]
  by_cases hk : k = key
  · rw [if_pos hk, if_pos hk.symm, hk, TreeMap.getElem?_eq_none hkey]
    rfl
  · rw [if_neg hk, if_neg (fun he => hk he.symm)]

/-- **What is found**, in an index with the keys `seen` at first. -/
theorem getElem?_fill_iff (items : List (κ × α)) (index : TreeMap κ α) (seen : List κ)
    (hseen : ∀ k, k ∈ index ↔ k ∈ seen) :
    (∀ k, (fill items index)[k]? = index[k]?.or (first items k)) ↔
      NoneNewAfterRepeat seen (items.map (·.1)) := by
  induction items generalizing index seen with
  | nil =>
      constructor
      · intro _
        exact noneNewAfterRepeat_nil seen
      · intro _ k
        show index[k]? = index[k]?.or none
        rw [Option.or_none]
  | cons e items ih =>
      obtain ⟨key, item⟩ := e
      show (∀ k, (if key ∈ index then index else fill items (index.insert key item))[k]? = _) ↔
        NoneNewAfterRepeat seen (key :: items.map (·.1))
      by_cases hkey : key ∈ index
      · -- the filling ends here: the keys that are there must be all
        rw [if_pos hkey, getElem?_or_first_iff, noneNewAfterRepeat_cons_old ((hseen key).mp hkey),
          List.map_cons, List.forall_mem_cons, and_iff_right hkey]
        exact forall₂_congr fun k _ => hseen k
      · have hnew : key ∉ seen := fun hm => hkey ((hseen key).mpr hm)
        have hseen' : ∀ k, k ∈ index.insert key item ↔ k ∈ seen ++ [key] := by
          intro k
          rw [TreeMap.mem_insert, hseen k, List.mem_append, List.mem_singleton,
            Std.LawfulEqCmp.compare_eq_iff_eq, or_comm, eq_comm]
        rw [if_neg hkey, noneNewAfterRepeat_cons, and_iff_right (fun hm => absurd hm hnew),
          ← ih _ _ hseen']
        exact forall_congr' fun k => by rw [getElem?_insert_or hkey]

/-- **The first item of every key is found** exactly if no key is new after a repeated one. -/
theorem fill_first_iff (items : List (κ × α)) :
    (∀ k, (fill items {})[k]? = first items k) ↔ NoneNewAfterRepeat [] (items.map (·.1)) := by
  rw [← getElem?_fill_iff items {} [] (by simp)]
  refine forall_congr' fun k => ?_
  rw [TreeMap.getElem?_emptyc, Option.none_or]

end FirstIndex
