/-
  Steppingstone.Lib.KeyedFold — folds that touch one key per event.

  A store that is seen through a keyed view, and whose step changes only the
  view at the event's own key, is after a whole list of events, at each key,
  what the events of that key alone make of it.
-/
import Mathlib.Data.List.Basic

/-- Each event acts on the view at its own key, by `act`, and on no other key. -/
structure KeyedStep {M E K V : Type*} (key : E → K) (view : M → K → V)
    (step : M → E → M) (act : V → E → V) : Prop where
  at_key : ∀ m e, view (step m e) (key e) = act (view m (key e)) e
  frame : ∀ m e k, k ≠ key e → view (step m e) k = view m k

namespace KeyedStep

variable {M E K V : Type*} [DecidableEq K] {key : E → K} {view : M → K → V}
  {step : M → E → M} {act : V → E → V}

/-- **Keyed fold**: a key sees only its own events, in their order. -/
theorem foldl (h : KeyedStep key view step act) (es : List E) (m : M) (k : K) :
    view (es.foldl step m) k
      = (es.filter (fun e => key e = k)).foldl act (view m k) := by
  induction es generalizing m with
  | nil => rfl
  | cons e es ih =>
      rw [List.foldl_cons, ih]
      by_cases he : key e = k
      · subst he
        rw [List.filter_cons_of_pos (by simp), List.foldl_cons, h.at_key]
      · rw [List.filter_cons_of_neg (by simpa using he), h.frame m e k (Ne.symm he)]

/-- A key without events keeps its view. -/
theorem foldl_of_forall_ne (h : KeyedStep key view step act) {es : List E} (m : M) {k : K}
    (hk : ∀ e ∈ es, key e ≠ k) : view (es.foldl step m) k = view m k := by
  rw [h.foldl, List.filter_eq_nil_iff.mpr (by simpa using hk), List.foldl_nil]

/-- **One event a key**: with distinct keys, the order of the events does not matter. -/
theorem foldl_of_nodup (h : KeyedStep key view step act) {es : List E}
    (hnd : (es.map key).Nodup) (m : M) {e : E} (he : e ∈ es) :
    view (es.foldl step m) (key e) = act (view m (key e)) e := by
  induction es generalizing m with
  | nil => simp at he
  | cons x xs ih =>
      rw [List.map_cons, List.nodup_cons] at hnd
      rw [List.foldl_cons]
      rcases List.mem_cons.mp he with rfl | hmem
      · have hne : ∀ y ∈ xs, key y ≠ key e := by
          intro y hy hk
          exact hnd.1 (hk ▸ List.mem_map_of_mem hy)
        rw [h.foldl_of_forall_ne _ hne, h.at_key]
      · have hne : key e ≠ key x := by
          intro hk
          exact hnd.1 (hk ▸ List.mem_map_of_mem hmem)
        rw [ih hnd.2 _ hmem, h.frame m x _ hne]

end KeyedStep

/-- With distinct keys, the events of the key of `e` are `e` alone. -/
theorem filter_key_of_nodup {E K : Type*} [DecidableEq K] {key : E → K} {es : List E}
    (hnd : (es.map key).Nodup) {e : E} (he : e ∈ es) :
    es.filter (fun x => key x = key e) = [e] := by
  induction es with
  | nil => simp at he
  | cons x xs ih =>
      rw [List.map_cons, List.nodup_cons] at hnd
      obtain rfl | hmem := List.mem_cons.mp he
      · rw [List.filter_cons_of_pos (by simp)]
        refine congrArg _ (List.filter_eq_nil_iff.mpr ?_)
        intro y hy hk
        exact hnd.1 (of_decide_eq_true hk ▸ List.mem_map_of_mem hy)
      · rw [List.filter_cons_of_neg, ih hnd.2 hmem]
        intro hk
        exact hnd.1 ((of_decide_eq_true hk) ▸ List.mem_map_of_mem hmem)
