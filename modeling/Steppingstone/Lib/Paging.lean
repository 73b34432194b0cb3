/-
  Steppingstone.Lib.Paging — reading a table page by page, in the order of a key.

  A reader asks for the first `n` rows whose key is above a bound, moves the bound
  to the last key it got, and goes on while the pages are full.
-/
import Mathlib.Data.List.Basic
import Mathlib.Data.List.Forall2
import Mathlib.Order.Basic

namespace Paging

variable {R : Type*} (key : R → Int) (n : Nat)

/-! ## §1. Pages. -/

/-- The rows above the bound, by key. -/
def rowsAbove (bound : Int) (rows : List R) : List R :=
  (rows.filter (fun r => bound < key r)).mergeSort (fun a b => key a ≤ key b)

/-- The first `n` rows above the bound. -/
def page (bound : Int) (rows : List R) : List R :=
  (rowsAbove key bound rows).take n

/-- The bound after a page. -/
def nextBound (bound : Int) (p : List R) : Int :=
  (p.getLast?.map key).getD bound

/-- Pages are read while they are full. -/
def readPages : Nat → Int → List R → List R
  | 0, _, _ => []
  | fuel + 1, bound, rows =>
      let p := page key n bound rows
      if p.length < n then p else p ++ readPages fuel (nextBound key bound p) rows

variable {key n} {bound : Int} {rows : List R}

theorem mem_rowsAbove {r : R} : r ∈ rowsAbove key bound rows ↔ r ∈ rows ∧ bound < key r := by
  unfold rowsAbove
  rw [List.mem_mergeSort, List.mem_filter, decide_eq_true_eq]

theorem length_rowsAbove :
    (rowsAbove key bound rows).length = (rows.filter (fun r => bound < key r)).length :=
  List.length_mergeSort ..

theorem pairwise_rowsAbove : (rowsAbove key bound rows).Pairwise (fun a b => key a ≤ key b) := by
  have h : (rowsAbove key bound rows).Pairwise (fun a b => decide (key a ≤ key b) = true) :=
    List.pairwise_mergeSort
      (by intro a b c; simp only [decide_eq_true_eq]; omega)
      (by intro a b; simp only [Bool.or_eq_true, decide_eq_true_eq]; omega)
      (rows.filter (fun r => bound < key r))
  exact h.imp of_decide_eq_true

/-- The rows of a page are below the next bound. -/
theorem le_nextBound {r : R} (h : r ∈ page key n bound rows) :
    key r ≤ nextBound key bound (page key n bound rows) := by
  have hsorted : (page key n bound rows).Pairwise (fun a b => key a ≤ key b) :=
    pairwise_rowsAbove.sublist (List.take_sublist ..)
  generalize page key n bound rows = p at h hsorted
  have hne : p ≠ [] := List.ne_nil_of_mem h
  have hlast : nextBound key bound p = key (p.getLast hne) := by
    unfold nextBound
    rw [List.getLast?_eq_some_getLast hne]
    rfl
  rw [hlast]
  -- `r` is the last row or comes before it
  rw [← List.dropLast_append_getLast hne] at h hsorted
  obtain hr | hr := List.mem_append.mp h
  · exact (List.pairwise_append.mp hsorted).2.2 r hr _ (List.mem_singleton.mpr rfl)
  · exact Int.le_of_eq (by rw [List.mem_singleton.mp hr])

variable (key n bound rows)

/-- The bound never falls. -/
theorem bound_le_nextBound : bound ≤ nextBound key bound (page key n bound rows) := by
  match hp : page key n bound rows with
  | [] => exact Int.le_refl _
  | r :: p =>
      have hmem : r ∈ page key n bound rows := hp ▸ List.mem_cons_self
      have hlt := (mem_rowsAbove.mp (List.mem_of_mem_take hmem)).2
      have hle := le_nextBound hmem
      rw [hp] at hle
      omega

/-- **What a page takes is gone**: the rows above the next bound are among those that
the page left. -/
theorem length_above_nextBound :
    (page key n bound rows).length +
        (rows.filter (fun r => nextBound key bound (page key n bound rows) < key r)).length
      ≤ (rows.filter (fun r => bound < key r)).length := by
  have hle := bound_le_nextBound key n bound rows
  have htake : ∀ r ∈ page key n bound rows,
      ¬ nextBound key bound (page key n bound rows) < key r :=
    fun r hr => Int.not_lt.mpr (le_nextBound hr)
  generalize nextBound key bound (page key n bound rows) = next at hle htake
  have hfilter : rows.filter (fun r => next < key r)
      = (rows.filter (fun r => bound < key r)).filter (fun r => next < key r) := by
    rw [List.filter_filter]
    refine List.filter_congr fun r _ => ?_
    by_cases h : next < key r
    · have hb : bound < key r := by omega
      simp [h, hb]
    · simp [h]
  have hperm := (List.mergeSort_perm (rows.filter (fun r => bound < key r))
    (fun a b => decide (key a ≤ key b))).filter (fun r => next < key r)
  have hsplit : (rowsAbove key bound rows).filter (fun r => next < key r)
      = ((rowsAbove key bound rows).drop n).filter (fun r => next < key r) := by
    conv_lhs => rw [← List.take_append_drop n (rowsAbove key bound rows)]
    rw [List.filter_append]
    have hnil : (page key n bound rows).filter (fun r => next < key r) = [] :=
      List.filter_eq_nil_iff.mpr fun r hr h => htake r hr (of_decide_eq_true h)
    show (page key n bound rows).filter _ ++ _ = _
    rw [hnil, List.nil_append]
  have hlen := List.length_filter_le (fun r => decide (next < key r))
    ((rowsAbove key bound rows).drop n)
  have hdrop : (page key n bound rows).length + ((rowsAbove key bound rows).drop n).length
      = (rows.filter (fun r => bound < key r)).length := by
    rw [← length_rowsAbove, ← List.length_append]
    exact congrArg _ (List.take_append_drop n _)
  rw [hfilter, ← hperm.length_eq]
  show _ + ((rowsAbove key bound rows).filter _).length ≤ _
  rw [hsplit]
  omega

/-! ## §2. All pages. -/

variable {key n rows}

/-- No more is read than the rows above the bound. -/
theorem length_readPages_le (fuel : Nat) (bound : Int) :
    (readPages key n fuel bound rows).length ≤ (rows.filter (fun r => bound < key r)).length := by
  induction fuel generalizing bound with
  | zero => exact Nat.zero_le _
  | succ fuel ih =>
      have hpage := length_above_nextBound key n bound rows
      show (if _ then _ else _ : List R).length ≤ _
      split
      · omega
      · rw [List.length_append]
        have := ih (nextBound key bound (page key n bound rows))
        omega

/-- **An increasing table is read as a whole**, in its order. -/
theorem readPages_of_increasing (hn : 0 < n) {pre suf : List R} {fuel : Nat} {bound : Int}
    (hrows : rows = pre ++ suf) (hsorted : suf.Pairwise (fun a b => key a < key b))
    (hpre : ∀ r ∈ pre, key r ≤ bound) (hsuf : ∀ r ∈ suf, bound < key r)
    (hfuel : suf.length < fuel) : readPages key n fuel bound rows = suf := by
  induction fuel generalizing pre suf bound with
  | zero => omega
  | succ fuel ih =>
      have habove : rowsAbove key bound rows = suf := by
        have hfilter : rows.filter (fun r => bound < key r) = suf := by
          rw [hrows, List.filter_append]
          have h1 : pre.filter (fun r => bound < key r) = [] :=
            List.filter_eq_nil_iff.mpr fun r hr h =>
              Int.not_lt.mpr (hpre r hr) (of_decide_eq_true h)
          have h2 : suf.filter (fun r => bound < key r) = suf :=
            List.filter_eq_self.mpr fun r hr => decide_eq_true (hsuf r hr)
          rw [h1, h2, List.nil_append]
        unfold rowsAbove
        rw [hfilter]
        exact List.mergeSort_of_pairwise (hsorted.imp fun h => decide_eq_true (Int.le_of_lt h))
      have hpage : page key n bound rows = suf.take n := by
        unfold page
        rw [habove]
      show (if _ then _ else _) = suf
      rw [hpage]
      split
      · rename_i hlt
        rw [List.length_take] at hlt
        exact List.take_of_length_le (by omega)
      · rename_i hge
        rw [List.length_take] at hge
        -- the next page starts after the rows of this one
        have hne : suf.take n ≠ [] := by
          intro hnil
          have := congrArg List.length hnil
          rw [List.length_take, List.length_nil] at this
          omega
        have hsplit := List.pairwise_append.mp ((List.take_append_drop n suf).symm ▸ hsorted)
        have hnext : nextBound key bound (suf.take n) = key ((suf.take n).getLast hne) := by
          unfold nextBound
          rw [List.getLast?_eq_some_getLast hne]
          rfl
        have hrows' : rows = (pre ++ suf.take n) ++ suf.drop n := by
          rw [hrows, List.append_assoc, List.take_append_drop]
        rw [ih hrows' hsplit.2.1 ?_ ?_ (by rw [List.length_drop]; omega)]
        · exact List.take_append_drop n suf
        · intro r hr
          obtain hr | hr := List.mem_append.mp hr
          · have hlt := hsuf _ (List.mem_of_mem_take (List.getLast_mem hne))
            have := hpre r hr
            rw [hnext]
            omega
          · rw [← hpage] at hr ⊢
            exact le_nextBound hr
        · intro r hr
          rw [hnext]
          exact hsplit.2.2 _ (List.getLast_mem hne) r hr

/-! ## §3. Decoding. -/

/-- A list that is decoded as a whole is decoded element by element. -/
theorem mapM_eq_some {A : Type*} {f : R → Option A} {l : List R} {l' : List A} :
    l.mapM f = some l' ↔ List.Forall₂ (fun r a => f r = some a) l l' := by
  induction l generalizing l' with
  | nil =>
      show some [] = some l' ↔ _
      rw [Option.some.injEq, List.forall₂_nil_left_iff, eq_comm]
  | cons r l ih =>
      rw [List.mapM_cons, List.forall₂_cons_left_iff]
      show ((f r).bind fun a => (l.mapM f).bind fun as => some (a :: as)) = some l' ↔ _
      simp only [Option.bind_eq_some_iff, Option.some.injEq, ih]
      constructor
      · intro h
        obtain ⟨a, ha, as, has, heq⟩ := h
        exact ⟨a, as, ha, has, heq.symm⟩
      · intro h
        obtain ⟨a, as, ha, has, heq⟩ := h
        exact ⟨a, ha, as, has, heq.symm⟩

end Paging
