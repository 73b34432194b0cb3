/-
  Steppingstone.Lib.Shares — what the members of a finite family hold together.

  Every member holds a multiset; only one member changes at a time.  Where all of
  them together hold at most one thing, and that thing has a known value, what is
  held lies below a singleton.
-/
import Mathlib.Algebra.BigOperators.Group.Finset.Piecewise
import Mathlib.Algebra.Order.BigOperators.Group.Finset
import Mathlib.Algebra.Order.Group.Multiset

namespace Shares

variable {ι σ α : Type*} [Fintype ι] [DecidableEq ι] {hold : σ → Multiset α}

/-! ## §1. A family. -/

/-- What all the members hold. -/
def total (hold : σ → Multiset α) (g : ι → σ) : Multiset α := ∑ i, hold (g i)

/-- What the members other than `i` hold. -/
def others (hold : σ → Multiset α) (g : ι → σ) (i : ι) : Multiset α :=
  ∑ j ∈ Finset.univ.erase i, hold (g j)

/-- One member, and the others. -/
theorem total_eq (g : ι → σ) (i : ι) : total hold g = hold (g i) + others hold g i :=
  (Finset.add_sum_erase Finset.univ (fun j => hold (g j)) (Finset.mem_univ i)).symm

/-- A change of one share leaves the others. -/
theorem others_update (g : ι → σ) (i : ι) (x : σ) :
    others hold (Function.update g i x) i = others hold g i := by
  refine Finset.sum_congr rfl fun j hj => ?_
  rw [Function.update_of_ne (Finset.ne_of_mem_erase hj)]

omit [DecidableEq ι] in
theorem total_congr {g g' : ι → σ} (h : ∀ i, hold (g' i) = hold (g i)) :
    total hold g' = total hold g :=
  Finset.sum_congr rfl fun i _ => h i

/-! ## §2. What one place holds. -/

/-- What stands in a place that is empty or not. -/
def ofOption (o : Option α) : Multiset α := o.elim 0 ({·})

@[simp] theorem ofOption_none : ofOption (none : Option α) = 0 := rfl

@[simp] theorem ofOption_some (a : α) : ofOption (some a) = {a} := rfl

/-- A place that is taken keeps what it has. -/
theorem ofOption_orElse_le (o o' : Option α) : ofOption (o <|> o') ≤ ofOption o + ofOption o' := by
  cases o with
  | none => exact (zero_add (ofOption o')).ge
  | some a => exact Multiset.le_add_right _ _

/-! ## §3. At most one thing. -/

/-- At most one thing is held, and it has the value `v`. -/
theorem le_singleton_iff {t : Multiset α} {v : α} :
    t ≤ {v} ↔ t.card ≤ 1 ∧ ∀ c ∈ t, c = v := by
  constructor
  · intro h
    exact ⟨Multiset.card_le_card h, fun c hc => Multiset.mem_singleton.mp (Multiset.mem_of_le h hc)⟩
  · rintro ⟨hcard, hall⟩
    rw [Multiset.eq_replicate_of_mem hall, ← Multiset.replicate_one]
    exact Multiset.replicate_mono v hcard

/-- **One thing more**: it has the value, and nothing else was held. -/
theorem cons_le_singleton {t : Multiset α} {c v : α} : c ::ₘ t ≤ {v} ↔ c = v ∧ t = 0 := by
  constructor
  · intro h
    have hc : c = v := Multiset.mem_singleton.mp (Multiset.mem_of_le h (Multiset.mem_cons_self c t))
    refine ⟨hc, ?_⟩
    rw [hc, ← Multiset.cons_zero, Multiset.cons_le_cons_iff] at h
    exact Multiset.le_zero.mp h
  · rintro ⟨rfl, rfl⟩
    exact le_rfl

end Shares
