/-
  Steppingstone.Lib.Rounding — binary floating point, as rounding of rational numbers.

  A number is rounded to `p` binary digits: to the nearest multiple of its last place, to the even
  one of two that are as near.  The exponent is not bounded, so this is a binary format as long as
  nothing overflows and nothing is subnormal.
-/
import Mathlib.Algebra.Order.Floor.Ring
import Mathlib.Data.Int.Log
import Mathlib.Data.Rat.Floor
import Mathlib.Tactic.FieldSimp
import Mathlib.Tactic.Linarith
import Mathlib.Tactic.Positivity
import Mathlib.Tactic.Ring

namespace Rounding

/-! ## §1. The nearest integer. -/

/-- The nearest integer, and the even one of two. -/
def nearestEven (q : ℚ) : ℤ :=
  if q - ⌊q⌋ < 1 / 2 then ⌊q⌋
  else if 1 / 2 < q - ⌊q⌋ then ⌊q⌋ + 1
  else if ⌊q⌋ % 2 = 0 then ⌊q⌋ else ⌊q⌋ + 1

theorem nearestEven_error (q : ℚ) : |(nearestEven q : ℚ) - q| ≤ 1 / 2 := by
  have hlow := Int.floor_le q
  have hhigh := Int.lt_floor_add_one q
  unfold nearestEven
  rw [abs_le]
  split
  · constructor <;> linarith
  · split
    · push_cast
      constructor <;> linarith
    · split
      · constructor <;> linarith
      · push_cast
        constructor <;> linarith

/-- An integer is its own nearest one. -/
theorem nearestEven_intCast (n : ℤ) : nearestEven n = n := by
  unfold nearestEven
  rw [Int.floor_intCast, sub_self, if_pos (by norm_num)]

/-! ## §2. The nearest number of some digits. -/

/-- The last place of a number that is written with `p` binary digits. -/
def lastPlace (p : ℕ) (q : ℚ) : ℚ :=
  2 ^ (Int.log 2 |q| - (p - 1))

/-- The nearest number of `p` binary digits. -/
def rounded (p : ℕ) (q : ℚ) : ℚ :=
  nearestEven (q / lastPlace p q) * lastPlace p q

theorem lastPlace_pos (p : ℕ) (q : ℚ) : 0 < lastPlace p q := by
  unfold lastPlace
  exact zpow_pos two_pos _

/-- Half a last place is a fraction `2 ^ p` of the number, or less. -/
theorem lastPlace_le {p : ℕ} {q : ℚ} (hq : q ≠ 0) : lastPlace p q / 2 ≤ |q| / 2 ^ p := by
  have hlog : (2 : ℚ) ^ Int.log 2 |q| ≤ |q| := Int.zpow_log_le_self Nat.one_lt_two (abs_pos.mpr hq)
  have hplace : lastPlace p q / 2 = 2 ^ Int.log 2 |q| / 2 ^ p := by
    unfold lastPlace
    rw [zpow_sub₀ two_ne_zero, zpow_sub₀ two_ne_zero, zpow_natCast, zpow_one]
    field_simp
  rw [hplace]
  exact div_le_div_of_nonneg_right hlog (by positivity)

/-- **The relative error** of rounding to `p` digits. -/
theorem rounded_error (p : ℕ) (q : ℚ) : |rounded p q - q| ≤ |q| / 2 ^ p := by
  by_cases hq : q = 0
  · have hzero : nearestEven 0 = 0 := by decide +kernel
    subst hq
    simp [rounded, hzero]
  · have hpos := lastPlace_pos p q
    have hfactor : rounded p q - q
        = (nearestEven (q / lastPlace p q) - q / lastPlace p q) * lastPlace p q := by
      unfold rounded
      rw [sub_mul, div_mul_cancel₀ _ hpos.ne']
    calc |rounded p q - q|
        = |(nearestEven (q / lastPlace p q) : ℚ) - q / lastPlace p q| * lastPlace p q := by
          rw [hfactor, abs_mul, abs_of_pos hpos]
      _ ≤ 1 / 2 * lastPlace p q :=
          mul_le_mul_of_nonneg_right (nearestEven_error _) hpos.le
      _ = lastPlace p q / 2 := by ring
      _ ≤ |q| / 2 ^ p := lastPlace_le hq

/-- **An integer of at most `p` digits** is not rounded. -/
theorem rounded_intCast {p : ℕ} {n : ℤ} (h : n.natAbs < 2 ^ p) : rounded p n = n := by
  by_cases hn : n = 0
  · subst hn
    unfold rounded
    rw [Int.cast_zero, zero_div, ← Int.cast_zero, nearestEven_intCast, Int.cast_zero, zero_mul]
  · have hp : Nat.log 2 n.natAbs < p := Nat.log_lt_of_lt_pow (Int.natAbs_ne_zero.mpr hn) h
    have habs : |(n : ℚ)| = (n.natAbs : ℚ) := by
      rw [Nat.cast_natAbs, Int.cast_abs]
    -- the last place divides one
    obtain ⟨k, hk⟩ : ∃ k : ℕ, (k : ℤ) = p - 1 - Nat.log 2 n.natAbs :=
      ⟨p - 1 - Nat.log 2 n.natAbs, by omega⟩
    have hplace : lastPlace p n = ((2 : ℚ) ^ k)⁻¹ := by
      unfold lastPlace
      rw [habs, Int.log_natCast, ← zpow_natCast, ← zpow_neg, hk]
      congr 1
      ring
    have hscaled : (n : ℚ) / lastPlace p n = ((n * 2 ^ k : ℤ) : ℚ) := by
      rw [hplace, div_inv_eq_mul]
      push_cast
      rfl
    unfold rounded
    rw [hscaled, nearestEven_intCast, ← hscaled, div_mul_cancel₀ _ (lastPlace_pos p n).ne']

/-! ## §3. The integer part. -/

/-- The integer part: rounding towards zero. -/
def truncate (q : ℚ) : ℤ :=
  if 0 ≤ q then ⌊q⌋ else ⌈q⌉

theorem truncate_neg (q : ℚ) : truncate (-q) = -truncate q := by
  unfold truncate
  by_cases hzero : q = 0
  · simp [hzero]
  · by_cases hq : 0 ≤ q
    · have hneg : ¬ 0 ≤ -q := by
        intro h
        exact hzero (le_antisymm (by linarith) hq)
      rw [if_pos hq, if_neg hneg, Int.ceil_neg]
    · rw [if_neg hq, if_pos (by linarith), Int.floor_neg]

/-- Near a fraction that is not negative. -/
theorem truncate_near_of_nonneg {n m : ℤ} {q : ℚ} (hn : 0 < n) (hm : 0 ≤ m)
    (h : |q - m / n| < 1 / n) :
    truncate q = m.tdiv n ∨ (n ∣ m ∧ truncate q + m.sign = m.tdiv n) := by
  have hn' : (0 : ℚ) < n := by exact_mod_cast hn
  obtain ⟨hlow, hhigh⟩ := abs_lt.mp h
  have hlow' : (m - 1 : ℚ) < q * n := by
    have hmul : (m / n - 1 / n : ℚ) * n < q * n := mul_lt_mul_of_pos_right (by linarith) hn'
    have heq : (m / n - 1 / n : ℚ) * n = m - 1 := by field_simp
    linarith
  have hhigh' : q * n < (m + 1 : ℚ) := by
    have hmul : q * n < (m / n + 1 / n : ℚ) * n := mul_lt_mul_of_pos_right (by linarith) hn'
    have heq : (m / n + 1 / n : ℚ) * n = m + 1 := by field_simp
    linarith
  rw [Int.tdiv_eq_ediv_of_nonneg hm]
  have hdiv := Int.mul_ediv_add_emod m n
  have hmod := Int.emod_nonneg m hn.ne'
  have hmod' := Int.emod_lt_of_pos m hn
  have hk := Int.ediv_nonneg hm hn.le
  generalize m / n = k at hdiv hk ⊢
  generalize m % n = r at hdiv hmod hmod'
  by_cases hq : (k : ℚ) ≤ q
  · -- not below the integer part of the fraction
    left
    have hnonneg : 0 ≤ q := le_trans (by exact_mod_cast hk) hq
    have hbelow : q < k + 1 := by
      have hm1 : (m + 1 : ℚ) ≤ (k + 1) * n := by
        have hint : m + 1 ≤ (k + 1) * n := by
          have hmul : (k + 1) * n = n * k + n := by ring
          omega
        exact_mod_cast hint
      exact lt_of_mul_lt_mul_right (lt_of_lt_of_le hhigh' hm1) hn'.le
    unfold truncate
    rw [if_pos hnonneg]
    exact Int.floor_eq_iff.mpr ⟨hq, hbelow⟩
  · have hq' := not_le.mp hq
    -- the fraction is the integer `k`
    have hr : r = 0 := by
      by_contra hne
      have hint : n * k ≤ m - 1 := by omega
      have hrat : (n * k : ℚ) ≤ m - 1 := by exact_mod_cast hint
      have hmul : q * n < k * n := mul_lt_mul_of_pos_right hq' hn'
      linarith
    have hmk : m = n * k := by omega
    have habove : (k - 1 : ℚ) < q := by
      have hrat : (m : ℚ) = n * k := by exact_mod_cast hmk
      have hn1 : (1 : ℚ) ≤ n := by exact_mod_cast hn
      refine lt_of_mul_lt_mul_right (a := (n : ℚ)) ?_ hn'.le
      have hmul : (k - 1 : ℚ) * n = n * k - n := by ring
      linarith
    by_cases hzero : k = 0
    · left
      subst hzero
      have hneg : ¬ 0 ≤ q := by
        intro hc
        exact hq (by exact_mod_cast hc)
      unfold truncate
      rw [if_neg hneg, Int.ceil_eq_iff]
      push_cast at habove hq' ⊢
      constructor <;> linarith
    · right
      have hk1 : 1 ≤ k := by omega
      have hk1' : (1 : ℚ) ≤ k := by exact_mod_cast hk1
      have hmpos : 0 < m := by
        rw [hmk]
        exact mul_pos hn (by omega)
      refine ⟨⟨k, hmk⟩, ?_⟩
      have hfloor : ⌊q⌋ = k - 1 := by
        refine Int.floor_eq_iff.mpr ⟨?_, ?_⟩
        · push_cast
          exact habove.le
        · push_cast
          linarith
      unfold truncate
      rw [if_pos (by linarith), hfloor, Int.sign_eq_one_of_pos hmpos]
      ring

/-- **Near a fraction** with denominator `n`, the integer part is that of the fraction, unless the
    fraction is an integer: then it may be the next one towards zero. -/
theorem truncate_near {n m : ℤ} {q : ℚ} (hn : 0 < n) (h : |q - m / n| < 1 / n) :
    truncate q = m.tdiv n ∨ (n ∣ m ∧ truncate q + m.sign = m.tdiv n) := by
  by_cases hm : 0 ≤ m
  · exact truncate_near_of_nonneg hn hm h
  · have hneg : |(-q) - ((-m : ℤ) : ℚ) / n| < 1 / n := by
      rw [← abs_neg]
      have heq : -(-q - ((-m : ℤ) : ℚ) / n) = q - m / n := by
        push_cast
        ring
      rw [heq]
      exact h
    have hnear := truncate_near_of_nonneg hn (m := -m) (by omega) hneg
    rw [truncate_neg, Int.neg_tdiv, Int.sign_neg, Int.dvd_neg] at hnear
    obtain heq | ⟨hdvd, heq⟩ := hnear
    · left
      omega
    · right
      exact ⟨hdvd, by omega⟩

end Rounding
