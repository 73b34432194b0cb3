/-
  Steppingstone.Lib.Words — 32 bits with and without a sign.

  The same bits are read as an `Int32` and as a `UInt32`.  Both readings agree on the numbers below
  2^31, and differ by 2^32 on the others.
-/
import Mathlib.Tactic.Ring

namespace Words

/-- The signed reading of an unsigned number. -/
theorem toInt_toInt32 (x : UInt32) :
    x.toInt32.toInt = if x.toNat < 2 ^ 31 then (x.toNat : Int) else (x.toNat : Int) - 2 ^ 32 := by
  have hlt : x.toNat < 2 ^ 32 := x.toNat_lt
  have hcond : x.toInt32.toInt = if 2 * x.toNat < 2 ^ 32 then (x.toNat : Int)
      else (x.toNat : Int) - (2 ^ 32 : Nat) := BitVec.toInt_eq_toNat_cond _
  rw [hcond]
  split <;> split <;> omega

/-- **A number that is not negative** is the same without a sign. -/
theorem toNat_toUInt32 {x : Int32} (h : 0 ≤ x.toInt) : x.toUInt32.toNat = x.toInt.toNat := by
  have hx : x.toUInt32.toInt32 = x := rfl
  have hsign := toInt_toInt32 x.toUInt32
  have hlt := x.toUInt32.toNat_lt
  rw [hx] at hsign
  split at hsign <;> omega

theorem toNat_toUInt32_of_le {x : Int32} (h : 0 ≤ x) : x.toUInt32.toNat = x.toInt.toNat :=
  toNat_toUInt32 (Int32.le_iff_toInt_le.mp h)

/-- **An unsigned difference, read with a sign**, is negative exactly when too much is taken, or
    when what is left does not fit. -/
theorem sub_toInt32_neg_iff {x y : UInt32} (hy : y.toNat < 2 ^ 31) :
    (x - y).toInt32 < 0 ↔ x.toNat < y.toNat ∨ 2 ^ 31 ≤ x.toNat - y.toNat := by
  have hx := x.toNat_lt
  have hzero : (0 : Int32).toInt = 0 := rfl
  rw [Int32.lt_iff_toInt_lt, hzero, toInt_toInt32, UInt32.toNat_sub]
  by_cases hle : y.toNat ≤ x.toNat
  · have hmod : (2 ^ 32 - y.toNat + x.toNat) % 2 ^ 32 = x.toNat - y.toNat := by omega
    rw [hmod]
    split <;> omega
  · have hmod : (2 ^ 32 - y.toNat + x.toNat) % 2 ^ 32 = 2 ^ 32 - y.toNat + x.toNat := by omega
    rw [hmod]
    split <;> omega

end Words
