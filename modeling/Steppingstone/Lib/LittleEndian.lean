/-
  Steppingstone.Lib.LittleEndian — numbers as bytes, the low byte first.
-/
import Mathlib.Data.List.Basic
import Mathlib.Tactic.Ring

namespace LittleEndian

/-- The low `n` bytes of a number. -/
def toBytes : Nat → Nat → List UInt8
  | 0, _ => []
  | n + 1, v => UInt8.ofNat v :: toBytes n (v / 256)

/-- The number that the bytes spell, the low byte first. -/
def ofBytes : List UInt8 → Nat
  | [] => 0
  | b :: bs => b.toNat + 256 * ofBytes bs

@[simp] theorem length_toBytes (n v : Nat) : (toBytes n v).length = n := by
  induction n generalizing v with
  | zero => rfl
  | succ n ih =>
      show (toBytes n (v / 256)).length + 1 = n + 1
      rw [ih]

/-- Reading back gives the number, as far as it fits. -/
theorem ofBytes_toBytes (n v : Nat) : ofBytes (toBytes n v) = v % 256 ^ n := by
  induction n generalizing v with
  | zero => simp [toBytes, ofBytes, Nat.mod_one]
  | succ n ih =>
      show (UInt8.ofNat v).toNat + 256 * ofBytes (toBytes n (v / 256)) = _
      rw [ih, Nat.pow_succ', Nat.mod_mul, UInt8.toNat_ofNat']

theorem ofBytes_toBytes_of_lt {n v : Nat} (h : v < 256 ^ n) : ofBytes (toBytes n v) = v := by
  rw [ofBytes_toBytes, Nat.mod_eq_of_lt h]

end LittleEndian
