/-
  Steppingstone.Lib.CappedLedger — several balances that must not pass a cap.

  A deposit is taken balance by balance: the amount that would carry a balance past the cap is
  refused.  A withdrawal is granted for all balances or for none.
-/
import Mathlib.Data.Fintype.Basic

namespace CappedLedger

variable {ι : Type*} [Fintype ι]

/-- An entry of the ledger: amounts for all balances. -/
inductive Entry (ι : Type*)
  | deposit (amount : ι → Nat)
  | withdraw (amount : ι → Nat)

/-- Every balance suffices. -/
def Covers (balance amount : ι → Nat) : Prop := ∀ i, amount i ≤ balance i

instance (balance amount : ι → Nat) : Decidable (Covers balance amount) :=
  inferInstanceAs (Decidable (∀ i, amount i ≤ balance i))

/-- What an entry adds. -/
def credit (cap : Nat) (balance : ι → Nat) : Entry ι → ι → Nat
  | .deposit amount => fun i => if balance i + amount i ≤ cap then amount i else 0
  | .withdraw _ => fun _ => 0

/-- What an entry takes. -/
def debit (balance : ι → Nat) : Entry ι → ι → Nat
  | .deposit _ => fun _ => 0
  | .withdraw amount => if Covers balance amount then amount else fun _ => 0

/-- The balances after an entry. -/
def post (cap : Nat) (balance : ι → Nat) (e : Entry ι) : ι → Nat :=
  fun i => balance i + credit cap balance e i - debit balance e i

/-- The balances after a list of entries. -/
def run (cap : Nat) (balance : ι → Nat) (es : List (Entry ι)) : ι → Nat :=
  es.foldl (post cap) balance

/-- Everything that was credited. -/
def credited (cap : Nat) : (ι → Nat) → List (Entry ι) → ι → Nat
  | _, [], _ => 0
  | balance, e :: es, i => credit cap balance e i + credited cap (post cap balance e) es i

/-- Everything that was withdrawn. -/
def withdrawn (cap : Nat) : (ι → Nat) → List (Entry ι) → ι → Nat
  | _, [], _ => 0
  | balance, e :: es, i => debit balance e i + withdrawn cap (post cap balance e) es i

variable {cap : Nat} {balance : ι → Nat}

/-- An entry takes no more than there is. -/
theorem debit_le (balance : ι → Nat) (e : Entry ι) (i : ι) : debit balance e i ≤ balance i := by
  cases e with
  | deposit amount => exact Nat.zero_le _
  | withdraw amount =>
      show (if Covers balance amount then amount else fun _ => 0) i ≤ balance i
      split
      · rename_i h
        exact h i
      · exact Nat.zero_le _

/-- What an entry leaves and takes is what was there and what it adds. -/
theorem post_add_debit (cap : Nat) (balance : ι → Nat) (e : Entry ι) (i : ι) :
    post cap balance e i + debit balance e i = balance i + credit cap balance e i := by
  have h := debit_le balance e i
  show balance i + credit cap balance e i - debit balance e i + debit balance e i = _
  omega

/-- A deposit is made if it stays below the cap. -/
theorem post_deposit (amount : ι → Nat) (i : ι) :
    post cap balance (.deposit amount) i =
      if balance i + amount i ≤ cap then balance i + amount i else balance i := by
  show balance i + (if balance i + amount i ≤ cap then amount i else 0) - 0 = _
  split <;> omega

/-- A withdrawal is made if it is covered. -/
theorem post_withdraw (amount : ι → Nat) (i : ι) :
    post cap balance (.withdraw amount) i =
      if Covers balance amount then balance i - amount i else balance i := by
  show balance i + 0 - (if Covers balance amount then amount else fun _ => 0) i = _
  split
  · omega
  · show balance i + 0 - 0 = balance i
    omega

/-- **Conservation**: a balance and what was withdrawn from it are what it was and what was
    credited to it. -/
theorem run_conserves (cap : Nat) (es : List (Entry ι)) (balance : ι → Nat) (i : ι) :
    run cap balance es i + withdrawn cap balance es i =
      balance i + credited cap balance es i := by
  induction es generalizing balance with
  | nil => rfl
  | cons e es ih =>
      have hone := post_add_debit cap balance e i
      have hrest := ih (post cap balance e)
      show run cap (post cap balance e) es i +
          (debit balance e i + withdrawn cap (post cap balance e) es i) =
        balance i + (credit cap balance e i + credited cap (post cap balance e) es i)
      omega

theorem run_append (es es' : List (Entry ι)) :
    run cap balance (es ++ es') = run cap (run cap balance es) es' := List.foldl_append

end CappedLedger
