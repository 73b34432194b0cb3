/-
  Steppingstone.Balance.Exact — the balances of a player against an exact ledger.

  The ledger refuses a deposit that would carry a balance past 2^32 - 1.  The code means to: it
  tests the sum for being negative, but takes the sum in 32 bits, so the test always passes and the
  balance wraps.  Reductions are exact, and the coin entity follows the player throughout.
-/
import Steppingstone.Balance.Model
import Steppingstone.Lib.CappedLedger
import Steppingstone.Lib.Words
import Mathlib.Tactic.Ring

namespace Steppingstone.Balance

open CappedLedger
open Charge (AddictionStatus Vip getAddictionValue isValidChargeRequest creditCharge)

/-! ## §1. The ledger of a purse. -/

/-- The three balances of a player. -/
inductive Currency
  | money | coin | seniority
  deriving DecidableEq, Repr

instance : Fintype Currency where
  elems := {.money, .coin, .seniority}
  complete i := by cases i <;> decide

/-- The balance of a currency. -/
def Purse.balance (p : Purse) : Currency → Nat
  | .money => p.player.money.toNat
  | .coin => p.player.coin.toNat
  | .seniority => p.player.seniority.toNat

/-- The greatest balance. -/
def cap : Nat := 2 ^ 32 - 1

/-- The amounts of a reward or a reduction. -/
def amounts (money coin seniority : Int32) : Currency → Nat
  | .money => money.toInt.toNat
  | .coin => coin.toInt.toNat
  | .seniority => seniority.toInt.toNat

/-- The recharge is one that the vip entity does not record yet. -/
def NewCharge (p : Purse) (m : Charge.PlayerCharge) : Bool :=
  (p.vip.map fun vip => isValidChargeRequest vip m.requestIndex.toUInt32).getD false

/-- An amount of coins. -/
def coins (n : Nat) : Currency → Nat
  | .coin => n
  | _ => 0

/-- What an operation means for the ledger. -/
def entry (p : Purse) : Op → Entry Currency
  | .reward m =>
      if p.doubleexp.isSome then .deposit (amounts m.money m.coin m.seniority)
      else .deposit fun _ => 0
  | .reduceGold m => .withdraw (amounts m.money m.coin m.seniority)
  | .charge _ m =>
      if NewCharge p m then
        .deposit (coins m.chargeValue.toNat)
      else .deposit fun _ => 0

/-- The amounts are not negative int32 numbers. -/
def Op.Nonneg : Op → Prop
  | .reward m => 0 ≤ m.money ∧ 0 ≤ m.coin ∧ 0 ≤ m.seniority ∧ 0 ≤ m.prestige
  | .reduceGold m => 0 ≤ m.money ∧ 0 ≤ m.coin ∧ 0 ≤ m.seniority
  | .charge _ m => m.chargeValue.toNat < 2 ^ 31

instance (op : Op) : Decidable op.Nonneg := by
  unfold Op.Nonneg
  split <;> infer_instance

/-! ## §2. Numbers. -/

/-- The guarded sum is a 32-bit sum. -/
theorem guardedSum_eq (balance : UInt32) (value : Int32) :
    guardedSum balance value = balance + value.toUInt32 := by
  unfold guardedSum
  -- the number is an unsigned one, so the test passes
  rw [if_pos (Int.natCast_nonneg _), Int.toNat_natCast, UInt32.ofNat_toNat]

theorem toNat_lt (value : Int32) : value.toInt.toNat < 2 ^ 31 := by
  have hlt : value.toInt < 2 ^ 31 := value.toInt_lt
  omega

theorem effectiveValue_normal (value : Int32) : effectiveValue .normal value = some value := by
  unfold effectiveValue
  split
  · rename_i h
    have hne : ¬ value = 0 := fun he => by
      rw [he] at h
      exact absurd h (by decide)
    exact if_neg hne
  · rfl

/-- Taking away no more than there is. -/
theorem toNat_add_neg {balance a : UInt32} (h : a ≤ balance) :
    (balance + (0 - a)).toNat = balance.toNat - a.toNat := by
  have heq : balance + (0 - a) = balance - a := by
    rw [UInt32.zero_sub, ← UInt32.sub_eq_add_neg]
  rw [heq, UInt32.toNat_sub_of_le _ _ h]

/-! ## §3. What the updates do to the balances. -/

/-- From `p` to `p'` the balances move by these numbers, in 32 bits. -/
structure Moves (p p' : Purse) (money coin seniority : UInt32) : Prop where
  money : p'.player.money = p.player.money + money
  coin : p'.player.coin = p.player.coin + coin
  seniority : p'.player.seniority = p.player.seniority + seniority
  synced : p.Synced → p'.Synced
  status : p'.player.addictionStatus = p.player.addictionStatus

theorem Moves.refl (p : Purse) : Moves p p 0 0 0 :=
  ⟨(UInt32.add_zero _).symm, (UInt32.add_zero _).symm, (UInt32.add_zero _).symm, id, rfl⟩

theorem Moves.trans {p p' p'' : Purse} {m c s m' c' s' : UInt32} (h : Moves p p' m c s)
    (h' : Moves p' p'' m' c' s') : Moves p p'' (m + m') (c + c') (s + s') where
  money := by rw [h'.money, h.money, UInt32.add_assoc]
  coin := by rw [h'.coin, h.coin, UInt32.add_assoc]
  seniority := by rw [h'.seniority, h.seniority, UInt32.add_assoc]
  synced hp := h'.synced (h.synced hp)
  status := h'.status.trans h.status

variable {p : Purse}

theorem moves_updateSeniority (value : Int32) (h : p.player.addictionStatus = .normal) :
    Moves p (updateSeniority p value) 0 0 value.toUInt32 := by
  unfold updateSeniority
  rw [h, effectiveValue_normal]
  exact ⟨(UInt32.add_zero _).symm, (UInt32.add_zero _).symm, guardedSum_eq _ _, id, rfl⟩

theorem moves_updateMoney (value : Int32) (h : p.player.addictionStatus = .normal) :
    Moves p (updateMoney p value) value.toUInt32 0 0 := by
  unfold updateMoney
  rw [h, effectiveValue_normal]
  exact ⟨guardedSum_eq _ _, (UInt32.add_zero _).symm, (UInt32.add_zero _).symm,
    fun hp => ⟨hp.1, rfl⟩, rfl⟩

theorem moves_updatePrestige (value : Int32) (h : p.player.addictionStatus = .normal) :
    Moves p (updatePrestige p value) 0 0 0 := by
  unfold updatePrestige
  rw [h, effectiveValue_normal]
  exact ⟨(UInt32.add_zero _).symm, (UInt32.add_zero _).symm, (UInt32.add_zero _).symm, id, rfl⟩

/-- The update of the coins, when the player is not tired. -/
theorem charge_updateCoin (value : Int32) (player : Charge.Player) (coin : Charge.Coin) (vip : Vip)
    (isCharge : Bool) (h : player.addictionStatus = .normal) :
    (Charge.updateCoin player coin vip value isCharge).1.coin = player.coin + value.toUInt32 ∧
      (Charge.updateCoin player coin vip value isCharge).2.1.coin
        = player.coin + value.toUInt32 ∧
      (Charge.updateCoin player coin vip value isCharge).1.addictionStatus = .normal := by
  have hvalue : (if (!isCharge && decide (0 < value)) = true then
      getAddictionValue value player.addictionStatus else value) = value := by
    rw [h]
    exact ite_self _
  have htired : ((!isCharge && decide (0 < value)) && value == 0) = false := by
    by_cases hz : value = 0
    · subst hz
      cases isCharge <;> rfl
    · have hb : (value == 0) = false := beq_false_of_ne hz
      rw [hb, Bool.and_false]
  unfold Charge.updateCoin
  simp only [hvalue, htired, Bool.false_eq_true, if_false]
  refine ⟨?_, ?_, ?_⟩
  · split <;> rfl
  · split <;> rfl
  · split <;> exact h

theorem moves_updateCoin (value : Int32) (h : p.player.addictionStatus = .normal) :
    Moves p (updateCoin p value) 0 value.toUInt32 0 := by
  obtain ⟨hplayer, hcoin, hstatus⟩ := charge_updateCoin value p.player.toPlayer p.coin.toCoin
    (p.vip.getD ⟨[], 0, 0, 0⟩) false h
  unfold updateCoin
  exact ⟨(UInt32.add_zero _).symm, hplayer, (UInt32.add_zero _).symm,
    fun hp => ⟨hcoin.trans hplayer.symm, hp.2⟩, hstatus.trans h.symm⟩

/-- Skipping an update by nothing. -/
theorem moves_ifNonzero (update : Purse → Int32 → Purse) (value : Int32) {m c s : UInt32}
    (h : Moves p (update p value) m c s) (hzero : value = 0 → m = 0 ∧ c = 0 ∧ s = 0) :
    Moves p (ifNonzero value update p) m c s := by
  unfold ifNonzero
  split
  · exact h
  · rename_i hv
    obtain ⟨rfl, rfl, rfl⟩ := hzero (Decidable.not_not.mp hv)
    exact Moves.refl p

theorem Moves.normal {p' : Purse} {m c s : UInt32} (h : Moves p p' m c s)
    (hp : p.player.addictionStatus = .normal) : p'.player.addictionStatus = .normal :=
  h.status.trans hp

/-- **A reward** moves the balances by its amounts. -/
theorem moves_rmsgUpdateReward (h : p.player.addictionStatus = .normal) {m : UpdateReward}
    (hm : 0 ≤ m.money ∧ 0 ≤ m.coin ∧ 0 ≤ m.seniority ∧ 0 ≤ m.prestige) :
    Moves p (rmsgUpdateReward p m).1
      (if p.doubleexp.isSome then m.money.toUInt32 else 0)
      (if p.doubleexp.isSome then m.coin.toUInt32 else 0)
      (if p.doubleexp.isSome then m.seniority.toUInt32 else 0) := by
  unfold rmsgUpdateReward
  rw [if_pos hm]
  match hd : p.doubleexp with
  | none => exact Moves.refl p
  | some d =>
      have hstart : Moves p { p with doubleexp := some (d.use m.sourceFrom).1 } 0 0 0 :=
        ⟨(UInt32.add_zero _).symm, (UInt32.add_zero _).symm, (UInt32.add_zero _).symm, id, rfl⟩
      have hseniority := hstart.trans (moves_ifNonzero updateSeniority m.seniority
        (moves_updateSeniority m.seniority (hstart.normal h))
        fun hz => ⟨rfl, rfl, by rw [hz]; rfl⟩)
      have hmoney := hseniority.trans (moves_ifNonzero updateMoney m.money
        (moves_updateMoney m.money (hseniority.normal h))
        fun hz => ⟨by rw [hz]; rfl, rfl, rfl⟩)
      have hcoin := hmoney.trans (moves_ifNonzero updateCoin m.coin
        (moves_updateCoin m.coin (hmoney.normal h))
        fun hz => ⟨rfl, by rw [hz]; rfl, rfl⟩)
      have hprestige := hcoin.trans (moves_ifNonzero updatePrestige m.prestige
        (moves_updatePrestige m.prestige (hcoin.normal h))
        fun _ => ⟨rfl, rfl, rfl⟩)
      simp only [UInt32.zero_add, UInt32.add_zero] at hprestige
      exact hprestige

/-- The balances suffice for a reduction. -/
def Suffices (p : Purse) (m : ReduceGold) : Prop :=
  Covers p.balance (amounts m.money m.coin m.seniority)

instance (p : Purse) (m : ReduceGold) : Decidable (Suffices p m) :=
  inferInstanceAs (Decidable (Covers _ _))

/-- A purse suffices when every balance does. -/
theorem suffices_iff {m : ReduceGold} (hm : 0 ≤ m.money ∧ 0 ≤ m.coin ∧ 0 ≤ m.seniority) :
    Suffices p m ↔ m.money.toUInt32 ≤ p.player.money ∧ m.coin.toUInt32 ≤ p.player.coin ∧
      m.seniority.toUInt32 ≤ p.player.seniority := by
  simp only [UInt32.le_iff_toNat_le, Words.toNat_toUInt32_of_le hm.1,
    Words.toNat_toUInt32_of_le hm.2.1, Words.toNat_toUInt32_of_le hm.2.2]
  exact ⟨fun h => ⟨h .money, h .coin, h .seniority⟩, fun h i => by
    cases i with
    | money => exact h.1
    | coin => exact h.2.1
    | seniority => exact h.2.2⟩

/-- **A reduction** that is granted takes all three amounts; one that is not takes none. -/
theorem pmsgReduceGold_spec (h : p.player.addictionStatus = .normal) {m : ReduceGold}
    (hm : 0 ≤ m.money ∧ 0 ≤ m.coin ∧ 0 ≤ m.seniority) :
    (Suffices p m → (pmsgReduceGold p m).2 = some 1 ∧ Moves p (pmsgReduceGold p m).1
        (0 - m.money.toUInt32) (0 - m.coin.toUInt32) (0 - m.seniority.toUInt32)) ∧
      (¬ Suffices p m → pmsgReduceGold p m = (p, some 2)) := by
  unfold pmsgReduceGold
  rw [if_pos hm]
  constructor
  · intro hs
    obtain ⟨hmoney, hcoin, hsen⟩ := (suffices_iff hm).mp hs
    have hnot : (decide (m.money.toUInt32 > p.player.money) ||
        decide (m.coin.toUInt32 > p.player.coin) ||
        decide (m.seniority.toUInt32 > p.player.seniority)) = false := by
      simp only [Bool.or_eq_false_iff, decide_eq_false_iff_not]
      exact ⟨⟨UInt32.not_lt.mpr hmoney, UInt32.not_lt.mpr hcoin⟩, UInt32.not_lt.mpr hsen⟩
    rw [hnot]
    refine ⟨rfl, ?_⟩
    have h1 := moves_ifNonzero (fun p v => updateMoney p (0 - v)) m.money
      (moves_updateMoney (0 - m.money) h) fun hz => ⟨by rw [hz]; rfl, rfl, rfl⟩
    have h2 := h1.trans (moves_ifNonzero (fun p v => updateCoin p (0 - v)) m.coin
      (moves_updateCoin (0 - m.coin) (h1.normal h)) fun hz => ⟨rfl, by rw [hz]; rfl, rfl⟩)
    have h3 := h2.trans (moves_ifNonzero (fun p v => updateSeniority p (0 - v)) m.seniority
      (moves_updateSeniority (0 - m.seniority) (h2.normal h))
      fun hz => ⟨rfl, rfl, by rw [hz]; rfl⟩)
    simp only [UInt32.zero_add, UInt32.add_zero] at h3
    exact h3
  · intro hs
    have hyes : (decide (m.money.toUInt32 > p.player.money) ||
        decide (m.coin.toUInt32 > p.player.coin) ||
        decide (m.seniority.toUInt32 > p.player.seniority)) = true := by
      refine Bool.eq_true_of_not_eq_false fun hf => hs ?_
      simp only [Bool.or_eq_false_iff, decide_eq_false_iff_not] at hf
      exact (suffices_iff hm).mpr
        ⟨UInt32.not_lt.mp hf.1.1, UInt32.not_lt.mp hf.1.2, UInt32.not_lt.mp hf.2⟩
    rw [hyes]
    rfl

theorem charge_updateVipExp_status (res : List (UInt32 × Int32)) (player : Charge.Player)
    (exp : Int32) :
    (Charge.updateVipExp res player exp).addictionStatus = player.addictionStatus := by
  unfold Charge.updateVipExp
  simp only
  split
  · split <;> rfl
  · rfl

/-- **A recharge** adds its value to the coins, once. -/
theorem moves_lmsgPlayerCharge (h : p.player.addictionStatus = .normal)
    (res : List (UInt32 × Int32)) (currTime : UInt64) (m : Charge.PlayerCharge) :
    Moves p (lmsgPlayerCharge res currTime m p) 0
      (if NewCharge p m then m.chargeValue.toUInt32 else 0) 0 := by
  unfold lmsgPlayerCharge NewCharge
  match hv : p.vip with
  | none => exact Moves.refl p
  | some vip =>
      simp only [Option.map_some, Option.getD_some]
      by_cases hvalid : isValidChargeRequest vip m.requestIndex.toUInt32 = true
      · have hstatus : (creditCharge res currTime m p.player.toPlayer p.coin.toCoin
            vip).1.addictionStatus = p.player.addictionStatus := by
          have hexp := (charge_updateVipExp_status res p.player.toPlayer
            m.chargeValue.toUInt32.toInt32).trans h
          exact (charge_updateCoin m.chargeValue.toUInt32.toInt32 _ p.coin.toCoin
            (if vip.firstChargeGift = 1 then { vip with firstChargeGift := 2 } else vip) true
            hexp).2.2.trans h.symm
        obtain ⟨hplayer, hcoin, -⟩ :=
          Charge.creditCharge_spec res currTime m p.player.toPlayer p.coin.toCoin vip
        unfold Charge.lmsgPlayerCharge
        simp only [hvalid, if_true]
        exact ⟨(UInt32.add_zero _).symm, hplayer, (UInt32.add_zero _).symm,
          fun hp => ⟨hcoin.trans hplayer.symm, hp.2⟩, hstatus⟩
      · unfold Charge.lmsgPlayerCharge
        simp only [hvalid, if_false, Bool.false_eq_true]
        exact ⟨(UInt32.add_zero _).symm, (UInt32.add_zero _).symm, (UInt32.add_zero _).symm,
          id, rfl⟩

/-! ## §4. One operation against the ledger. -/

variable {op : Op} {amount : Currency → Nat}

/-- Every operation keeps the coin entity in step, and the player's status. -/
theorem step_moves (res : List (UInt32 × Int32)) (h : p.player.addictionStatus = .normal)
    (hop : op.Nonneg) : ∃ m c s, Moves p (step res p op) m c s := by
  cases op with
  | reward m => exact ⟨_, _, _, moves_rmsgUpdateReward h hop⟩
  | reduceGold m =>
      by_cases hs : Suffices p m
      · exact ⟨_, _, _, ((pmsgReduceGold_spec h hop).1 hs).2⟩
      · refine ⟨0, 0, 0, ?_⟩
        show Moves p (pmsgReduceGold p m).1 0 0 0
        rw [(pmsgReduceGold_spec h hop).2 hs]
        exact Moves.refl p
  | charge currTime m => exact ⟨_, _, _, moves_lmsgPlayerCharge h res currTime m⟩

/-- A balance that moves up, in 32 bits. -/
theorem toNat_add_amount {balance balance' a : UInt32} {n : Nat} (h : balance' = balance + a)
    (ha : a.toNat = n) : balance'.toNat = (balance.toNat + n) % 2 ^ 32 := by
  rw [h, UInt32.toNat_add, ha]

/-- Balances that move up by the amounts of a deposit, in 32 bits. -/
theorem Moves.deposits {p' : Purse} {m c s : UInt32} {a : Currency → Nat} (h : Moves p p' m c s)
    (hm : m.toNat = a .money) (hc : c.toNat = a .coin) (hs : s.toNat = a .seniority)
    (i : Currency) : p'.balance i = (p.balance i + a i) % 2 ^ 32 := by
  cases i with
  | money => exact toNat_add_amount h.money hm
  | coin => exact toNat_add_amount h.coin hc
  | seniority => exact toNat_add_amount h.seniority hs

/-- **A deposit** adds its amounts, in 32 bits. -/
theorem step_deposit (res : List (UInt32 × Int32)) (h : p.player.addictionStatus = .normal)
    (hop : op.Nonneg) (he : entry p op = .deposit amount) (i : Currency) :
    (step res p op).balance i = (p.balance i + amount i) % 2 ^ 32 ∧ amount i < 2 ^ 31 := by
  cases op with
  | reward m =>
      have hmoves := moves_rmsgUpdateReward h hop
      obtain ⟨hm, hc, hs, -⟩ := hop
      replace he : (if p.doubleexp.isSome then
        Entry.deposit (amounts m.money m.coin m.seniority) else .deposit fun _ => 0) = _ := he
      -- without the entity in the pool nothing is given
      split at he
      · rename_i hd
        simp only [hd, if_true] at hmoves
        obtain rfl := Entry.deposit.inj he
        refine ⟨hmoves.deposits (Words.toNat_toUInt32_of_le hm) (Words.toNat_toUInt32_of_le hc)
          (Words.toNat_toUInt32_of_le hs) i, ?_⟩
        cases i <;> exact toNat_lt _
      · rename_i hd
        simp only [hd, if_false, Bool.false_eq_true] at hmoves
        obtain rfl := Entry.deposit.inj he
        exact ⟨hmoves.deposits (a := fun _ => 0) rfl rfl rfl i, Nat.two_pow_pos 31⟩
  -- a payment is never a deposit
  | reduceGold m => cases he
  | charge currTime m =>
      have hmoves := moves_lmsgPlayerCharge h res currTime m
      have hlt : m.chargeValue.toNat < 2 ^ 31 := hop
      replace he : (if NewCharge p m then
        Entry.deposit (coins m.chargeValue.toNat) else .deposit fun _ => 0) = _ := he
      split at he
      · rename_i hnew
        simp only [hnew, if_true] at hmoves
        obtain rfl := Entry.deposit.inj he
        have hvalue : m.chargeValue.toUInt32.toNat = m.chargeValue.toNat := by
          rw [UInt64.toNat_toUInt32]
          omega
        refine ⟨hmoves.deposits rfl hvalue rfl i, ?_⟩
        cases i with
        | coin => exact hlt
        | money | seniority => exact Nat.two_pow_pos 31
      · rename_i hnew
        simp only [hnew, if_false, Bool.false_eq_true] at hmoves
        obtain rfl := Entry.deposit.inj he
        exact ⟨hmoves.deposits (a := fun _ => 0) rfl rfl rfl i, Nat.two_pow_pos 31⟩

/-- **A withdrawal** is exact. -/
theorem step_withdraw (res : List (UInt32 × Int32)) (h : p.player.addictionStatus = .normal)
    (hop : op.Nonneg) (he : entry p op = .withdraw amount) (i : Currency) :
    (step res p op).balance i =
      if Covers p.balance amount then p.balance i - amount i else p.balance i := by
  cases op with
  | reward m =>
      replace he : (if p.doubleexp.isSome then
        Entry.deposit (amounts m.money m.coin m.seniority) else .deposit fun _ => 0) = _ := he
      split at he <;> cases he
  | charge currTime m =>
      replace he : (if NewCharge p m then
        Entry.deposit (coins m.chargeValue.toNat) else .deposit fun _ => 0) = _ := he
      split at he <;> cases he
  | reduceGold m =>
      obtain rfl := Entry.withdraw.inj he
      obtain ⟨hyes, hno⟩ := pmsgReduceGold_spec h hop
      -- all three are checked before any of them is taken
      by_cases hs : Suffices p m
      · obtain ⟨-, hmoves⟩ := hyes hs
        obtain ⟨hmoney, hcoin, hsen⟩ := (suffices_iff hop).mp hs
        have hcovers : Covers p.balance (amounts m.money m.coin m.seniority) := hs
        rw [if_pos hcovers]
        cases i with
        | money =>
            show (pmsgReduceGold p m).1.player.money.toNat = _
            rw [hmoves.money, toNat_add_neg hmoney, Words.toNat_toUInt32_of_le hop.1]
            rfl
        | coin =>
            show (pmsgReduceGold p m).1.player.coin.toNat = _
            rw [hmoves.coin, toNat_add_neg hcoin, Words.toNat_toUInt32_of_le hop.2.1]
            rfl
        | seniority =>
            show (pmsgReduceGold p m).1.player.seniority.toNat = _
            rw [hmoves.seniority, toNat_add_neg hsen, Words.toNat_toUInt32_of_le hop.2.2]
            rfl
      · have hcovers : ¬ Covers p.balance (amounts m.money m.coin m.seniority) := hs
        rw [if_neg hcovers]
        show (pmsgReduceGold p m).1.balance i = _
        rw [hno hs]

/-- The operation carries no balance past the cap. -/
def Fits (p : Purse) (op : Op) : Prop :=
  match entry p op with
  | .deposit amount => ∀ i, p.balance i + amount i ≤ cap
  | .withdraw _ => True

instance (p : Purse) (op : Op) : Decidable (Fits p op) := by
  unfold Fits
  split <;> infer_instance

theorem balance_le (p : Purse) (i : Currency) : p.balance i ≤ cap := by
  have hlt : p.balance i < 2 ^ 32 := by
    cases i with
    | money => exact p.player.money.toNat_lt
    | coin => exact p.player.coin.toNat_lt
    | seniority => exact p.player.seniority.toNat_lt
  show p.balance i ≤ 2 ^ 32 - 1
  omega

/-- **An operation agrees with the ledger exactly if it fits.** -/
theorem step_exact_iff (res : List (UInt32 × Int32)) (h : p.player.addictionStatus = .normal)
    (hop : op.Nonneg) :
    (∀ i, (step res p op).balance i = post cap p.balance (entry p op) i) ↔ Fits p op := by
  unfold Fits
  match he : entry p op with
  | .withdraw amount =>
      simp only [iff_true]
      intro i
      rw [step_withdraw res h hop he i, post_withdraw]
  | .deposit amount =>
      refine forall_congr' fun i => ?_
      obtain ⟨hstep, hlt⟩ := step_deposit res h hop he i
      have hle := balance_le p i
      rw [hstep, post_deposit]
      have hcap : cap = 2 ^ 32 - 1 := rfl
      split
      · rename_i hfits
        have hsmall : p.balance i + amount i < 2 ^ 32 := by omega
        rw [Nat.mod_eq_of_lt hsmall]
        exact iff_of_true rfl hfits
      · rename_i hpast
        refine iff_of_false ?_ hpast
        -- what wraps has lost 2^32 and gained less
        omega

/-! ## §5. Sequences of operations. -/

/-- The purse after a sequence of operations. -/
def runOps (res : List (UInt32 × Int32)) (p : Purse) (ops : List Op) : Purse :=
  ops.foldl (step res) p

/-- The ledger's entries for a sequence of operations. -/
def entries (res : List (UInt32 × Int32)) : Purse → List Op → List (Entry Currency)
  | _, [] => []
  | p, op :: ops => entry p op :: entries res (step res p op) ops

/-- **The balances form an exact ledger.** -/
structure ExactLedger (res : List (UInt32 × Int32)) (p : Purse) (ops : List Op) : Prop where
  /-- After every operation each balance is what it was and what was credited, less what was
      withdrawn. -/
  balances : ∀ pre, pre <+: ops → ∀ i,
    (runOps res p pre).balance i + withdrawn cap p.balance (entries res p pre) i =
      p.balance i + credited cap p.balance (entries res p pre) i
  /-- A reduction is granted if and only if all balances suffice. -/
  granted : ∀ pre m, pre ++ [.reduceGold m] <+: ops →
    ((pmsgReduceGold (runOps res p pre) m).2 = some 1 ↔ Suffices (runOps res p pre) m)
  /-- The coin entity has the player's coin and money. -/
  synced : ∀ pre, pre <+: ops → (runOps res p pre).Synced

/-- The balances are the ledger's after every operation. -/
def Agrees (res : List (UInt32 × Int32)) (p : Purse) (ops : List Op) : Prop :=
  ∀ pre, pre <+: ops → ∀ i,
    (runOps res p pre).balance i = run cap p.balance (entries res p pre) i

theorem agrees_cons (res : List (UInt32 × Int32)) (op : Op) (ops : List Op) :
    Agrees res p (op :: ops) ↔
      (∀ i, (step res p op).balance i = post cap p.balance (entry p op) i) ∧
        Agrees res (step res p op) ops := by
  constructor
  · intro h
    have hone : ∀ i, (step res p op).balance i = post cap p.balance (entry p op) i :=
      h [op] (List.prefix_append [op] ops)
    refine ⟨hone, fun pre hpre i => ?_⟩
    have hrest := h (op :: pre) (List.cons_prefix_cons.mpr ⟨rfl, hpre⟩) i
    rw [funext hone]
    exact hrest
  · intro ⟨hone, hrest⟩ pre hpre i
    match pre with
    | [] => rfl
    | op' :: pre =>
        obtain ⟨rfl, htail⟩ := List.cons_prefix_cons.mp hpre
        have hi := hrest pre htail i
        rw [funext hone] at hi
        exact hi

/-- The operations of a sequence keep the coin entity in step, and the player's status. -/
theorem runOps_moves (res : List (UInt32 × Int32)) (h : p.player.addictionStatus = .normal)
    (ops : List Op) (hops : ∀ op ∈ ops, op.Nonneg) :
    (runOps res p ops).player.addictionStatus = .normal ∧
      (p.Synced → (runOps res p ops).Synced) := by
  induction ops generalizing p with
  | nil => exact ⟨h, id⟩
  | cons op ops ih =>
      obtain ⟨m, c, s, hmoves⟩ := step_moves res h (hops op List.mem_cons_self)
      obtain ⟨hstatus, hsynced⟩ := ih (hmoves.normal h)
        fun op' hm => hops op' (List.mem_cons_of_mem _ hm)
      exact ⟨hstatus, fun hp => hsynced (hmoves.synced hp)⟩

/-- **A run agrees with the ledger** exactly if every sum fits. -/
theorem agrees_iff (res : List (UInt32 × Int32)) (h : p.player.addictionStatus = .normal)
    (ops : List Op) (hops : ∀ op ∈ ops, op.Nonneg) :
    Agrees res p ops ↔ (system res).RunMeets Fits p ops := by
  induction ops generalizing p with
  | nil =>
      refine iff_of_true (fun pre hpre i => ?_) trivial
      rw [List.prefix_nil.mp hpre]
      rfl
  | cons op ops ih =>
      have hop := hops op List.mem_cons_self
      obtain ⟨m, c, s, hmoves⟩ := step_moves res h hop
      have hrest := ih (hmoves.normal h) fun op' hm => hops op' (List.mem_cons_of_mem _ hm)
      rw [agrees_cons, step_exact_iff res h hop, hrest]
      refine and_congr_right fun _ => ⟨fun hr => ⟨_, rfl, hr⟩, fun hr => ?_⟩
      obtain ⟨p', hp', hr⟩ := hr
      obtain rfl := Option.some.inj hp'
      exact hr

/-- **The balances form an exact ledger if and only if no deposit passes 2^32 - 1**, from any purse
    that is in step and whose player is not tired. -/
theorem exactLedger_iff (res : List (UInt32 × Int32)) (p : Purse) (h : (system res).init p)
    (ops : List Op) (hops : ∀ op ∈ ops, op.Nonneg) :
    ExactLedger res p ops ↔ (system res).RunMeets Fits p ops := by
  obtain ⟨hsync, hnormal⟩ := h
  rw [← agrees_iff res hnormal ops hops]
  have hsub : ∀ pre, pre <+: ops → ∀ op ∈ pre, op.Nonneg :=
    fun pre hpre op hm => hops op (hpre.subset hm)
  constructor
  · intro h pre hpre i
    have hledger := run_conserves cap (entries res p pre) p.balance i
    have hcode := h.balances pre hpre i
    omega
  · intro h
    refine ⟨fun pre hpre i => ?_, fun pre m hpre => ?_, fun pre hpre => ?_⟩
    · rw [h pre hpre i]
      exact run_conserves cap _ _ i
    · have hm : (Op.reduceGold m).Nonneg :=
        hsub _ hpre _ (List.mem_append_right _ List.mem_cons_self)
      have hpre' := (List.prefix_append pre [.reduceGold m]).trans hpre
      obtain ⟨hyes, hno⟩ :=
        pmsgReduceGold_spec (runOps_moves res hnormal pre (hsub pre hpre')).1 hm
      refine ⟨fun hres => ?_, fun hs => (hyes hs).1⟩
      refine Decidable.by_contra fun hs => ?_
      rw [hno hs] at hres
      cases hres
    · exact (runOps_moves res hnormal pre (hsub pre hpre)).2 hsync

/-- A purse with the given balances. -/
def purseOf (money coin seniority : UInt32) : Purse where
  player := {
    coin, money, seniority, vipExp := 0, vipLevel := 0, totalCoinCost := 0, prestige := 0
    totalMoneyCost := 0, totalSeniCost := 0, addictionStatus := .normal }
  coin := { coin, money }
  vip := some { chargeInfo := [], chargeCoin := 0, firstChargeGift := 0, costCoin := 0 }
  doubleexp := some { id := 0, leftNum := 0, mutilValue := 1 }

/-- A reward, a recharge that comes twice, a reduction that is granted and one that is not. -/
def shopping : List Op :=
  [.reward { money := 50, seniority := 3 }, .charge 7 ⟨1, 100, 7⟩, .charge 8 ⟨1, 100, 7⟩,
    .reduceGold { money := 60, coin := 90 }, .reduceGold { money := 1, coin := 1000 }]

/-- A run of deposits and purchases. -/
theorem exactLedger_shopping : ExactLedger [] (purseOf 100 5 0) shopping ∧
    (runOps [] (purseOf 100 5 0) shopping).balance = amounts 90 15 3 := by
  refine ⟨(exactLedger_iff [] _ ⟨by decide, rfl⟩ shopping (by decide)).mpr (by decide), ?_⟩
  funext i
  cases i <;> decide

/-- **A reward that empties the purse**: one more than there can be. -/
theorem reward_wraps : ¬ ∀ (res : List (UInt32 × Int32)) (p : Purse), (system res).init p →
    ∀ ops : List Op, (∀ op ∈ ops, op.Nonneg) → ExactLedger res p ops := by
  intro h
  have hexact := h [] (purseOf 4294967295 0 0) ⟨by decide, rfl⟩ [.reward { money := 1 }] (by decide)
  exact absurd (hexact.balances _ (List.prefix_refl _) .money) (by decide)

end Steppingstone.Balance
