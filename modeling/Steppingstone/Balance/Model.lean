/-
  Steppingstone.Balance.Model — the balances of a player: rewards, reductions and recharges.

  `ManagePlayer` keeps money, coin and seniority in the player and copies money and coin to the
  player's coin entity.  The handlers that change them are modelled for a player whose coin entity
  is in the pool; `updateCoin` and the recharge are those of `Steppingstone.Charge.Model`.
-/
import Steppingstone.Charge.Model
import Steppingstone.Lib.TransSys

namespace Steppingstone.Balance

open Charge (AddictionStatus Vip getAddictionValue)

/-! ## §1. Entities and messages. -/

/-- The fields of `Player` that the handlers read or write. -/
structure Player extends Charge.Player where
  money : UInt32
  seniority : UInt32
  prestige : UInt32
  totalMoneyCost : UInt64
  totalSeniCost : UInt64
  deriving Repr, DecidableEq

/-- `Coin` -/
structure Coin extends Charge.Coin where
  money : UInt32
  deriving Repr, DecidableEq

/-- `Doubleexp` -/
structure Doubleexp where
  id : UInt32
  leftNum : UInt32
  mutilValue : UInt32
  deriving Repr, DecidableEq

/-- A player with its coin entity, and with its vip and doubleexp entities if the pool has them. -/
structure Purse where
  player : Player
  coin : Coin
  vip : Option Vip
  doubleexp : Option Doubleexp
  deriving Repr, DecidableEq

/-- `pmsg_update_reward` -/
structure UpdateReward where
  seniority : Int32 := 0
  money : Int32 := 0
  coin : Int32 := 0
  prestige : Int32 := 0
  roleGuid : List UInt64 := []
  roleExp : List UInt32 := []
  sourceFrom : UInt32 := 0
  deriving Repr, DecidableEq

/-- `pmsg_reduce_gold` -/
structure ReduceGold where
  money : Int32 := 0
  coin : Int32 := 0
  seniority : Int32 := 0
  deriving Repr, DecidableEq

/-! ## §2. One balance. -/

/-- `int64 v = balance + increase; if (v >= 0) balance = (uint32)v;` — the sum is taken in uint32. -/
def guardedSum (balance : UInt32) (increaseValue : Int32) : UInt32 :=
  let v : Int := (balance + increaseValue.toUInt32).toNat
  if 0 ≤ v then UInt32.ofNat v.toNat else balance

/-- The value that `GET_ADDICTION_VALUE` leaves of an increase; `none` where the update returns. -/
def effectiveValue (status : AddictionStatus) (increaseValue : Int32) : Option Int32 :=
  if 0 < increaseValue then
    let value := getAddictionValue increaseValue status
    if value = 0 then none else some value
  else some increaseValue

/-- A cost counter: it grows by what a value that is not positive takes. -/
def addCost (total : UInt64) (increaseValue : Int32) : UInt64 :=
  if 0 < increaseValue then total else total - increaseValue.toInt64.toUInt64

/-- `updateSeniority` -/
def updateSeniority (p : Purse) (increaseValue : Int32) : Purse :=
  match effectiveValue p.player.addictionStatus increaseValue with
  | none => p
  | some value =>
      { p with player := { p.player with
          seniority := guardedSum p.player.seniority value
          totalSeniCost := addCost p.player.totalSeniCost value } }

/-- `updateMoney` -/
def updateMoney (p : Purse) (increaseValue : Int32) : Purse :=
  match effectiveValue p.player.addictionStatus increaseValue with
  | none => p
  | some value =>
      let player := { p.player with
        money := guardedSum p.player.money value
        totalMoneyCost := addCost p.player.totalMoneyCost value }
      { p with player := player, coin := { p.coin with money := player.money } }

/-- `updatePrestige` -/
def updatePrestige (p : Purse) (increaseValue : Int32) : Purse :=
  match effectiveValue p.player.addictionStatus increaseValue with
  | none => p
  | some value =>
      { p with player := { p.player with prestige := guardedSum p.player.prestige value } }

/-- `updateCoin`, not for a recharge; without a vip entity nothing counts its costs. -/
def updateCoin (p : Purse) (increaseValue : Int32) : Purse :=
  let vip := p.vip.getD ⟨[], 0, 0, 0⟩
  let (player, coin, vip) :=
    Charge.updateCoin p.player.toPlayer p.coin.toCoin vip increaseValue false
  { p with
    player := { p.player with toPlayer := player }
    coin := { p.coin with toCoin := coin }
    vip := p.vip.map fun _ => vip }

/-! ## §3. The handlers. -/

/-- `useMutilexp` -/
def useMutilexp (sourceFrom : UInt32) : Bool := sourceFrom = 302 || sourceFrom = 1402

/-- A doubleexp that is used once, and the factor it gives. -/
def Doubleexp.use (d : Doubleexp) (sourceFrom : UInt32) : Doubleexp × UInt32 :=
  if 0 < d.leftNum && useMutilexp sourceFrom then
    if d.leftNum - 1 = 0 then (⟨0, 0, 1⟩, d.mutilValue)
    else ({ d with leftNum := d.leftNum - 1 }, d.mutilValue)
  else (d, 1)

/-- The experience of the roles that a reward passes on to `updateRoleExp`. -/
def UpdateReward.roleExps (m : UpdateReward) (mutilValue : UInt32) : List (UInt64 × UInt32) :=
  if m.roleGuid.length = m.roleExp.length then
    m.roleGuid.zip (m.roleExp.map (· * mutilValue))
  else []

/-- `if (value != 0) update(value);` -/
def ifNonzero (value : Int32) (update : Purse → Int32 → Purse) (p : Purse) : Purse :=
  if value ≠ 0 then update p value else p

/-- `rmsg_update_reward`, with the calls of `updateRoleExp`. -/
def rmsgUpdateReward (p : Purse) (m : UpdateReward) : Purse × List (UInt64 × UInt32) :=
  if 0 ≤ m.money ∧ 0 ≤ m.coin ∧ 0 ≤ m.seniority ∧ 0 ≤ m.prestige then
    match p.doubleexp with
    | none => (p, [])
    | some d =>
        let (d, mutilValue) := d.use m.sourceFrom
        let p := { p with doubleexp := some d }
        let p := ifNonzero m.seniority updateSeniority p
        let p := ifNonzero m.money updateMoney p
        let p := ifNonzero m.coin updateCoin p
        let p := ifNonzero m.prestige updatePrestige p
        (p, m.roleExps mutilValue)
  else (p, [])

/-- `pmsg_reduce_gold`, with the result it sets: 1 is success, 2 is not enough. -/
def pmsgReduceGold (p : Purse) (m : ReduceGold) : Purse × Option Int32 :=
  if 0 ≤ m.money ∧ 0 ≤ m.coin ∧ 0 ≤ m.seniority then
    if m.money.toUInt32 > p.player.money || m.coin.toUInt32 > p.player.coin
        || m.seniority.toUInt32 > p.player.seniority then
      (p, some 2)
    else
      let p := ifNonzero m.money (fun p v => updateMoney p (0 - v)) p
      let p := ifNonzero m.coin (fun p v => updateCoin p (0 - v)) p
      let p := ifNonzero m.seniority (fun p v => updateSeniority p (0 - v)) p
      (p, some 1)
  else (p, none)

/-- `lmsg_player_charge` -/
def lmsgPlayerCharge (vipexpResInfoMap : List (UInt32 × Int32)) (currTime : UInt64)
    (m : Charge.PlayerCharge) (p : Purse) : Purse :=
  match p.vip with
  | none => p
  | some vip =>
      let ((player, coin, vip), _) :=
        Charge.lmsgPlayerCharge vipexpResInfoMap currTime m p.player.toPlayer p.coin.toCoin vip
      { p with
        player := { p.player with toPlayer := player }
        coin := { p.coin with toCoin := coin }
        vip := some vip }

/-! ## §4. Runs. -/

/-- The operations that change the balances of a player. -/
inductive Op
  | reward (m : UpdateReward)
  | reduceGold (m : ReduceGold)
  | charge (currTime : UInt64) (m : Charge.PlayerCharge)
  deriving Repr, DecidableEq

/-- One operation on the balances. -/
def step (vipexpResInfoMap : List (UInt32 × Int32)) (p : Purse) : Op → Purse
  | .reward m => (rmsgUpdateReward p m).1
  | .reduceGold m => (pmsgReduceGold p m).1
  | .charge currTime m => lmsgPlayerCharge vipexpResInfoMap currTime m p

/-- The coin entity has the player's coin and money. -/
def Purse.Synced (p : Purse) : Prop := p.coin.coin = p.player.coin ∧ p.coin.money = p.player.money

instance (p : Purse) : Decidable p.Synced := inferInstanceAs (Decidable (_ ∧ _))

/-- The operations on the balances as a transition system, from any purse that is in step and whose
    player is not tired. -/
def system (vipexpResInfoMap : List (UInt32 × Int32)) : TransSys Purse Op where
  init p := p.Synced ∧ p.player.addictionStatus = .normal
  step p op := some (step vipexpResInfoMap p op)

end Steppingstone.Balance
