/-
  Steppingstone.Charge.Model — recharges between the line scene and a player's scene.

  `ManageShort` keeps the recharges of a player that are not confirmed yet in
  `Short.charge_info` and sends all of them again at every login and at every
  new recharge.  `ManagePlayer::lmsg_player_charge` credits a request index
  that `Vip.charge_info` does not record yet and confirms every message it can
  handle.  The handlers of both sides are modelled with the records they read
  and write; messages in flight and the order of delivery are in
  `Steppingstone.Charge.Ledger`.
-/
import Mathlib.Tactic.Common

namespace Steppingstone.Charge

/-! ## §1. Records and messages. -/

/-- `Short_ChargeInfo`: a recharge that is not confirmed yet. -/
structure ShortChargeInfo where
  requestIndex : UInt32
  chargeValue : UInt32
  chargeTime : UInt64
  deriving Repr, DecidableEq

/-- `Vip_ChargeInfo`: a recharge that was credited. -/
structure VipChargeInfo where
  requestIndex : UInt32
  chargeValue : UInt32
  chargeTime : UInt64
  deriving Repr, DecidableEq

/-- `mmsg_member_charge`, sent by the member server. -/
structure MemberCharge where
  requestIndex : UInt32
  account : String
  point : UInt32
  deriving Repr, DecidableEq

/-- `smsg_member_charge_confirm`: 1 is success, 2 is failure. -/
structure MemberChargeConfirm where
  requestIndex : UInt32
  account : String
  result : UInt32
  deriving Repr, DecidableEq

/-- `lmsg_player_charge`, from the line scene to the player's scene. -/
structure PlayerCharge where
  requestIndex : UInt64
  chargeValue : UInt64
  chargeTime : UInt64
  deriving Repr, DecidableEq

/-- `lmsg_player_charge_confirm`, back to the line scene. -/
structure PlayerChargeConfirm where
  requestIndex : UInt64
  chargeValue : UInt64
  result : UInt32
  deriving Repr, DecidableEq

/-- What the line scene knows about a player. -/
structure PlayerBriefInfo where
  isOnline : Bool
  sceneId : UInt32
  /-- `short_info->charge_info()`, the pending list. -/
  chargeInfo : List ShortChargeInfo
  deriving Repr, DecidableEq

/-! ## §2. The line scene (`ManageShort`). -/

/-- `ManageShort::playerCharge`: announce everything that is pending. -/
def playerCharge (playerBi : PlayerBriefInfo) : List PlayerCharge :=
  if playerBi.isOnline then
    playerBi.chargeInfo.map fun c =>
      ⟨c.requestIndex.toUInt64, c.chargeValue.toUInt64, c.chargeTime⟩
  else []

/-- `ManageShort::mmsg_member_charge`. -/
def mmsgMemberCharge (currentTime : UInt64) (m : MemberCharge) :
    Option PlayerBriefInfo → Option PlayerBriefInfo × List PlayerCharge × MemberChargeConfirm
  | some playerBi =>
      let playerBi := { playerBi with
        chargeInfo := playerBi.chargeInfo ++ [⟨m.requestIndex, m.point, currentTime⟩] }
      (some playerBi, playerCharge playerBi, ⟨m.requestIndex, m.account, 1⟩)
  | none => (none, [], ⟨m.requestIndex, m.account, 2⟩)

/-- `ManageShort::lmsg_player_charge_confirm`.  What is left is written back
without its time. -/
def lmsgPlayerChargeConfirm (m : PlayerChargeConfirm) (playerBi : PlayerBriefInfo) :
    PlayerBriefInfo :=
  { playerBi with
    chargeInfo := (playerBi.chargeInfo.filter
        (fun c => c.requestIndex.toUInt64 ≠ m.requestIndex)).map
      (fun c => ⟨c.requestIndex, c.chargeValue, 0⟩) }

/-- `ManageShort::lmsg_player_is_online`; `addNewPlayerShortInfo` starts with
an empty pending list. -/
def lmsgPlayerIsOnline (mapId : UInt32) (playerBi : Option PlayerBriefInfo) :
    PlayerBriefInfo × List PlayerCharge :=
  let chargeInfo := match playerBi with
    | some playerBi => playerBi.chargeInfo
    | none => []
  let playerBi : PlayerBriefInfo := ⟨true, mapId, chargeInfo⟩
  (playerBi, playerCharge playerBi)

/-- `ManageShort::lmsg_player_is_offline`. -/
def lmsgPlayerIsOffline (playerBi : PlayerBriefInfo) : PlayerBriefInfo :=
  { playerBi with isOnline := false }

/-! ## §3. The player's scene (`ManagePlayer`). -/

/-- How much of an income the anti-addiction rule leaves. -/
inductive AddictionStatus where
  | normal | tired | weakness
  deriving Repr, DecidableEq

/-- The fields of `Player` that a recharge reads or writes. -/
structure Player where
  coin : UInt32
  vipExp : UInt32
  vipLevel : UInt32
  totalCoinCost : UInt64
  addictionStatus : AddictionStatus
  deriving Repr, DecidableEq

/-- The `Coin` entity, with the field that charges change. -/
structure Coin where
  coin : UInt32
  deriving Repr, DecidableEq

/-- The `Vip` entity, with the fields that charges change. -/
structure Vip where
  chargeInfo : List VipChargeInfo
  chargeCoin : UInt32
  firstChargeGift : UInt32
  costCoin : UInt32
  deriving Repr, DecidableEq

/-- `GET_ADDICTION_VALUE` of a positive value. -/
def getAddictionValue (value : Int32) : AddictionStatus → Int32
  | .normal => value
  | .tired => value / 2
  | .weakness => 0

/-- `ManagePlayer::updateCoin`. -/
def updateCoin (player : Player) (coin : Coin) (vip : Vip) (increaseValue : Int32)
    (isCharge : Bool) : Player × Coin × Vip :=
  let tired := !isCharge && 0 < increaseValue
  let value := if tired then getAddictionValue increaseValue player.addictionStatus
    else increaseValue
  if tired && value == 0 then (player, coin, vip)
  else
    let vip := if value < 0 then { vip with costCoin := vip.costCoin + (0 - value).toUInt32 }
      else vip
    -- the sum is taken in uint32 before it is assigned to an int64, so the
    -- test `coin_v >= 0` always passes
    let player := { player with coin := player.coin + value.toUInt32 }
    let player := if 0 < value then player
      else { player with totalCoinCost := player.totalCoinCost - value.toInt64.toUInt64 }
    (player, { coin with coin := player.coin }, vip)

/-- The level `ManagePlayer::updateVipExp` finds: the one before the first
entry of the table that asks for more. -/
def vipLevelOf (vipExp : Int32) : Int32 → List (UInt32 × Int32) → Int32
  | found, [] => found
  | _, (level, needed) :: rest =>
      if vipExp < needed then (level - 1).toInt32 else vipLevelOf vipExp level.toInt32 rest

/-- `ManagePlayer::updateVipExp`. -/
def updateVipExp (vipexpResInfoMap : List (UInt32 × Int32)) (player : Player)
    (increaseExp : Int32) : Player :=
  let vipExp := (player.vipExp + increaseExp.toUInt32).toInt32
  if 0 < vipExp then
    let vipLevel := (vipLevelOf vipExp 0 vipexpResInfoMap).toUInt32
    let player := { player with vipExp := vipExp.toUInt32 }
    if player.vipLevel < vipLevel then { player with vipLevel := vipLevel } else player
  else player

/-- `ManagePlayer::is_valid_charge_request`. -/
def isValidChargeRequest (vip : Vip) (requestIndex : UInt32) : Bool :=
  vip.chargeInfo.all fun c => c.requestIndex ≠ requestIndex

/-- `ManagePlayer::recodeChargeInfo`. -/
def recodeChargeInfo (currTime : UInt64) (vip : Vip) (requestIndex chargeValue : UInt32) : Vip :=
  { vip with
    chargeInfo := vip.chargeInfo ++ [⟨requestIndex, chargeValue, currTime⟩]
    chargeCoin := vip.chargeCoin + chargeValue }

/-- The branch of `ManagePlayer::lmsg_player_charge` for a valid request. -/
def creditCharge (vipexpResInfoMap : List (UInt32 × Int32)) (currTime : UInt64)
    (m : PlayerCharge) (player : Player) (coin : Coin) (vip : Vip) : Player × Coin × Vip :=
  let vip := if vip.firstChargeGift = 1 then { vip with firstChargeGift := 2 } else vip
  let player := updateVipExp vipexpResInfoMap player m.chargeValue.toUInt32.toInt32
  let (player, coin, vip) := updateCoin player coin vip m.chargeValue.toUInt32.toInt32 true
  (player, coin, recodeChargeInfo currTime vip m.requestIndex.toUInt32 m.chargeValue.toUInt32)

/-- `ManagePlayer::lmsg_player_charge` for a player whose three entities are in
the pool. -/
def lmsgPlayerCharge (vipexpResInfoMap : List (UInt32 × Int32)) (currTime : UInt64)
    (m : PlayerCharge) (player : Player) (coin : Coin) (vip : Vip) :
    (Player × Coin × Vip) × PlayerChargeConfirm :=
  if isValidChargeRequest vip m.requestIndex.toUInt32 then
    (creditCharge vipexpResInfoMap currTime m player coin vip,
      ⟨m.requestIndex, m.chargeValue, 1⟩)
  else ((player, coin, vip), ⟨m.requestIndex, m.chargeValue, 2⟩)

/-! ## §4. What a credit changes. -/

/-- A recharge adds its value to the coins, in uint32. -/
theorem updateCoin_charge (player : Player) (coin : Coin) (vip : Vip) (value : Int32) :
    (updateCoin player coin vip value true).1.coin = player.coin + value.toUInt32 ∧
      (updateCoin player coin vip value true).2.1.coin = player.coin + value.toUInt32 ∧
      (updateCoin player coin vip value true).2.2.chargeInfo = vip.chargeInfo := by
  unfold updateCoin
  dsimp only [Bool.not_true, Bool.false_and]
  -- neither the cost counters nor the sign of the value reaches the coins
  refine ⟨?_, ?_, ?_⟩
  · show (if 0 < value then _ else _ : Player).coin = _
    split <;> rfl
  · show (if 0 < value then _ else _ : Player).coin = _
    split <;> rfl
  · show (if value < 0 then _ else _ : Vip).chargeInfo = _
    split <;> rfl

theorem updateVipExp_coin (vipexpResInfoMap : List (UInt32 × Int32)) (player : Player)
    (increaseExp : Int32) : (updateVipExp vipexpResInfoMap player increaseExp).coin = player.coin := by
  unfold updateVipExp
  dsimp only
  split
  · split <;> rfl
  · rfl

/-- **A credit**: the coins grow by the value, in uint32, and the request is
recorded with its value. -/
theorem creditCharge_spec (vipexpResInfoMap : List (UInt32 × Int32)) (currTime : UInt64)
    (m : PlayerCharge) (player : Player) (coin : Coin) (vip : Vip) :
    (creditCharge vipexpResInfoMap currTime m player coin vip).1.coin
        = player.coin + m.chargeValue.toUInt32 ∧
      (creditCharge vipexpResInfoMap currTime m player coin vip).2.1.coin
        = player.coin + m.chargeValue.toUInt32 ∧
      (creditCharge vipexpResInfoMap currTime m player coin vip).2.2.chargeInfo
        = vip.chargeInfo ++ [⟨m.requestIndex.toUInt32, m.chargeValue.toUInt32, currTime⟩] := by
  unfold creditCharge recodeChargeInfo
  dsimp only
  have hgift : (if vip.firstChargeGift = 1 then { vip with firstChargeGift := 2 } else vip).chargeInfo
      = vip.chargeInfo := by
    split <;> rfl
  obtain ⟨hplayer, hcoin, hvip⟩ := updateCoin_charge
    (updateVipExp vipexpResInfoMap player m.chargeValue.toUInt32.toInt32) coin
    (if vip.firstChargeGift = 1 then { vip with firstChargeGift := 2 } else vip)
    m.chargeValue.toUInt32.toInt32
  rw [updateVipExp_coin] at hplayer hcoin
  refine ⟨hplayer, hcoin, ?_⟩
  rw [hvip, hgift]

end Steppingstone.Charge
