/-
  Steppingstone.Short.Reward — rewards that pass through the line scene
  (`ManageShort.cpp`).

  A reward for a player is added to `Short.reward_info` and announced to the
  player's scene by `LTOS_UPDATE_REWARD`; the scene's answer
  `STOL_UPDATE_REWARD` takes it out again.  At login everything that is still
  pending is announced once more.  The amounts are `int32` and `uint32` and
  wrap; the handlers are embedded one by one, with the inner loop of
  `plmsg_pick_up` on fuel, since its bound grows as it runs.
-/
import Mathlib.Data.List.Basic

namespace Steppingstone.Short

/-! ## §1. Messages and the stored record. -/

/-- `Short.RewardInfo`. -/
structure RewardInfo where
  money : Int32 := 0
  coin : Int32 := 0
  seniority : Int32 := 0
  prestige : UInt32 := 0
  reverence : UInt32 := 0
  energy : UInt32 := 0
  itemId : List UInt32 := []
  itemNum : List UInt32 := []
  sourceFrom : List UInt32 := []
  deriving Repr, DecidableEq

/-- `plmsg_line_update_reward`, the fields that are stored and passed on. -/
structure LineUpdateReward where
  money : Int32 := 0
  coin : Int32 := 0
  seniority : Int32 := 0
  prestige : UInt32 := 0
  reverence : UInt32 := 0
  energy : UInt32 := 0
  deriving Repr, DecidableEq

/-- `plmsg_pick_up`. -/
structure PickUp where
  itemId : List UInt32 := []
  itemNum : List UInt32 := []
  sourceFrom : UInt32 := 0
  deriving Repr, DecidableEq

/-- `ltos_update_reward`; `stol_update_reward` echoes all of it but the source. -/
structure UpdateReward where
  money : Int32 := 0
  coin : Int32 := 0
  seniority : Int32 := 0
  prestige : UInt32 := 0
  reverence : UInt32 := 0
  energy : UInt32 := 0
  itemId : List UInt32 := []
  itemNum : List UInt32 := []
  sourceFrom : UInt32 := 0
  deriving Repr, DecidableEq

/-! ## §2. `stol_update_reward`. -/

/-- The inner loop over the stored items: the first one with the id gives up
the acknowledged number, or everything it has. -/
def reduceFirst (id num : UInt32) : List UInt32 → List UInt32 → List UInt32
  | id' :: ids, n :: nums =>
      if id = id' then (if n ≥ num then n - num else 0) :: nums
      else n :: reduceFirst id num ids nums
  | _, nums => nums

/-- The loop over the acknowledged items. -/
def reduceItems (acked : List (UInt32 × UInt32)) (ids nums : List UInt32) : List UInt32 :=
  acked.foldl (fun nums a => reduceFirst a.1 a.2 ids nums) nums

/-- The items that keep a positive number, with their sources. -/
def keptItems (r : RewardInfo) : List (UInt32 × UInt32 × UInt32) :=
  (r.itemId.zip (r.itemNum.zip r.sourceFrom)).filter (fun e => 0 < e.2.1)

/-- The lists are rebuilt from the kept items; `source_from` is not cleared first. -/
def rebuildItems (r : RewardInfo) : RewardInfo :=
  { r with
    itemId := (keptItems r).map (·.1)
    itemNum := (keptItems r).map (·.2.1)
    sourceFrom := r.sourceFrom ++ (keptItems r).map (·.2.2) }

/-- `stol_update_reward`.  The new amount of a currency is the acknowledged
amount minus itself; the stored amount is only compared. -/
def stolUpdateReward (r : RewardInfo) (ack : UpdateReward) (result : UInt32) : RewardInfo :=
  if result = 1 then
    rebuildItems
      { r with
        money := if r.money ≥ ack.money then ack.money - ack.money else 0
        coin := if r.coin ≥ ack.coin then ack.coin - ack.coin else 0
        seniority := if r.seniority ≥ ack.seniority then ack.seniority - ack.seniority else 0
        prestige := if r.prestige ≥ ack.prestige then ack.prestige - ack.prestige else 0
        reverence := if r.reverence ≥ ack.reverence then ack.reverence - ack.reverence else 0
        energy := if r.energy ≥ ack.energy then ack.energy - ack.energy else 0
        itemNum := reduceItems (ack.itemId.zip ack.itemNum) r.itemId r.itemNum }
  else r

/-! ## §3. `plmsg_line_update_reward`. -/

/-- The checks at the head of the handler; the last three fields are unsigned. -/
def LineUpdateReward.accepted (g : LineUpdateReward) : Bool :=
  decide (0 ≤ g.money) && decide (0 ≤ g.coin) && decide (0 ≤ g.seniority)

/-- "save reward". -/
def saveReward (r : RewardInfo) (g : LineUpdateReward) : RewardInfo :=
  { r with
    money := r.money + g.money
    coin := r.coin + g.coin
    seniority := r.seniority + g.seniority
    prestige := r.prestige + g.prestige
    reverence := r.reverence + g.reverence
    energy := r.energy + g.energy }

/-- What the player's scene is told. -/
def LineUpdateReward.announce (g : LineUpdateReward) : UpdateReward where
  money := g.money
  coin := g.coin
  seniority := g.seniority
  prestige := g.prestige
  reverence := g.reverence
  energy := g.energy

/-- `plmsg_line_update_reward`: the stored record and the messages sent. -/
def plmsgLineUpdateReward (r : RewardInfo) (isOnline : Bool) (g : LineUpdateReward) :
    RewardInfo × List UpdateReward :=
  if g.accepted then (saveReward r g, if isOnline then [g.announce] else [])
  else (r, [])

/-! ## §4. `plmsg_pick_up`. -/

/-- The inner loop for one item: it adds an entry for every `j` below the
current length of the list it adds to. -/
def pickUpLoop (id num source : UInt32) : Nat → Nat → RewardInfo → Option RewardInfo
  | 0, _, _ => none
  | fuel + 1, j, r =>
      if j < r.itemId.length then
        pickUpLoop id num source fuel (j + 1)
          { r with
            itemId := r.itemId ++ [id]
            itemNum := r.itemNum ++ [num]
            sourceFrom := r.sourceFrom ++ [source] }
      else some r

/-- The outer loop. -/
def pickUpItems (source : UInt32) (fuel : Nat) :
    List (UInt32 × UInt32) → RewardInfo → Option RewardInfo
  | [], r => some r
  | (id, num) :: items, r =>
      (pickUpLoop id num source fuel 0 r).bind (pickUpItems source fuel items)

/-- The scene is told of the items whether the player is online or not. -/
def PickUp.announce (m : PickUp) : UpdateReward where
  itemId := m.itemId
  itemNum := m.itemNum
  sourceFrom := m.sourceFrom

/-- `plmsg_pick_up`; `none` when the fuel does not suffice. -/
def plmsgPickUp (fuel : Nat) (r : RewardInfo) (m : PickUp) :
    Option (RewardInfo × List UpdateReward) :=
  if m.itemId.length = m.itemNum.length then
    (pickUpItems m.sourceFrom fuel (m.itemId.zip m.itemNum) r).map
      (fun r' => (r', [m.announce]))
  else some (r, [])

/-! ## §5. `nlmsg_player_is_online`. -/

/-- The one message object of the item loop is queued once for every item and
holds the last item by the end of the loop. -/
def resendItems (r : RewardInfo) : List UpdateReward :=
  match (r.itemId.zip (r.itemNum.zip r.sourceFrom)).getLast? with
  | none => []
  | some (id, num, source) =>
      List.replicate r.itemId.length { itemId := [id], itemNum := [num], sourceFrom := source }

/-- `nlmsg_player_is_online`: everything pending is announced again. -/
def nlmsgPlayerIsOnline (r : RewardInfo) : List UpdateReward :=
  (if r.money > 0 ∨ r.coin > 0 ∨ r.seniority > 0 ∨ r.prestige > 0 ∨ r.reverence > 0 ∨
      r.energy > 0 ∨ r.itemId.length > 0 then
    [{ money := r.money, coin := r.coin, seniority := r.seniority, prestige := r.prestige,
       reverence := r.reverence, energy := r.energy }]
  else []) ++ resendItems r

end Steppingstone.Short
