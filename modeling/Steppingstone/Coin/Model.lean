/-
  Steppingstone.Coin.Model — the coin entity of one player, on the line scene and on the map scenes
  (`ManageShort.cpp`, `ManagePlayer.cpp`, `PlayerAssistant.cpp`).

  A map scene that loads a player asks the line scene for the coin entity.  The line scene hands its
  own over; without one it asks every map scene to log the player off and loads the coin from the
  database.  A map scene that has flushed a player sends the coin back to the line scene.

  Every scene has one queue of messages and one connection to the cache, both in order.  Runs have
  no jumps between maps and no restarts.  Whether the line scene knows the player
  (`playerEnteredWorld`), when a timer fires and which cache request fails is for the environment to
  choose.
-/
import Steppingstone.Balance.Model
import Steppingstone.Lib.TransSys

namespace Steppingstone.Coin

open Balance (guardedSum effectiveValue)
open Charge (AddictionStatus)

/-! ## §1. Entities and messages. -/

/-- The two balances of a coin entity. -/
inductive Currency
  | coin | money
  deriving Repr, DecidableEq

/-- The balances of a `Coin`, and the same fields of a `Player`. -/
structure Purse where
  coin : UInt32
  money : UInt32
  deriving Repr, DecidableEq

namespace Purse

/-- The balance of one currency. -/
def balance (p : Purse) : Currency → UInt32
  | .coin => p.coin
  | .money => p.money

/-- The entity with another balance of one currency. -/
def setBalance (p : Purse) : Currency → UInt32 → Purse
  | .coin, v => { p with coin := v }
  | .money, v => { p with money := v }

/-- The balance grows by the value. -/
def add (p : Purse) (i : Currency) (value : Int32) : Purse :=
  p.setBalance i (guardedSum (p.balance i) value)

/-- `can_reduce_coin && can_reduce_money` -/
def CanReduce (p : Purse) (coin money : Int32) : Prop :=
  (0 ≤ coin ∧ coin.toUInt32 ≤ p.coin) ∧ 0 ≤ money ∧ money.toUInt32 ≤ p.money

instance instDecidableCanReduce (p : Purse) (coin money : Int32) :
    Decidable (p.CanReduce coin money) :=
  inferInstanceAs (Decidable (_ ∧ _))

/-- What `reduceOfflinePlayerCoin` takes from both balances, without a check. -/
def reduce (p : Purse) (coin money : Int32) : Purse :=
  { coin := p.coin - coin.toUInt32, money := p.money - money.toUInt32 }

end Purse

/-- `Player`, as far as it concerns the coin entity. -/
structure Player where
  /-- `coin_guid` is set. -/
  coinGuid : Bool
  purse : Purse
  deriving Repr, DecidableEq

/-- What a map scene sends to the line scene; `ι` are the maps. -/
inductive LineMsg (ι : Type)
  /-- `STOL_REQUEST_PLAYER_DATA` -/
  | requestPlayerData (mapId : ι)
  /-- `STOL_DELIVERY_PLAYER_DATA` -/
  | deliveryPlayerData (coin : Purse)
  deriving Repr, DecidableEq

/-- What the line scene sends to a map scene. -/
inductive MapMsg (ι : Type)
  /-- `LTOS_DELIVERY_PLAYER_DATA` -/
  | deliveryPlayerData (coin : Purse)
  /-- `LTOS_INNER_REQUEST_LOGOFF` -/
  | innerRequestLogoff (mapId : ι)
  deriving Repr, DecidableEq

/-- What a map scene asks of the cache. -/
inductive MapRequest
  /-- `load_player_from_db` is called back. -/
  | loadPlayer
  /-- `load_player_role` -/
  | loadRole
  /-- `load_player_role_equipment` -/
  | loadEquipment
  /-- `flush_player` -/
  | flushPlayer (player : Player)
  | writePlayer (player : Player)
  | writeCoin (coin : Purse)
  deriving Repr, DecidableEq

/-- The cache's answer to a load or a flush. -/
inductive MapReply
  | player (player : Player)
  | role
  | equipment
  | flushed
  deriving Repr, DecidableEq

/-- What the line scene asks of the cache. -/
inductive LineRequest (ι : Type)
  | loadCoin (mapId : ι)
  | writeCoin (coin : Purse)
  deriving Repr, DecidableEq

/-! ## §2. The scenes. -/

/-- The values of `PlayerOnlineState` without jumps. -/
inductive PlayerOnlineState
  | loadingEnterMap
  | online
  | flushingLeaveMap
  | offline
  deriving Repr, DecidableEq

/-- `PlayerLoadingData`: the coin and the player that have arrived. -/
structure PlayerLoadingData where
  coin : Option Purse := none
  player : Option Player := none
  deriving Repr, DecidableEq

/-- The `Player` message in a pool. -/
structure PoolPlayer where
  player : Player
  isFlushing : Bool := false
  deriving Repr, DecidableEq

/-- The player on a map scene. -/
structure MapScene (ι : Type) where
  /-- `m_player_state` -/
  playerState : Option PlayerOnlineState := none
  playerOnlineBeforeFinishFlushing : Bool := false
  needFlushPlayer : Bool := false
  loadingData : Option PlayerLoadingData := none
  /-- The player in the pool. -/
  player : Option PoolPlayer := none
  /-- The coin in the pool. -/
  coin : Option Purse := none
  /-- An update of the coin is pending in the pool. -/
  coinUpdated : Bool := false
  input : List (MapMsg ι) := []
  toCache : List MapRequest := []
  fromCache : List MapReply := []
  deriving Repr, DecidableEq

/-- The line scene. -/
structure LineScene (ι : Type) where
  /-- The coin in the pool. -/
  coin : Option Purse := none
  coinUpdated : Bool := false
  input : List (LineMsg ι) := []
  toCache : List (LineRequest ι) := []
  /-- The coins that were loaded, each for a map. -/
  fromCache : List (ι × Option Purse) := []
  deriving Repr, DecidableEq

/-- All the scenes and the database. -/
structure World (ι : Type) where
  line : LineScene ι := {}
  maps : ι → MapScene ι := fun _ => {}
  /-- The row of the coin. -/
  coinRow : Option Purse
  playerRow : Player
  /-- An exact account of every increase and deduction. -/
  ledger : Purse

variable {ι : Type} [DecidableEq ι]

/-! ## §3. Messages within one map scene. -/

namespace MapScene

/-- `GET_PLAYER_FROM_POOL`: an entity that is being flushed is not returned. -/
def getPlayer (s : MapScene ι) : Option Player :=
  (s.player.filter fun player => !player.isFlushing).map (·.player)

/-- `GET_COIN_FROM_POOL(pool, player->coin_guid(), coin)` -/
def getCoin (s : MapScene ι) (player : Player) : Option Purse :=
  if player.coinGuid then s.coin else none

/-- `cmsg_leave_world`.  Without a state entry the message is for another map. -/
def cmsgLeaveWorld (s : MapScene ι) : MapScene ι :=
  if s.playerOnlineBeforeFinishFlushing then { s with playerOnlineBeforeFinishFlushing := false }
  else
    match s.playerState with
    | none => s
    | some .loadingEnterMap => { s with playerState := some .offline }
    | some .flushingLeaveMap => s
    | some .offline => s
    | some .online =>
        { s with
          playerState := some .flushingLeaveMap
          needFlushPlayer := s.needFlushPlayer || s.getPlayer.isSome }

/-- `ltos_inner_request_logoff`; `sameMap` if the request came from this map. -/
def ltosInnerRequestLogoff (s : MapScene ι) (sameMap : Bool) : MapScene ι :=
  if sameMap then s
  else
    match s.getPlayer with
    | none =>
        if s.playerState.isSome then { s with playerState := none, loadingData := none } else s
    | some _ => s.cmsgLeaveWorld

/-- `ltos_delivery_player_data`: without `PlayerLoadingData` the coin is dropped. -/
def ltosDeliveryPlayerData (s : MapScene ι) (coin : Purse) : MapScene ι :=
  match s.loadingData with
  | none => s
  | some pld =>
      { s with
        loadingData := some { pld with coin := pld.coin <|> some coin }
        toCache := s.toCache ++ [.loadPlayer] }

/-- `playerDataLoadFinish`.  Without a state entry the iterator is `end()`, and what is written
through it is left out. -/
def playerDataLoadFinish (s : MapScene ι) (isSuccess : Bool) : MapScene ι :=
  if s.playerState = some .offline then { s with needFlushPlayer := true }
  else if isSuccess then
    match s.getPlayer with
    | none => s
    | some player =>
        if player.coinGuid then
          match s.coin with
          | none => s
          | some coin =>
              { s with
                player := some { player := { player with purse := coin } }
                playerState := s.playerState.map fun _ => .online }
        else
          -- `nmsg_player_is_online`: a player without a coin gets one
          { s with
            player := some { player := { player with coinGuid := true } }
            playerState := s.playerState.map fun _ => .online
            coin := s.coin <|> some player.purse
            toCache := s.toCache ++ (if s.coin.isNone then [.writeCoin player.purse] else []) }
  else { s with needFlushPlayer := false, playerState := none }

/-- `playerLoadFailed` -/
def playerLoadFailed (s : MapScene ι) : MapScene ι :=
  playerDataLoadFinish { s with loadingData := none } false

/-- `addEntityToPool`: the pool keeps an entity that it has already. -/
def addEntityToPool (s : MapScene ι) (pld : PlayerLoadingData) : MapScene ι :=
  { s with
    player := s.player <|> pld.player.map fun player => { player }
    coin := s.coin <|> pld.coin
    loadingData := none }

/-- `playerLoadSuccess` -/
def playerLoadSuccess (s : MapScene ι) : MapScene ι :=
  match s.loadingData with
  | none => s
  | some pld => (s.addEntityToPool pld).playerDataLoadFinish true

/-- The reply to a load, and whether it calls `playerLoadSuccess` or `playerLoadFailed`; `isEmpty` if
nothing more is to be loaded. -/
def loadReply (s : MapScene ι) (success isEmpty : Bool) : MapReply → MapScene ι × Option Bool
  | .player player =>
      if !success then (s, some false)
      else
        match s.loadingData with
        | none => (s, none)
        | some pld =>
            let s := { s with
              loadingData := some { pld with player := pld.player <|> some player } }
            if isEmpty then (s, some true)
            else ({ s with toCache := s.toCache ++ [.loadRole] }, none)
  | .role =>
      if !success then (s, some false)
      else if (s.loadingData.bind (·.player)).isNone then (s, none)
      else if isEmpty then (s, some true)
      else ({ s with toCache := s.toCache ++ [.loadEquipment] }, none)
  | .equipment => (s, some success)
  | .flushed => (s, none)

/-- The end of a load, if it ends. -/
def loadEnd (s : MapScene ι) : Option Bool → MapScene ι
  | none => s
  | some true => s.playerLoadSuccess
  | some false => s.playerLoadFailed

/-- `processNeedFlushPlayer`, which calls `request_flush_player`.  What is pending for the player,
the update of its coin included, is cleared; the coin is not among the entities that are flushed. -/
def processNeedFlushPlayer (s : MapScene ι) : MapScene ι :=
  if s.needFlushPlayer && s.playerState ≠ some .online then
    match s.getPlayer with
    | none => { s with needFlushPlayer := false }
    | some player =>
        { s with
          needFlushPlayer := false
          player := some { player, isFlushing := true }
          coinUpdated := false
          toCache := s.toCache ++ [.flushPlayer player] }
  else { s with needFlushPlayer := false }

/-- `update` of the pool writes the coin if an update of it is pending. -/
def updatePool (s : MapScene ι) : MapScene ι :=
  { s with
    coinUpdated := false
    toCache := s.toCache ++
      (if s.coinUpdated then (s.coin.map MapRequest.writeCoin).toList else []) }

/-- A handler marks the player, and the pool writes it. -/
def updatePlayer (s : MapScene ι) : MapScene ι :=
  { s with toCache := s.toCache ++ (s.getPlayer.map MapRequest.writePlayer).toList }

end MapScene

/-! ## §4. Messages between the scenes. -/

namespace World

/-- The world with another state of one map scene. -/
def setMap (w : World ι) (m : ι) (s : MapScene ι) : World ι :=
  { w with maps := Function.update w.maps m s }

/-- `scenePackInput` -/
def scenePackInput (w : World ι) (msg : LineMsg ι) : World ι :=
  { w with line := { w.line with input := w.line.input ++ [msg] } }

/-- `sendSceneMsg` -/
def sendSceneMsg (w : World ι) (m : ι) (msg : MapMsg ι) : World ι :=
  w.setMap m { w.maps m with input := (w.maps m).input ++ [msg] }

/-- `broadCastSceneMsg` -/
def broadCastSceneMsg (w : World ι) (msg : MapMsg ι) : World ι :=
  { w with maps := fun i => { w.maps i with input := (w.maps i).input ++ [msg] } }

/-- `request_load_player` -/
def requestLoadPlayer (w : World ι) (m : ι) (playerEnteredWorld : Bool) : World ι :=
  let s := w.maps m
  if s.loadingData.isSome then w
  else if playerEnteredWorld then
    (w.setMap m { s with loadingData := some {} }).scenePackInput (.requestPlayerData m)
  else w.setMap m { s with loadingData := some {}, toCache := s.toCache ++ [.loadPlayer] }

/-- `cmsg_enter_world` -/
def cmsgEnterWorld (w : World ι) (m : ι) (playerEnteredWorld : Bool) : World ι :=
  let s := w.maps m
  if s.playerOnlineBeforeFinishFlushing then w
  else
    match s.playerState with
    | some .loadingEnterMap => w
    | some .online => w
    | some .flushingLeaveMap => w.setMap m { s with playerOnlineBeforeFinishFlushing := true }
    | _ =>
        let w := w.requestLoadPlayer m playerEnteredWorld
        w.setMap m { w.maps m with playerState := some .loadingEnterMap }

/-- `deliveryCoinToLS`, for a map scene that has flushed the player: the coin takes the player's
balances, and leaves the pool. -/
def deliveryCoinToLS (w : World ι) (m : ι) (player : Player) : World ι :=
  match (w.maps m).getCoin player with
  | none => w
  | some _ =>
      (w.setMap m { w.maps m with coin := none }).scenePackInput (.deliveryPlayerData player.purse)

/-- The player that has been flushed leaves the pool, and its coin does. -/
def removeFlushed (w : World ι) (m : ι) : World ι :=
  match (w.maps m).player with
  | none => w
  | some player =>
      let w := w.deliveryCoinToLS m player.player
      w.setMap m { w.maps m with player := none }

/-- `playerFlushDataFinish`; its result does not depend on `is_success`.  Without a state entry
nothing happens. -/
def playerFlushDataFinish (w : World ι) (m : ι) (playerEnteredWorld : Bool) : World ι :=
  if (w.maps m).playerState.isNone then w
  else
    let w := w.removeFlushed m
    if (w.maps m).playerOnlineBeforeFinishFlushing then
      let w := w.requestLoadPlayer m playerEnteredWorld
      w.setMap m { w.maps m with
        playerState := some .loadingEnterMap, playerOnlineBeforeFinishFlushing := false }
    else w.setMap m { w.maps m with playerState := none }

/-- `stol_request_player_data`; `loadCoinFromDb` asks the cache for the coin. -/
def stolRequestPlayerData (w : World ι) (m : ι) : World ι :=
  match w.line.coin with
  | none =>
      let w := w.broadCastSceneMsg (.innerRequestLogoff m)
      { w with line := { w.line with toCache := w.line.toCache ++ [.loadCoin m] } }
  | some coin =>
      let w := w.sendSceneMsg m (.deliveryPlayerData coin)
      { w with line := { w.line with coin := none } }

/-- `stol_delivery_player_data`: the pool keeps a coin that it has already. -/
def stolDeliveryPlayerData (w : World ι) (coin : Purse) : World ι :=
  { w with line := { w.line with coin := w.line.coin <|> some coin } }

/-- `loadPlayerCoinFinish`.  The guid of its message is made from the map's id; the map scene goes
by the player in the coin. -/
def loadPlayerCoinFinish (w : World ι) (m : ι) (coin : Option Purse) (success : Bool) : World ι :=
  match coin with
  | some coin => if success then w.sendSceneMsg m (.deliveryPlayerData coin) else w
  | none => w

/-- `reduceOfflinePlayerCoin` -/
def reduceOfflinePlayerCoin (w : World ι) (coin money : Int32) : World ι :=
  match w.line.coin with
  | none => w
  | some c =>
      if c.CanReduce coin money then
        { w with
          line := { w.line with coin := some (c.reduce coin money), coinUpdated := true }
          ledger := w.ledger.reduce coin money }
      else w

/-- One balance of the player and its coin: the player's grows, and the coin takes it over. -/
def updateBalance (w : World ι) (m : ι) (i : Currency) (increaseValue : Option Int32) :
    World ι :=
  let s := w.maps m
  match increaseValue, s.getPlayer with
  | some value, some player =>
      match s.getCoin player with
      | none => w
      | some coin =>
          let purse := player.purse.add i value
          let s := { s with
            player := some { player := { player with purse } }
            coin := some (coin.setBalance i (purse.balance i))
            coinUpdated := true }
          { w.setMap m s with ledger := w.ledger.add i value }
  | _, _ => w

/-- `updateMoney` -/
def updateMoney (w : World ι) (m : ι) (status : AddictionStatus) (increaseValue : Int32) :
    World ι :=
  w.updateBalance m .money (effectiveValue status increaseValue)

/-- `updateCoin` -/
def updateCoin (w : World ι) (m : ι) (status : AddictionStatus) (increaseValue : Int32)
    (isCharge : Bool) : World ι :=
  w.updateBalance m .coin
    (if isCharge then some increaseValue else effectiveValue status increaseValue)

/-! ## §5. The cache. -/

/-- A reply of the cache on its way to a map scene. -/
def cacheReply (w : World ι) (m : ι) (r : MapReply) : World ι :=
  w.setMap m { w.maps m with fromCache := (w.maps m).fromCache ++ [r] }

/-- The cache serves a request of a map scene. -/
def serve (w : World ι) (m : ι) : MapRequest → World ι
  | .loadPlayer => w.cacheReply m (.player w.playerRow)
  | .loadRole => w.cacheReply m .role
  | .loadEquipment => w.cacheReply m .equipment
  | .flushPlayer player => { w.cacheReply m .flushed with playerRow := player }
  | .writePlayer player => { w with playerRow := player }
  | .writeCoin coin => { w with coinRow := some coin }

/-- The cache serves a request of the line scene. -/
def serveLine (w : World ι) : LineRequest ι → World ι
  | .loadCoin m =>
      { w with line := { w.line with fromCache := w.line.fromCache ++ [(m, w.coinRow)] } }
  | .writeCoin coin => { w with coinRow := some coin }

/-- `update` of the line scene's pool. -/
def updatePool (w : World ι) : World ι :=
  { w with
    line := { w.line with
      coinUpdated := false
      toCache := w.line.toCache ++
        (if w.line.coinUpdated then (w.line.coin.map LineRequest.writeCoin).toList else []) } }

end World

/-! ## §6. The system. -/

/-- What the line, the map scenes, the cache and the player do. -/
inductive Action (ι : Type)
  | enterWorld (m : ι) (playerEnteredWorld : Bool)
  | leaveWorld (m : ι)
  | updateMoney (m : ι) (status : AddictionStatus) (increaseValue : Int32)
  | updateCoin (m : ι) (status : AddictionStatus) (increaseValue : Int32) (isCharge : Bool)
  | reduceOfflinePlayerCoin (coin money : Int32)
  /-- A map scene handles the next message of its queue. -/
  | mapInput (m : ι)
  /-- The line scene does. -/
  | lineInput
  | processNeedFlushPlayer (m : ι)
  | updatePool (m : ι)
  | updatePlayer (m : ι)
  | lineUpdatePool
  /-- The cache serves the next request of a map scene. -/
  | cache (m : ι)
  | lineCache
  /-- A map scene handles the next reply of the cache. -/
  | mapReply (m : ι) (success isEmpty playerEnteredWorld : Bool)
  | lineReply (success : Bool)
  deriving Repr, DecidableEq

/-- The map scene handles a message. -/
def World.mapMsg (w : World ι) (m : ι) : MapMsg ι → World ι
  | .deliveryPlayerData coin => w.setMap m ((w.maps m).ltosDeliveryPlayerData coin)
  | .innerRequestLogoff mapId => w.setMap m ((w.maps m).ltosInnerRequestLogoff (mapId = m))

/-- The line scene handles a message. -/
def World.lineMsg (w : World ι) : LineMsg ι → World ι
  | .requestPlayerData m => w.stolRequestPlayerData m
  | .deliveryPlayerData coin => w.stolDeliveryPlayerData coin

/-- The map scene handles a reply. -/
def World.mapReply (w : World ι) (m : ι) (success isEmpty playerEnteredWorld : Bool) :
    MapReply → World ι
  | .flushed => w.playerFlushDataFinish m playerEnteredWorld
  | r =>
      let (s, result) := (w.maps m).loadReply success isEmpty r
      w.setMap m (s.loadEnd result)

/-- One step; messages, requests and replies are taken in order. -/
def step (w : World ι) : Action ι → Option (World ι)
  | .enterWorld m playerEnteredWorld => some (w.cmsgEnterWorld m playerEnteredWorld)
  | .leaveWorld m => some (w.setMap m (w.maps m).cmsgLeaveWorld)
  | .updateMoney m status increaseValue => some (w.updateMoney m status increaseValue)
  | .updateCoin m status increaseValue isCharge =>
      some (w.updateCoin m status increaseValue isCharge)
  | .reduceOfflinePlayerCoin coin money => some (w.reduceOfflinePlayerCoin coin money)
  | .mapInput m =>
      match (w.maps m).input with
      | [] => none
      | msg :: rest => some ((w.setMap m { w.maps m with input := rest }).mapMsg m msg)
  | .lineInput =>
      match w.line.input with
      | [] => none
      | msg :: rest => some (World.lineMsg { w with line := { w.line with input := rest } } msg)
  | .processNeedFlushPlayer m => some (w.setMap m (w.maps m).processNeedFlushPlayer)
  | .updatePool m => some (w.setMap m (w.maps m).updatePool)
  | .updatePlayer m => some (w.setMap m (w.maps m).updatePlayer)
  | .lineUpdatePool => some w.updatePool
  | .cache m =>
      match (w.maps m).toCache with
      | [] => none
      | r :: rest => some ((w.setMap m { w.maps m with toCache := rest }).serve m r)
  | .lineCache =>
      match w.line.toCache with
      | [] => none
      | r :: rest => some (World.serveLine { w with line := { w.line with toCache := rest } } r)
  | .mapReply m success isEmpty playerEnteredWorld =>
      match (w.maps m).fromCache with
      | [] => none
      | r :: rest =>
          some ((w.setMap m { w.maps m with fromCache := rest }).mapReply m success isEmpty
            playerEnteredWorld r)
  | .lineReply success =>
      match w.line.fromCache with
      | [] => none
      | (m, coin) :: rest =>
          some (World.loadPlayerCoinFinish { w with line := { w.line with fromCache := rest } } m
            coin success)

/-- The player is nowhere.  Its coin is in the database, or it has not got one yet and will get one
with the balances of the player. -/
def World.Initial (w : World ι) : Prop :=
  w.line = {} ∧ (∀ m, w.maps m = {}) ∧
    if w.playerRow.coinGuid then w.coinRow = some w.ledger
    else w.coinRow = none ∧ w.playerRow.purse = w.ledger

/-- The line scene, the map scenes and the cache, for the coin entity of one player. -/
def coinSystem : TransSys (World ι) (Action ι) where
  init := World.Initial
  step := step

end Steppingstone.Coin
