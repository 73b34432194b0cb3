/-
  Steppingstone.Player.Removal — loads, updates, flushes and map jumps of the
  players of a scene, down to the entities that a finished flush takes out of
  the pool (`ManagePlayer::playerFlushDataFinish`,
  `playerFlushDataFinishAfterLostGateConnection`,
  `ManagePlayer::collectTransferPlayerInfo`, `PlayerAssistant::flush_player`).

  The pool is that of `Pool.Model` and a flush is that of `Player.Flush`.  What
  the player states do is the subject of `Player.LifeCycle`; here every change of
  a state is a step, but for the ones made by jumps and flushes.  Guids come from
  a schema: each belongs to one player and names an entity of one type.
-/
import Steppingstone.Player.Flush
import Steppingstone.Player.LifeCycle

namespace Steppingstone.Player

open Std (TreeMap TreeSet)
open Steppingstone.Pool

/-! ## §1. Guids. -/

/-- How guids are given out: the player that a guid belongs to, and the type of
its entity (`GUID_TYPE`, which `extractEntity` creates a message by). -/
structure Schema where
  owner : UInt64 → UInt64
  kind : UInt64 → EntityKind
  kind_coin : ∀ guid, kind guid = .coin ↔ guidType guid = etCoin

/-- Every field of an entity that refers to another one. -/
def Entity.links (e : Entity) : List Ref :=
  e.refs ++
    match e.asPlayer with
    | some player =>
        player.refs ++ [field .coin player.coinGuid, field .attach player.attach]
    | none => []

/-- The entity has its guid's type, and refers to entities of its own player, by
fields of their types; 0 and 1 refer to nothing. -/
structure Schema.Fits (sch : Schema) (e : Entity) : Prop where
  guid : 1 < e.guid
  kind : e.body.kind = sch.kind e.guid
  player : e.asPlayer.isSome → sch.owner e.guid = e.guid
  /-- The fields of a coin are there. -/
  coin : e.body.kind = .coin → e.asCoin.isSome
  links : ∀ r ∈ e.links, 1 < r.guid →
    sch.owner r.guid = sch.owner e.guid ∧ sch.kind r.guid = r.kind

instance (sch : Schema) (e : Entity) : Decidable (sch.Fits e) :=
  decidable_of_iff
    (1 < e.guid ∧ e.body.kind = sch.kind e.guid ∧
      (e.asPlayer.isSome → sch.owner e.guid = e.guid) ∧
      (e.body.kind = .coin → e.asCoin.isSome) ∧
      ∀ r ∈ e.links, 1 < r.guid →
        sch.owner r.guid = sch.owner e.guid ∧ sch.kind r.guid = r.kind)
    ⟨fun h => ⟨h.1, h.2.1, h.2.2.1, h.2.2.2.1, h.2.2.2.2⟩,
      fun h => ⟨h.guid, h.kind, h.player, h.coin, h.links⟩⟩

/-! ## §2. State. -/

/-- `PlayerAttachInfo`, with the message map of the transfer object. -/
structure AttachInfo where
  playerState : PlayerOnlineState
  transferInfo : Option EntityGuidMap := none

/-- What a finished flush did: the entities before and after, the transfer
object passed to the line scene, and the coin delivered to it. -/
structure FlushRemoval where
  player : UInt64
  requestList : RequestList Entity
  before : TreeMap UInt64 (EntityInfo Entity)
  after : TreeMap UInt64 (EntityInfo Entity)
  transferInfo : Option EntityGuidMap := none
  delivered : Option Entity := none

/-- The players of one scene and their flushes. -/
structure FlushServer where
  pool : PoolImp Entity
  playerState : TreeMap UInt64 AttachInfo := {}
  /-- The player that is bound to the callback of a request list. -/
  flushOf : TreeMap Nat UInt64 := {}
  lostGateConnection : Bool := false
  removals : List FlushRemoval := []

/-! ## §3. Jumping to another map. -/

/-- `GET_COIN_FROM_POOL`. -/
def getCoin (s : PoolImp Entity) (guid : UInt64) : Option (Entity × CoinEntity) :=
  (s.get guid).bind fun e => e.asCoin.map fun coin => (e, coin)

/-- `GET_ATTACH_FROM_POOL`. -/
def getAttach (s : PoolImp Entity) (guid : UInt64) : Option Entity :=
  (s.get guid).filter (·.body.kind = .attach)

/-- `collectTransferPlayerInfo`: the coin and the attach entity leave the pool at
once.  The items an attach entity offers for buying back are left out. -/
def collectTransferPlayerInfo (s : PoolImp Entity) (e : Entity) (player : PlayerEntity) :
    PoolImp Entity × Option EntityGuidMap :=
  match getCoin s player.coinGuid with
  | none => (s, none)
  | some (coin, _) =>
      let map := (getPlayerEntityMap s e.guid false).2.insert coin.guid coin
      let s := (s.remove coin.guid false false).1
      let map := map.insert e.guid e
      match getAttach s player.attach with
      | none => (s, some map)
      | some attach =>
          ((s.remove attach.guid false false).1, some (map.insert attach.guid attach))

/-- `playerJumpMap`, once its checks on the maps have passed; the new position is
part of the player's `data`. -/
def jumpMap (s : FlushServer) (p : UInt64) (data : List UInt8) : FlushServer :=
  match s.pool.get p with
  | none => s
  | some e =>
      match e.asPlayer, s.playerState[p]? with
      | some player, some _ =>
          match collectTransferPlayerInfo s.pool e player with
          | (_, none) => s
          | (pool, some map) =>
              { s with
                pool := pool.write p { e with data }
                playerState := s.playerState.insert p
                  { playerState := .flushingLeaveMapWithJump, transferInfo := some map } }
      | _, _ => s

/-! ## §4. A finished flush. -/

/-- Take entities out of the pool, without a write to the database. -/
def removeAll (s : PoolImp Entity) (guids : List UInt64) (removeEntityMsg : Bool) :
    PoolImp Entity :=
  guids.foldl (fun s guid => (s.remove guid false removeEntityMsg).1) s

/-- The coin that `deliveryCoinToLS` sends: the player's balances in a clone. -/
def deliveryCoinToLS (s : PoolImp Entity) (player : PlayerEntity) : Option Entity :=
  (getCoin s player.coinGuid).map fun (e, coin) =>
    { e with body := .coin { coin with coin := player.coin, money := player.money } }

/-- `playerFlushDataFinishAfterLostGateConnection`. -/
def playerFlushDataFinishAfterLostGateConnection (s : FlushServer) (p : UInt64)
    (requestList : RequestList Entity) : FlushServer :=
  let pool := removeAll s.pool (requestList.requestVec.map (·.guid)) false
  { s with
    pool
    removals :=
      { player := p, requestList, before := s.pool.entityMap, after := pool.entityMap }
        :: s.removals }

/-- `playerFlushDataFinish`.  Nothing in it depends on whether the list succeeded.
A player that has entered again is loaded by steps of its own. -/
def playerFlushDataFinish (s : FlushServer) (p : UInt64) (requestList : RequestList Entity) :
    FlushServer :=
  if s.lostGateConnection then playerFlushDataFinishAfterLostGateConnection s p requestList
  else
    match s.playerState[p]? with
    | none => s
    | some info =>
        let pool := s.pool.clearFlushState p
        let guids := requestList.requestVec.map (·.guid)
        if info.playerState = .flushingLeaveMapWithJump then
          let pool := removeAll pool guids false
          { s with
            pool
            playerState := s.playerState.erase p
            removals :=
              { player := p, requestList, before := s.pool.entityMap, after := pool.entityMap
                transferInfo := info.transferInfo } :: s.removals }
        else
          let player := (pool.get p).bind Entity.asPlayer
          let delivered := player.bind (deliveryCoinToLS pool)
          let pool := removeAll pool
            ((player.map fun player => [player.coinGuid, player.attach]).getD []) true
          let pool := removeAll pool guids true
          { s with
            pool
            playerState := s.playerState.erase p
            removals :=
              { player := p, requestList, before := s.pool.entityMap, after := pool.entityMap
                delivered } :: s.removals }

/-! ## §5. The system. -/

/-- What fills, changes and empties the pool of a scene. -/
inductive FlushAction
  /-- `addEntityToPool` for a loaded or arriving player. -/
  | load (player : UInt64) (entities : List Entity)
  /-- A new entity, which is to be written; an attach entity never is. -/
  | create (e : Entity)
  /-- A change of an entity that `get` returns. -/
  | update (e : Entity)
  /-- Entering, leaving and logging off. -/
  | setState (player : UInt64) (st : Option PlayerOnlineState)
  | jump (player : UInt64) (data : List UInt8)
  | flush (player : UInt64) (isUpdating : Bool)
  /-- The frame update of the pool. -/
  | frame
  | reply (i : Nat) (reply : CacheReply Entity)
  | lostGateConnection

/-- `request_flush_player`, with the player bound to the callback. -/
def flushPlayer (s : FlushServer) (p : UInt64) (isUpdating : Bool) : FlushServer :=
  if ((s.pool.get p).bind Entity.asPlayer).isSome then
    { s with
      pool := requestFlushPlayer s.pool p isUpdating
      flushOf := s.flushOf.insert (s.pool.requestId + 1) p }
  else s

/-- A reply; a flush that it completes is finished. -/
def flushReply (s : FlushServer) (guid : UInt64) (requestId : Nat) (reply : CacheReply Entity) :
    FlushServer :=
  let done := (handleVec guid requestId reply s.pool.requestInfoVec).2
  let s := { s with pool := s.pool.handlePacket guid requestId reply }
  match done with
  | none => s
  | some ri =>
      match s.flushOf[ri.requestList.requestId]? with
      | none => s
      | some p => playerFlushDataFinish s p ri.requestList

/-- One step; entities that do not fit the schema never come up. -/
def flushStep (sch : Schema) (s : FlushServer) : FlushAction → Option FlushServer
  | .load player entities =>
      if ∀ e ∈ entities, sch.Fits e ∧ sch.owner e.guid = player then
        some { s with
          pool := entities.foldl (fun pool e => (pool.add e.guid (some e) false player).1) s.pool }
      else none
  | .create e =>
      if sch.Fits e ∧ sch.kind e.guid ≠ .attach then
        some { s with pool := (s.pool.add e.guid (some e) true (sch.owner e.guid)).1 }
      else none
  | .update e =>
      if sch.Fits e ∧ (s.pool.get e.guid).isSome then
        some { s with pool := ((s.pool.write e.guid e).updateGuid e.guid).1 }
      else none
  | .setState player st =>
      match st with
      | none => some { s with playerState := s.playerState.erase player }
      | some .flushingLeaveMapWithJump => none
      | some st => some { s with playerState := s.playerState.insert player { playerState := st } }
  | .jump player data => some (jumpMap s player data)
  | .flush player isUpdating => some (flushPlayer s player isUpdating)
  | .frame => some { s with pool := s.pool.update }
  | .reply i reply =>
      (s.pool.inFlight[i]?).map fun p =>
        flushReply { s with pool := { s.pool with inFlight := s.pool.inFlight.eraseIdx i } }
          p.guid p.requestId reply
  | .lostGateConnection => some { s with lostGateConnection := true }

/-- Every run starts with an empty pool. -/
def flushSystem (sch : Schema) (cfg : PoolCfg) : TransSys FlushServer FlushAction where
  init s := s = { pool := { cfg } }
  step := flushStep sch

/-! ## §6. Safe removals. -/

namespace FlushRemoval

variable (ev : FlushRemoval)

/-- The entities that were taken out. -/
def Removed (g : UInt64) (info : EntityInfo Entity) : Prop :=
  ev.before[g]? = some info ∧ ev.after[g]? = none

/-- A request of the list that carried the entity's current content succeeded. -/
def Written (g : UInt64) (info : EntityInfo Entity) : Prop :=
  ∃ r ∈ ev.requestList.requestVec,
    r.guid = g ∧ isWrite r.requestType ∧ r.success ∧ r.message = info.message

/-- The entity is in the transfer object passed to the line scene. -/
def Transferred (g : UInt64) : Prop :=
  ∃ map, ev.transferInfo = some map ∧ g ∈ map

/-- The player's fields before the removal. -/
def playerEntity : Option PlayerEntity :=
  (ev.before[ev.player]?).bind (fun info => info.message.bind Entity.asPlayer)

/-- The entity is the player's coin, and a clone of it with the player's balances
was delivered to the line scene. -/
def Delivered (g : UInt64) (info : EntityInfo Entity) : Prop :=
  ∃ player e coin, ev.playerEntity = some player ∧ g = player.coinGuid ∧
    info.message = some e ∧ e.asCoin = some coin ∧
    ev.delivered = some { e with
      body := .coin { coin with coin := player.coin, money := player.money } }

/-- The entity is the player's attach entity. -/
def Attached (g : UInt64) : Prop :=
  ∃ player, ev.playerEntity = some player ∧ g = player.attach

/-- **Written or handed over**: each entity that was taken out. -/
def WrittenOrTransferred : Prop :=
  ∀ g info, ev.Removed g info → ev.Written g info ∨ ev.Transferred g

/-- The request of the list that carried the entity was not answered with success. -/
def Failed (g : UInt64) : Prop :=
  ∃ r ∈ ev.requestList.requestVec, r.guid = g ∧ isWrite r.requestType ∧ r.success = false

/-- **Safe**: each entity that was taken out was written or handed over, or is the
delivered coin or the attach entity, unless its request failed. -/
def Safe : Prop :=
  ∀ g info, ev.Removed g info →
    ev.Failed g ∨ ev.Written g info ∨ ev.Transferred g ∨ ev.Delivered g info ∨ ev.Attached g

end FlushRemoval

end Steppingstone.Player
