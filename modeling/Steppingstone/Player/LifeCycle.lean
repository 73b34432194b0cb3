/-
  Steppingstone.Player.LifeCycle — one player on one scene: entering and
  leaving the world, jumping to another map, loading and flushing
  (`ManagePlayer.cpp`, `PlayerAssistant.cpp`).

  The maps and sets of `ManagePlayer` and `PlayerAssistant` are seen at one
  player guid.  Of the pool the state keeps whether the player's entities are
  there and whether they are marked as flushing; the entities that a flush
  request carries come and go with the `Player` message, the coin and the attach
  entity on their own.  A load goes through the stages of its replies: the coin
  of the line scene, the player, what the player refers to, and what its roles
  refer to.
-/
import Mathlib.Tactic.Common
import Steppingstone.Lib.TransSys

namespace Steppingstone.Player

/-! ## §1. State. -/

/-- `PlayerOnlineState`. -/
inductive PlayerOnlineState
  | base
  | loadingEnterMap
  | online
  | flushingLeaveMap
  | flushingLeaveMapWithJump
  | offline
  deriving Repr, DecidableEq

/-- `PlayerAttachInfo`; of the transfer object only whether there is one. -/
structure PlayerAttachInfo where
  playerState : PlayerOnlineState
  transferInfo : Bool := false
  deriving Repr, DecidableEq

/-- `PlayerLoadingData`: the coin and the player that have arrived, the latter
with whether its `coin_guid` is set. -/
structure PlayerLoadingData where
  coin : Bool := false
  player : Option Bool := none
  deriving Repr, DecidableEq

/-- The reply that a load waits for. -/
inductive LoadStage
  /-- `LTOS_DELIVERY_PLAYER_DATA`. -/
  | coin
  /-- `load_player_from_db`. -/
  | player
  /-- `load_player_role`. -/
  | role
  /-- `load_player_role_equipment`. -/
  | equipment
  deriving Repr, DecidableEq

/-- The `Player` message in the pool. -/
structure PoolPlayer where
  isFlushing : Bool := false
  /-- `coin_guid` is set. -/
  coinGuid : Bool
  deriving Repr, DecidableEq

/-- How a state entry was removed. -/
structure Removal where
  /-- The player had left, and had not entered again. -/
  afterLeave : Bool
  /-- `is_updating` of the flush that was answered, if one was. -/
  flush : Option Bool
  deriving Repr, DecidableEq

/-- One player on one scene. -/
structure Scene where
  playerState : Option PlayerAttachInfo := none
  playerOnlineBeforeFinishFlushing : Bool := false
  needFlushPlayer : Option Bool := none
  loadingData : Option PlayerLoadingData := none
  player : Option PoolPlayer := none
  coin : Bool := false
  /-- Loads whose next reply is outstanding. -/
  loads : List LoadStage := []
  /-- `is_updating` of the flushes that are outstanding. -/
  flushes : List Bool := []
  /-- The player left and has not entered again. -/
  left : Bool := false
  /-- A load or a flush completed without a state entry. -/
  orphaned : Bool := false
  removals : List Removal := []
  deriving Repr, DecidableEq

namespace Scene

/-- `GET_PLAYER_FROM_POOL`: an entity that is being flushed is not returned. -/
def getPlayer (s : Scene) : Option PoolPlayer :=
  s.player.filter (fun player => !player.isFlushing)

/-- The player is in this online state. -/
def stateIs (s : Scene) (st : PlayerOnlineState) : Bool :=
  s.playerState.any (·.playerState = st)

/-! ## §2. Requests. -/

/-- `request_load_player`. -/
def requestLoadPlayer (s : Scene) (playerEnteredWorld : Bool) : Scene :=
  if s.loadingData.isSome then s
  else { s with
    loadingData := some {}
    loads := s.loads ++ [if playerEnteredWorld then .coin else .player] }

/-- `request_flush_player`. -/
def requestFlush (s : Scene) (isUpdating : Bool) : Scene :=
  match s.getPlayer with
  | none => s
  | some player =>
      { s with player := some { player with isFlushing := true }
               flushes := s.flushes ++ [isUpdating] }

/-! ## §3. Messages. -/

/-- `cmsg_enter_world`. -/
def enterWorld (s : Scene) (playerEnteredWorld : Bool) : Scene :=
  if s.playerOnlineBeforeFinishFlushing then s
  else
    match s.playerState with
    | some { playerState := .loadingEnterMap, .. } => s
    | some { playerState := .online, .. } => s
    | some { playerState := .flushingLeaveMap, .. } =>
        { s with playerOnlineBeforeFinishFlushing := true, left := false }
    | some { playerState := .flushingLeaveMapWithJump, .. } => s
    | _ =>
        { s.requestLoadPlayer playerEnteredWorld with
          playerState := some { playerState := .loadingEnterMap }, left := false }

/-- `cmsg_leave_world`; without a state entry the message is for another map. -/
def leaveWorld (s : Scene) : Scene :=
  if s.playerOnlineBeforeFinishFlushing then
    { s with playerOnlineBeforeFinishFlushing := false, left := true }
  else
    match s.playerState with
    | none => s
    | some info =>
        let s := { s with left := true }
        match info.playerState with
        | .loadingEnterMap => { s with playerState := some { info with playerState := .offline } }
        | .flushingLeaveMapWithJump =>
            { s with playerState := some { playerState := .flushingLeaveMap } }
        | .flushingLeaveMap => s
        | .offline => s
        | _ =>
            let s := { s with playerState := some { info with playerState := .flushingLeaveMap } }
            if s.getPlayer.isSome then { s with needFlushPlayer := some false } else s

/-- `ltos_inner_request_logoff`; `sameMap` if the request came from this map. -/
def innerRequestLogoff (s : Scene) (sameMap : Bool) : Scene :=
  if sameMap then s
  else
    match s.getPlayer with
    | none =>
        match s.playerState with
        | none => s
        | some _ =>
            { s with
              playerState := none
              loadingData := none
              removals := { afterLeave := s.left, flush := none } :: s.removals }
    | some _ => s.leaveWorld

/-- `playerJumpMap`; `allowed` if the checks on the two maps pass.  Collecting
the transfer object takes the coin out of the pool, and fails without it. -/
def jumpMap (s : Scene) (allowed : Bool) : Scene :=
  match s.getPlayer with
  | none => s
  | some _ =>
      if allowed && s.playerState.isSome && s.coin then
        { s with
          coin := false
          playerState := some { playerState := .flushingLeaveMapWithJump, transferInfo := true }
          needFlushPlayer := some true }
      else s

/-- `gmsg_player_jump_map` with the transfer object of another map. -/
def arrive (s : Scene) : Scene :=
  let arrived : PoolPlayer := { coinGuid := true }
  let s := { s with player := s.player <|> some arrived, coin := true }
  if s.getPlayer.isSome then
    { s with playerState := some { playerState := .online }, left := false }
  else s

/-! ## §4. Completions. -/

/-- `playerDataLoadFinish`.  Without a state entry the iterator is `end()`. -/
def playerDataLoadFinish (s : Scene) (isSuccess : Bool) : Scene :=
  match s.playerState with
  | none => { s with orphaned := true }
  | some info =>
      if info.playerState = .offline then { s with needFlushPlayer := some false }
      else if isSuccess then
        match s.getPlayer with
        | none => s
        | some player =>
            if player.coinGuid && !s.coin then s
            else
              -- a player without a coin gets one when it is online
              { s with
                playerState := some { info with playerState := .online }
                player := some { player with coinGuid := true }
                coin := true }
      else
        { s with
          needFlushPlayer := none
          playerState := none
          removals := { afterLeave := s.left, flush := none } :: s.removals }

/-- `playerLoadFailed`. -/
def playerLoadFailed (s : Scene) : Scene :=
  playerDataLoadFinish { s with loadingData := none } false

/-- `playerLoadSuccess`: the pool keeps an entity that it has already. -/
def playerLoadSuccess (s : Scene) : Scene :=
  match s.loadingData with
  | none => s
  | some pld =>
      let loaded := pld.player.map (fun coinGuid => ({ coinGuid } : PoolPlayer))
      playerDataLoadFinish
        { s with player := s.player <|> loaded, coin := s.coin || pld.coin, loadingData := none }
        true

/-- A reply to the load `i`, which waits for `stage`: `empty` if nothing more is
to be loaded, `coinGuid` if the player that arrives has a coin. -/
def loadReply (s : Scene) (i : Nat) (stage : LoadStage) (success empty coinGuid : Bool) : Scene :=
  let done := { s with loads := s.loads.eraseIdx i }
  match stage, s.loadingData with
  | .coin, none => done
  | .coin, some pld =>
      { s with loadingData := some { pld with coin := true }, loads := s.loads.set i .player }
  | .player, pld? =>
      if !success then done.playerLoadFailed
      else
        match pld? with
        | none => done
        | some pld =>
            let pld := { pld with player := pld.player <|> some coinGuid }
            if empty then playerLoadSuccess { done with loadingData := some pld }
            else { s with loadingData := some pld, loads := s.loads.set i .role }
  | .role, pld? =>
      if !success then done.playerLoadFailed
      else if (pld?.bind (·.player)).isNone then done
      else if empty then done.playerLoadSuccess
      else { s with loads := s.loads.set i .equipment }
  | .equipment, _ =>
      if !success then done.playerLoadFailed else done.playerLoadSuccess

/-- `playerFlushDataFinish`; its result does not depend on `is_success`. -/
def playerFlushDataFinish (s : Scene) (isUpdating playerEnteredWorld : Bool) : Scene :=
  match s.playerState with
  | none => { s with orphaned := true }
  | some info =>
      let removal : Removal := { afterLeave := s.left, flush := some isUpdating }
      if info.playerState = .flushingLeaveMapWithJump then
        { s with player := none, playerState := none, removals := removal :: s.removals }
      else
        -- the coin goes to the line scene
        let s := { s with coin := s.coin && s.player.isNone, player := none }
        if s.playerOnlineBeforeFinishFlushing then
          { s.requestLoadPlayer playerEnteredWorld with
            playerState := some { playerState := .loadingEnterMap }
            playerOnlineBeforeFinishFlushing := false }
        else { s with playerState := none, removals := removal :: s.removals }

/-- `updatePool`, of which `processNeedFlushPlayer` concerns the player. -/
def updatePool (s : Scene) (isLastUpdateFinish : Bool) : Scene :=
  if !isLastUpdateFinish then s
  else
    match s.needFlushPlayer with
    | none => s
    | some true => { s.requestFlush true with needFlushPlayer := none }
    | some false =>
        if s.stateIs .online then { s with needFlushPlayer := none }
        else { s.requestFlush false with needFlushPlayer := none }

end Scene

/-! ## §5. The system. -/

/-- What happens to the player, and how his loads and flushes end. -/
inductive LifeAction
  | enterWorld (playerEnteredWorld : Bool)
  | leaveWorld
  | innerRequestLogoff (sameMap : Bool)
  | jumpMap (allowed : Bool)
  | arrive
  | loadReply (i : Nat) (success empty coinGuid : Bool)
  | flushReply (i : Nat) (success playerEnteredWorld : Bool)
  | updatePool (isLastUpdateFinish : Bool)
  deriving Repr, DecidableEq

/-- One step; a reply needs an outstanding operation. -/
def Scene.step (s : Scene) : LifeAction → Option Scene
  | .enterWorld playerEnteredWorld => some (s.enterWorld playerEnteredWorld)
  | .leaveWorld => some s.leaveWorld
  | .innerRequestLogoff sameMap => some (s.innerRequestLogoff sameMap)
  | .jumpMap allowed => some (s.jumpMap allowed)
  | .arrive => some s.arrive
  | .loadReply i success empty coinGuid =>
      (s.loads[i]?).map fun stage => s.loadReply i stage success empty coinGuid
  | .flushReply i _ playerEnteredWorld =>
      (s.flushes[i]?).map fun isUpdating =>
        Scene.playerFlushDataFinish { s with flushes := s.flushes.eraseIdx i } isUpdating
          playerEnteredWorld
  | .updatePool isLastUpdateFinish => some (s.updatePool isLastUpdateFinish)

/-- Every run starts with the player elsewhere. -/
def lifeSystem : TransSys Scene LifeAction where
  init s := s = {}
  step := Scene.step

/-! ## §6. One operation at a time. -/

/-- **The life cycle keeps one operation at a time.** -/
structure LifeCycle (s : Scene) : Prop where
  /-- No two loads, two flushes, or a load and a flush are outstanding. -/
  one : s.loads.length + s.flushes.length ≤ 1
  /-- Every completion found the player's state entry. -/
  entry : s.orphaned = false
  /-- With nothing outstanding or queued, the entities are in the pool exactly
  if the player is online. -/
  idle : s.loads = [] → s.flushes = [] → s.needFlushPlayer = none →
    if s.stateIs .online then s.player.isSome ∧ s.coin else s.player = none ∧ s.coin = false
  /-- Removed after a leave, the data was sent with flush-type requests. -/
  flushed : ∀ r ∈ s.removals, r.afterLeave → r.flush = some false

/-- **The steps that are in order**: no enter while an offline player's entities
are in the pool, no leave during a jump, no jump of a player that has left, no
inner log-off during a load or a flush, arrival of absent players only, and a
coin for every loaded player that refers to one. -/
def Scene.InOrder (s : Scene) : LifeAction → Prop
  | .enterWorld _ => s.stateIs .offline → s.player = none
  | .leaveWorld => ¬ s.stateIs .flushingLeaveMapWithJump
  | .innerRequestLogoff sameMap =>
      sameMap = false →
        if s.getPlayer.isSome then ¬ s.stateIs .flushingLeaveMapWithJump
        else s.playerState = none
  | .jumpMap allowed =>
      allowed → s.getPlayer.isSome → ¬ s.stateIs .flushingLeaveMap ∧ ¬ s.stateIs .offline
  | .arrive =>
      s.playerState = none ∧ s.player = none ∧ s.loads = [] ∧ s.flushes = []
  | .loadReply i success _ coinGuid =>
      s.loads[i]? = some .player → success → coinGuid → s.loadingData.any (·.coin)
  | .flushReply .. => True
  | .updatePool _ => True

instance (s : Scene) (a : LifeAction) : Decidable (s.InOrder a) := by
  cases a <;> unfold Scene.InOrder <;> infer_instance

end Steppingstone.Player
