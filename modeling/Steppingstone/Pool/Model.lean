/-
  Steppingstone.Pool.Model — the entity pool of a scene and its write-back to
  the cache (`PoolImp.cpp`, `PoolAssistant.cpp`).

  `add`, `remove` and `update(guid)` record pending operations per owner and
  guid; the frame `update()` turns what is pending into one request list per
  owner, and the cache's replies take the written entries out again.  Messages
  are an arbitrary type `μ`; a packet carries the message it was serialized
  from.  Request ids do not wrap.

  Every recorded operation also gets a number of its own (`ChangeLog`).  The
  numbers travel with the entries and the requests and are read by no branch.
-/
import Mathlib.Tactic.Common
import Steppingstone.Lib.TransSys

namespace Steppingstone.Pool

open Std (TreeMap TreeSet)

/-! ## §1. Entities and pending operations. -/

/-- `EntityOpType`. -/
inductive EntityOpType
  | null
  | add
  | remove
  | update
  | query
  | flush
  | addRemove
  deriving Repr, DecidableEq

/-- The enumeration's values. -/
def EntityOpType.value : EntityOpType → UInt32
  | .null => 0
  | .add => 0x1
  | .remove => 0x2
  | .update => 0x4
  | .query => 0x8
  | .flush => 0x10
  | .addRemove => 0x11

/-- `EntityInfo`. -/
structure EntityInfo (μ : Type) where
  opType : UInt32
  isFlushing : Bool := false
  ownerGuid : UInt64
  message : Option μ
  isRemoveFromMemory : Bool := false

/-- `DbEntityInfo`, without the transaction fields, which stay 0. -/
structure DbEntityInfo where
  opType : EntityOpType
  guid : UInt64
  alreadyRequest : Bool := false
  ownerGuid : UInt64
  /-- The recorded operations this entry stands for. -/
  changes : List Nat
  deriving Repr, DecidableEq

/-- What is to be written of one owner, by guid. -/
abbrev DbEntityMap := TreeMap UInt64 DbEntityInfo

/-- Owner guid, then guid. -/
abbrev OwnerDbEntityMap := TreeMap UInt64 DbEntityMap

/-- `GUID_TYPE`, the type byte of a guid. -/
def guidType (guid : UInt64) : UInt64 :=
  (guid >>> 56) &&& 0xFF

/-- `ET_PLAYER` -/
def etPlayer : UInt64 := 1
/-- `ET_ROLE` -/
def etRole : UInt64 := 2
/-- `ET_COIN` -/
def etCoin : UInt64 := 68

/-! ## §2. Requests and replies. -/

/-- `RequestType`. -/
inductive RequestType
  | add
  | load
  | query
  | update
  | flush
  | delete
  | loadOnce
  | addWithFlush
  deriving Repr, DecidableEq

/-- `Request`; nothing sets `complated` after `RequestImp` is made. -/
structure Request (μ : Type) where
  requestType : RequestType
  guid : UInt64
  message : Option μ
  ownerGuid : UInt64
  success : Bool := false
  complated : Bool := false
  /-- The recorded operations the request carries. -/
  changes : List Nat := []

/-- `RequestList`. -/
structure RequestList (μ : Type) where
  requestId : Nat
  requestVec : List (Request μ)
  complatedCount : Nat := 0
  complated : Bool := false

/-- Who is called back: the pool itself for a batch, or a plugin. -/
inductive CallBack
  | updateToDb
  | plugin
  deriving Repr, DecidableEq

/-- `RequestInfo`. -/
structure RequestInfo (μ : Type) where
  requestList : RequestList μ
  callBack : CallBack

/-- The opcodes the pool sends. -/
inductive DcMsg
  | newEntity
  | newEntityWithFlush
  | loadEntity
  | queryEntity
  | updateEntity
  | flushEntity
  | removeEntity
  | loadEntityOnce
  deriving Repr, DecidableEq

/-- A packet handed to `cacheOutput`: the opcode and guid, the
`db_data_request` it carries, and the request id of its list. -/
structure CachePacket (μ : Type) where
  opcode : DcMsg
  guid : UInt64
  transactionIndex : UInt32
  transactionNum : UInt32
  transactionId : UInt32
  lineId : UInt32
  dataStream : Option μ
  ownerGuid : UInt64
  requestId : Nat

/-- A packet of the cache: unreadable, or a `Result` with its status and, if it
has a message, what `extractEntity` makes of it for the packet's guid. -/
inductive CacheReply (μ : Type)
  | unparsable
  | result (normal : Bool) (message : Option (Option μ))

/-- `op_result.status() == STATE_NORMAL`. -/
def CacheReply.isNormal {μ : Type} : CacheReply μ → Bool
  | .unparsable => false
  | .result normal _ => normal

/-! ## §3. The pool. -/

/-- What `PoolCfg` fixes. -/
structure PoolCfg where
  lineId : UInt32
  isLineScene : Bool
  deriving Repr, DecidableEq

/-- The history of the recorded operations. -/
structure ChangeLog where
  /-- The number of the next one. -/
  next : Nat := 0
  /-- A request that carried it was answered with success. -/
  acked : List Nat := []
  /-- A request that carried it was answered with anything else. -/
  failed : List Nat := []
  /-- Cancelled before it was sent, handed over, or given up for a flush. -/
  released : List Nat := []
  deriving Repr, DecidableEq

/-- `PoolImp`, with the packets the cache has still to answer. -/
structure PoolImp (μ : Type) where
  cfg : PoolCfg
  requestId : Nat := 0
  transactionId : UInt32 := 0
  updateToDbNum : Nat := 0
  doNotGetTheReplayTime : Nat := 0
  entityMap : TreeMap UInt64 (EntityInfo μ) := {}
  dbEntityMap : OwnerDbEntityMap := {}
  updatingDbEntityMap : OwnerDbEntityMap := {}
  requestInfoVec : List (RequestInfo μ) := []
  onlinePlayer : TreeSet UInt64 := {}
  guidOwnerguidMap : TreeMap UInt64 UInt64 := {}
  inFlight : List (CachePacket μ) := []
  log : ChangeLog := {}

variable {μ : Type}

namespace PoolImp

/-! ## §4. Reading the pool. -/

/-- The entity, unless it is being flushed. -/
def get (s : PoolImp μ) (guid : UInt64) : Option μ :=
  match s.entityMap[guid]? with
  | some info => if info.isFlushing then none else info.message
  | none => none

/-- Is every reply to the last batch in? -/
def isLastUpdateFinish (s : PoolImp μ) : Bool :=
  s.updateToDbNum == 0

/-- Does the entity wait to be added? -/
def isUpdating (s : PoolImp μ) (ownerGuid guid : UInt64) : Bool :=
  match s.dbEntityMap[ownerGuid]? with
  | none => false
  | some dbEntityMap =>
      match dbEntityMap[guid]? with
      | some dbInfo => dbInfo.opType == .add
      | none => false

/-- `getWhileFlush`: marks the entity and returns its message. -/
def getWhileFlush (s : PoolImp μ) (guid : UInt64) : PoolImp μ × Option μ :=
  match s.entityMap[guid]? with
  | some info =>
      if info.isFlushing then (s, none)
      else ({ s with entityMap := s.entityMap.insert guid { info with isFlushing := true } },
        info.message)
  | none => (s, none)

/-- The entity is no longer being flushed. -/
def clearFlushState (s : PoolImp μ) (guid : UInt64) : PoolImp μ :=
  match s.entityMap[guid]? with
  | some info =>
      { s with entityMap := s.entityMap.insert guid { info with isFlushing := false } }
  | none => s

/-- A plugin changes the entity in place. -/
def write (s : PoolImp μ) (guid : UInt64) (message : μ) : PoolImp μ :=
  match s.entityMap[guid]? with
  | some info =>
      { s with entityMap := s.entityMap.insert guid { info with message := some message } }
  | none => s

/-! ## §5. Recording operations. -/

/-- `updateToDb`: record one operation, coalescing it with the pending one. -/
def updateToDb (s : PoolImp μ) (ownerGuid guid : UInt64) (eotType : EntityOpType) : PoolImp μ :=
  let n := s.log.next
  let s := { s with log := { s.log with next := n + 1 } }
  let fresh : DbEntityInfo := { opType := eotType, guid, ownerGuid, changes := [n] }
  match s.dbEntityMap[ownerGuid]? with
  | none =>
      { s with dbEntityMap :=
          s.dbEntityMap.insert ownerGuid (TreeMap.insert {} guid fresh) }
  | some dbEntityMap =>
      match dbEntityMap[guid]? with
      | none =>
          { s with dbEntityMap := s.dbEntityMap.insert ownerGuid (dbEntityMap.insert guid fresh) }
      | some dbInfo =>
          if dbInfo.opType = .add then
            if eotType = .remove then
              -- the entity was never written: nothing is left to do for it
              { s with
                dbEntityMap := s.dbEntityMap.insert ownerGuid (dbEntityMap.erase guid)
                log := { s.log with released := n :: dbInfo.changes ++ s.log.released } }
            else
              let dbInfo := { dbInfo with alreadyRequest := false, changes := n :: dbInfo.changes }
              { s with dbEntityMap := s.dbEntityMap.insert ownerGuid (dbEntityMap.insert guid dbInfo) }
          else
            let dbInfo := { dbInfo with
              alreadyRequest := false, opType := eotType, changes := n :: dbInfo.changes }
            { s with dbEntityMap := s.dbEntityMap.insert ownerGuid (dbEntityMap.insert guid dbInfo) }

/-- `++m_transaction_id % max`, with 0 replaced by 1. -/
def nextTransactionId (s : PoolImp μ) : UInt32 :=
  let id := (s.transactionId + 1) % 0xFFFFFFFF
  if id = 0 then 1 else id

/-- `directUpdateToDb`: a coin is written at once, outside of any batch. -/
def directUpdateToDb (s : PoolImp μ) (message : μ) (guid ownerGuid : UInt64) : PoolImp μ :=
  let id := s.nextTransactionId
  { s with
    transactionId := id
    requestId := s.requestId + 1
    inFlight := s.inFlight ++
      [{ opcode := .newEntity, guid, transactionIndex := id, transactionNum := 1,
         transactionId := 1, lineId := s.cfg.lineId, dataStream := some message, ownerGuid,
         requestId := s.requestId + 1 }] }

/-- `add`.  The owner is entered before the duplicate check. -/
def add (s : PoolImp μ) (guid : UInt64) (message : Option μ) (addToDb : Bool)
    (ownerGuid : UInt64) : PoolImp μ × Bool :=
  match message with
  | none => (s, false)
  | some msg =>
      let s := { s with guidOwnerguidMap := s.guidOwnerguidMap.insert guid ownerGuid }
      match s.entityMap[guid]? with
      | none =>
          let info : EntityInfo μ :=
            { opType := EntityOpType.add.value, ownerGuid, message := some msg }
          let s := { s with entityMap := s.entityMap.insert guid info }
          if addToDb then
            if guidType guid = etCoin then (s.directUpdateToDb msg guid ownerGuid, true)
            else (s.updateToDb ownerGuid guid .add, true)
          else (s, true)
      | some _ => (s, false)

/-- `remove`. -/
def remove (s : PoolImp μ) (guid : UInt64) (removeFromDb removeEntityMsg : Bool) :
    PoolImp μ × Bool :=
  let s := if guidType guid = etPlayer then
    { s with onlinePlayer := s.onlinePlayer.erase guid } else s
  match s.guidOwnerguidMap[guid]? with
  | none => (s, false)
  | some ownerGuid =>
      let s := { s with guidOwnerguidMap := s.guidOwnerguidMap.erase guid }
      match s.entityMap[guid]? with
      | none => (s, false)
      | some info =>
          let isUpdating := !removeFromDb && s.isUpdating ownerGuid guid
          let s := if removeFromDb then s.updateToDb ownerGuid guid .remove else s
          if isUpdating then
            -- the pending ADD still needs the entity
            let message := if removeEntityMsg then info.message else none
            let info := { info with message, isRemoveFromMemory := true }
            ({ s with entityMap := s.entityMap.insert guid info }, true)
          else ({ s with entityMap := s.entityMap.erase guid }, true)

/-- `update(guid)`. -/
def updateGuid (s : PoolImp μ) (guid : UInt64) : PoolImp μ × Bool :=
  if (guidType guid = etPlayer ∨ guidType guid = etRole) ∧ s.cfg.isLineScene then (s, true)
  else
    match s.guidOwnerguidMap[guid]? with
    | none => (s, false)
    | some ownerGuid =>
        match s.entityMap[guid]? with
        | some info =>
            let info := { info with opType := info.opType ||| EntityOpType.update.value }
            let s := { s with entityMap := s.entityMap.insert guid info }
            (s.updateToDb ownerGuid guid .update, true)
        | none => (s, true)

/-- A player comes online. -/
def playerIsOnline (s : PoolImp μ) (guid : UInt64) : PoolImp μ :=
  { s with onlinePlayer := s.onlinePlayer.insert guid }

/-- A player goes offline. -/
def playerIsOffline (s : PoolImp μ) (guid : UInt64) : PoolImp μ :=
  { s with onlinePlayer := s.onlinePlayer.erase guid }

/-- `clearUpdateEntity`: hand over what is pending for the owner; returns the
guids to insert and to remove. -/
def clearUpdateEntity (s : PoolImp μ) (guidOwner : UInt64) :
    PoolImp μ × List UInt64 × List UInt64 :=
  match s.dbEntityMap[guidOwner]? with
  | none => (s, [], [])
  | some dbEntityMap =>
      let infos := dbEntityMap.toList.map (·.2)
      ({ s with
          dbEntityMap := s.dbEntityMap.erase guidOwner
          log := { s.log with released := infos.flatMap (·.changes) ++ s.log.released } },
        (infos.filter (·.opType == .add)).map (·.guid),
        (infos.filter (·.opType == .remove)).map (·.guid))

/-! ## §6. Committing a request list. -/

end PoolImp

/-- The packet of one request, as the `switch` of `commit` builds it: the
requests that carry a message send nothing when it is `NULL`. -/
def Request.opcodeAndStream (r : Request μ) : Option (DcMsg × Option μ) :=
  match r.requestType with
  | .add => r.message.map (fun m => (.newEntity, some m))
  | .addWithFlush => r.message.map (fun m => (.newEntityWithFlush, some m))
  | .load => some (.loadEntity, none)
  | .query => some (.queryEntity, none)
  | .update => r.message.map (fun m => (.updateEntity, some m))
  | .flush => r.message.map (fun m => (.flushEntity, some m))
  | .delete => some (.removeEntity, none)
  | .loadOnce => some (.loadEntityOnce, none)

/-- The packets of a request vector, numbered from 1 by position. -/
def RequestList.packets (rl : RequestList μ) (lineId transactionId : UInt32) :
    List (CachePacket μ) :=
  rl.requestVec.zipIdx.filterMap fun e =>
    e.1.opcodeAndStream.map fun p =>
      { opcode := p.1, guid := e.1.guid, transactionIndex := UInt32.ofNat (e.2 + 1),
        transactionNum := UInt32.ofNat rl.requestVec.length, transactionId, lineId,
        dataStream := p.2, ownerGuid := e.1.ownerGuid, requestId := rl.requestId }

namespace PoolImp

/-- `commit`. -/
def commit (s : PoolImp μ) (requestList : RequestList μ) (callBack : CallBack) : PoolImp μ :=
  let id := s.nextTransactionId
  { s with
    requestInfoVec := s.requestInfoVec ++ [{ requestList, callBack }]
    transactionId := id
    inFlight := s.inFlight ++ requestList.packets s.cfg.lineId id }

end PoolImp

/-! ## §7. The frame update. -/

/-- One turn of the loop of `updateDbEntity`: `none` if the entry is dropped,
else the entry that stays and the request made for it. -/
def DbEntityInfo.turn (entityMap : TreeMap UInt64 (EntityInfo μ)) (dbInfo : DbEntityInfo) :
    Option (DbEntityInfo × Option (Request μ)) :=
  let request (rt : RequestType) (message : Option μ) : Request μ :=
    { requestType := rt, guid := dbInfo.guid, message, ownerGuid := dbInfo.ownerGuid,
      changes := dbInfo.changes }
  let kept := { dbInfo with alreadyRequest := true }
  if dbInfo.alreadyRequest then none
  else if dbInfo.opType = .remove then some (kept, some (request .delete none))
  else
    match entityMap[dbInfo.guid]? with
    | none => none
    | some info =>
        if info.isFlushing then none
        else
          match dbInfo.opType with
          | .add => some (kept, some (request .add info.message))
          | .update => some (kept, some (request .update info.message))
          | _ => some (kept, none)

/-- Is the entry dropped because its entity is being flushed? -/
def DbEntityInfo.flushing (entityMap : TreeMap UInt64 (EntityInfo μ))
    (dbInfo : DbEntityInfo) : Bool :=
  !dbInfo.alreadyRequest && dbInfo.opType ≠ .remove &&
    (entityMap[dbInfo.guid]?).any (·.isFlushing)

namespace PoolImp

/-- `updateDbEntity` for the pending entries of one owner: the pool, the
entries that stay, and whether a list was committed. -/
def updateDbEntity (s : PoolImp μ) (dbEntityMap : DbEntityMap) : PoolImp μ × DbEntityMap × Bool :=
  let infos := dbEntityMap.toList.map (·.2)
  let kept := dbEntityMap.filterMap (fun _ info => (info.turn s.entityMap).map (·.1))
  let requests := infos.filterMap (fun info => (info.turn s.entityMap).bind (·.2))
  let flushed := infos.filter (·.flushing s.entityMap)
  let s := { s with
    requestId := s.requestId + 1
    log := { s.log with released := flushed.flatMap (·.changes) ++ s.log.released } }
  if requests.isEmpty then (s, kept, false)
  else
    let s := { s with updateToDbNum := s.updateToDbNum + 1 }
    (s.commit { requestId := s.requestId, requestVec := requests } .updateToDb, kept, true)

/-- One turn of the loop of `update` over the owners. -/
def updateOwner (s : PoolImp μ) (e : UInt64 × DbEntityMap) : PoolImp μ :=
  if e.2.isEmpty then { s with updatingDbEntityMap := s.updatingDbEntityMap.erase e.1 }
  else
    let (s, kept, committed) := s.updateDbEntity e.2
    if committed then { s with updatingDbEntityMap := s.updatingDbEntityMap.insert e.1 kept }
    else { s with updatingDbEntityMap := s.updatingDbEntityMap.erase e.1 }

/-- The part of `update` that starts a batch: what is still in
`m_updating_db_entity_map` is deleted, and what is pending takes its place. -/
def startBatch (s : PoolImp μ) : PoolImp μ :=
  let pending := s.dbEntityMap
  pending.toList.foldl updateOwner
    { s with
      doNotGetTheReplayTime := 0
      updatingDbEntityMap := pending
      dbEntityMap := {} }

/-- `update()`, called every frame. -/
def update (s : PoolImp μ) : PoolImp μ :=
  if s.dbEntityMap.isEmpty then s
  else if s.updateToDbNum ≠ 0 then
    let t := s.doNotGetTheReplayTime + 1
    if t > 200 * 10 then { s with doNotGetTheReplayTime := t, updateToDbNum := 0 }
    else { s with doNotGetTheReplayTime := t }
  else s.startBatch

end PoolImp

/-! ## §8. Replies. -/

/-- `RequestImp::handlePacket`: the status decides `success`, and a load or
query takes the message if it can be read. -/
def Request.handlePacket (r : Request μ) : CacheReply μ → Request μ
  | .unparsable => r
  | .result normal message =>
      let r := { r with success := normal }
      if normal then
        match r.requestType, message with
        | .load, some (some m) => { r with message := some m }
        | .loadOnce, some (some m) => { r with message := some m }
        | .query, some (some m) => { r with message := some m }
        | _, _ => r
      else r

/-- The reply goes to the first request with the packet's guid. -/
def handleFirst (guid : UInt64) (reply : CacheReply μ) : List (Request μ) → List (Request μ)
  | [] => []
  | r :: rs => if r.guid = guid then r.handlePacket reply :: rs
      else r :: handleFirst guid reply rs

/-- `RequestListImp::handlePacket`. -/
def RequestList.handlePacket (rl : RequestList μ) (guid : UInt64) (reply : CacheReply μ) :
    RequestList μ :=
  if rl.requestVec.any (·.guid == guid) then
    { rl with
      requestVec := handleFirst guid reply rl.requestVec
      complatedCount := rl.complatedCount + 1
      complated := rl.complated || rl.complatedCount + 1 == rl.requestVec.length }
  else rl

/-- Has every request succeeded? -/
def RequestList.isSuccess (rl : RequestList μ) : Bool :=
  rl.requestVec.all (·.success)

/-- The loop of `PoolImp::handlePacket`: the first list with the request id
takes the packet; a list that is complete leaves the vector and is returned. -/
def handleVec (guid : UInt64) (requestId : Nat) (reply : CacheReply μ) :
    List (RequestInfo μ) → List (RequestInfo μ) × Option (RequestInfo μ)
  | [] => ([], none)
  | ri :: vec =>
      if ri.requestList.requestId = requestId then
        let ri := { ri with requestList := ri.requestList.handlePacket guid reply }
        if ri.requestList.complated then (vec, some ri) else (ri :: vec, none)
      else
        let rest := handleVec guid requestId reply vec
        (ri :: rest.1, rest.2)

/-- The request that a reply with this guid and request id is taken for. -/
def answered (guid : UInt64) (requestId : Nat) (vec : List (RequestInfo μ)) :
    Option (Request μ) :=
  (vec.find? (·.requestList.requestId == requestId)).bind
    (fun ri => ri.requestList.requestVec.find? (·.guid == guid))

namespace PoolImp

/-- One reply less to wait for. -/
def updateToDbReplay (s : PoolImp μ) : PoolImp μ :=
  if s.updateToDbNum > 0 then { s with updateToDbNum := s.updateToDbNum - 1 } else s

/-- An entity that was to be removed is. -/
def checkShouldRemovedEntity (s : PoolImp μ) (guid : UInt64) : PoolImp μ :=
  match s.entityMap[guid]? with
  | some info =>
      if info.isRemoveFromMemory then { s with entityMap := s.entityMap.erase guid } else s
  | none => s

/-- The `switch` of `removeDbInfo`. -/
def writtenBack (s : PoolImp μ) (dbInfo : DbEntityInfo) : PoolImp μ :=
  match dbInfo.opType with
  | .add | .update | .remove => s.checkShouldRemovedEntity dbInfo.guid
  | .flush => (s.remove dbInfo.guid false true).1
  | _ => s

/-- `removeDbInfo`. -/
def removeDbInfo (s : PoolImp μ) (ownerGuid guid : UInt64) (success : Bool) : PoolImp μ :=
  match s.updatingDbEntityMap[ownerGuid]? with
  | none => s
  | some dbEntityMap =>
      let (s, dbEntityMap) :=
        match dbEntityMap[guid]? with
        | none => (s, dbEntityMap)
        | some dbInfo =>
            if success && dbInfo.alreadyRequest then
              (s.writtenBack dbInfo, dbEntityMap.erase guid)
            else if !success then
              (s, dbEntityMap.insert guid { dbInfo with alreadyRequest := false })
            else (s, dbEntityMap)
      { s with updatingDbEntityMap :=
          if dbEntityMap.isEmpty then s.updatingDbEntityMap.erase ownerGuid
          else s.updatingDbEntityMap.insert ownerGuid dbEntityMap }

/-- `updateToDbCallback`. -/
def updateToDbCallback (s : PoolImp μ) (requestList : RequestList μ) : PoolImp μ :=
  requestList.requestVec.foldl (fun s r => s.removeDbInfo r.ownerGuid r.guid r.success)
    s.updateToDbReplay

/-- `complateRequest`; what a plugin does in its callback are steps of its own. -/
def complateRequest (s : PoolImp μ) (ri : RequestInfo μ) : PoolImp μ :=
  match ri.callBack with
  | .updateToDb => s.updateToDbCallback ri.requestList
  | .plugin => s

/-- The history after a reply to the request `r`. -/
def logReply (s : PoolImp μ) (reply : CacheReply μ) : Option (Request μ) → PoolImp μ
  | none => s
  | some r =>
      if reply.isNormal then { s with log := { s.log with acked := r.changes ++ s.log.acked } }
      else { s with log := { s.log with failed := r.changes ++ s.log.failed } }

/-- `handlePacket`. -/
def handlePacket (s : PoolImp μ) (guid : UInt64) (requestId : Nat) (reply : CacheReply μ) :
    PoolImp μ :=
  let s := s.logReply reply (answered guid requestId s.requestInfoVec)
  let out := handleVec guid requestId reply s.requestInfoVec
  let s := { s with requestInfoVec := out.1 }
  match out.2 with
  | none => s
  | some ri => s.complateRequest ri

/-! ## §9. The system. -/

end PoolImp

/-- Calls of the pool's interface, frame updates, and replies of the cache to
any of the packets it has not answered yet. -/
inductive Action (μ : Type)
  | add (guid : UInt64) (message : Option μ) (addToDb : Bool) (ownerGuid : UInt64)
  | remove (guid : UInt64) (removeFromDb removeEntityMsg : Bool)
  | updateGuid (guid : UInt64)
  | update
  | reply (i : Nat) (reply : CacheReply μ)
  | clearUpdateEntity (guidOwner : UInt64)
  | getWhileFlush (guid : UInt64)
  | clearFlushState (guid : UInt64)
  | write (guid : UInt64) (message : μ)
  | playerIsOnline (guid : UInt64)
  | playerIsOffline (guid : UInt64)
  | commit (requests : List (Request μ))

/-- One step; only a reply needs a packet to answer. -/
def step (s : PoolImp μ) : Action μ → Option (PoolImp μ)
  | .add guid message addToDb ownerGuid => some (s.add guid message addToDb ownerGuid).1
  | .remove guid removeFromDb removeEntityMsg =>
      some (s.remove guid removeFromDb removeEntityMsg).1
  | .updateGuid guid => some (s.updateGuid guid).1
  | .update => some s.update
  | .reply i reply =>
      (s.inFlight[i]?).map fun p =>
        PoolImp.handlePacket { s with inFlight := s.inFlight.eraseIdx i } p.guid p.requestId reply
  | .clearUpdateEntity guidOwner => some (s.clearUpdateEntity guidOwner).1
  | .getWhileFlush guid => some (s.getWhileFlush guid).1
  | .clearFlushState guid => some (s.clearFlushState guid)
  | .write guid message => some (s.write guid message)
  | .playerIsOnline guid => some (s.playerIsOnline guid)
  | .playerIsOffline guid => some (s.playerIsOffline guid)
  | .commit requests =>
      let s := { s with requestId := s.requestId + 1 }
      some (s.commit { requestId := s.requestId, requestVec := requests } .plugin)

/-- Every run starts with an empty pool. -/
def system (cfg : PoolCfg) : TransSys (PoolImp μ) (Action μ) where
  init s := s = { cfg }
  step := step

end Steppingstone.Pool
