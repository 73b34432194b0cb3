/-
  Steppingstone.Cached.Model — the cache server between the scenes and the
  database (`EntityHander.cpp`, `ManageExpiredItem.cpp`, `DbLoader.cpp`).

  A value can live in the entity map, in the table of expired items, in a
  record that is logged and not yet converted, or in the database.  One thread
  handles the requests and the loader's results; the loader, the converter and
  the converter's acknowledgements run in between at any moment.  Time stamps
  are part of a request and strictly increase.

  Deleting an object that the expired table still points to leaves a dangling
  pointer there (`Item.freed`).  Three fields are history that no branch
  reads: `lastWrite`, and `expected` and `overtaken` of a load.
-/
import Mathlib.Tactic.Common
import Steppingstone.Converter.Record
import Steppingstone.Lib.TransSys

namespace Steppingstone.Cached

open Std (TreeMap)
open Converter (Record RecordType Database writeRecordToDb applyInOrder)

/-! ## §1. Requests and replies. -/

/-- The opcodes a scene sends. -/
inductive Opcode
  | newEntity
  | loadEntity
  | flushEntity
  | updateEntity
  | removeEntity
  | loadEntityOnce
  | newEntityWithFlush
  | onlyRemoveEntity
  deriving Repr, DecidableEq

/-- `DataRequestInfo` with the `db_data_request` it was parsed from; `entityMsg`
is `none` when the data stream is empty. -/
structure DataRequestInfo (μ : Type) where
  opcode : Opcode
  guid : UInt64
  entityMsg : Option μ := none
  lastModifyTime : UInt64
  packetOwner : Nat := 0
  ownerGuid : UInt64 := 0
  transactionIndex : UInt32 := 0
  transactionNum : UInt32 := 0
  transactionId : UInt32 := 0
  lineId : UInt32 := 0
  /-- For a load: the last write to the guid when the load was handled. -/
  expected : Option μ := none
  /-- For a load: the guid was written since. -/
  overtaken : Bool := false

/-- `OpResult::status`, the two values that are used. -/
inductive Status
  | normal
  | entityNotFound
  deriving Repr, DecidableEq

/-- The message of a reply; `garbage` is read through a dangling or null pointer. -/
inductive Content (μ : Type)
  | empty
  | value (v : μ)
  | garbage
  deriving Repr, DecidableEq

/-- A reply packet, and the request it answers. -/
structure Reply (μ : Type) where
  request : DataRequestInfo μ
  status : Status
  message : Content μ

/-! ## §2. `ManageExpiredItem`. -/

/-- What the item pointer of an expired entry points to. -/
inductive Item (μ : Type)
  | null
  | valid (v : μ)
  | freed
  deriving Repr, DecidableEq

/-- `ExpiredItem`. -/
structure ExpiredItem (μ : Type) where
  lastModifyTime : UInt64
  inUse : Bool
  isDelete : Bool := false
  item : Item μ

/-- `ManageExpiredItem`: what is kept of an entity that left the cache until it is in the
database. -/
abbrev ExpiredItemMap (μ : Type) := TreeMap UInt64 (ExpiredItem μ)

variable {μ : Type}

namespace ExpiredItemMap

/-- `ManageExpiredItem::update` -/
def update (m : ExpiredItemMap μ) (guid : UInt64) (item : Option μ) (lastModifyTime : UInt64) :
    ExpiredItemMap μ :=
  m.insert guid { lastModifyTime, inUse := false, item := item.elim .null .valid }

/-- `ManageExpiredItem::updateToDelete` -/
def updateToDelete (m : ExpiredItemMap μ) (guid : UInt64) : ExpiredItemMap μ :=
  match m[guid]? with
  | some x => m.insert guid { x with inUse := false, isDelete := true, item := .null }
  | none => m

/-- The entry that `query` finds. -/
def query (m : ExpiredItemMap μ) (guid : UInt64) : Option (ExpiredItem μ) :=
  match m[guid]? with
  | some x => if x.isDelete then none else some x
  | none => none

/-- `query` with `delete_after_query`: the item is lent to the entity map. -/
def lend (m : ExpiredItemMap μ) (guid : UInt64) : ExpiredItemMap μ :=
  match m.query guid with
  | some x => m.insert guid { x with inUse := true }
  | none => m

/-- `ManageExpiredItem::remove`, when the converter has stored the record of that time. -/
def remove (m : ExpiredItemMap μ) (guid : UInt64) (lastModifyTime : UInt64) : ExpiredItemMap μ :=
  match m[guid]? with
  | some x =>
      if x.inUse then m.erase guid
      else if lastModifyTime = x.lastModifyTime then m.erase guid
      else m
  | none => m

/-- The entity map deletes its object of the guid; a lent item is that object. -/
def free (m : ExpiredItemMap μ) (guid : UInt64) : ExpiredItemMap μ :=
  match m[guid]? with
  | some x =>
      match x.inUse, x.item with
      | true, .valid _ => m.insert guid { x with item := .freed }
      | _, _ => m
  | none => m

end ExpiredItemMap

/-! ## §3. The server. -/

/-- The cache server with its log, the database and what is under way. -/
structure Server (μ : Type) where
  entityMap : TreeMap UInt64 μ := {}
  lruMap : ExpiredItemMap μ := TreeMap.empty
  /-- Records that are written and not yet converted. -/
  recordSet : List (Record (Option μ)) := []
  database : Database (Option μ)
  /-- Acknowledgements of the converter under way. -/
  acks : List (UInt64 × UInt64) := []
  /-- Loads that wait for the loader. -/
  dataReqInfoVec : List (DataRequestInfo μ) := []
  /-- Loads that the loader has answered. -/
  dbLoadReplayVec : List (DataRequestInfo μ) := []
  replies : List (Reply μ) := []
  clock : UInt64 := 0
  /-- The last write that was answered with NORMAL; at the start, the row. -/
  lastWrite : UInt64 → Option μ

namespace Server

variable (s : Server μ) (info : DataRequestInfo μ)

/-! ## §4. The entity map. -/

/-- `addEntity`; on a duplicate guid the message is deleted. -/
def addEntity (entityMsg : Option μ) (guid : UInt64) : Server μ × Bool :=
  match entityMsg with
  | none => (s, false)
  | some v =>
      match s.entityMap[guid]? with
      | some _ => (s, false)
      | none => ({ s with entityMap := s.entityMap.insert guid v }, true)

/-- `EntityHander::removeEntity` -/
def removeEntity (guid : UInt64) : Server μ :=
  match s.entityMap[guid]? with
  | some _ =>
      { s with entityMap := s.entityMap.erase guid, lruMap := s.lruMap.free guid }
  | none => s

/-- `EntityHander::updateEntity` -/
def updateEntity (entityMsg : μ) (guid : UInt64) : Server μ :=
  match s.entityMap[guid]? with
  | some _ =>
      { s with entityMap := s.entityMap.insert guid entityMsg, lruMap := s.lruMap.free guid }
  | none => s

/-! ## §5. Records and replies. -/

/-- `ManageSerialize::writeRecord`. -/
def writeRecord (optype : RecordType) : Server μ :=
  { s with recordSet := s.recordSet ++
      [{ objectGuid := info.guid, ownerGuid := info.ownerGuid, stream := info.entityMsg, optype,
         lastModifyTime := info.lastModifyTime, transactionIndex := info.transactionIndex,
         transactionNum := info.transactionNum, transactionId := info.transactionId,
         lineId := info.lineId }] }

/-- A reply to the request is sent. -/
def reply (status : Status) (message : Content μ) : Server μ :=
  { s with replies := s.replies ++ [{ request := info, status, message }] }

/-- `replayError`: the entity was not found. -/
def replayError : Server μ :=
  s.reply info .entityNotFound .empty

/-- The loads of the guid are overtaken by a write. -/
def overtake (guid : UInt64) (loads : List (DataRequestInfo μ)) : List (DataRequestInfo μ) :=
  loads.map (fun l => if l.guid = guid then { l with overtaken := true } else l)

/-- `replayNewEntity`, `replayFlushEntity` and their siblings: the write is
answered with NORMAL. -/
def replayWrite (written : Option μ) : Server μ :=
  let s := s.reply info .normal .empty
  { s with
    lastWrite := Function.update s.lastWrite info.guid written
    dataReqInfoVec := overtake info.guid s.dataReqInfoVec
    dbLoadReplayVec := overtake info.guid s.dbLoadReplayVec }

/-- `replayLoadEntity` and `replayLoadEntityOnce`; without a message nothing is sent. -/
def replayLoad (item : Item μ) : Server μ :=
  match item with
  | .null => s
  | .valid v => s.reply info .normal (.value v)
  | .freed => s.reply info .normal .garbage

/-! ## §6. The handlers. -/

/-- `EntityHander::handleNewEntity` -/
def handleNewEntity : Server μ :=
  let added := s.addEntity info.entityMsg info.guid
  let s := if added.2 then added.1.writeRecord info .insert else added.1
  s.replayWrite info info.entityMsg

/-- `EntityHander::handleNewEntityWithFlush`: the entity goes straight to the expired items. -/
def handleNewEntityWithFlush : Server μ :=
  let s := { s with lruMap := s.lruMap.update info.guid info.entityMsg info.lastModifyTime }
  (s.writeRecord info .insertWithFlush).replayWrite info info.entityMsg

/-- `EntityHander::handleFlushEntity`: the entity leaves the cache. -/
def handleFlushEntity : Server μ :=
  match s.entityMap[info.guid]? with
  | none => s.replayError info
  | some _ =>
      let s := { s with lruMap := s.lruMap.update info.guid info.entityMsg info.lastModifyTime }
      ((s.writeRecord info .flush).replayWrite info info.entityMsg).removeEntity info.guid

/-- `EntityHander::handleUpdateEntity` -/
def handleUpdateEntity : Server μ :=
  match info.entityMsg with
  | none => s.replayError info
  | some v =>
      ((s.writeRecord info .update).updateEntity v info.guid).replayWrite info (some v)

/-- `EntityHander::handleRemoveEntity` -/
def handleRemoveEntity : Server μ :=
  let s := { s with lruMap := s.lruMap.updateToDelete info.guid }
  ((s.writeRecord info .remove).removeEntity info.guid).replayWrite info none

/-- `EntityHander::handleOnlyRemoveEntity`: no record and no reply. -/
def handleOnlyRemoveEntity : Server μ :=
  s.removeEntity info.guid

/-- `DbLoader::process`. -/
def process : Server μ :=
  { s with dataReqInfoVec := s.dataReqInfoVec ++ [info] }

/-- `EntityHander::handleLoadEntity`: from the cache, from the expired items, or from the
database. -/
def handleLoadEntity : Server μ :=
  match s.entityMap[info.guid]? with
  | some v => s.replayLoad info (.valid v)
  | none =>
      match s.lruMap.query info.guid with
      | some x =>
          let s := { s with lruMap := s.lruMap.lend info.guid }
          match x.item with
          | .valid v => (s.addEntity (some v) info.guid).1.replayLoad info (.valid v)
          | item => s.replayLoad info item
      | none => s.process info

/-- `EntityHander::handleLoadEntityOnce`: as a load, but nothing is taken into the cache. -/
def handleLoadEntityOnce : Server μ :=
  match s.entityMap[info.guid]? with
  | some v => s.replayLoad info (.valid v)
  | none =>
      match s.lruMap.query info.guid with
      | some x =>
          match x.item with
          | .valid v => s.replayLoad info (.valid v)
          -- the item is copied without a check
          | _ => s.reply info .normal .garbage
      | none => s.process info

/-- `handlePacket` after the parsing; a load notes what it is to return. -/
def handlePacket : Server μ :=
  match info.opcode with
  | .newEntity => s.handleNewEntity info
  | .loadEntity => s.handleLoadEntity { info with expected := s.lastWrite info.guid }
  | .flushEntity => s.handleFlushEntity info
  | .updateEntity => s.handleUpdateEntity info
  | .removeEntity => s.handleRemoveEntity info
  | .loadEntityOnce => s.handleLoadEntityOnce { info with expected := s.lastWrite info.guid }
  | .newEntityWithFlush => s.handleNewEntityWithFlush info
  | .onlyRemoveEntity => s.handleOnlyRemoveEntity info

/-- `handleDbLoad`: a loaded message is added and returned; when the guid is
there by now, the message that is returned has just been deleted. -/
def handleDbLoad : Server μ :=
  match info.entityMsg with
  | none => s.replayError info
  | some v =>
      match info.opcode with
      | .loadEntity =>
          let added := s.addEntity (some v) info.guid
          added.1.replayLoad info (if added.2 then .valid v else .freed)
      | .loadEntityOnce => s.replayLoad info (.valid v)
      | _ => s

/-- `DbLoader::handleLoadRequest`: the load succeeds when there is a row. -/
def handleLoadRequest : Server μ :=
  { s with dbLoadReplayVec :=
      s.dbLoadReplayVec ++ [{ info with entityMsg := (s.database info.guid).join }] }

/-- The converter applies one record and acknowledges it if it is of a flush type. -/
def convert (record : Record (Option μ)) : Server μ :=
  { s with
    database := writeRecordToDb s.database record
    acks :=
      match record.optype with
      | .flush | .insertWithFlush => s.acks ++ [(record.objectGuid, record.lastModifyTime)]
      | _ => s.acks }

end Server

/-! ## §7. The system. -/

/-- A request packet, a result of the loader that is taken in, and the moments
at which the loader, the converter and its acknowledgements come to run. -/
inductive Action (μ : Type)
  | packet (info : DataRequestInfo μ)
  | dbLoadReplay
  | loader (i : Nat)
  | convert
  | ack (i : Nat)

/-- One step; the time stamps of the packets strictly increase. -/
def step (s : Server μ) : Action μ → Option (Server μ)
  | .packet info =>
      if s.clock < info.lastModifyTime then
        some (Server.handlePacket { s with clock := info.lastModifyTime }
          { info with expected := none, overtaken := false })
      else none
  | .dbLoadReplay =>
      match s.dbLoadReplayVec with
      | [] => none
      | info :: rest => some (Server.handleDbLoad { s with dbLoadReplayVec := rest } info)
  | .loader i =>
      (s.dataReqInfoVec[i]?).map fun info =>
        Server.handleLoadRequest { s with dataReqInfoVec := s.dataReqInfoVec.eraseIdx i } info
  | .convert =>
      match s.recordSet with
      | [] => none
      | record :: rest => some (Server.convert { s with recordSet := rest } record)
  | .ack i =>
      (s.acks[i]?).map fun a =>
        { s with acks := s.acks.eraseIdx i, lruMap := s.lruMap.remove a.1 a.2 }

/-- The server starts empty over any database. -/
def system : TransSys (Server μ) (Action μ) where
  init s := ∃ rows : UInt64 → Option μ,
    s = { database := fun g => (rows g).map some, lastWrite := rows }
  step := step

end Steppingstone.Cached
