/-
  Steppingstone.Fight.Model — requests for the fight data of players
  (`SceneRequest.cpp`).

  A request names players.  The data of a player comes from the pool, from a
  player who is jumping maps, from another scene or from the cache; requests
  that want the same player share one question through
  `m_guid_request_reference_map`, which holds pointers to the requests.  When
  every player of a request is answered its callback runs and it is deleted.
  `m_guid_reference_map` counts how many requests use the entities that were put
  into the pool for a player.

  `DataRequestInfo` objects live in a heap; an address is used once.  Access to
  a deleted object sets a flag.  A message that is answered and a load that
  comes back are taken from the questions in flight.

  The maps of the code go by key, the lists here by the order of the request;
  what is walked does not depend on it.  `queryFinish` asks the same of every
  entry, `reduceReferenceNo` gives back different players, each with its own
  entry and entities, and the collections come in any order anyway.
-/
import Mathlib.Logic.Function.Basic
import Steppingstone.Lib.TransSys
import Steppingstone.Pool.Entities
import Steppingstone.Player.Entity

namespace Steppingstone.Fight

open Pool (PoolImp guidType etPlayer)
open Player (Entity)

/-! ## §1. Requests. -/

/-- `DataRequestType`. -/
inductive DataRequestType where
  | base | fromOtherScene | fromCachesys
  deriving Repr, DecidableEq

/-- `GuidRequestInfo`, without the messages, which nothing reads. -/
structure GuidRequestInfo where
  reqGuid : UInt64
  reqType : DataRequestType := .base
  reqBack : Bool := false
  reqSuccess : Bool := false
  guidVec : List UInt64 := []
  /-- Ghost: a reference was counted for it. -/
  counted : Bool := false
  deriving Repr, DecidableEq

/-- `DataRequestInfo`; its map in the order of the request. -/
structure DataRequestInfo where
  reqId : UInt32
  reqFinish : Bool := false
  reqSuccess : Bool := false
  guidReqInfoMap : List GuidRequestInfo := []
  deriving Repr, DecidableEq

/-- What was found for `player_guid`: `CollectMsgInfo`, its messages in the
order they were added. -/
abbrev CollectMsgInfo := List (UInt64 × Entity)

/-- `CollectMsgInfo::guid_vec`. -/
def guidVecOf (collectMsgInfo : CollectMsgInfo) : List UInt64 :=
  collectMsgInfo.map Prod.fst

namespace DataRequestInfo

/-- Change the entry of one guid, if there is one. -/
def modify (d : DataRequestInfo) (guid : UInt64) (f : GuidRequestInfo → GuidRequestInfo) :
    DataRequestInfo :=
  { d with guidReqInfoMap := d.guidReqInfoMap.map fun i => if i.reqGuid = guid then f i else i }

/-- The question for a player goes to the cache. -/
def modifyGuidRequestTypeFromCache (d : DataRequestInfo) (guid : UInt64) : DataRequestInfo :=
  d.modify guid fun i => { i with reqType := .fromCachesys }

/-- `requestDataBack`; a reference is counted next to it. -/
def requestDataBack (d : DataRequestInfo) (playerGuid : UInt64) (guidVec : List UInt64) :
    DataRequestInfo :=
  d.modify playerGuid fun i =>
    { i with reqBack := true, reqSuccess := true, guidVec := i.guidVec ++ guidVec, counted := true }

/-- The data of a player could not be had. -/
def requestDataBackFailed (d : DataRequestInfo) (playerGuid : UInt64) : DataRequestInfo :=
  d.modify playerGuid fun i => { i with reqBack := true, reqSuccess := false }

/-- The loop of `queryFinish`: `req_finish` and `req_success`. -/
def queryLoop : List GuidRequestInfo → Bool → Bool × Bool
  | [], success => (true, success)
  | i :: rest, success =>
      let success := success && i.reqSuccess
      if i.reqBack then queryLoop rest success else (false, false)

/-- Is every player answered, and with success? -/
def queryFinish (d : DataRequestInfo) : DataRequestInfo :=
  let (finish, success) := queryLoop d.guidReqInfoMap true
  { d with reqFinish := finish, reqSuccess := success }

end DataRequestInfo

/-! ## §2. References. -/

/-- `ReferenceInfo`. -/
structure ReferenceInfo where
  referenceNo : Int
  guid : UInt64
  impackGuid : List UInt64
  deriving Repr, DecidableEq

/-- `m_guid_reference_map` and the pool whose entities it counts. -/
structure References where
  guidReferenceMap : UInt64 → Option ReferenceInfo := fun _ => none
  pool : PoolImp Entity

namespace References

variable (r : References)

/-- `addReferenceNo`. -/
def addReferenceNo (guid : UInt64) (guidVec : List UInt64) : References :=
  match r.guidReferenceMap guid with
  | some info =>
      { r with
        guidReferenceMap := Function.update r.guidReferenceMap guid
          (some { info with referenceNo := info.referenceNo + 1 }) }
  | none =>
      { r with
        guidReferenceMap := Function.update r.guidReferenceMap guid
          (some (ReferenceInfo.mk 1 guid guidVec)) }

/-- `reduceReferenceNo(guid)`. -/
def reduceReferenceNo (guid : UInt64) : References :=
  match r.guidReferenceMap guid with
  | some info =>
      if info.referenceNo - 1 ≤ 0 then
        { pool := info.impackGuid.foldl (fun pool g => (pool.remove g false true).1) r.pool
          guidReferenceMap := Function.update r.guidReferenceMap guid none }
      else
        { r with
          guidReferenceMap := Function.update r.guidReferenceMap guid
            (some { info with referenceNo := info.referenceNo - 1 }) }
  | none => r

/-- `reduceReferenceNo(data_req_info)`: every guid of the request is given back,
whether it was obtained or not. -/
def reduceAll (guidReqInfoMap : List GuidRequestInfo) : References :=
  guidReqInfoMap.foldl (fun r i => r.reduceReferenceNo i.reqGuid) r

/-- `POOL_OP_ADD` of what was collected for a player. -/
def addCollected (playerGuid : UInt64) (collectMsgInfo : CollectMsgInfo) : References :=
  { r with
    pool := collectMsgInfo.foldl (fun pool e => (pool.add e.1 (some e.2) false playerGuid).1)
      r.pool }

/-- `requestPlayerFightDataFromLocate`: the guids it takes from the pool. -/
def requestPlayerFightDataFromLocate (playerGuid : UInt64) : Option (List UInt64) :=
  match (r.pool.get playerGuid).bind Entity.asPlayer with
  | none => none
  | some player =>
      let roles := player.roles.filter fun g => (r.pool.get g).any (·.body.kind = .role)
      let form := if (r.pool.get player.form).any (·.body.kind = .form) then [player.form] else []
      some (playerGuid :: roles ++ form)

end References

/-! ## §3. The state. -/

/-- A request that was given an id. -/
structure Accepted where
  address : Nat
  reqId : UInt32
  guids : List UInt64
  deriving Repr, DecidableEq

/-- A call of `fight_data_request_callback`. -/
structure Call where
  address : Nat
  reqId : UInt32
  success : Bool
  deriving Repr, DecidableEq

/-- `SceneRequestImp` with its heap, its pool and the questions in flight. -/
structure SceneRequestImp where
  requestIdIndex : UInt32 := 0
  dataRequestIdInfoMap : UInt32 → Option Nat := fun _ => none
  guidRequestReferenceMap : UInt64 → Option (List Nat) := fun _ => none
  references : References
  objects : Nat → Option DataRequestInfo := fun _ => none
  nextObject : Nat := 0
  /-- `LMSG_REQUEST_PLAYER_FIGHT_DATA` messages that are not answered. -/
  sceneAsked : List UInt64 := []
  /-- Loads that did not come back. -/
  loads : List UInt64 := []
  /-- Ghost: a deleted object was used. -/
  usedDeleted : Bool := false
  /-- Ghost: the requests that were accepted. -/
  accepted : List Accepted := []
  /-- Ghost: how a player of a request was answered. -/
  answers : Nat → UInt64 → Option Bool := fun _ _ => none
  /-- Ghost: the callbacks that ran. -/
  calls : List Call := []
  /-- Ghost: the entities last put into the pool for a player. -/
  put : UInt64 → Option (List UInt64) := fun _ => none

namespace SceneRequestImp

variable (s : SceneRequestImp)

/-- Use the object at an address. -/
def withObject (a : Nat) (f : DataRequestInfo → DataRequestInfo) : SceneRequestImp :=
  match s.objects a with
  | some d => { s with objects := Function.update s.objects a (some (f d)) }
  | none => { s with usedDeleted := true }

/-- Ghost: the answer of a request for a player. -/
def setAnswer (a : Nat) (guid : UInt64) (success : Bool) : SceneRequestImp :=
  { s with
    answers := Function.update s.answers a
      (Function.update (s.answers a) guid (some success)) }

/-! ## §4. Completing a request. -/

/-- `removeRequestInfo`: the object registered under the id is deleted. -/
def removeRequestInfo (reqId : UInt32) : SceneRequestImp :=
  match s.dataRequestIdInfoMap reqId with
  | some a =>
      { s with
        objects := Function.update s.objects a none
        dataRequestIdInfoMap := Function.update s.dataRequestIdInfoMap reqId none }
  | none => s

/-- `complateDataRequest`. -/
def complateDataRequest (a : Nat) : SceneRequestImp :=
  match s.objects a with
  | none => { s with usedDeleted := true }
  | some d =>
      let d := d.queryFinish
      let s := { s with objects := Function.update s.objects a (some d) }
      if d.reqFinish then
        let s := { s with
          calls := s.calls ++ [Call.mk a d.reqId d.reqSuccess]
          references := s.references.reduceAll d.guidReqInfoMap }
        s.removeRequestInfo d.reqId
      else s

/-! ## §5. Answers. -/

/-- One round of the loop that tells the requests of a failed answer. -/
def markFailed (playerGuid : UInt64) (s : SceneRequestImp) (a : Nat) : SceneRequestImp :=
  (s.withObject a (·.requestDataBackFailed playerGuid)).setAnswer a playerGuid false

/-- One round of the loop that tells the requests of an answer with data. -/
def markBack (playerGuid : UInt64) (guidVec : List UInt64) (s : SceneRequestImp) (a : Nat) :
    SceneRequestImp :=
  let s := (s.withObject a (·.requestDataBack playerGuid guidVec)).setAnswer a playerGuid true
  { s with references := s.references.addReferenceNo playerGuid guidVec }

/-- `playerFightDataBack`; `none` is a failure or a `NULL` collection. -/
def playerFightDataBack (playerGuid : UInt64) (collectMsgInfo : Option CollectMsgInfo) :
    SceneRequestImp :=
  match s.guidRequestReferenceMap playerGuid with
  | none => s
  | some requests =>
      let s := match collectMsgInfo with
        | none => requests.foldl (markFailed playerGuid) s
        | some info =>
            let s := { s with
              references := s.references.addCollected playerGuid info
              put := Function.update s.put playerGuid (some (guidVecOf info)) }
            requests.foldl (markBack playerGuid (guidVecOf info)) s
      let s := requests.foldl complateDataRequest s
      { s with guidRequestReferenceMap := Function.update s.guidRequestReferenceMap playerGuid none }

/-- `playerFightDataBackFromScene(player_guid, false)`: ask the cache instead. -/
def playerFightDataBackFromSceneFailed (playerGuid : UInt64) : SceneRequestImp :=
  match s.guidRequestReferenceMap playerGuid with
  | none => s
  | some requests =>
      let s := requests.foldl
        (fun s a => s.withObject a (·.modifyGuidRequestTypeFromCache playerGuid)) s
      { s with loads := s.loads ++ [playerGuid] }

end SceneRequestImp

/-! ## §6. Asking. -/

/-- What the line scene knows of a player that is not in the pool:
`getPlayerFightData`, and whether `sendSceneMsg` finds the scene. -/
inductive Located where
  | scene (sent : Bool)
  | jumping (guids : List UInt64)
  | offline
  deriving Repr, DecidableEq

namespace SceneRequestImp

variable (s : SceneRequestImp)

/-- `doRequestPlayerFightData(guid, guid_req_info)`. -/
def doRequestOne (a : Nat) (guid : UInt64) : Located → SceneRequestImp × GuidRequestInfo
  | .jumping guids =>
      (s.setAnswer a guid true,
        { reqGuid := guid, reqType := .fromOtherScene, reqBack := true, reqSuccess := true,
          guidVec := guids })
  | .offline =>
      ({ s with loads := s.loads ++ [guid] }, { reqGuid := guid, reqType := .fromCachesys })
  | .scene true =>
      ({ s with sceneAsked := s.sceneAsked ++ [guid] },
        { reqGuid := guid, reqType := .fromOtherScene })
  | .scene false =>
      (s.setAnswer a guid false,
        { reqGuid := guid, reqType := .fromOtherScene, reqBack := true, reqSuccess := false })

/-- One round of the loop of `doRequestPlayerFightData(player_guid, data_req_info)`. -/
def requestOne (a : Nat) (line : UInt64 → Located) (guid : UInt64) :
    SceneRequestImp × GuidRequestInfo :=
  match s.references.requestPlayerFightDataFromLocate guid with
  | some guidVec =>
      ({ s.setAnswer a guid true with
          references := s.references.addReferenceNo guid guidVec },
        { reqGuid := guid, reqBack := true, reqSuccess := true, guidVec := guidVec,
          counted := true })
  | none =>
      match s.guidRequestReferenceMap guid with
      | some requests =>
          ({ s with guidRequestReferenceMap :=
              Function.update s.guidRequestReferenceMap guid (some (requests ++ [a])) },
            { reqGuid := guid })
      | none =>
          ({ s with guidRequestReferenceMap :=
              Function.update s.guidRequestReferenceMap guid (some [a]) }).doRequestOne a guid
            (line guid)

/-- `doRequestPlayerFightData(player_guid, data_req_info)`. -/
def doRequestPlayerFightData (a : Nat) (line : UInt64 → Located) :
    List UInt64 → SceneRequestImp → SceneRequestImp × List GuidRequestInfo
  | [], s => (s, [])
  | guid :: rest, s =>
      let (s, info) := s.requestOne a line guid
      let (s, infos) := doRequestPlayerFightData a line rest s
      (s, info :: infos)

/-- `getRequestId`. -/
def getRequestId : UInt32 :=
  s.requestIdIndex % 0xFFFFFF + 1

/-- `addRequestInfo`; an id that is taken keeps its object. -/
def addRequestInfo (reqId : UInt32) (a : Nat) : SceneRequestImp :=
  match s.dataRequestIdInfoMap reqId with
  | some _ => s
  | none => { s with dataRequestIdInfoMap := Function.update s.dataRequestIdInfoMap reqId (some a) }

end SceneRequestImp

/-- The checks of `requestPlayerFightData`: players, and each once. -/
def validGuids (playerGuid : List UInt64) : Bool :=
  !playerGuid.isEmpty && playerGuid.all (guidType · = etPlayer) && decide playerGuid.Nodup

namespace SceneRequestImp

/-- `requestPlayerFightData` once the guids are checked. -/
def acceptRequest (s : SceneRequestImp) (playerGuid : List UInt64) (line : UInt64 → Located) :
    SceneRequestImp :=
  let reqId := s.getRequestId
  let a := s.nextObject
  let s := { s with
    requestIdIndex := s.requestIdIndex + 1
    nextObject := a + 1
    accepted := s.accepted ++ [⟨a, reqId, playerGuid⟩] }
  let (s, infos) := doRequestPlayerFightData a line playerGuid s
  let s := { s with objects := Function.update s.objects a (some { reqId, guidReqInfoMap := infos }) }
  (s.addRequestInfo reqId a).complateDataRequest a

/-- `requestPlayerFightData`; the id is 0 when the guids are refused. -/
def requestPlayerFightData (s : SceneRequestImp) (playerGuid : List UInt64)
    (line : UInt64 → Located) : SceneRequestImp × UInt32 :=
  if validGuids playerGuid then (s.acceptRequest playerGuid line, s.getRequestId) else (s, 0)

end SceneRequestImp

/-! ## §7. The system. -/

/-- A request, or the answer to the `i`-th question of a kind. -/
inductive Act where
  | request (playerGuid : List UInt64) (line : UInt64 → Located)
  /-- `LMSG_GET_DATA_FROM_OTHER_SCENE_BACK` and what `getCollectMessage` has. -/
  | sceneBack (i : Nat) (collectMsgInfo : Option CollectMsgInfo)
  /-- `LMSG_GET_DATA_FROM_OTHER_SCENE_BACK_FAILED`. -/
  | sceneBackFailed (i : Nat)
  /-- `playerFightDataBackFromCache`. -/
  | cacheBack (i : Nat) (collectMsgInfo : Option CollectMsgInfo)

/-- A question that is answered leaves the flight. -/
def step (s : SceneRequestImp) : Act → Option SceneRequestImp
  | .request playerGuid line => some (s.requestPlayerFightData playerGuid line).1
  | .sceneBack i collectMsgInfo =>
      (s.sceneAsked[i]?).map fun guid =>
        SceneRequestImp.playerFightDataBack { s with sceneAsked := s.sceneAsked.eraseIdx i } guid
          collectMsgInfo
  | .sceneBackFailed i =>
      (s.sceneAsked[i]?).map fun guid =>
        SceneRequestImp.playerFightDataBackFromSceneFailed
          { s with sceneAsked := s.sceneAsked.eraseIdx i } guid
  | .cacheBack i collectMsgInfo =>
      (s.loads[i]?).map fun guid =>
        SceneRequestImp.playerFightDataBack { s with loads := s.loads.eraseIdx i } guid
          collectMsgInfo

/-- Runs start without requests, from any pool. -/
def fightSystem : TransSys SceneRequestImp Act where
  init s := ∃ pool : PoolImp Entity, s = { references := { pool } }
  step := step

theorem fightSystem_step (s : SceneRequestImp) (a : Act) : fightSystem.step s a = step s a := rfl

end Steppingstone.Fight
