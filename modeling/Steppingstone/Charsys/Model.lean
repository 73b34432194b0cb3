/-
  Steppingstone.Charsys.Model — the character system (`RouteGatePacket.cpp`, `RouteCachePacket.cpp`,
  `ManageAccountDatabase.cpp`).

  A client makes a role: a row goes into the account database, and the cache is asked to write the
  entities of the player and of its role.  A client asks for its roles: the cache is asked to load
  the player of every active row.  The replies come in any order.

  Every handler runs to its end before the next packet.  Whether a query works and which guid is
  made comes with the packet (`Outcome`); the texts in a query are taken for what they are, and the
  rules for names and jobs are read from files (`Config`).  Gate sessions stay connected.
-/
import Mathlib.Tactic.Common
import Steppingstone.Pool.Model

namespace Steppingstone.Charsys

open Std (TreeMap)
open Pool (guidType etPlayer etRole)

/-! ## §1. The account database. -/

/-- A row of `role`: status 0 is new, 1 active, 2 deleted. -/
structure Row where
  guid : UInt64
  account : String
  name : String
  status : Nat
  deriving DecidableEq

/-- The rows of the role table. -/
abbrev Rows := List Row

/-- How an `insert` ends.  The handler takes it for done, too, when there is no connection or when
    the query throws. -/
inductive InsertResult
  | inserted | refused | raised | noConnection
  deriving DecidableEq

/-- The environment of a handler: which queries work, and the guids that `ManageGuid` makes. -/
structure Outcome where
  nameQuery : Bool := true
  countQuery : Bool := true
  insert : InsertResult := .inserted
  playerGuid : Option UInt64 := none
  roleGuid : Option UInt64 := none
  update : Bool := true
  delete : Bool := true
  listQuery : Bool := true

namespace Rows

/-- `isExistRoleName`: a query that fails finds the name. -/
def isExistRoleName (rows : Rows) (name : String) (db : Outcome) : Bool :=
  !db.nameQuery || rows.any fun row => row.name = name

/-- `getAccountRoleNumber`. -/
def getAccountRoleNumber (rows : Rows) (account : String) (db : Outcome) : Option Nat :=
  if db.countQuery then
    some (rows.countP fun row => row.account = account && row.status = 1)
  else none

/-- `insertRoleName`: the rows after it, and the guid. -/
def insertRoleName (rows : Rows) (account name : String) (db : Outcome) : Option (Rows × UInt64) :=
  match db.insert, db.playerGuid with
  | .noConnection, _ => some (rows, 0)
  | _, none => none
  | .inserted, some guid => some (rows ++ [{ guid, account, name, status := 0 }], guid)
  | .refused, some _ => none
  | .raised, some guid => some (rows, guid)

/-- The `update` of the status column of one guid. -/
def setStatus (rows : Rows) (guid : UInt64) (status : Nat) : Rows :=
  rows.map fun row => if row.guid = guid then { row with status := status } else row

/-- `updateRoleStatus` with status 1. -/
def updateRoleStatus (rows : Rows) (guid : UInt64) (db : Outcome) : Option Rows :=
  if db.update then some (rows.setStatus guid 1) else none

/-- `deleteRole`; its callers do not look whether it worked. -/
def deleteRole (rows : Rows) (guid : UInt64) (db : Outcome) : Rows :=
  if db.delete then rows.setStatus guid 2 else rows

/-- `getRoleList`: the guids of the active roles. -/
def getRoleList (rows : Rows) (account : String) (db : Outcome) : Option (List UInt64) :=
  if db.listQuery then
    some ((rows.filter fun row => row.account = account && row.status = 1).map Row.guid)
  else none

end Rows

/-! ## §2. Packets and tables. -/

/-- `cmsg_player_make` from a client. -/
structure MakePacket where
  session : Nat
  guid : UInt64
  account : String
  name : String
  profession : Int
  sex : Int
  deriving DecidableEq

/-- `cmsg_request_player_list` from a client. -/
structure ListPacket where
  session : Nat
  guid : UInt64
  accountId : String
  deriving DecidableEq

/-- The fields of the player entity that go into the list. -/
structure PlayerEntity where
  guid : UInt64
  name : String := ""
  profession : Int := 0
  sex : Int := 0
  level : Int := 0
  mapId : Int := 0
  lineNo : Int := 0
  deriving DecidableEq

/-- The packets to the clients. -/
inductive Answer
  | errorMessage (msgCode : Int)
  | playerMake (guid : UInt64) (mapId lineId : Int)
  | requestPlayerList (players : List PlayerEntity) (playerNum : Nat)
  deriving DecidableEq

/-- A packet on its way: the session, the packet guid, and what it says. -/
structure Sent where
  session : Nat
  packetGuid : UInt64
  answer : Answer
  deriving DecidableEq

/-- `CacheOpType`. -/
inductive CacheOpType
  | base | add | load | remove
  deriving DecidableEq

/-- `RoleInfo`: 0 is waiting, 1 is success, 2 is failure. -/
structure RoleInfo where
  account : String := ""
  packetGuid : UInt64 := 0
  playerGuid : UInt64 := 0
  roleGuid : UInt64 := 0
  opType : CacheOpType := .base
  gateSession : Nat := 0
  playerState : Nat := 0
  roleState : Nat := 0
  deriving DecidableEq

namespace RoleInfo

/-- `setOpType`: a load does not wait for the role entity. -/
def setOpType (info : RoleInfo) (opt : CacheOpType) : RoleInfo :=
  { info with opType := opt, roleState := if opt = .load then 1 else info.roleState }

/-- `updateState`. -/
def updateState (info : RoleInfo) (guid : UInt64) (success : Bool) : RoleInfo :=
  if guidType guid = etPlayer then { info with playerState := if success then 1 else 2 }
  else if guidType guid = etRole then { info with roleState := if success then 1 else 2 }
  else info

/-- `is_success`. -/
def isSuccess (info : RoleInfo) : Bool := info.playerState = 1 && info.roleState = 1

/-- `is_finish`. -/
def isFinish (info : RoleInfo) : Bool := 0 < info.playerState && 0 < info.roleState

/-- `is_failed`. -/
def isFailed (info : RoleInfo) : Bool :=
  1 ≤ min info.playerState info.roleState && 2 ≤ max info.playerState info.roleState

end RoleInfo

/-- An entry of `RoleMap_t`: no player yet, the pointer 1 for a load that failed, or the player. -/
inductive LoadedRole
  | null
  | failed
  | player (role : PlayerEntity)
  deriving DecidableEq

/-- The player, if it is there. -/
def LoadedRole.role : LoadedRole → Option PlayerEntity
  | .player role => some role
  | _ => none

/-- `AccountInfo`: a list that is being put together. -/
structure AccountInfo where
  account : String := ""
  packetGuid : UInt64 := 0
  gateSession : Nat := 0
  roleMap : TreeMap UInt64 LoadedRole := {}

/-- What waits for the thread that talks to the cache. -/
inductive CachePacket
  | make (playerGuid : UInt64) (p : MakePacket)
  | load (playerGuid : UInt64)
  deriving DecidableEq

/-- The guid of the packet. -/
def CachePacket.guid : CachePacket → UInt64
  | .make playerGuid _ => playerGuid
  | .load playerGuid => playerGuid

/-- What the cache was asked. -/
inductive CacheRequest
  | newEntity (guid : UInt64)
  | loadEntity (guid : UInt64)
  deriving DecidableEq

/-- What is read from files: the rules for names, the role of a job, and the first map. -/
structure Config where
  checkRoleName : String → Bool
  getRoleId : Int → Int → Int
  hasRoleRes : Int → Bool
  mapId : Int := 0
  lineId : Int := 0
  maxRoleNumber : Nat := 1

/-- The tables of the character system, the database, and what is under way to the cache and to the
    gates. -/
structure State where
  rows : Rows := []
  roleInfoMap : TreeMap UInt64 RoleInfo := {}
  accountInfoMap : TreeMap String AccountInfo := {}
  gateSessions : List Nat := []
  toCache : List CachePacket := []
  asked : List CacheRequest := []
  sent : List Sent := []

namespace State

/-! ## §3. Helpers. -/

/-- `existGateSession`. -/
def existGateSession (s : State) (gateSession : Nat) : Bool := gateSession ∈ s.gateSessions

/-- `isMakingRole`. -/
def isMakingRole (s : State) (packetGuid : UInt64) : Bool :=
  s.roleInfoMap.toList.any fun e => e.2.packetGuid = packetGuid

/-- `getPlayerInfo`. -/
def getPlayerInfo (s : State) (roleGuid : UInt64) : Option RoleInfo :=
  if guidType roleGuid = etPlayer then s.roleInfoMap[roleGuid]?
  else if guidType roleGuid = etRole then
    (s.roleInfoMap.toList.find? fun e => e.2.roleGuid = roleGuid).map Prod.snd
  else none

/-- The record of a player, which is changed in place. -/
def setRoleInfo (s : State) (info : RoleInfo) : State :=
  { s with roleInfoMap := s.roleInfoMap.insert info.playerGuid info }

/-- `removeRoleInfo`. -/
def removeRoleInfo (s : State) (playerGuid : UInt64) : State :=
  { s with roleInfoMap := s.roleInfoMap.erase playerGuid }

/-- `handleOutputStream` of a gate session. -/
def output (s : State) (session : Nat) (packetGuid : UInt64) (answer : Answer) : State :=
  { s with sent := s.sent ++ [⟨session, packetGuid, answer⟩] }

/-- `sendClientErrorInfo`. -/
def sendClientErrorInfo (s : State) (gateSession : Nat) (packetGuid : UInt64) (errorCode : Int) :
    State :=
  s.output gateSession packetGuid (.errorMessage errorCode)

/-! ## §4. Making a role. -/

/-- `handleRoleMake` of `RouteGatePacket`, for a packet that is parsed. -/
def handleRoleMake (cfg : Config) (s : State) (p : MakePacket) (db : Outcome) : State :=
  if s.isMakingRole p.guid then s
  else if !cfg.checkRoleName p.name then s.sendClientErrorInfo p.session p.guid 17
  else if s.rows.isExistRoleName p.name db then s.sendClientErrorInfo p.session p.guid 16
  else
    match s.rows.getAccountRoleNumber p.account db with
    | none => s
    | some accountNumber =>
        if accountNumber < cfg.maxRoleNumber then
          match s.rows.insertRoleName p.account p.name db with
          | none => s
          | some (rows, playerGuid) =>
              match db.roleGuid with
              | none => { s with rows := rows }
              | some roleGuid =>
                  let info : RoleInfo := {
                    account := p.account, packetGuid := p.guid, playerGuid := playerGuid,
                    roleGuid := roleGuid, gateSession := p.session }
                  let s := { s with rows := rows }.setRoleInfo (info.setOpType .add)
                  { s with toCache := s.toCache ++ [.make playerGuid p] }
        else s

/-- `handleNewEneity`; `normal` says that the reply is parsed and its status is normal. -/
def handleNewEneity (cfg : Config) (s : State) (guid : UInt64) (normal : Bool) (db : Outcome) :
    State :=
  match s.getPlayerInfo guid with
  | none => s
  | some info =>
      let info := info.updateState guid normal
      let s := s.setRoleInfo info
      let s :=
        if normal then
          if info.isSuccess then
            match s.rows.updateRoleStatus info.playerGuid db with
            | none => s
            | some rows =>
                let s := { s with rows := rows }
                if s.existGateSession info.gateSession then
                  s.output info.gateSession info.packetGuid (.playerMake guid cfg.mapId cfg.lineId)
                else s
          else s
        else if info.isFailed then
          { s with rows := s.rows.deleteRole info.playerGuid db }.sendClientErrorInfo
            info.gateSession info.packetGuid 1
        else s
      if info.isFinish then s.removeRoleInfo info.playerGuid else s

/-! ## §5. The list of roles. -/

/-- `cleanAccountInfo`. -/
def cleanAccountInfo (s : State) (account : String) : State :=
  { s with accountInfoMap := s.accountInfoMap.erase account }

/-- The players of the list. -/
def loadedPlayers (roleMap : TreeMap UInt64 LoadedRole) : List PlayerEntity :=
  roleMap.toList.filterMap fun e => e.2.role

/-- `replayRoleList`: the list goes out when nothing is missing. -/
def replayRoleList (s : State) (info : AccountInfo) : State :=
  if info.roleMap.toList.all fun e => e.2 ≠ .null then
    let players := loadedPlayers info.roleMap
    let s :=
      if s.existGateSession info.gateSession then
        s.output info.gateSession info.packetGuid (.requestPlayerList players players.length)
      else s
    s.cleanAccountInfo info.account
  else s

/-- `handleRequestRoleList`, for a packet that is parsed. -/
def handleRequestRoleList (s : State) (p : ListPacket) (db : Outcome) : State :=
  match s.rows.getRoleList p.accountId db with
  | none => s.sendClientErrorInfo p.session p.guid 1
  | some guids =>
      let info : AccountInfo := {
        account := p.accountId, packetGuid := p.guid, gateSession := p.session,
        roleMap := guids.foldl (fun m guid => m.insert guid .null) {} }
      if info.roleMap.isEmpty then s.replayRoleList info
      else
        let s := s.cleanAccountInfo p.accountId
        let s := { s with accountInfoMap := s.accountInfoMap.insert p.accountId info }
        info.roleMap.keys.foldl (fun s guid =>
          let roleInfo : RoleInfo := {
            account := p.accountId, playerGuid := guid, packetGuid := p.guid,
            gateSession := p.session }
          let s := s.setRoleInfo (roleInfo.setOpType .load)
          { s with toCache := s.toCache ++ [.load guid] }) s

/-- A role of the list is there, or has failed. -/
def setLoaded (s : State) (info : AccountInfo) (guid : UInt64) (role : LoadedRole) : State :=
  if guid ∈ info.roleMap then
    let info := { info with roleMap := info.roleMap.insert guid role }
    { s with accountInfoMap := s.accountInfoMap.insert info.account info }.replayRoleList info
  else s

/-- `handleLoadEneity`; `normal` as above, `message` is the player that is parsed from the reply. -/
def handleLoadEneity (s : State) (guid : UInt64) (normal : Bool) (message : Option PlayerEntity) :
    State :=
  match s.getPlayerInfo guid with
  | none => s
  | some info =>
      -- the success branch, and whether `result` is 0 after it
      let (s, info, done) :=
        if normal then
          let info := info.updateState guid true
          let s := s.setRoleInfo info
          if info.isSuccess then
            match s.accountInfoMap[info.account]?, message with
            | some account, some role => (s.setLoaded account role.guid (.player role), info, true)
            | _, _ => (s, info, false)
          else (s, info, false)
        else (s, info, false)
      let (s, info) :=
        if done then (s, info)
        else
          let info := info.updateState guid false
          let s := s.setRoleInfo info
          if info.isFailed then
            match s.accountInfoMap[info.account]? with
            | some account => (s.setLoaded account guid .failed, info)
            | none => (s, info)
          else (s, info)
      if info.isFinish then s.removeRoleInfo info.playerGuid else s

/-! ## §6. The thread that talks to the cache. -/

/-- `handleRoleMake` of `RouteCachePacket`: `initRole` may fail, and then the cache is not asked. -/
def cacheRoleMake (cfg : Config) (s : State) (playerGuid : UInt64) (p : MakePacket) : State :=
  match s.getPlayerInfo playerGuid with
  | none => s
  | some info =>
      let roleId := cfg.getRoleId p.profession p.sex
      if roleId = -1 ∨ cfg.hasRoleRes roleId = false then s
      else { s with asked := s.asked ++ [.newEntity info.roleGuid, .newEntity playerGuid] }

/-- The next packet to the cache. -/
def sendCachePacket (cfg : Config) (s : State) : Option State :=
  match s.toCache with
  | [] => none
  | .make playerGuid p :: rest => some ({ s with toCache := rest }.cacheRoleMake cfg playerGuid p)
  | .load playerGuid :: rest =>
      some { s with toCache := rest, asked := s.asked ++ [.loadEntity playerGuid] }

end State

end Steppingstone.Charsys
