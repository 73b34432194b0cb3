/-
  Steppingstone.Chain.Model — the calls of the gate's routers, with the mutexes they take.

  `ManageRoleGsState`, `RouteGSPacket` and `RouteClientPackage` call one another, each under its
  own `ACE_Thread_Mutex` or not.  Every function is written here with the scopes of its guards; a
  call that takes a mutex it holds has no result (`Guarded`).  What the functions do to the state is
  what the models of the role states and of the role map say.
-/
import Steppingstone.Gate.Model
import Steppingstone.RoleState.Model
import Steppingstone.Lib.Guarded

namespace Steppingstone.Chain

open Gate (GateState SessionId ClientSession AccountRoleInfo makeMapGuid)
open RoleState (RoleGsStateInfo Opcode)
open Guarded

/-! ## §1. Mutexes and state. -/

/-- The mutexes that the three classes take, or that are taken by what they call. -/
inductive Mutex
  /-- `RouteClientPackage::m_client_session_map_mutex` -/
  | clientSessionMap
  /-- `RouteClientPackage::m_thread_packet_list_info_mutex` -/
  | clientThreadPacketList
  /-- `RouteClientPackage::m_client_belong_thread_packet_mutex` -/
  | clientBelongThread
  /-- `ManageRoleGsState::m_role_gs_state_map_mutex` -/
  | roleGsStateMap
  /-- `RouteGSPacket::m_gs_session_map_mutex` -/
  | gsSessionMap
  /-- `RouteGSPacket::m_client_belong_thread_packet_mutex` -/
  | gsBelongThread
  /-- The output mutex of a `GSSession` -/
  | gsOutput (gs : Nat)
  /-- `ManageClientSessionCooler::m_client_session_mutex` -/
  | cooler
  /-- The input lists of the threads; one for all of them. -/
  | inputList
  /-- The output lists of the threads -/
  | outputList
  /-- `ManageClientValidation::m_client_auth_mutex` -/
  | clientAuth
  /-- `ManageClientValidation::m_login_server_register_mutex` -/
  | loginServerRegister
  /-- `ManageMasterSession::m_ip_query_mutex` -/
  | ipQuery
  /-- `ManageClientConnectionTimeout::m_remove_client_session_set_mutex` -/
  | connectionTimeout
  /-- `ManageClientBeat::m_beat_put_mutex` -/
  | beatPut
  deriving DecidableEq, Repr

/-- What the three classes keep. -/
structure State where
  /-- `ManageRoleGsState` and the game servers of `RouteGSPacket` -/
  gs : RoleState.State
  /-- The client sessions and the role map of `RouteClientPackage` -/
  gate : GateState

/-- The gate as it is started. -/
def init : State where
  gs := RoleState.init
  gate := Gate.init

/-- A call of one of the functions: it may change the state, and takes mutexes on its way. -/
abbrev Call := Guarded Mutex State

/-- A change of the role states and the game servers. -/
def onGs (f : RoleState.State → RoleState.State) : Call Unit :=
  update fun s => { s with gs := f s.gs }

/-- A change of the client sessions and the role map. -/
def onGate (f : GateState → GateState) : Call Unit :=
  update fun s => { s with gate := f s.gate }

/-- A call of another class that takes a mutex of its own and calls none of the three. -/
def touch (m : Mutex) : Call Unit := withGuard m (pure ())

/-! ## §2. `ManageRoleGsState` and `RouteGSPacket::handleClientPackage`. -/

/-- `canEnterGame` -/
def canEnterGame (guid : UInt64) : Call Bool :=
  withGuard .roleGsStateMap do
    let s ← state
    return RoleState.canEnterGame s.gs guid

/-- `canLeaveGame` -/
def canLeaveGame (guid : UInt64) : Call Bool :=
  withGuard .roleGsStateMap do
    let s ← state
    return RoleState.canLeaveGame s.gs guid

/-- `leaveGame` -/
def leaveGame (guid : UInt64) : Call Unit :=
  withGuard .roleGsStateMap (onGs fun s => RoleState.leaveGame s guid)

/-- `GSSession::handleOutputStream` -/
def gsOutputStream (gs : Nat) (opcode : Opcode) (guid : UInt64) : Call Unit :=
  withGuard (.gsOutput gs) (onGs fun s => s.forward gs opcode guid)

/-- The first scope of `handleClientPackage` -/
def findGSSession (mapId : UInt64) : Call (Option Nat) :=
  withGuard .gsSessionMap do
    let s ← state
    return s.gs.gsSessions mapId

/-- `handleClientPackage` of a `CMSG_PLAYER_LEAVE_MAP` -/
def handleLeaveMap (guid mapId : UInt64) : Call Int := do
  let gs ← findGSSession mapId
  match gs with
  | none => return -1
  | some gs =>
      let can ← canLeaveGame guid
      if can then do
        leaveGame guid
        gsOutputStream gs .leaveMap guid
        return 0
      else return 0

/-- `sendLogoffMsg` -/
def sendLogoffMsg (guid mapId : UInt64) : Call Unit := do
  let _ ← handleLeaveMap guid mapId

/-- `doLogoff` -/
def doLogoff (info : RoleGsStateInfo) : Call Unit :=
  if ! info.roleOffline then pure ()
  else
    match info.roleGsState with
    | .enterGame => pure ()
    | .enterGameSuccess => sendLogoffMsg info.roleGuid info.mapId
    | .leaveGame => pure ()
    | .leaveGameSuccess => pure ()

/-- What `enterGame` does with the entry that it found. -/
def enterFound (guid mapId : UInt64) (found : Option RoleGsStateInfo) : Call Unit :=
  match found with
  | none => onGs fun s => s.setRole guid (some { mapId := mapId, roleGuid := guid })
  | some info => do
      onGs fun s => s.setRole guid (some { info with roleOffline := true })
      doLogoff { info with roleOffline := true }

/-- `enterGame`: the guard is held to the end. -/
def enterGame (guid mapId : UInt64) : Call Unit :=
  withGuard .roleGsStateMap do
    let s ← state
    enterFound guid mapId (s.gs.roles guid)

/-- `handleClientPackage` of a `CMSG_PLAYER_ENTER_MAP` -/
def handleEnterPackage (guid mapId : UInt64) : Call Int := do
  let gs ← findGSSession mapId
  match gs with
  | none => return -1
  | some gs =>
      let can ← canEnterGame guid
      if ! can then do
        enterGame guid mapId
        return 0
      else do
        enterGame guid mapId
        gsOutputStream gs .enterMap guid
        return 0

/-- `handleClientPackage` of any other packet -/
def handleOtherPackage (n : Nat) (guid mapId : UInt64) : Call Int := do
  let gs ← findGSSession mapId
  match gs with
  | none => return -1
  | some gs =>
      gsOutputStream gs (.other n) guid
      return 0

/-- `RouteGSPacket::handleClientPackage` -/
def handleClientPackage (opcode : Opcode) (guid mapId : UInt64) : Call Int :=
  match opcode with
  | .enterMap => handleEnterPackage guid mapId
  | .leaveMap => handleLeaveMap guid mapId
  | .other n => handleOtherPackage n guid mapId

/-- The scope of `enterGameSuccess`: the map to log the role off from, if it should be. -/
def succeedEnter (guid : UInt64) : Call (Option UInt64) :=
  withGuard .roleGsStateMap do
    let s ← state
    match s.gs.roles guid with
    | none => return none
    | some info =>
        if info.roleGsState = .enterGame then do
          onGs fun s => s.setRole guid (some { info with roleGsState := .enterGameSuccess })
          return if info.roleOffline then some info.mapId else none
        else return none

/-- `enterGameSuccess`: the guard ends before the log-off. -/
def enterGameSuccess (guid : UInt64) : Call Unit := do
  let logoff ← succeedEnter guid
  match logoff with
  | some mapId => sendLogoffMsg guid mapId
  | none => return ()

/-- `jumpMapSuccess` -/
def jumpMapSuccess (guid mapId : UInt64) : Call Unit :=
  withGuard .roleGsStateMap (onGs fun s => RoleState.jumpMapSuccess s guid mapId)

/-- `roleLogoff` -/
def roleLogoff (guid : UInt64) : Call Unit :=
  withGuard .roleGsStateMap
    (onGs fun s => s.setRole guid ((s.roles guid).map fun info => { info with roleOffline := true }))

/-- `cleanUnnormalPlayer` -/
def cleanUnnormalPlayer (guid : UInt64) : Call Unit :=
  withGuard .roleGsStateMap (onGs fun s => s.setRole guid none)

/-- `cleanAllPlayerStatus` -/
def cleanAllPlayerStatus : Call Unit :=
  withGuard .roleGsStateMap (onGs fun s => { s with roles := fun _ => none })

/-! ## §3. The role map of `RouteClientPackage`. -/

/-- `getRoleClientSession` -/
def getRoleClientSession (guid : UInt64) : Call (Option SessionId) :=
  withGuard .clientSessionMap do
    let s ← state
    return s.gate.roleMap guid

/-- `ManageClientSessionCooler::putClientSession` -/
def putClientSession (i : SessionId) : Call Unit := do
  let s ← state
  if ((s.gate.sessions i).map (·.inCooler)).getD true then pure ()
  else do
    onGate fun g => g.modify i fun cs => { cs with inCooler := true }
    withGuard .cooler
      (onGate fun g => if i ∈ g.cooler then g else { g with cooler := g.cooler ++ [i] })

/-- `ClientSession::putInputPacket` -/
def putInputPacket : Call Unit := touch .inputList

/-- `ClientSession::handleOutputStream`; a write that fails queues a packet. -/
def handleOutputStream (fails : Bool) : Call Unit := if fails then putInputPacket else pure ()

/-- `collectRoleClientSession` -/
def collectRoleClientSession (guid : UInt64) (i : SessionId) : Call Unit := do
  onGate fun g => g.modify i fun cs => { cs with roleGuid := guid }
  withGuard .clientSessionMap do
    let s ← state
    match s.gate.roleMap guid with
    | some o => do
        onGate fun g => g.modify o fun cs => { cs with loginAgain := true }
        putClientSession o
        onGate fun g => g.eraseRole guid
    | none => pure ()
    onGate fun g => { g with roleMap := Function.update g.roleMap guid (some i) }

/-- `removeRoleClientSession` -/
def removeRoleClientSession (guid : UInt64) (i : SessionId) : Call Unit :=
  withGuard .clientSessionMap (onGate fun g => Gate.removeRoleClientSession g guid i)

/-- `roleLeaveMap` -/
def roleLeaveMap (guid mapId : UInt64) : Call Unit := do
  let _ ← handleClientPackage .leaveMap guid mapId

/-- `getRoleLocation` of a session -/
def State.roleLocation (s : State) (i : SessionId) : UInt64 :=
  ((s.gate.sessions i).map (·.roleLocation)).getD 0

/-- What the clean functions do with the session they took out of the map. -/
def logoffSession (guid : UInt64) (i : SessionId) : Call Unit := do
  let s ← state
  roleLeaveMap guid (s.roleLocation i)
  onGate fun g => g.modify i fun cs => { cs with leftGame := true }
  putClientSession i

/-- The scope of `cleanRoleInfo` -/
def takeRole (guid : UInt64) : Call (Option SessionId) :=
  withGuard .clientSessionMap do
    let s ← state
    onGate fun g => g.eraseRole guid
    return s.gate.roleMap guid

/-- What the two clean functions do once the map has been searched. -/
def cleanFound (guid : UInt64) (found : Option SessionId) : Call Unit :=
  match found with
  | some i => logoffSession guid i
  | none => pure ()

/-- `cleanRoleInfo` -/
def cleanRoleInfo (guid : UInt64) : Call Unit := do
  let found ← takeRole guid
  cleanFound guid found

/-- `cleanRoleAndLogoff`: here the guard is held to the end. -/
def cleanRoleAndLogoff (role : UInt64) : Call Unit :=
  withGuard .clientSessionMap do
    let s ← state
    onGate fun g => g.eraseRole role
    cleanFound role (s.gate.roleMap role)

/-- `changeClientRoute` -/
def changeClientRoute (i : SessionId) (temp role : UInt64) : Call Unit := do
  onGate fun g => g.modify i fun cs => { cs with roleGuid := role }
  withGuard .clientSessionMap do
    onGate fun g => g.eraseRole temp
    let s ← state
    match s.gate.roleMap role with
    | some o => putClientSession o
    | none => onGate fun g => { g with roleMap := Function.update g.roleMap role (some i) }

/-- `notFindGS` -/
def notFindGS (guid : UInt64) : Call Unit := do
  let found ← getRoleClientSession guid
  match found with
  | some i => do
      onGate fun g => g.modify i fun cs => { cs with notFoundGS := true }
      putClientSession i
  | none => pure ()

/-- The rest of `clientEnterMap` where the session has the role -/
def enterRole (clientGuid role : UInt64) (i : SessionId) (info : AccountRoleInfo) : Call Unit := do
  let s ← state
  changeClientRoute i (((s.gate.sessions i).map (·.roleGuid)).getD 0) role
  onGate fun g => g.modify i fun cs =>
    { cs with lineNo := info.lineId, roleLocation := makeMapGuid info.mapId }
  let hr ← handleClientPackage .enterMap role (makeMapGuid info.mapId)
  if hr = -1 then notFindGS clientGuid
  else onGate fun g => g.modify i fun cs => { cs with enteredGame := true }

/-- `clientEnterMap` once the session is found, with its entry for the role -/
def enterWith (clientGuid role : UInt64) (i : SessionId) (info : Option AccountRoleInfo) :
    Call Unit :=
  match info with
  | some info => enterRole clientGuid role i info
  | none => putClientSession i

/-- `clientEnterMap` with `make_route` -/
def clientEnterMap (clientGuid role : UInt64) : Call Unit := do
  let found ← getRoleClientSession clientGuid
  match found with
  | none => pure ()
  | some i => do
      let s ← state
      enterWith clientGuid role i ((s.gate.sessions i).bind fun cs => cs.getAccountRoleInfo role)

/-- `handleEnterMap` -/
def handleEnterMap (guid role : UInt64) : Call Unit := do
  let found ← getRoleClientSession guid
  let s ← state
  if ((found.bind s.gate.sessions).map (·.canEnterGame)).getD false then do
    cleanRoleAndLogoff role
    clientEnterMap guid role
  else pure ()

/-- `roleLogoffSuccess` -/
def roleLogoffSuccess (guid : UInt64) : Call Unit := do
  let found ← getRoleClientSession guid
  let s ← state
  match found.bind s.gate.sessions with
  | none => pure ()
  | some cs =>
      if cs.enteredGame then do
        let _ ← handleClientPackage .enterMap guid cs.roleLocation
      else pure ()

/-- `ManageRoleGsState::leaveGameSuccess` -/
def leaveGameSuccess (guid : UInt64) : Call Unit := do
  withGuard .roleGsStateMap (onGs fun s => s.setRole guid none)
  roleLogoffSuccess guid

/-- `putOutputPackage` -/
def putOutputPackage (guid : UInt64) : Call Unit := do
  let found ← getRoleClientSession guid
  match found with
  | some _ => touch .outputList
  | none => pure ()

/-- `putInputPackage` -/
def putInputPackage (guid : UInt64) : Call Unit := do
  let found ← getRoleClientSession guid
  match found with
  | some _ => putInputPacket
  | none => pure ()

/-- `handleRolePackage` -/
def handleRolePackage (guid : UInt64) (fails : Bool) : Call Unit := do
  let found ← getRoleClientSession guid
  match found with
  | some _ => handleOutputStream fails
  | none => pure ()

/-! ## §4. Packets from the game servers. -/

/-- What `RouteGSPacket::putPackage` tells apart. -/
inductive GsMessage
  /-- `GCMSG_REGISTER`, for a zone or a transcript -/
  | register (mapId : UInt64) (gs : Nat)
  /-- `SMSG_CREATE_SELF` -/
  | createSelf (guid : UInt64)
  /-- `SMSG_PLAYER_JUMP_MAP` -/
  | jumpMap (guid : UInt64) (targetMapId : UInt32)
  /-- `SMSG_PLAYER_LEAVE_MAP` -/
  | leaveMap (guid : UInt64)
  /-- `SMSG_MEMBER_CHARGE_CONFIRM`, `SMSG_MEMBER_GIVE_GIFT` and the two that are only logged -/
  | member
  | other (guid : UInt64)
  deriving DecidableEq, Repr

/-- `registerGSMapID` -/
def registerGSMapID (mapId : UInt64) (gs : Nat) : Call Unit :=
  withGuard .gsSessionMap
    (onGs fun s => { s with gsSessions := Function.update s.gsSessions mapId (some gs) })

/-- `removeGSMapID` -/
def removeGSMapID (mapId : UInt64) : Call Unit :=
  withGuard .gsSessionMap
    (onGs fun s => { s with gsSessions := Function.update s.gsSessions mapId none })

/-- `handleRegisterMapID`: `existGS` takes no mutex. -/
def handleRegisterMapID (mapId : UInt64) (gs : Nat) : Call Unit := do
  let s ← state
  if (s.gs.gsSessions mapId).isSome then pure () else registerGSMapID mapId gs

/-- `RouteGSPacket::putPackage` -/
def putPackage (p : GsMessage) : Call Unit :=
  match p with
  | .register mapId gs => handleRegisterMapID mapId gs
  | .createSelf guid => do
      enterGameSuccess guid
      putOutputPackage guid
  | .jumpMap guid target => do
      jumpMapSuccess guid (makeMapGuid target)
      putOutputPackage guid
  | .leaveMap guid => do
      leaveGameSuccess guid
      putOutputPackage guid
  | .member => pure ()
  | .other guid => putOutputPackage guid

/-! ## §5. The loop of `RouteClientPackage::svc`. -/

/-- What `handleInputPackage` tells apart. -/
inductive ClientPacket
  /-- `CMSG_VALIATION_ACCOUNT`: whether the key is valid, and the account and address allowed -/
  | validation (guid : UInt64) (valid allowed fails : Bool)
  /-- `CMSG_PLAYER_MAKE` -/
  | playerMake (guid : UInt64)
  /-- `CMSG_PLAYER_ENTER_MAP` -/
  | enterMap (guid role : UInt64)
  /-- `CMSG_LOOPBACK` -/
  | loopback (guid : UInt64)
  /-- `CMSG_PLAYER_BEAT` -/
  | beat (guid : UInt64)
  /-- `CMSG_PLAYER_LEAVE_MAP` and the packets that report an error of the session -/
  | drop (guid : UInt64)
  /-- Packets for the role server, and what is thrown away -/
  | elsewhere
  /-- Any other, with the location that the packet carries -/
  | other (n : Nat) (guid location : UInt64)
  deriving DecidableEq, Repr

/-- `handleValidationAccountPacket` -/
def handleValidationAccountPacket (guid : UInt64) (valid allowed fails : Bool) : Call Unit := do
  let found ← getRoleClientSession guid
  match found with
  | none => pure ()
  | some i => do
      touch .clientAuth
      if valid then do
        touch .ipQuery
        if allowed then do
          touch .connectionTimeout
          -- `ClientStrategyCenter::clientAuthSuccess`
          touch .connectionTimeout
          touch .loginServerRegister
          touch .beatPut
        else putClientSession i
      else do
        -- `ClientStrategyCenter::clientAuthFailed`
        touch .connectionTimeout
        handleOutputStream fails
        putClientSession i

/-- `CMSG_LOOPBACK` -/
def loopbackOpcode : Nat := 1108

/-- The handlers that hand a session to the cooler -/
def dropSession (guid : UInt64) : Call Unit := do
  let found ← getRoleClientSession guid
  match found with
  | some i => putClientSession i
  | none => pure ()

/-- `handleInputPackage` -/
def handleInputPackage (p : ClientPacket) : Call Unit :=
  match p with
  | .validation guid valid allowed fails => handleValidationAccountPacket guid valid allowed fails
  | .playerMake guid => do
      let _ ← getRoleClientSession guid
  | .enterMap guid role => handleEnterMap guid role
  | .loopback guid => do
      let found ← getRoleClientSession guid
      let s ← state
      match found with
      | some i => do
          let _ ← handleClientPackage (.other loopbackOpcode) guid (s.roleLocation i)
      | none => pure ()
  | .beat guid => do
      let _ ← getRoleClientSession guid
  | .drop guid => dropSession guid
  | .elsewhere => pure ()
  | .other n guid location => do
      let hr ← handleClientPackage (.other n) guid location
      if hr = -1 then notFindGS guid else pure ()

/-- What `handleOutputPackage` tells apart. -/
inductive OutputPacket
  /-- `SMSG_PLAYER_MAKE` or `SMSG_REQUEST_PLAYER_LIST`, with the role that it offers -/
  | roleList (guid : UInt64) (info : Option AccountRoleInfo)
  /-- `SMSG_PLAYER_JUMP_MAP` -/
  | jumpMap (guid : UInt64) (mapId : UInt32)
  /-- `CMSG_LOOPBACK` and every packet that is only written -/
  | write (guid : UInt64)
  /-- `GMSG_PLAYER_KICK_OFF` -/
  | kickOff (guid : UInt64)
  /-- `SMSG_PLAYER_LEAVE_MAP` -/
  | leaveMap (guid : UInt64)
  deriving DecidableEq, Repr

/-- `GMSG_PLAYER_JUMP_MAP` -/
def jumpOpcode : Nat := 1063

/-- `handlePlayerJumpmap`: `getGSSession` takes no mutex here. -/
def handlePlayerJumpmap (guid : UInt64) (mapId : UInt32) (fails : Bool) : Call Unit := do
  let found ← getRoleClientSession guid
  let s ← state
  match s.gs.gsSessions (makeMapGuid mapId), found with
  | some gs, some i => do
      onGate fun g => g.modify i fun cs => { cs with roleLocation := makeMapGuid mapId }
      gsOutputStream gs (.other jumpOpcode) guid
      handleOutputStream fails
  | some gs, none => do
      gsOutputStream gs (.other jumpOpcode) guid
      gsOutputStream gs .leaveMap guid
  | none, _ => pure ()

/-- `handleOutputPackage` -/
def handleOutputPackage (p : OutputPacket) (fails : Bool) : Call Unit :=
  match p with
  | .roleList guid info => do
      let found ← getRoleClientSession guid
      match found with
      | some i => do
          onGate fun g => g.modify i fun cs =>
            let cs := { cs with hasRoleList := true }
            match info with
            | some info => cs.playerLineInfo info
            | none => cs
          handleOutputStream fails
      | none => pure ()
  | .jumpMap guid mapId => handlePlayerJumpmap guid mapId fails
  | .write guid => handleRolePackage guid fails
  | .kickOff guid => dropSession guid
  | .leaveMap _ => pure ()

/-- `handleWobbleStream`, with the guids whose write breaks -/
def handleWobbleStream : List (UInt64 × Bool) → Call Unit
  | [] => pure ()
  | (guid, fails) :: rest => do
      handleRolePackage guid fails
      handleWobbleStream rest

/-! ## §6. Calls from outside. -/

/-- The public functions of the three classes, and what opens and closes a client session. -/
inductive Act
  -- `ManageRoleGsState`
  | enterGame (guid mapId : UInt64)
  | canEnterGame (guid : UInt64)
  | enterGameSuccess (guid : UInt64)
  | leaveGame (guid : UInt64)
  | canLeaveGame (guid : UInt64)
  | leaveGameSuccess (guid : UInt64)
  | jumpMapSuccess (guid mapId : UInt64)
  | roleLogoff (guid : UInt64)
  | cleanUnnormalPlayer (guid : UInt64)
  | cleanAllPlayerStatus
  -- `RouteGSPacket`
  | putPackage (p : GsMessage)
  | handleClientPackage (opcode : Opcode) (guid mapId : UInt64)
  | registerGSMapID (mapId : UInt64) (gs : Nat)
  | removeGSMapID (mapId : UInt64)
  | assignGsThread
  | removeGsThread
  -- `RouteClientPackage`
  | putInputPackage (guid : UInt64)
  | putOutputPackage (guid : UInt64)
  | handleRolePackage (guid : UInt64) (fails : Bool)
  | collectRoleClientSession (guid : UInt64) (i : SessionId)
  | removeRoleClientSession (guid : UInt64) (i : SessionId)
  | collectThreadPacketStreamList
  | assignClientThread
  | getRoleClientSession (guid : UInt64)
  | cleanPlayerInfo (guid : UInt64)
  | roleLogoffSuccess (guid : UInt64)
  | inputPackage (p : ClientPacket)
  | outputPackage (p : OutputPacket) (fails : Bool)
  | wobbleStream (guids : List (UInt64 × Bool))
  -- `ClientSession`
  | openSession
  | closeSession (i : SessionId)
  deriving DecidableEq, Repr

/-- `ClientSession::open` -/
def openSession : Call Unit := do
  let s ← state
  let temp := ((s.gate.tempGuid + 1) % 0xFFFFFFF)
  onGate fun g => { g with
    sessions := Function.update g.sessions g.next (some { roleGuid := temp.toUInt64 })
    next := g.next + 1
    tempGuid := temp }
  collectRoleClientSession temp.toUInt64 s.gate.next
  touch .clientBelongThread

/-- `ClientSession::handle_close` -/
def closeSession (i : SessionId) : Call Unit := do
  let s ← state
  match s.gate.sessions i with
  | none => pure ()
  | some cs =>
      if ! cs.loginAgain then do
        if cs.enteredGame && ! cs.leftGame then
          roleLeaveMap (if cs.realRoleGuid ≠ 0 then cs.realRoleGuid else cs.roleGuid) cs.roleLocation
        removeRoleClientSession cs.roleGuid i
        touch .loginServerRegister
      else if cs.roleGuid < 0xFFFFFFFF then removeRoleClientSession cs.roleGuid i
      else pure ()

/-- The call, with its result thrown away. -/
def call : Act → Call Unit
  | .enterGame guid mapId => enterGame guid mapId
  | .canEnterGame guid => do let _ ← canEnterGame guid
  | .enterGameSuccess guid => enterGameSuccess guid
  | .leaveGame guid => leaveGame guid
  | .canLeaveGame guid => do let _ ← canLeaveGame guid
  | .leaveGameSuccess guid => leaveGameSuccess guid
  | .jumpMapSuccess guid mapId => jumpMapSuccess guid mapId
  | .roleLogoff guid => roleLogoff guid
  | .cleanUnnormalPlayer guid => cleanUnnormalPlayer guid
  | .cleanAllPlayerStatus => cleanAllPlayerStatus
  | .putPackage p => putPackage p
  | .handleClientPackage opcode guid mapId => do let _ ← handleClientPackage opcode guid mapId
  | .registerGSMapID mapId gs => registerGSMapID mapId gs
  | .removeGSMapID mapId => removeGSMapID mapId
  | .assignGsThread => touch .gsBelongThread
  | .removeGsThread => touch .gsBelongThread
  | .putInputPackage guid => putInputPackage guid
  | .putOutputPackage guid => putOutputPackage guid
  | .handleRolePackage guid fails => handleRolePackage guid fails
  | .collectRoleClientSession guid i => collectRoleClientSession guid i
  | .removeRoleClientSession guid i => removeRoleClientSession guid i
  | .collectThreadPacketStreamList => touch .clientThreadPacketList
  | .assignClientThread => touch .clientBelongThread
  | .getRoleClientSession guid => do let _ ← getRoleClientSession guid
  | .cleanPlayerInfo guid => cleanRoleInfo guid
  | .roleLogoffSuccess guid => roleLogoffSuccess guid
  | .inputPackage p => handleInputPackage p
  | .outputPackage p fails => handleOutputPackage p fails
  | .wobbleStream guids => handleWobbleStream guids
  | .openSession => openSession
  | .closeSession i => closeSession i

/-- One call after the other on a thread that holds nothing; there is no step where a call does
    not return. -/
def system : TransSys State Act where
  init s := s = init
  step s a := (call a [] s).map (·.2)

end Steppingstone.Chain
