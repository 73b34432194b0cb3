/-
  Steppingstone.RoleState.Model — `ManageRoleGsState` and `RouteGSPacket::handleClientPackage`.

  The gate keeps, for every role, how far it has come into a game server and out again, and asks it
  before an enter or a leave goes to the game server.  A call of `handleClientPackage` is one step.
  Whoever makes a packet (the client, the close of a session, a log-off for another session, the
  answer of a game server) makes it at any time.
-/
import Mathlib.Logic.Function.Basic
import Steppingstone.Gate.Model
import Steppingstone.Lib.TransSys

namespace Steppingstone.RoleState

/-! ## §1. Roles. -/

/-- `RoleGsState` -/
inductive RoleGsState
  | enterGame
  | enterGameSuccess
  | leaveGame
  | leaveGameSuccess
  deriving DecidableEq, Repr

/-- `RoleGsStateInfo` -/
structure RoleGsStateInfo where
  roleGsState : RoleGsState := .enterGame
  mapId : UInt64 := 0
  roleGuid : UInt64 := 0
  roleOffline : Bool := false
  deriving DecidableEq, Repr

/-- The opcodes that `handleClientPackage` tells apart. -/
inductive Opcode
  /-- `CMSG_PLAYER_ENTER_MAP` -/
  | enterMap
  /-- `CMSG_PLAYER_LEAVE_MAP` -/
  | leaveMap
  /-- any other, by its number -/
  | other (n : Nat)
  deriving DecidableEq, Repr

/-- A packet that was given to the session of a game server. -/
structure Forwarded where
  gsSession : Nat
  opcode : Opcode
  guid : UInt64
  deriving DecidableEq, Repr

/-- The roles and game servers that the gate knows. -/
structure State where
  /-- `m_role_gs_state_map` -/
  roles : UInt64 → Option RoleGsStateInfo
  /-- `m_gs_session_map_id_map`: map ids to game server sessions -/
  gsSessions : UInt64 → Option Nat
  /-- What was forwarded, the oldest first. -/
  forwarded : List Forwarded

/-- A gate that knows none. -/
def init : State where
  roles := fun _ => none
  gsSessions := fun _ => none
  forwarded := []

/-- Whether a thread may take an `ACE_Thread_Mutex` that it holds: it may on Windows, and hangs
    elsewhere. -/
structure Config where
  recursiveMutex : Bool := false

/-! ## §2. `ManageRoleGsState`. -/

/-- Writes the entry of a role. -/
def State.setRole (s : State) (guid : UInt64) (info : Option RoleGsStateInfo) : State :=
  { s with roles := Function.update s.roles guid info }

/-- A packet goes to a game server. -/
def State.forward (s : State) (gs : Nat) (opcode : Opcode) (guid : UInt64) : State :=
  { s with forwarded := s.forwarded ++ [⟨gs, opcode, guid⟩] }

/-- `canEnterGame` -/
def canEnterGame (s : State) (guid : UInt64) : Bool := (s.roles guid).isNone

/-- `canLeaveGame` -/
def canLeaveGame (s : State) (guid : UInt64) : Bool :=
  match s.roles guid with
  | none => false
  | some info => info.roleGsState = .enterGame || info.roleGsState = .enterGameSuccess

/-- `leaveGame`: a role that is still entering is only marked. -/
def leaveGame (s : State) (guid : UInt64) : State :=
  match s.roles guid with
  | none => s
  | some info =>
      match info.roleGsState with
      | .enterGame => s.setRole guid (some { info with roleOffline := true })
      | .enterGameSuccess => s.setRole guid (some { info with roleGsState := .leaveGame })
      | .leaveGame => s
      | .leaveGameSuccess => s

/-- `handleClientPackage` of a `CMSG_PLAYER_LEAVE_MAP`, with its result. -/
def handleLeaveMap (s : State) (guid mapId : UInt64) : State × Int :=
  match s.gsSessions mapId with
  | none => (s, -1)
  | some gs =>
      if canLeaveGame s guid then ((leaveGame s guid).forward gs .leaveMap guid, 0) else (s, 0)

/-- `ManageRoleGsState::sendLogoffMsg` -/
def sendLogoffMsg (s : State) (guid mapId : UInt64) : State := (handleLeaveMap s guid mapId).1

/-- `doLogoff`, called under the mutex; `none` where the thread waits for the mutex it holds. -/
def doLogoff (cfg : Config) (s : State) (info : RoleGsStateInfo) : Option State :=
  if ! info.roleOffline then some s
  else
    match info.roleGsState with
    | .enterGameSuccess =>
        -- `canLeaveGame` takes the mutex, if the game server is there at all
        if (s.gsSessions info.mapId).isSome && ! cfg.recursiveMutex then none
        else some (sendLogoffMsg s info.roleGuid info.mapId)
    | .enterGame => some s
    | .leaveGame => some s
    | .leaveGameSuccess => some s

/-- `enterGame`: a role that is in a game server already is logged off from it. -/
def enterGame (cfg : Config) (s : State) (guid mapId : UInt64) : Option State :=
  match s.roles guid with
  | none => some (s.setRole guid (some { mapId := mapId, roleGuid := guid }))
  | some info =>
      let info := { info with roleOffline := true }
      doLogoff cfg (s.setRole guid (some info)) info

/-- `RouteGSPacket::handleClientPackage`, with its result; `none` where the call never returns. -/
def handleClientPackage (cfg : Config) (s : State) (opcode : Opcode) (guid mapId : UInt64) :
    Option (State × Int) :=
  match opcode with
  | .enterMap =>
      match s.gsSessions mapId with
      | none => some (s, -1)
      | some gs =>
          if ! canEnterGame s guid then (enterGame cfg s guid mapId).map fun s => (s, 0)
          else (enterGame cfg s guid mapId).map fun s => (s.forward gs .enterMap guid, 0)
  | .leaveMap => some (handleLeaveMap s guid mapId)
  | .other n =>
      match s.gsSessions mapId with
      | none => some (s, -1)
      | some gs => some (s.forward gs (.other n) guid, 0)

/-- `enterGameSuccess`: the log-off that was put off is made up for. -/
def enterGameSuccess (s : State) (guid : UInt64) : State :=
  match s.roles guid with
  | none => s
  | some info =>
      if info.roleGsState = .enterGame then
        let s := s.setRole guid (some { info with roleGsState := .enterGameSuccess })
        if info.roleOffline then sendLogoffMsg s guid info.mapId else s
      else s

/-- `jumpMapSuccess` -/
def jumpMapSuccess (s : State) (guid mapId : UInt64) : State :=
  match s.roles guid with
  | none => s
  | some info => s.setRole guid (some { info with mapId := mapId })

/-- `leaveGameSuccess` with `roleLogoffSuccess`: the role is forgotten, and enters again for the
    client session under its guid, if that has entered the game; `client` is its location. -/
def leaveGameSuccess (cfg : Config) (s : State) (guid : UInt64) (client : Option UInt64) :
    Option State :=
  let s := s.setRole guid none
  match client with
  | none => some s
  | some location => (handleClientPackage cfg s .enterMap guid location).map (·.1)

/-! ## §3. Steps. -/

/-- The packets of clients and game servers. -/
inductive Act
  /-- A game server registers a map. -/
  | registerMap (mapId : UInt64) (gs : Nat)
  | removeMap (mapId : UInt64)
  /-- A packet for a role's game server, whoever makes it. -/
  | clientPackage (opcode : Opcode) (guid mapId : UInt64)
  /-- `SMSG_CREATE_SELF` -/
  | createSelf (guid : UInt64)
  /-- `SMSG_PLAYER_JUMP_MAP` -/
  | jumpMap (guid : UInt64) (targetMapId : UInt32)
  /-- `SMSG_PLAYER_LEAVE_MAP`, with the location of the client session under the guid, if that has
      entered the game. -/
  | playerLeaveMap (guid : UInt64) (client : Option UInt64)
  deriving DecidableEq, Repr

/-- One step; the acts from `createSelf` on are those of `RouteGSPacket::putPackage`. -/
def step (cfg : Config) (s : State) : Act → Option State
  | .registerMap mapId gs =>
      some { s with gsSessions := Function.update s.gsSessions mapId (some gs) }
  | .removeMap mapId => some { s with gsSessions := Function.update s.gsSessions mapId none }
  | .clientPackage opcode guid mapId => (handleClientPackage cfg s opcode guid mapId).map (·.1)
  | .createSelf guid => some (enterGameSuccess s guid)
  | .jumpMap guid target => some (jumpMapSuccess s guid (Gate.makeMapGuid target))
  | .playerLeaveMap guid client => leaveGameSuccess cfg s guid client

/-- The gate's part of every role's way into a game server and out of it. -/
def system (cfg : Config) : TransSys State Act where
  init s := s = init
  step := step cfg

end Steppingstone.RoleState
