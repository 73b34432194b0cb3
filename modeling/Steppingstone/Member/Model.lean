/-
  Steppingstone.Member.Model — `ManageMemberSession`, its output and its cooler.

  A member session is an object of which the threads of the member system hold the address.  A reply
  carries only the index of its request, which the member chose; the route map turns it back into an
  address.  The cooler deletes the sessions that were lost, and a later session may be created at
  the same address.

  The register thread, the reactor, the gate thread, the output thread and the cooler take their
  steps in any order.
-/
import Mathlib.Logic.Function.Basic
import Steppingstone.Lib.TransSys

namespace Steppingstone.Member

/-! ## §1. Sessions. -/

/-- The address of a `MemberSession`. -/
abbrev Address := UInt64

/-- A request with its `request_index`; the first field is the number of the session that issued
    it, which the code does not keep. -/
structure Request where
  session : Nat
  index : UInt64
  deriving DecidableEq, Repr

/-- The opcodes that `input` tells apart. -/
inductive Opcode
  | memberLogin
  | memberCharge
  | queryRole
  | queryOnlineNumber
  | memberGiveGift
  | queryRegisterPlayers
  | queryDailyTopPlayers
  | queryDailyAveragePlayer
  deriving DecidableEq, Repr

/-- `CoolerInfo` -/
structure CoolerInfo where
  memberSession : Address
  closeTime : UInt64
  deriving DecidableEq, Repr

/-- What a `processWrite` did: the session its pointer led to, `none` for a deleted one, and
    whether that was connected. -/
structure Written where
  request : Request
  target : Option Nat
  connected : Bool
  deriving DecidableEq, Repr

/-- The member server between its clients and the gates. -/
structure State where
  /-- The sessions in memory: the number of the one at an address. -/
  sessions : Address → Option Nat
  /-- The sessions that have not been lost. -/
  connected : Nat → Bool
  /-- The number of the next session. -/
  next : Nat
  /-- `m_member_session_route` -/
  route : UInt64 → Option Address
  /-- The requests that were passed on to the gate and are not answered yet. -/
  atGate : List Request
  /-- `m_output_packet_vec`, with the copy the thread works on: the replies, each with the request
      it answers, whose index is its owner. -/
  outputPacketVec : List Request
  /-- The reply and the session between `getMemberByRoute` and `processWrite`. -/
  writing : Option (Request × Address)
  /-- What was written, the oldest first. -/
  written : List Written
  /-- `m_lost_connection_set` -/
  lostConnectionSet : List Address
  /-- The `lost_connection_set` of `svc`. -/
  cleaning : List Address
  /-- `curr_time` of `svc`, in microseconds. -/
  currTime : UInt64
  /-- `m_cleaned_connection_que` -/
  cleanedConnectionQue : List CoolerInfo

/-- A server that has just started. -/
def init : State where
  sessions := fun _ => none
  connected := fun _ => false
  next := 0
  route := fun _ => none
  atGate := []
  outputPacketVec := []
  writing := none
  written := []
  lostConnectionSet := []
  cleaning := []
  currTime := 0
  cleanedConnectionQue := []

/-! ## §2. The route map and the output. -/

/-- `addMemberRoute`: an index that is there already keeps its session. -/
def addMemberRoute (s : State) (requestIndex : UInt64) (memberSession : Address) : State :=
  match s.route requestIndex with
  | some _ => s
  | none => { s with route := Function.update s.route requestIndex (some memberSession) }

/-- `getMemberByRoute`, which takes the route out. -/
def getMemberByRoute (s : State) (requestIndex : UInt64) : Option Address × State :=
  match s.route requestIndex with
  | some a => (some a, { s with route := Function.update s.route requestIndex none })
  | none => (none, s)

/-- `handleOutputPacket` -/
def handleOutputPacket (s : State) (reply : Request) : State :=
  { s with outputPacketVec := s.outputPacketVec ++ [reply] }

/-- `ManageGateSession::handleOutputStream` of a request. -/
def handleOutputStream (s : State) (request : Request) : State :=
  { s with atGate := s.atGate ++ [request] }

/-- `ManageMemberSessionOutput::processPacket` up to `processWrite`. -/
def processPacket (s : State) (reply : Request) : State :=
  match getMemberByRoute s reply.index with
  | (some a, s) => { s with writing := some (reply, a) }
  -- the reply is deleted
  | (none, s) => s

/-- `processWrite` through a pointer, whatever it leads to. -/
def processWrite (s : State) (reply : Request) (memberSession : Address) : State :=
  { s with
    writing := none
    written := s.written ++ [{
      request := reply
      target := s.sessions memberSession
      connected := ((s.sessions memberSession).map s.connected).getD false }] }

/-! ## §3. `ManageMemberSession`. -/

/-- `sendRegisterRespond`: the address of a session is the index of this reply. -/
def sendRegisterRespond (s : State) (memberSession : Address) (i : Nat) : State :=
  handleOutputPacket (addMemberRoute s memberSession memberSession) ⟨i, memberSession⟩

/-- `handleMemberSession` of a new object at the address. -/
def handleMemberSession (s : State) (memberSession : Address) : State :=
  sendRegisterRespond
    { s with
      sessions := Function.update s.sessions memberSession (some s.next)
      connected := Function.update s.connected s.next true
      next := s.next + 1 }
    memberSession s.next

/-- The requests that the gate answers. -/
def Opcode.isForGate : Opcode → Bool
  | .memberLogin => true
  | .memberCharge => true
  | .memberGiveGift => true
  | .queryRole => false
  | .queryOnlineNumber => false
  | .queryRegisterPlayers => false
  | .queryDailyTopPlayers => false
  | .queryDailyAveragePlayer => false

/-- `input`: every handler adds the route first and then passes the request on or answers it. -/
def input (s : State) (opcode : Opcode) (memberSession : Address) (request : Request) : State :=
  let s := addMemberRoute s request.index memberSession
  if opcode.isForGate then handleOutputStream s request else handleOutputPacket s request

/-! ## §4. `ManageMemberSessionCooler`. -/

/-- `lostConnection`, into a set. -/
def lostConnection (s : State) (memberSession : Address) : State :=
  if memberSession ∈ s.lostConnectionSet then s
  else { s with lostConnectionSet := s.lostConnectionSet ++ [memberSession] }

/-- The first part of the loop of `svc`: the set is taken over. -/
def takeLost (s : State) (now : UInt64) : State :=
  { s with lostConnectionSet := [], cleaning := s.lostConnectionSet, currTime := now }

/-- `cleanMemberSession`, which closes the session and leaves its routes. -/
def cleanMemberSession (s : State) (memberSession : Address) : State :=
  { s with
    cleaning := s.cleaning.erase memberSession
    cleanedConnectionQue := s.cleanedConnectionQue ++ [⟨memberSession, s.currTime⟩] }

/-- The test of the last part of the loop, on the difference in microseconds. -/
def isCold (s : State) (info : CoolerInfo) : Bool := 15 ≤ s.currTime - info.closeTime

/-- The deletion of a `CoolerInfo` with its session. -/
def deleteCoolerInfo (s : State) (info : CoolerInfo) : State :=
  { s with sessions := Function.update s.sessions info.memberSession none }

/-! ## §5. Steps. -/

/-- What the clients, the gates and the pool's threads do. -/
inductive Act
  /-- A member has registered; its object is at an address that was free. -/
  | register (a : Address)
  /-- A request arrives on the session at the address. -/
  | request (a : Address) (opcode : Opcode) (requestIndex : UInt32)
  /-- The gate answers a request. -/
  | gateReply (r : Request)
  /-- A request is lost with a connection to the gate. -/
  | gateLost (r : Request)
  /-- The output thread takes the next reply and looks up its session. -/
  | processPacket
  /-- The output thread writes to that session. -/
  | processWrite
  /-- The reactor finds the session at the address disconnected. -/
  | disconnect (a : Address)
  | takeLost (now : UInt64)
  | clean (a : Address)
  | delete
  deriving DecidableEq, Repr

/-- The session at the address, if it is connected. -/
def State.reading (s : State) (a : Address) : Option Nat :=
  match s.sessions a with
  | some i => if s.connected i then some i else none
  | none => none

/-- The cooler has gone through its queue. -/
def State.isDone (s : State) : Bool :=
  match s.cleanedConnectionQue with
  | [] => true
  | info :: _ => ! isCold s info

/-- One act, where it can happen. -/
def step (s : State) : Act → Option State
  | .register a => if (s.sessions a).isNone then some (handleMemberSession s a) else none
  | .request a opcode requestIndex =>
      (s.reading a).map fun i => input s opcode a ⟨i, requestIndex.toUInt64⟩
  | .gateReply r =>
      if r ∈ s.atGate then
        some (handleOutputPacket { s with atGate := s.atGate.erase r } r)
      else none
  | .gateLost r => if r ∈ s.atGate then some { s with atGate := s.atGate.erase r } else none
  | .processPacket =>
      match s.writing, s.outputPacketVec with
      | none, r :: rest => some (processPacket { s with outputPacketVec := rest } r)
      | _, _ => none
  | .processWrite => s.writing.map fun w => processWrite s w.1 w.2
  | .disconnect a =>
      (s.reading a).map fun i =>
        lostConnection { s with connected := Function.update s.connected i false } a
  | .takeLost now => if s.cleaning.isEmpty && s.isDone then some (takeLost s now) else none
  | .clean a => if a ∈ s.cleaning then some (cleanMemberSession s a) else none
  | .delete =>
      match s.cleaning, s.cleanedConnectionQue with
      | [], info :: rest =>
          if isCold s info then
            some (deleteCoolerInfo { s with cleanedConnectionQue := rest } info)
          else none
      | _, _ => none

/-- The threads of the member system, its members and its gate. -/
def system : TransSys State Act where
  init s := s = init
  step := step

end Steppingstone.Member
