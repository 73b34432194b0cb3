/-
  Steppingstone.Terminal.Route — the scene's packets on their way to the gates (`PlayerRoute.cpp`,
  and `processPacketRoute`, `addRoute`, `removeRoute` and `getTerminalByPointer` of
  `ManageGateTerminal.cpp`).

  The scene puts packets into one list.  Several threads take the whole list and a route index
  with it, look up the terminal of each packet, every thread in a table of its own, and give the
  result to a dispatcher under the index.  The dispatcher waits for one index after the other and
  hands the packets to their terminals.  A change of the routes goes through the tables one by one,
  under a mutex.
-/
import Mathlib.Tactic.Ring
import Steppingstone.Lib.TransSys
import Steppingstone.Lib.Tickets
import Steppingstone.Net.Packet

namespace Steppingstone.Terminal

/-! ## §1. Packets, terminals and routes. -/

/-- The address of a `Terminal`; `0` is `NULL`. -/
abbrev TerminalPtr := Nat

/-- The threads of `PlayerRoute`. -/
abbrev Thread := Nat

/-- A packet, with what `setOwner` stored in it. -/
structure Packet where
  content : Net.Content
  owner : TerminalPtr
  deriving DecidableEq, Repr

/-- The opcode of the packet. -/
def Packet.opcode (p : Packet) : UInt16 := p.content.opcode

/-- The guid of the packet. -/
def Packet.guid (p : Packet) : UInt64 := p.content.guid

/-- The packet after which a player's route is removed. -/
def SMSG_PLAYER_LEAVE_MAP : UInt16 := 1307

/-- A packet with the terminal it goes to. -/
structure PacketRouteInfo where
  packet : Packet
  terminal : TerminalPtr
  deriving DecidableEq, Repr

/-- `TerminalRoute::m_terminal_map` -/
abbrev TerminalMap := UInt64 → Option TerminalPtr

/-- `TerminalRoute::addRoute` -/
def TerminalMap.addRoute (m : TerminalMap) (guid : UInt64) (terminal : TerminalPtr) : TerminalMap :=
  if terminal = 0 then m else Function.update m guid (some terminal)

/-- `TerminalRoute::removeRoute` -/
def TerminalMap.removeRoute (m : TerminalMap) (guid : UInt64) : TerminalMap :=
  Function.update m guid none

/-- `ManageGateTerminal::getTerminalByPointer` -/
def getTerminalByPointer (terminalVec : List TerminalPtr) (terminal : TerminalPtr) :
    Option TerminalPtr :=
  terminalVec.find? (· = terminal)

/-- Where a packet goes: without a guid to its owner. -/
def findTerminal (terminalVec : List TerminalPtr) (m : TerminalMap) (p : Packet) :
    Option TerminalPtr :=
  if p.guid = 0 then getTerminalByPointer terminalVec p.owner else m p.guid

/-- `PlayerRouteDispatch::increaseNumber`, and `GateTerminal::increaseNumber` -/
def increaseNumber (src increaseNo : UInt32) : UInt32 := (src + increaseNo) % 0xFFFFFFFF

/-! ## §2. The state. -/

/-- A call of `addRoute` or `removeRoute`. -/
inductive RouteChange
  | add (guid : UInt64) (terminal : TerminalPtr)
  | remove (guid : UInt64)
  deriving DecidableEq, Repr

/-- What the change does to a table. -/
def RouteChange.apply : RouteChange → TerminalMap → TerminalMap
  | .add guid terminal, m => m.addRoute guid terminal
  | .remove guid, m => m.removeRoute guid

/-- What a thread has left of its list, and the queue it fills. -/
structure Work where
  packetVec : List Packet
  packetRouteInfo : List PacketRouteInfo
  deriving DecidableEq, Repr

/-- Where the dispatcher is with the packet in front: `removeRoute` comes before `outputPacket`. -/
inductive Leaving
  | notYet
  | removing
  | removed
  deriving DecidableEq, Repr

/-- The state of `PlayerRoute` and `PlayerRouteDispatch`, with the locals of their threads. -/
structure State where
  packetVec : List Packet := []
  terminalRouteQue : List Thread := []
  terminalMap : Thread → TerminalMap := fun _ _ => none
  /-- who holds `m_terminal_route_que_mutex`: the change, and the tables it has not reached -/
  changing : Option (RouteChange × List Thread) := none
  routing : Thread → Option (UInt32 × Work) := fun _ => none
  packetRouteIndex : UInt32 := 0
  packetRoutePos : UInt32 := 0
  packetRouteInfoMap : UInt32 → Option (List PacketRouteInfo) := fun _ => none
  dispatching : List PacketRouteInfo := []
  leaving : Leaving := .notYet
  /-- all that was put in, in the order of the calls of `input` -/
  arrived : List Packet := []
  /-- all that was handed to a terminal, in the order of the calls of `outputPacket` -/
  dispatched : List PacketRouteInfo := []
  /-- how many lists were taken, and how many the dispatcher took over -/
  taken : Nat := 0
  fetched : Nat := 0

/-! ## §3. The steps. -/

/-- What the callers and the threads of the routes do. -/
inductive Action
  /-- `PlayerRoute::input` -/
  | input (p : Packet)
  /-- `registerTerminalRoute`, at the start of a thread -/
  | register (t : Thread)
  /-- `ManageGateTerminal::addRoute` -/
  | addRoute (guid : UInt64) (terminal : TerminalPtr)
  /-- the change of routes reaches the next table -/
  | change
  /-- a thread takes the list -/
  | take (t : Thread)
  /-- a thread looks up the terminal of its next packet -/
  | route (t : Thread)
  /-- a thread gives its queue to the dispatcher -/
  | deliver (t : Thread)
  /-- the dispatcher takes the queue it waits for -/
  | fetch
  /-- the dispatcher removes the route of a player who leaves -/
  | removeRoute
  /-- the dispatcher hands a packet to its terminal -/
  | output
  deriving DecidableEq, Repr

/-- A change begins with all the registered tables before it; with none it is over at once. -/
def State.startChange (s : State) (c : RouteChange) : Option (RouteChange × List Thread) :=
  if s.terminalRouteQue.isEmpty then none else some (c, s.terminalRouteQue)

/-- The change in the next table.  With the last of them the mutex is free again. -/
def State.changeNext (s : State) : Option State :=
  match s.changing with
  | some (c, t :: ts) => some
      { s with
        terminalMap := Function.update s.terminalMap t (c.apply (s.terminalMap t))
        changing := if ts.isEmpty then none else some (c, ts)
        leaving := if ts.isEmpty ∧ s.leaving = .removing then .removed else s.leaving }
  | _ => none

/-- The thread takes the list, and a route index if there is anything in it. -/
def State.takeVec (s : State) (t : Thread) : Option State :=
  if t ∈ s.terminalRouteQue ∧ s.routing t = none ∧ s.packetVec ≠ [] then some
    { s with
      packetVec := []
      packetRouteIndex := increaseNumber s.packetRouteIndex 1
      routing := Function.update s.routing t
        (some (s.packetRouteIndex, { packetVec := s.packetVec, packetRouteInfo := [] }))
      taken := s.taken + 1 }
  else none

/-- One round of the loop over the list. -/
def Work.route (terminal : Option TerminalPtr) (p : Packet) (rest : List Packet) (w : Work) :
    Work where
  packetVec := rest
  packetRouteInfo := match terminal with
    | some ter => w.packetRouteInfo ++ [{ packet := p, terminal := ter }]
    | none => w.packetRouteInfo

/-- A thread routes the next packet of its list. -/
def State.routeNext (terminalVec : List TerminalPtr) (s : State) (t : Thread) : Option State :=
  match s.routing t with
  | some (index, w) =>
      match w.packetVec with
      | p :: rest => some
          { s with
            routing := Function.update s.routing t (some
              (index, w.route (findTerminal terminalVec (s.terminalMap t) p) p rest)) }
      | [] => none
  | none => none

/-- `PlayerRouteDispatch::processPacketRoute`: `insert` keeps what is there. -/
def State.deliver (s : State) (t : Thread) : Option State :=
  match s.routing t with
  | some (index, w) =>
      if w.packetVec = [] then some
        { s with
          routing := Function.update s.routing t none
          packetRouteInfoMap := Tickets.insertNew s.packetRouteInfoMap index w.packetRouteInfo }
      else none
  | none => none

/-- `PlayerRouteDispatch::svc` takes a queue when it is done with the one before. -/
def State.fetch (s : State) : Option State :=
  if s.dispatching = [] then
    match s.packetRouteInfoMap s.packetRoutePos with
    | some q => some
        { s with
          packetRouteInfoMap := Function.update s.packetRouteInfoMap s.packetRoutePos none
          packetRoutePos := increaseNumber s.packetRoutePos 1
          dispatching := q
          fetched := s.fetched + 1 }
    | none => none
  else none

/-- The route of a player who has left begins to be removed. -/
def State.startRemove (s : State) : Option State :=
  match s.dispatching with
  | i :: _ =>
      if i.packet.opcode = SMSG_PLAYER_LEAVE_MAP ∧ s.leaving = .notYet ∧ s.changing = none then some
        { s with
          changing := s.startChange (.remove i.packet.guid)
          leaving := if s.terminalRouteQue.isEmpty then .removed else .removing }
      else none
  | [] => none

/-- `ManageGateTerminal::processPacketRoute`, the next packet of the queue -/
def State.outputNext (s : State) : Option State :=
  match s.dispatching with
  | i :: rest =>
      if i.packet.opcode = SMSG_PLAYER_LEAVE_MAP → s.leaving = .removed then some
        { s with
          dispatching := rest
          leaving := .notYet
          dispatched := s.dispatched ++ [i] }
      else none
  | [] => none

/-- One action, where it can happen. -/
def step (terminalVec : List TerminalPtr) (s : State) : Action → Option State
  | .input p => some { s with packetVec := s.packetVec ++ [p], arrived := s.arrived ++ [p] }
  | .register t =>
      if s.changing = none ∧ t ∉ s.terminalRouteQue then
        some { s with terminalRouteQue := s.terminalRouteQue ++ [t] }
      else none
  | .addRoute guid terminal =>
      if s.changing = none then some { s with changing := s.startChange (.add guid terminal) }
      else none
  | .change => s.changeNext
  | .take t => s.takeVec t
  | .route t => s.routeNext terminalVec t
  | .deliver t => s.deliver t
  | .fetch => s.fetch
  | .removeRoute => s.startRemove
  | .output => s.outputNext

/-- `PlayerRoute` over the terminals of `m_terminal_vec` -/
def system (terminalVec : List TerminalPtr) : TransSys State Action where
  init := fun s => s = {}
  step := step terminalVec

end Steppingstone.Terminal
