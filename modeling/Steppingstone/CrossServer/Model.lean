/-
  Steppingstone.CrossServer.Model — the cross server and the lines that are connected to it.

  Models `CrossServerSessionPool` and `ManageCrossServer`: the table of sessions and the table of
  online servers, each under its mutex, and three threads.  One reads the packets of the sessions,
  one reports sessions that were closed, and one broadcasts.  The second takes the mutex of the
  online table while it holds that of the sessions; the third takes them the other way round.

  The code's maps go by key, the tables here by the order of insertion.  The close walks the session
  table for an entry of its session, and a session that names one server has one; the broadcast goes
  over all servers, and the order of its packets to different lines is left open by the sockets.
-/
import Mathlib.Logic.Function.Basic
import Steppingstone.Lib.TransSys
import Steppingstone.Net.Packet

namespace Steppingstone.CrossServer

open Net (Content)

/-! ## §1. Servers and sessions. -/

/-- A `Session *`. -/
abbrev SessionId := Nat

/-- A line as it names itself. -/
structure Server where
  platform : List Char
  lineId : List Char
  deriving DecidableEq, Repr

/-- `platform + line_id`, the key of both tables. -/
def Server.key (v : Server) : List Char := v.platform ++ v.lineId

/-- `CrossSessionInfo` -/
structure CrossSessionInfo where
  session : SessionId
  server : Server
  validated : Bool
  deriving DecidableEq, Repr

/-- A packet; the two that the cross server reads itself with what `parsePacket` makes of them. -/
inductive Msg where
  | register (server : Option Server)
  | disconnect (server : Option Server)
  | other (c : Content)
  deriving DecidableEq, Repr

/-- A table with one entry for each key, in the order of insertion. -/
abbrev Table (α : Type) := List (List Char × α)

/-- `find` of a map. -/
def Table.find {α : Type} (t : Table α) (key : List Char) : Option α :=
  (t.find? (·.1 = key)).map (·.2)

/-- `erase` of a map. -/
def Table.erase {α : Type} (t : Table α) (key : List Char) : Table α := t.filter (·.1 ≠ key)

/-- `insert` of a map: what is there stays. -/
def Table.insert {α : Type} (t : Table α) (key : List Char) (a : α) : Table α :=
  if (t.find key).isSome then t else t ++ [(key, a)]

/-! ## §2. The threads. -/

/-- How far the packet that is being read has come in `ISessionPoolEvent_handleInputStream`. -/
inductive Phase where
  | received
  | registered
  | validated
  deriving DecidableEq, Repr

/-- The entry that `ISessionPoolEvent_connectionClosed` found; it holds
`m_cross_session_info_map_mutex`. -/
structure Closing where
  session : SessionId
  key : List Char
  server : Server
  deriving DecidableEq, Repr

/-- `broadLineServerMsg` and the servers that are left; it holds `m_online_server_info_map_mutex`. -/
structure Broadcast where
  packet : Content
  servers : List Server
  deriving DecidableEq, Repr

/-- `CrossServerSessionPool` and `ManageCrossServer`, with what their three threads are at. -/
structure State where
  /-- `m_cross_session_info_map` -/
  sessionInfo : Table CrossSessionInfo := []
  /-- `m_validated_session_set` -/
  validated : SessionId → Bool := fun _ => false
  /-- `m_online_server_info_map` -/
  online : Table Server := []
  input : Option (SessionId × Msg × Phase) := none
  closing : Option Closing := none
  broadcasting : Option Broadcast := none
  /-- `m_output_packet_que`, each packet with its owner. -/
  outputs : List (Option SessionId × Content) := []
  /-- What `m_line->input` got. -/
  lineInput : List Msg := []
  /-- Ghost: the sessions whose end was reported, or is being reported. -/
  closed : SessionId → Bool := fun _ => false

namespace State

variable (s : State)

/-- `CrossServerSessionPool::getSession` -/
def getSession (platform lineId : List Char) : Option SessionId :=
  (s.sessionInfo.find (platform ++ lineId)).map (·.session)

/-- `ManageCrossServer::isOnline` -/
def isOnline (platform lineId : List Char) : Bool := (s.online.find (platform ++ lineId)).isSome

/-- `collectServerRegisterInfo` -/
def collectServerRegisterInfo (session : SessionId) (server : Server) : State :=
  { s with
    sessionInfo := (s.sessionInfo.erase server.key).insert server.key
      { session, server, validated := true }
    validated := Function.update s.validated session true }

/-- `handleCrossServerRegister` of the pool; `checkServerValidatedInfo` lets every server in. -/
def poolRegister (session : SessionId) : Msg → State
  | .register (some server) => s.collectServerRegisterInfo session server
  | _ => s

/-- `crossServerInput`, with `collectOnlineServer` and `removeOnlineServer`. -/
def crossServerInput (m : Msg) : State :=
  let online := match m with
    | .register (some server) => s.online.insert server.key server
    | .disconnect (some server) => s.online.erase server.key
    | _ => s.online
  { s with online, lineInput := s.lineInput ++ [m] }

/-- `m_cross_session_info_map_mutex` -/
def PoolFree : Prop := s.closing = none

/-- `m_online_server_info_map_mutex` -/
def OnlineFree : Prop := s.broadcasting = none

instance : Decidable s.PoolFree := inferInstanceAs (Decidable (_ = _))

instance : Decidable s.OnlineFree := inferInstanceAs (Decidable (_ = _))

end State

/-- `collectServerRegisterInfo` takes the mutex of the sessions. -/
def Msg.TakesPool : Msg → Prop
  | .register server => server ≠ none
  | _ => False

instance (m : Msg) : Decidable m.TakesPool := by
  cases m <;> simp only [Msg.TakesPool] <;> infer_instance

/-- `crossServerInput` takes the mutex of the online table. -/
def Msg.TakesOnline : Msg → Prop
  | .register server => server ≠ none
  | .disconnect server => server ≠ none
  | .other _ => False

instance (m : Msg) : Decidable m.TakesOnline := by
  cases m <;> simp only [Msg.TakesOnline] <;> infer_instance

/-- What the threads and the lines do. -/
inductive Action where
  | receive (session : SessionId) (m : Msg)
  | poolRegister
  | validate
  | lineInput
  | close (session : SessionId)
  | reportClosed
  | broadcast (packet : Content)
  | broadcastNext
  | broadcastEnd
  deriving DecidableEq, Repr

/-- One step of one of the threads, where the mutexes it needs are free. -/
def step (s : State) : Action → Option State
  | .receive session m =>
      if s.input = none then some { s with input := some (session, m, .received) } else none
  | .poolRegister =>
      match s.input with
      | some (session, m, .received) =>
          if m.TakesPool → s.PoolFree then
            some { s.poolRegister session m with input := some (session, m, .registered) }
          else none
      | _ => none
  | .validate =>
      match s.input with
      | some (session, m, .registered) =>
          if s.PoolFree then some
            { s with
              input := if s.validated session then some (session, m, .validated) else none }
          else none
      | _ => none
  | .lineInput =>
      match s.input with
      | some (_, m, .validated) =>
          if m.TakesOnline → s.OnlineFree then some { s.crossServerInput m with input := none }
          else none
      | _ => none
  | .close session =>
      if s.PoolFree ∧ s.closed session = false then
        match s.sessionInfo.find? (·.2.session = session) with
        | some (key, info) => some
            { s with
              closing := some { session, key, server := info.server }
              closed := Function.update s.closed session true }
        | none => some
            { s with
              validated := Function.update s.validated session false
              closed := Function.update s.closed session true }
      else none
  | .reportClosed =>
      match s.closing with
      | some c =>
          if s.OnlineFree then
            let s := s.crossServerInput (.disconnect (some c.server))
            some
              { s with
                sessionInfo := s.sessionInfo.erase c.key
                validated := Function.update s.validated c.session false
                closing := none }
          else none
      | none => none
  | .broadcast packet =>
      if s.OnlineFree then
        some { s with broadcasting := some { packet, servers := s.online.map (·.2) } }
      else none
  | .broadcastNext =>
      match s.broadcasting with
      | some ⟨packet, server :: servers⟩ =>
          if s.PoolFree then some
            { s with
              broadcasting := some { packet, servers }
              outputs := s.outputs ++ [(s.getSession server.platform server.lineId, packet)] }
          else none
      | _ => none
  | .broadcastEnd =>
      match s.broadcasting with
      | some ⟨_, []⟩ => some { s with broadcasting := none }
      | _ => none

/-- The cross server, before any line is connected. -/
def system : TransSys State Action where
  init := fun s => s = {}
  step := step

/-! ## §3. What a message leaves alone. -/

variable {s : State}

theorem poolRegister_of_not_takesPool {m : Msg} (h : ¬ m.TakesPool) (session : SessionId) :
    s.poolRegister session m = s := by
  cases m with
  | register server =>
      obtain rfl := Classical.not_not.mp h
      rfl
  | disconnect server => rfl
  | other c => rfl

theorem crossServerInput_online {m : Msg} (h : ¬ m.TakesOnline) :
    (s.crossServerInput m).online = s.online := by
  cases m with
  | register server =>
      obtain rfl := Classical.not_not.mp h
      rfl
  | disconnect server =>
      obtain rfl := Classical.not_not.mp h
      rfl
  | other c => rfl

end Steppingstone.CrossServer
