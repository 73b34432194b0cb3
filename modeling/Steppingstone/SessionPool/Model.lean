/-
  Steppingstone.SessionPool.Model — the session pool of netstream and the containers that hold its
  sessions.

  Modelled: `onSessionOpenNotify`, `onSessionCloseNotify` and `ISessionPool_connect` of
  `SessionPoolImp`, the maps of the input and the output pool, and the sets of the output threads
  with the loop that works them off.  Open and close notifications run under one mutex
  (`ManageNetEventNotify`), so each is a step.  Sessions are numbered as they are made.
-/
import Steppingstone.Lib.TransSys
import Mathlib.Logic.Function.Basic

namespace Steppingstone.SessionPool

/-! ## §1. The pool. -/

/-- Sessions are numbered as they are made. -/
abbrev SessionId := Nat

/-- The trigger of a close notification: `READ_MASK` or `WRITE_MASK`. -/
inductive Side
  | read | write
  deriving DecidableEq, Repr

/-- `SessionStatus` -/
structure SessionStatus where
  refNo : Int := 2
  closedRead : Bool := false
  closedWrite : Bool := false
  deriving DecidableEq, Repr

/-- `OutputSessionThreadInfo`, with the `cell_session_set` of the thread's loop. -/
structure OutputThread where
  addSet : List SessionId := []
  writeSet : List SessionId := []
  removeSet : List SessionId := []
  active : List SessionId := []
  deriving DecidableEq, Repr

/-- The maps of the pools, and what is on its way between their threads. -/
structure Pool where
  /-- `m_session_info_map` -/
  infoMap : SessionId → Option SessionStatus
  /-- `m_cell_session_map` of the input pool: the thread of each session -/
  inputMap : SessionId → Option Nat
  /-- `m_cell_session_map` of the output pool -/
  outputMap : SessionId → Option Nat
  inputIndex : Nat
  outputIndex : Nat
  inputThreads : Nat
  outputThreads : Nat
  threads : Nat → OutputThread
  next : SessionId
  /-- The sessions that `ISessionPool_connect` made. -/
  connected : List SessionId
  /-- `ISessionPoolEvent_newConnection`, with `isClientSide` -/
  newConnections : List (SessionId × Bool)
  /-- `ISessionPoolEvent_connectionClosed` -/
  connectionClosed : List (SessionId × Side)
  deleted : List SessionId
  /-- Ghost: the close notifications of sessions that had been opened. -/
  noticed : List (SessionId × Side)

/-- A pool with its threads running. -/
def init (inputThreads outputThreads : Nat) : Pool where
  infoMap := fun _ => none
  inputMap := fun _ => none
  outputMap := fun _ => none
  inputIndex := 0
  outputIndex := 0
  inputThreads := inputThreads
  outputThreads := outputThreads
  threads := fun _ => {}
  next := 0
  connected := []
  newConnections := []
  connectionClosed := []
  deleted := []
  noticed := []

/-- Inserting into a set. -/
def insertSession (x : SessionId) (l : List SessionId) : List SessionId :=
  if x ∈ l then l else l ++ [x]

/-- Changes the sets of one output thread. -/
def Pool.setThread (s : Pool) (t : Nat) (thread : OutputThread) : Pool :=
  { s with threads := Function.update s.threads t thread }

/-! ## §2. The input and the output pool. -/

/-- `InputSessionPool::handleSession` -/
def inputHandleSession (s : Pool) (x : SessionId) : Pool :=
  if s.inputThreads = 0 then s
  else
    { s with
      inputMap := Function.update s.inputMap x (some (s.inputIndex % s.inputThreads))
      inputIndex := s.inputIndex + 1 }

/-- `InputSessionPool::removeSession` -/
def inputRemoveSession (s : Pool) (x : SessionId) : Pool :=
  { s with inputMap := Function.update s.inputMap x none }

/-- `OutputSessionPool::handleSession` -/
def outputHandleSession (s : Pool) (x : SessionId) : Pool :=
  if s.outputThreads = 0 then s
  else
    let t := s.outputIndex % s.outputThreads
    let thread := s.threads t
    { s.setThread t { thread with addSet := insertSession x thread.addSet } with
      outputMap := Function.update s.outputMap x (some t)
      outputIndex := s.outputIndex + 1 }

/-- `OutputSessionPool::removeSession` -/
def outputRemoveSession (s : Pool) (x : SessionId) : Pool :=
  match s.outputMap x with
  | some t =>
      let thread := s.threads t
      { s.setThread t { thread with removeSet := insertSession x thread.removeSet } with
        outputMap := Function.update s.outputMap x none }
  | none => s

/-- `OutputSessionPool::handleOutputStream` -/
def handleOutputStream (s : Pool) (x : SessionId) : Pool :=
  match s.outputMap x with
  | some t =>
      let thread := s.threads t
      s.setThread t { thread with writeSet := insertSession x thread.writeSet }
  | none => s

/-! ## §3. Opening and closing. -/

/-- `onSessionOpenNotify`: an accepted session. -/
def onSessionOpenNotify (s : Pool) (x : SessionId) : Pool :=
  let s := { s with newConnections := s.newConnections ++ [(x, false)] }
  let s := { s with
    infoMap := if s.infoMap x = none then Function.update s.infoMap x (some {}) else s.infoMap }
  outputHandleSession (inputHandleSession s x) x

/-- `ISessionPool_connect`: the session's reactor is not one of the pool's, so its own open
    notification leads nowhere. -/
def sessionConnect (s : Pool) (x : SessionId) : Pool :=
  let s := outputHandleSession (inputHandleSession s x) x
  { s with
    newConnections := s.newConnections ++ [(x, true)]
    connected := s.connected ++ [x] }

/-- The side is noted, the count goes down. -/
def SessionStatus.close (st : SessionStatus) : Side → SessionStatus
  | .read => { st with closedRead := true, refNo := st.refNo - 1 }
  | .write => { st with closedWrite := true, refNo := st.refNo - 1 }

/-- The side of the session is closed. -/
def SessionStatus.closed (st : SessionStatus) : Side → Bool
  | .read => st.closedRead
  | .write => st.closedWrite

/-- `onSessionCloseNotify` -/
def onSessionCloseNotify (s : Pool) (x : SessionId) (side : Side) : Pool :=
  match s.infoMap x with
  | none => s
  | some st =>
      if st.closed side then s
      else
        let st := st.close side
        let s := { s with infoMap := Function.update s.infoMap x (some st) }
        if st.refNo = 1 then
          let s := { s with connectionClosed := s.connectionClosed ++ [(x, side)] }
          match side with
          | .read => outputRemoveSession s x
          | .write => inputRemoveSession s x
        else if st.refNo = 0 then
          { s with
            deleted := s.deleted ++ [x]
            infoMap := Function.update s.infoMap x none }
        else s

/-- A close notification arrives. -/
def notify (s : Pool) (x : SessionId) (side : Side) : Pool :=
  let s := if x < s.next then { s with noticed := s.noticed ++ [(x, side)] } else s
  onSessionCloseNotify s x side

/-! ## §4. Steps. -/

/-- What the acceptor, the callers and the threads do. -/
inductive Act
  /-- The acceptor opens a session. -/
  | accept
  /-- `ISessionPool_connect` -/
  | connect
  /-- A close notification, from wherever. -/
  | notify (x : SessionId) (side : Side)
  /-- `ISessionPool_removeSession` -/
  | remove (x : SessionId)
  /-- `ISessionPool_asyncWrite` -/
  | write (x : SessionId)
  /-- Output thread `t` works off an entry of its remove set. -/
  | letGo (t : Nat) (x : SessionId)
  /-- Output thread `t` takes its new sessions in. -/
  | takeIn (t : Nat)
  /-- A write of output thread `t` fails. -/
  | writeError (t : Nat) (x : SessionId)
  deriving DecidableEq, Repr

/-- One act, where it can happen. -/
def step (s : Pool) : Act → Option Pool
  | .accept => some (onSessionOpenNotify { s with next := s.next + 1 } s.next)
  | .connect => some (sessionConnect { s with next := s.next + 1 } s.next)
  | .notify x side => some (notify s x side)
  | .remove x => some (outputRemoveSession s x)
  | .write x => some (handleOutputStream s x)
  | .letGo t x =>
      let thread := s.threads t
      if x ∈ thread.removeSet then
        let thread := { thread with removeSet := thread.removeSet.filter (· ≠ x) }
        if x ∈ thread.active then
          let thread := { thread with active := thread.active.filter (· ≠ x) }
          some (notify (s.setThread t thread) x .write)
        else some (s.setThread t thread)
      else none
  | .takeIn t =>
      let thread := s.threads t
      some (s.setThread t { thread with
        active := thread.addSet.foldl (fun l x => insertSession x l) thread.active
        addSet := [] })
  | .writeError t x =>
      let thread := s.threads t
      if x ∈ thread.active then
        some (notify (s.setThread t { thread with active := thread.active.filter (· ≠ x) }) x .write)
      else none

/-- The pool as a transition system, with any numbers of threads. -/
def system : TransSys Pool Act where
  init s := ∃ inputThreads outputThreads, s = init inputThreads outputThreads
  step := step

/-- The output pool refers to a session. -/
def OutputHeld (s : Pool) (x : SessionId) : Prop :=
  (s.outputMap x).isSome ∨ ∃ t, t < s.outputThreads ∧
    (x ∈ (s.threads t).addSet ∨ x ∈ (s.threads t).writeSet ∨ x ∈ (s.threads t).removeSet ∨
      x ∈ (s.threads t).active)

/-- Some container of the pool refers to a session. -/
def Held (s : Pool) (x : SessionId) : Prop :=
  (s.infoMap x).isSome ∨ (s.inputMap x).isSome ∨ OutputHeld s x

instance (s : Pool) (x : SessionId) : Decidable (OutputHeld s x) :=
  inferInstanceAs (Decidable (_ ∨ _))

instance (s : Pool) (x : SessionId) : Decidable (Held s x) := inferInstanceAs (Decidable (_ ∨ _))

end Steppingstone.SessionPool
