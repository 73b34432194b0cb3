/-
  Steppingstone.Cooler.Model — how long a client session of the gate lives
  (`ManageClientSessionCooler.cpp`, `ManageClientBeat.cpp`).

  Any thread may put a session in the cooler.  The cooler's thread closes it,
  and deletes it when it has been closed for a while.  The beat's thread keeps
  its own list of the sessions, and learns of the end of one by a second list
  that it works off at its next pass.
-/
import Mathlib.Logic.Function.Basic
import Steppingstone.Lib.TransSys

namespace Steppingstone.Cooler

/-! ## §1. State. -/

/-- A `ClientSession *`. -/
abbrev SessionId := Nat

/-- `cooler_time_interval`, and `m_max_timeout_second` of the beat. -/
structure Config where
  coolerTime : Nat
  maxTimeoutSecond : Nat
  deriving Repr, DecidableEq

/-- The lists of `ManageClientBeat`: `m_client_session_list` with its copy, and what is to be put
into it and removed from it. -/
structure Beat where
  list : List SessionId := []
  copy : List SessionId := []
  put : List SessionId := []
  remove : List SessionId := []
  /-- The time of the last pass. -/
  lastPass : Nat := 0
  /-- The sessions that were sent a `GMSG_CLIENT_BEAT_TIMEOUT`. -/
  timedOut : List SessionId := []
  deriving Repr, DecidableEq

/-- All times are in microseconds. -/
structure State where
  now : Nat := 0
  /-- `m_in_coolder` of the session. -/
  inCooler : SessionId → Bool := fun _ => false
  /-- `m_handle_close_time` of a session that was closed. -/
  handleCloseTime : SessionId → Option Nat := fun _ => none
  /-- `last_beat_time`, in seconds. -/
  lastBeatTime : SessionId → Nat := fun _ => 0
  /-- Calls of `putClientSession` that have found `alreadyInCooler` false. -/
  checked : List SessionId := []
  /-- Calls of `putClientSession` that have called `putInCooler`. -/
  marked : List SessionId := []
  /-- `m_client_session_list`. -/
  list : List SessionId := []
  /-- `should_clean_client` of `svc`. -/
  shouldClean : List SessionId := []
  /-- `svc` has collected the list and has not checked the cooling times yet. -/
  cleaning : Bool := false
  /-- `m_cleaned_client_session_list`. -/
  cleaned : List SessionId := []
  /-- `last_check_time` of `svc`. -/
  lastCheck : Nat := 0
  beat : Beat := {}
  /-- The calls of `handle_close` by the cooler, and the sessions that were deleted. -/
  closings : List SessionId := []
  deleted : List SessionId := []

/-- `ACE_Time_Value::sec`. -/
def sec (usec : Nat) : Nat := usec / 1000000

/-! ## §2. The cooler. -/

/-- `putClientSession` up to `alreadyInCooler`. -/
def State.check (s : State) (i : SessionId) : State :=
  if s.inCooler i then s else { s with checked := i :: s.checked }

/-- `putInCooler`. -/
def State.mark (s : State) (i : SessionId) : State :=
  { s with
    checked := s.checked.erase i
    inCooler := Function.update s.inCooler i true
    marked := i :: s.marked }

/-- The rest of `putClientSession`, under the mutex. -/
def State.push (s : State) (i : SessionId) : State :=
  { s with
    marked := s.marked.erase i
    list := if i ∈ s.list then s.list else s.list ++ [i] }

/-- `svc` takes the list, but for what is cleaned already. -/
def State.collect (s : State) : State :=
  { s with
    shouldClean := s.list.filter (· ∉ s.cleaned)
    list := []
    cleaning := true }

/-- `handle_close` and `putInCleanList`, of a session that is not in the list of the cleaned. -/
def State.cleanClientSession (s : State) (i : SessionId) : State :=
  if i ∈ s.cleaned then s
  else
    { s with
      handleCloseTime := Function.update s.handleCloseTime i (some s.now)
      closings := s.closings ++ [i]
      beat := { s.beat with remove := s.beat.remove ++ [i] }
      cleaned := s.cleaned ++ [i] }

/-- The session has been closed for longer than the cooler's time. -/
def State.isCooled (cfg : Config) (s : State) (i : SessionId) : Bool :=
  (s.handleCloseTime i).any fun t => cfg.coolerTime < sec (s.now - t)

/-- The check of the cooling times, at most once a second. -/
def State.checkCooler (cfg : Config) (s : State) : State :=
  let s := { s with cleaning := false }
  if sec s.now - sec s.lastCheck < 1 then s
  else if s.cleaned = [] then s
  else
    { s with
      lastCheck := s.now
      cleaned := s.cleaned.filter (!s.isCooled cfg ·)
      deleted := s.deleted ++ s.cleaned.filter (s.isCooled cfg ·) }

/-! ## §3. The beat. -/

/-- The sessions that are to be put into the list, each once. -/
def putAll (list put : List SessionId) : List SessionId :=
  put.foldl (fun l i => if i ∈ l then l else l ++ [i]) list

/-- `std::list::remove` for each session of a list of removals. -/
def removeAll (list remove : List SessionId) : List SessionId :=
  remove.foldl List.erase list

/-- `ManageClientBeat::lastBeatTimeout`: the last beat is longer ago than the configuration
allows. -/
def State.lastBeatTimeout (cfg : Config) (s : State) (i : SessionId) : Bool :=
  cfg.maxTimeoutSecond < sec s.now - s.lastBeatTime i

/-- One pass of `ManageClientBeat::svc`. -/
def State.beatPass (cfg : Config) (s : State) : State :=
  let all := removeAll (putAll s.beat.list s.beat.put) s.beat.remove
  let kept := all.filter (!s.lastBeatTimeout cfg ·)
  { s with
    beat := {
      list := kept
      copy := kept
      put := []
      remove := []
      lastPass := s.now
      timedOut := s.beat.timedOut ++ all.filter (s.lastBeatTimeout cfg ·) } }

/-! ## §4. The system. -/

/-- What the threads of the cooler and the beat, those that put sessions away, and the clock do. -/
inductive Action
  /-- A thread calls `putClientSession`. -/
  | check (i : SessionId)
  | mark (i : SessionId)
  | push (i : SessionId)
  /-- The thread of the cooler. -/
  | collect
  | clean
  | checkCooler
  /-- A thread calls `addClient`. -/
  | addClient (i : SessionId)
  /-- `updateLastBeatTime`. -/
  | updateLastBeatTime (i : SessionId)
  /-- The thread of the beat. -/
  | beatPass
  /-- Time passes. -/
  | tick (usec : Nat)
  deriving Repr, DecidableEq

/-- One step of one of the threads, where it can take it. -/
def step (cfg : Config) (s : State) : Action → Option State
  | .check i => some (s.check i)
  | .mark i => if i ∈ s.checked then some (s.mark i) else none
  | .push i => if i ∈ s.marked then some (s.push i) else none
  | .collect => if s.cleaning then none else some s.collect
  | .clean =>
      match s.cleaning, s.shouldClean with
      | true, i :: rest => some { s.cleanClientSession i with shouldClean := rest }
      | _, _ => none
  | .checkCooler =>
      if s.cleaning ∧ s.shouldClean = [] then some (s.checkCooler cfg) else none
  | .addClient i => some { s with beat := { s.beat with put := s.beat.put ++ [i] } }
  | .updateLastBeatTime i =>
      some { s with lastBeatTime := Function.update s.lastBeatTime i (sec s.now) }
  | .beatPass => some (s.beatPass cfg)
  | .tick usec => some { s with now := s.now + usec }

/-- The gate starts with no session anywhere. -/
def system (cfg : Config) : TransSys State Action where
  init s := s = {}
  step := step cfg

/-- The sessions that some list of the two threads, or a call of `putClientSession`, has a pointer
to. -/
def State.held (s : State) : List SessionId :=
  s.checked ++ s.marked ++ s.list ++ s.shouldClean ++ s.cleaned ++
    s.beat.list ++ s.beat.copy ++ s.beat.put ++ s.beat.remove

end Steppingstone.Cooler
