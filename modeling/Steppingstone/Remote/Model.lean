/-
  Steppingstone.Remote.Model — `ManageRemoteCache`: the requests of the scenes and the replies of the
  cache servers.

  A reply carries the guid of its request and nothing else of it.  `ManageRemoteCache` keeps an entry
  for each request in the order of the calls, and the first entry of the guid tells which map and
  which list a reply is for.

  `cacheOutput` makes the entry under one lock and hands the packet over under another, and the
  scenes call it from threads of their own, so that other calls may come in between.  A server answers
  its packets in order; a packet without a request id is an `ONLY_REMOVE`, which no server answers.
-/
import Mathlib.Data.List.Basic
import Steppingstone.Lib.TransSys

namespace Steppingstone.Remote

/-! ## §1. Requests. -/

/-- `ReqPackInfo` -/
structure ReqPackInfo where
  requestId : UInt64
  guid : UInt64
  mapId : UInt64
  deriving DecidableEq, Repr

/-- A packet, or the reply to it, with the index of its server and what it was sent for. -/
structure Sent where
  server : Nat
  info : ReqPackInfo
  deriving DecidableEq, Repr

/-- A reply that was handed on with a map and a request id. -/
structure Delivered where
  request : ReqPackInfo
  mapId : UInt64
  requestId : UInt64
  deriving DecidableEq, Repr

/-- The assistant of a scene, with the packets on their way. -/
structure State where
  /-- `m_guid_vec` -/
  guidVec : List ReqPackInfo
  /-- The packets of calls between the two locks. -/
  calling : List Sent
  /-- The packets that were handed over and not answered, the oldest first. -/
  toServers : List Sent
  /-- The replies under way, the oldest first. -/
  replies : List Sent
  /-- What `cacheInput` was called with, the oldest first. -/
  delivered : List Delivered
  /-- The replies for which no entry was found. -/
  unknown : List ReqPackInfo

/-- An assistant that has asked nothing. -/
def init : State where
  guidVec := []
  calling := []
  toServers := []
  replies := []
  delivered := []
  unknown := []

/-! ## §2. `ManageRemoteCache`. -/

/-- The index in `m_cache_vec`, whose size is given. -/
def serverOf (size : Nat) (ownerGuid : UInt64) : Nat := ownerGuid.toNat % size

/-- `cacheOutput` up to the second lock. -/
def cacheOutput (size : Nat) (s : State) (info : ReqPackInfo) (ownerGuid : UInt64) : State :=
  { s with
    guidVec := if info.requestId ≠ 0 then s.guidVec ++ [info] else s.guidVec
    calling := s.calling ++ [⟨serverOf size ownerGuid, info⟩] }

/-- The rest of `cacheOutput`. -/
def output (s : State) (c : Sent) : State :=
  { s with calling := s.calling.erase c, toServers := s.toServers ++ [c] }

/-- `getMapID` with `erase`: the first entry of the guid, and the entries that are left. -/
def getMapID (guidVec : List ReqPackInfo) (guid : UInt64) :
    Option ReqPackInfo × List ReqPackInfo :=
  match guidVec.find? fun e => e.guid = guid with
  | some e => (some e, guidVec.eraseP fun e => e.guid = guid)
  | none => (none, guidVec)

/-- One packet of `ISessionIn_syncRead`. -/
def syncRead (s : State) (request : ReqPackInfo) : State :=
  match getMapID s.guidVec request.guid with
  | (some e, guidVec) =>
      { s with
        guidVec := guidVec
        delivered := s.delivered ++ [⟨request, e.mapId, e.requestId⟩] }
  | (none, _) => { s with unknown := s.unknown ++ [request] }

/-! ## §3. Steps. -/

/-- What the scene, the servers and the readers do. -/
inductive Act
  /-- A scene begins a call. -/
  | cacheOutput (info : ReqPackInfo) (ownerGuid : UInt64)
  /-- A call goes on, and ends. -/
  | output (c : Sent)
  /-- Server `k` works on its next packet. -/
  | answer (k : Nat)
  /-- The next reply of server `k` is read. -/
  | syncRead (k : Nat)
  deriving DecidableEq, Repr

/-- One act, where it can happen. -/
def step (size : Nat) (s : State) : Act → Option State
  | .cacheOutput info ownerGuid => some (cacheOutput size s info ownerGuid)
  | .output c => if c ∈ s.calling then some (output s c) else none
  | .answer k =>
      match s.toServers.find? fun c => c.server = k with
      | none => none
      | some c =>
          some { s with
            toServers := s.toServers.eraseP fun c => c.server = k
            replies := if c.info.requestId ≠ 0 then s.replies ++ [c] else s.replies }
  | .syncRead k =>
      match s.replies.find? fun c => c.server = k with
      | none => none
      | some c =>
          some (syncRead { s with replies := s.replies.eraseP fun c => c.server = k } c.info)

/-- Scenes, `ManageRemoteCache` and this many servers. -/
def system (size : Nat) : TransSys State Act where
  init s := s = init
  step := step size

end Steppingstone.Remote
