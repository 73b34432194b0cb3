/-
  Steppingstone.Startup.Model — the start of the short players (`ManageShort`): the lists of the
  registered players, and the two stages in which what is stored of each of them is loaded.

  `loadShortInfo` is reached when all hundred `ShortPlayers` are in the pool.  The pool calls a list
  back when each of its requests is answered (`PoolImp::handlePacket`), so a list without requests
  is never called back.  A read of a pool entity that is absent, logs and the tables of robots and
  open ids are left out.
-/
import Mathlib.Data.Finset.Basic
import Mathlib.Data.Fintype.Basic
import Mathlib.Tactic.Ring
import Steppingstone.Lib.TransSys

namespace Steppingstone.Startup

/-! ## §1. Guids. -/

/-- `GUID_TYPE`. -/
def guidType (guid : UInt64) : UInt64 :=
  (guid >>> 56) &&& 0xFF

/-- `SWITCH_GUID_TYPE`. -/
def switchGuidType (newType guid : UInt64) : UInt64 :=
  ((newType <<< 56) &&& 0xFF00000000000000) ||| (guid &&& 0x00FFFFFFFFFFFFFF)

/-- `ET_PLAYER` -/
def etPlayer : UInt64 := 1
/-- `ET_SHORT` -/
def etShort : UInt64 := 23
/-- `ET_COIN` -/
def etCoin : UInt64 := 68

/-- `IS_SHORT_GUID`. -/
def isShortGuid (guid : UInt64) : Bool := guidType guid == etShort

/-- `IS_PLAYER_GUID`. -/
def isPlayerGuid (guid : UInt64) : Bool := guidType guid == etPlayer

/-- The `Short` of a listed guid. -/
def shortGuid (listed : UInt64) : UInt64 := switchGuidType etShort listed

/-- The `Coin` of a listed guid. -/
def coinGuid (listed : UInt64) : UInt64 := switchGuidType etCoin (switchGuidType etPlayer listed)

/-! ## §2. What is stored. -/

/-- The fields of a `Short` that the load reads. -/
structure ShortEntity where
  player : UInt64
  amah : UInt32 := 0
  mail : UInt64 := 0
  multiCopy : UInt64 := 0
  qqspreadline : UInt64 := 0
  friends : UInt64 := 0
  escort : UInt64 := 0
  arrestGuid : UInt64 := 0
  splendid : UInt64 := 0
  openact1 : UInt64 := 0
  jianzhong : UInt64 := 0
  pairSelf : UInt64 := 0
  deriving DecidableEq

/-- The entities of its own that a `Short` names, in the order in which they are requested. -/
def ShortEntity.otherGuids (e : ShortEntity) : List UInt64 :=
  [e.mail, e.multiCopy, e.qqspreadline, e.friends, e.escort, e.arrestGuid, e.splendid, e.openact1,
    e.jianzhong, e.pairSelf].filter (· != 0)

/-- `SHORT_PLAYER_TOTAL_NUM`. -/
abbrev shortPlayerTotalNum : Nat := 100

/-- The `player_guids` of the `ShortPlayers`, from `SHORT_PLAYER_START_INDEX` on. -/
abbrev ShortPlayers := Fin shortPlayerTotalNum → List UInt64

/-- All that is listed, list by list. -/
def ShortPlayers.listed (lists : ShortPlayers) : List UInt64 :=
  (List.finRange shortPlayerTotalNum).flatMap lists

/-- The registered players, and their `Short`s.  **Every entity has a guid of its own.** -/
structure Stored where
  shortPlayers : ShortPlayers
  /-- By the guid of the `Short`. -/
  shortEntity : UInt64 → ShortEntity
  distinct : (shortPlayers.listed.flatMap fun p =>
    shortGuid p :: coinGuid p :: (shortEntity (shortGuid p)).otherGuids).Nodup

/-! ## §3. The plugin. -/

/-- A list of load requests, by its callback: the `Short` and the `Coin` of a listed guid for
`loadShortFinish`, and the other entities of a player for `loadShortOtherGuidFinish`. -/
inductive RequestList
  | short (listed : UInt64)
  | other (playerGuid : UInt64) (guids : List UInt64)
  deriving DecidableEq

/-- `getRequestList`. -/
def RequestList.requests : RequestList → List UInt64
  | short listed => [shortGuid listed, coinGuid listed]
  | other _ guids => guids

/-- What an answer leaves in a request: no success, success without a message that can be read, or
the message that is stored. -/
inductive Reply
  | failed
  | empty
  | loaded
  deriving DecidableEq

/-- `shortLoadFinishNotify`: the players that it tells, and how many lists were still to be
answered then. -/
structure Notice where
  activeAmahPlayerGuid : Finset UInt64
  outstanding : Nat
  deriving DecidableEq

/-- `ManageShort`, with the entities that the loads have added to the pool and the request lists
that the pool has not called back. -/
structure ManageShort where
  pool : Finset UInt64 := ∅
  requestInfoVec : List RequestList := []
  loadingShortGuid : Finset UInt64 := ∅
  allShortPlayerSet : Finset UInt64 := ∅
  activeAmahPlayerGuid : Finset UInt64 := ∅
  isLoadFailed : Bool := false
  startupSuccess : Bool := false
  notices : List Notice := []
  deriving DecidableEq

namespace ManageShort

/-- How many lists are still to be answered. -/
def outstanding (s : ManageShort) : Nat :=
  s.requestInfoVec.countP fun l => l.requests != []

/-- The directory is announced as loaded. -/
def shortLoadFinishNotify (s : ManageShort) : ManageShort :=
  { s with notices := s.notices ++ [⟨s.activeAmahPlayerGuid, s.outstanding⟩] }

/-- `POOL_OP_COMMIT`. -/
def commit (s : ManageShort) (l : RequestList) : ManageShort :=
  { s with requestInfoVec := s.requestInfoVec ++ [l] }

/-- `POOL_OP_ADD`. -/
def add (s : ManageShort) (guid : UInt64) : ManageShort :=
  { s with pool := insert guid s.pool }

/-- A guid that is there already is only logged. -/
def collectLoadingShortGuid (s : ManageShort) (guid : UInt64) : ManageShort :=
  { s with loadingShortGuid := insert guid s.loadingShortGuid }

/-- A guid that is not there is only logged; the set is looked at in both cases. -/
def removeLoadingShortGuid (s : ManageShort) (guid : UInt64) : ManageShort :=
  let s := { s with loadingShortGuid := s.loadingShortGuid.erase guid }
  if s.loadingShortGuid = ∅ then
    -- the failure branch of the source is overwritten by the assignment after it
    let s := if s.isLoadFailed then { s with startupSuccess := false }
      else { s.shortLoadFinishNotify with startupSuccess := true }
    { s with startupSuccess := true }
  else s

/-! ## §4. The two stages. -/

/-- One listed guid. -/
def loadShort (s : ManageShort) (listed : UInt64) : ManageShort :=
  let s := (s.commit (.short listed)).collectLoadingShortGuid (shortGuid listed)
  { s with allShortPlayerSet := insert (switchGuidType etPlayer listed) s.allShortPlayerSet }

/-- **The first stage.** -/
def loadShortInfo (s : ManageShort) (lists : ShortPlayers) : ManageShort :=
  let s := (List.finRange shortPlayerTotalNum).foldl (fun s i => (lists i).foldl loadShort s) s
  -- nobody is registered: nothing will be answered, so the end is announced here
  if lists.listed = [] then { s.shortLoadFinishNotify with startupSuccess := true } else s

/-- **The second stage** of one player. -/
def loadShortOtherGuid (s : ManageShort) (e : ShortEntity) : ManageShort :=
  (e.otherGuids.foldl collectLoadingShortGuid s).commit (.other e.player e.otherGuids)

/-- One request of `loadShortFinish`. -/
def shortLoaded (shortEntity : UInt64 → ShortEntity) (s : ManageShort) :
    UInt64 × Reply → ManageShort
  | (guid, .loaded) =>
      let s := s.add guid
      if isShortGuid guid then
        let e := shortEntity guid
        let s := if 0 < e.amah then
          { s with activeAmahPlayerGuid := insert e.player s.activeAmahPlayerGuid } else s
        -- the second stage is in the set before the guid of the first is taken out
        (s.loadShortOtherGuid e).removeLoadingShortGuid guid
      else s
  -- only a log line: the guid stays in the set
  | (_, .empty) => s
  | (_, .failed) => s

/-- `is_success`. -/
def isSuccess (replies : List Reply) : Bool := replies.all (· != .failed)

/-- The answer to a list of loads. -/
def loadShortFinish (s : ManageShort) (shortEntity : UInt64 → ShortEntity) (requests : List UInt64)
    (replies : List Reply) : ManageShort :=
  if isSuccess replies then (requests.zip replies).foldl (shortLoaded shortEntity) s
  else requests.foldl removeLoadingShortGuid { s with isLoadFailed := true }

/-- One request of `loadShortOtherGuidFinish`. -/
def otherLoaded (s : ManageShort) : UInt64 × Reply → ManageShort
  | (guid, .loaded) => (s.removeLoadingShortGuid guid).add guid
  | (guid, .empty) => s.removeLoadingShortGuid guid
  | (guid, .failed) => s.removeLoadingShortGuid guid

/-- The failure is noted; nothing is removed. -/
def loadShortOtherGuidFinish (s : ManageShort) (requests : List UInt64) (replies : List Reply) :
    ManageShort :=
  if isSuccess replies then (requests.zip replies).foldl otherLoaded s
  else { s with isLoadFailed := true }

end ManageShort

/-! ## §5. Runs. -/

/-- A list is answered, request by request. -/
structure Answer where
  list : RequestList
  replies : List Reply
  deriving DecidableEq

namespace ManageShort

/-- The callback of a list. -/
def callBack (s : ManageShort) (shortEntity : UInt64 → ShortEntity) (a : Answer) : ManageShort :=
  match a.list with
  | .short _ => s.loadShortFinish shortEntity a.list.requests a.replies
  | .other _ _ => s.loadShortOtherGuidFinish a.list.requests a.replies

/-- One list is answered: it is taken out, and then it is called back. -/
def answer (s : ManageShort) (shortEntity : UInt64 → ShortEntity) (a : Answer) :
    Option ManageShort :=
  if a.list ∈ s.requestInfoVec ∧ a.list.requests ≠ [] ∧
      a.replies.length = a.list.requests.length then
    some (callBack { s with requestInfoVec := s.requestInfoVec.erase a.list } shortEntity a)
  else none

end ManageShort

/-- The plugin once `loadShortInfo` has returned. -/
def Stored.start (stored : Stored) : ManageShort :=
  ManageShort.loadShortInfo {} stored.shortPlayers

/-- The lists of a start, answered in any order and with any outcome. -/
def system (stored : Stored) : TransSys ManageShort Answer where
  init s := s = stored.start
  step s a := s.answer stored.shortEntity a

end Steppingstone.Startup
