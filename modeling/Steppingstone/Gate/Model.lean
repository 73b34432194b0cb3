/-
  Steppingstone.Gate.Model — the gate's client sessions and the map from role guids to them.

  Modelled: the role map of `RouteClientPackage` with every function that writes it, the cooler
  (`ManageClientSessionCooler`) with `ClientSession::handle_close`, and the packets of clients, game
  servers and the master that lead there.  The packet handlers run on a pool of threads and hold
  the map's mutex for one access at a time, so the way of a client into a map is a job whose stages
  are steps of their own: other handlers and the cooler's thread come in between.
-/
import Steppingstone.Lib.TransSys
import Mathlib.Logic.Function.Basic

namespace Steppingstone.Gate

/-! ## §1. Sessions. -/

/-- `AccountRoleInfo` -/
structure AccountRoleInfo where
  guid : UInt64
  mapId : UInt32
  lineId : UInt32
  deriving DecidableEq, Repr

/-- `ClientSession` with its `AccountInfo`; the bits of `account_state` that are read anywhere are
    fields. -/
structure ClientSession where
  roleGuid : UInt64
  realRoleGuid : UInt64 := 0
  roleLocation : UInt64 := 0
  lineNo : UInt32 := 0
  /-- `account_role_info_map` -/
  roleInfos : List AccountRoleInfo := []
  /-- `AS_GET_ROLE_LIST` -/
  hasRoleList : Bool := false
  /-- `AS_ENTER_GAME` -/
  enteredGame : Bool := false
  /-- `AS_LEAVE_GAME` -/
  leftGame : Bool := false
  /-- `AS_NOT_FIND_GS` -/
  notFoundGS : Bool := false
  /-- `m_login_again` -/
  loginAgain : Bool := false
  /-- `m_in_coolder` -/
  inCooler : Bool := false
  deriving DecidableEq, Repr

/-- Sessions are numbered as they connect. -/
abbrev SessionId := Nat

/-- `getAccountRoleInfo` -/
def ClientSession.getAccountRoleInfo (cs : ClientSession) (guid : UInt64) :
    Option AccountRoleInfo :=
  cs.roleInfos.find? (·.guid = guid)

/-- `playerLineInfo`; inserting into a `std::map` keeps what is there. -/
def ClientSession.playerLineInfo (cs : ClientSession) (info : AccountRoleInfo) : ClientSession :=
  if cs.roleInfos.any (·.guid = info.guid) then cs
  else { cs with roleInfos := cs.roleInfos ++ [info] }

/-- `canEnterGame` -/
def ClientSession.canEnterGame (cs : ClientSession) : Bool :=
  0 < cs.realRoleGuid ∨ (cs.hasRoleList ∧ ¬ cs.enteredGame)

/-- `MAKE_MAP_GUID(line, 0, map_id)` -/
def makeMapGuid (mapId : UInt32) : UInt64 := 0x0C0F000000000000 ||| mapId.toUInt64

/-- What `RouteGSPacket` is given for the game servers. -/
inductive GsPacket
  | enterMap (guid mapGuid : UInt64) (lineId : UInt32)
  | leaveMap (guid location : UInt64) (leaveType : Nat)
  | jumpMap (guid location : UInt64)
  deriving DecidableEq, Repr

/-! ## §2. The gate. -/

/-- How far `handleEnterMap` has come. -/
inductive EnterStage
  /-- before `cleanRoleAndLogoff` -/
  | clean
  /-- before the second look at the map, in `clientEnterMap` -/
  | find
  /-- before `changeClientRoute`, with the guid the session had -/
  | route (i : SessionId) (temp : UInt64) (info : AccountRoleInfo)
  /-- before the packet to the game server -/
  | enter (i : SessionId) (info : AccountRoleInfo)
  deriving DecidableEq, Repr

/-- A `CMSG_PLAYER_ENTER_MAP` that is being handled. -/
structure EnterJob where
  clientGuid : UInt64
  roleGuid : UInt64
  stage : EnterStage
  deriving DecidableEq, Repr

/-- The sessions of the gate, its role map and its cooler. -/
structure GateState where
  sessions : SessionId → Option ClientSession
  /-- Sessions are numbered as they connect. -/
  next : SessionId
  /-- `m_client_session_map_id_map` -/
  roleMap : UInt64 → Option SessionId
  /-- `Header::temp_guid` -/
  tempGuid : UInt32
  /-- `m_client_session_list` of the cooler -/
  cooler : List SessionId
  /-- `m_cleaned_client_session_list`: closed, and not deleted yet -/
  cleaned : List SessionId
  jobs : List EnterJob
  sent : List GsPacket
  /-- Ghost: the session that last came to each guid. -/
  lastEntered : UInt64 → Option SessionId
  /-- Ghost: the sessions that were in the map under a guid when the next entry to it came. -/
  displaced : List (UInt64 × SessionId)

/-- A gate that has just started. -/
def init : GateState where
  sessions := fun _ => none
  next := 0
  roleMap := fun _ => none
  tempGuid := 0
  cooler := []
  cleaned := []
  jobs := []
  sent := []
  lastEntered := fun _ => none
  displaced := []

/-- Changes one session's own data. -/
def GateState.modify (s : GateState) (i : SessionId) (f : ClientSession → ClientSession) : GateState :=
  { s with sessions := Function.update s.sessions i ((s.sessions i).map f) }

/-- `m_client_session_map_id_map.erase` -/
def GateState.eraseRole (s : GateState) (guid : UInt64) : GateState :=
  { s with roleMap := Function.update s.roleMap guid none }

/-- A packet for a game server. -/
def GateState.send (s : GateState) (p : GsPacket) : GateState := { s with sent := s.sent ++ [p] }

/-- `ManageClientSessionCooler::putClientSession` -/
def GateState.putClientSession (s : GateState) (i : SessionId) : GateState :=
  match s.sessions i with
  | none => s
  | some cs =>
      if cs.inCooler then s
      else
        { s.modify i fun cs => { cs with inCooler := true } with
          cooler := if i ∈ s.cooler then s.cooler else s.cooler ++ [i] }

/-- Ghost: session `i` was at `guid` when the next entry came. -/
def GateState.displace (s : GateState) (guid : UInt64) (i : SessionId) : GateState :=
  { s with displaced := s.displaced ++ [(guid, i)] }

/-! ## §3. The role map. -/

/-- `collectRoleClientSession` -/
def collectRoleClientSession (s : GateState) (guid : UInt64) (i : SessionId) : GateState :=
  let s := s.modify i fun cs => { cs with roleGuid := guid }
  let s := match s.roleMap guid with
    | some o =>
        ((((s.modify o fun cs => { cs with loginAgain := true }).putClientSession o).eraseRole
          guid).displace guid o)
    | none => s
  { s with
    roleMap := Function.update s.roleMap guid (some i)
    lastEntered := Function.update s.lastEntered guid (some i) }

/-- `removeRoleClientSession` -/
def removeRoleClientSession (s : GateState) (guid : UInt64) (i : SessionId) : GateState :=
  if s.roleMap guid = some i then s.eraseRole guid else s

/-- What `cleanRoleInfo` and `cleanRoleAndLogoff` do with the session they found: `roleLeaveMap`,
    `leaveGame`, and the cooler. -/
def logoff (s : GateState) (guid : UInt64) (i : SessionId) : GateState :=
  let location := ((s.sessions i).map (·.roleLocation)).getD 0
  ((((s.eraseRole guid).send (.leaveMap guid location 0)).modify i fun cs =>
    { cs with leftGame := true }).putClientSession i)

/-- `cleanRoleInfo` -/
def cleanRoleInfo (s : GateState) (guid : UInt64) : GateState :=
  match s.roleMap guid with
  | some i => logoff s guid i
  | none => s

/-- `cleanRoleAndLogoff`, called for the session that is about to come to `guid`. -/
def cleanRoleAndLogoff (s : GateState) (guid : UInt64) : GateState :=
  match s.roleMap guid with
  | some i => (logoff s guid i).displace guid i
  | none => s

/-- `changeClientRoute`: a role that is taken stays with the session that has it. -/
def changeClientRoute (s : GateState) (i : SessionId) (temp role : UInt64) : GateState :=
  let s := (s.modify i fun cs => { cs with roleGuid := role }).eraseRole temp
  let s := { s with lastEntered := Function.update s.lastEntered role (some i) }
  match s.roleMap role with
  | some o => (s.putClientSession o).displace role o
  | none => { s with roleMap := Function.update s.roleMap role (some i) }

/-- `ClientSession::handle_close`, called by the cooler. -/
def handleClose (s : GateState) (i : SessionId) (cs : ClientSession) : GateState :=
  if ¬ cs.loginAgain then
    let guid := if cs.realRoleGuid ≠ 0 then cs.realRoleGuid else cs.roleGuid
    let s := if cs.enteredGame ∧ ¬ cs.leftGame then s.send (.leaveMap guid cs.roleLocation 1) else s
    removeRoleClientSession s cs.roleGuid i
  else if cs.roleGuid < 0xFFFFFFFF then removeRoleClientSession s cs.roleGuid i
  else s

/-! ## §4. Steps. -/

/-- What happens: connections, packets, the stages of the jobs, and the cooler's thread. -/
inductive Act
  /-- `ClientSession::open` -/
  | connect
  /-- `SMSG_REQUEST_PLAYER_LIST` or `SMSG_PLAYER_MAKE` from the role server: the role the session may
      enter with, if there is one. -/
  | roleList (guid : UInt64) (info : Option AccountRoleInfo)
  /-- `handleEnterMap` up to `canEnterGame` -/
  | enterMap (guid role : UInt64)
  /-- The next stage of job `j`; `found` says whether the game server is there. -/
  | advance (j : Nat) (found : Bool)
  /-- `handlePlayerJumpmap` -/
  | jumpMap (guid : UInt64) (mapId : UInt32) (found : Bool)
  /-- Log off, read or write error, wobble, beat timeout, kick off, failed validation; `notFound`
      for a packet whose game server is gone. -/
  | drop (guid : UInt64) (notFound : Bool)
  /-- `closeClientByMapID`, which holds the sessions themselves. -/
  | dropSession (i : SessionId)
  /-- `cleanPlayerInfo`, from the master. -/
  | cleanPlayerInfo (guid : UInt64)
  /-- The cooler closes a session. -/
  | close (i : SessionId)
  /-- The cooler deletes a closed session. -/
  | expire (i : SessionId)
  deriving DecidableEq, Repr

/-- The next stage of a job: the gate without the job, and the job's new stage. -/
def advance (s : GateState) (job : EnterJob) (found : Bool) : GateState × Option EnterStage :=
  match job.stage with
  | .clean => (cleanRoleAndLogoff s job.roleGuid, some .find)
  | .find =>
      match s.roleMap job.clientGuid with
      | none => (s, none)
      | some i =>
          match (s.sessions i).bind fun cs => cs.getAccountRoleInfo job.roleGuid with
          | some info =>
              (s, some (.route i (((s.sessions i).map (·.roleGuid)).getD 0) info))
          | none => (s.putClientSession i, none)
  | .route i temp info =>
      ((changeClientRoute s i temp job.roleGuid).modify i fun cs =>
        { cs with lineNo := info.lineId, roleLocation := makeMapGuid info.mapId },
        some (.enter i info))
  | .enter i info =>
      if found then
        ((s.send (.enterMap info.guid (makeMapGuid info.mapId) info.lineId)).modify i fun cs =>
          { cs with enteredGame := true }, none)
      else
        -- `notFindGS` looks the client up by the guid that it has just given up
        match s.roleMap job.clientGuid with
        | some i' => ((s.modify i' fun cs => { cs with notFoundGS := true }).putClientSession i', none)
        | none => (s, none)

/-- One step; a step on a session that is gone does not happen. -/
def step (s : GateState) : Act → Option GateState
  | .connect =>
      let temp := (s.tempGuid + 1) % 0xFFFFFFF
      let s := { s with
        sessions := Function.update s.sessions s.next (some { roleGuid := temp.toUInt64 })
        next := s.next + 1
        tempGuid := temp }
      some (collectRoleClientSession s temp.toUInt64 (s.next - 1))
  | .roleList guid info =>
      (s.roleMap guid).map fun i => s.modify i fun cs =>
        let cs := { cs with hasRoleList := true }
        match info with
        | some info => cs.playerLineInfo info
        | none => cs
  | .enterMap guid role =>
      ((s.roleMap guid).bind s.sessions).bind fun cs =>
        if cs.canEnterGame then
          some { s with jobs := s.jobs ++ [⟨guid, role, .clean⟩] }
        else some s
  | .advance j found =>
      (s.jobs[j]?).map fun job =>
        match advance s job found with
        | (s', some stage) => { s' with jobs := s'.jobs.set j { job with stage := stage } }
        | (s', none) => { s' with jobs := s'.jobs.eraseIdx j }
  | .jumpMap guid mapId found =>
      let location := makeMapGuid mapId
      if found then
        let s := s.send (.jumpMap guid location)
        match s.roleMap guid with
        | some i => some (s.modify i fun cs => { cs with roleLocation := location })
        | none => some (s.send (.leaveMap guid location 0))
      else some s
  | .drop guid notFound =>
      (s.roleMap guid).map fun i =>
        (s.modify i fun cs => { cs with notFoundGS := cs.notFoundGS || notFound }).putClientSession i
  | .dropSession i =>
      (s.sessions i).map fun _ =>
        (s.modify i fun cs => { cs with notFoundGS := true }).putClientSession i
  | .cleanPlayerInfo guid => some (cleanRoleInfo s guid)
  | .close i =>
      if i ∈ s.cooler then
        (s.sessions i).map fun cs =>
          let s' := { s with cooler := s.cooler.filter (· ≠ i) }
          if i ∈ s.cleaned then s'
          else handleClose { s' with cleaned := s'.cleaned ++ [i] } i cs
      else none
  | .expire i =>
      if i ∈ s.cleaned then
        some { s with
          cleaned := s.cleaned.filter (· ≠ i)
          sessions := Function.update s.sessions i none }
      else none

/-- The gate as a transition system. -/
def system : TransSys GateState Act where
  init s := s = init
  step := step

end Steppingstone.Gate
