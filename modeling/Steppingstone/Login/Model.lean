/-
  Steppingstone.Login.Model — logging in at a gate, and who the member system takes to be online.

  The member system registers an account under a session key (`registerClientAuth`).  A client
  presents a key with an account (`handleValidationAccountPacket`), and the gate asks its table of
  keys and its access tables.  The member system hears of it by a login confirm, and of the end of a
  session by a logoff, in the order in which the gate sends them (`ManageOnlinePlayer`).

  The sessions, the role map and the cooler are those of `Gate.Model`; what is added here is the
  account of a session.  Times are in microseconds.
-/
import Steppingstone.Access.Model
import Steppingstone.Gate.Model

namespace Steppingstone.Login

open Std (TreeMap TreeSet)
open Steppingstone.Cross (Text)
open Gate (GateState SessionId)

/-! ## §1. Registrations. -/

/-- `mmsg_member_login` -/
structure MemberLogin where
  requestIndex : UInt32
  account : Text
  addictionFlag : UInt32
  networkType : UInt32
  securityKey : Text
  lineId : UInt32
  openId : Text := []
  openKey : Text := []
  pf : Text := []
  pfkey : Text := []
  deriving DecidableEq, Repr

/-- `ClientAuth` -/
structure ClientAuth where
  requestIndex : UInt32 := 0
  accountId : Text := []
  addictionFlag : UInt32 := 0
  networkType : UInt32 := 0
  sessionId : Text := []
  lineId : UInt32 := 0
  registerTime : UInt64
  openId : Text := []
  openKey : Text := []
  pf : Text := []
  pfkey : Text := []
  deriving DecidableEq, Repr

/-- The `auth_info` of `registerClientAuth`. -/
def authInfo (login : MemberLogin) (now : UInt64) : ClientAuth where
  requestIndex := login.requestIndex
  accountId := login.account
  addictionFlag := login.addictionFlag
  networkType := login.networkType
  sessionId := login.securityKey
  lineId := login.lineId
  registerTime := now
  openId := login.openId
  openKey := login.openKey
  pf := login.pf
  pfkey := login.pfkey

/-- `LSCfg`; `validation_interval` is in seconds. -/
structure Config where
  checkClientAuth : Bool := true
  validationInterval : Int := 180

/-- How long ago the registration was, in microseconds. -/
def ClientAuth.age (auth : ClientAuth) (now : UInt64) : Int :=
  (now.toNat : Int) - (auth.registerTime.toNat : Int)

/-- `ACE_Time_Value::sec` of a difference: the whole seconds, with its sign. -/
def sec (diff : Int) : Int := diff.tdiv 1000000

/-- The static registration that is given out when keys are not checked; `account_index` stays 1. -/
def testAuth : ClientAuth where
  requestIndex := 1
  addictionFlag := 1
  networkType := 1
  sessionId := ['S', 'E', 'K', '_', 'T', 'E', 'S', 'T']
  lineId := 1
  registerTime := 0

/-- `validateClientSession`: the registration, and the table.  The account is a parameter of the
    source as well, and not read there either. -/
def validateClientSession (cfg : Config) (map : TreeMap Text ClientAuth) (sessionId : Text)
    (now : UInt64) (_accountId : Text) : Option ClientAuth × TreeMap Text ClientAuth :=
  if ! cfg.checkClientAuth then (some testAuth, map)
  else
    match map[sessionId]? with
    | none => (none, map)
    | some auth =>
        if sessionId = auth.sessionId ∧ sec (auth.age now) ≤ cfg.validationInterval then
          (some auth, map)
        else (none, map.erase sessionId)

/-! ## §2. The member system. -/

/-- `ManageOnlinePlayer`: the accounts of each line, and the numbers. -/
structure OnlinePlayer where
  onlinePlayer : TreeMap UInt32 (TreeSet Text) := {}
  currentOnlineNumber : Nat := 0
  maxOnlineNumber : Nat := 0

/-- The accounts of a line; `m_online_player[line_no]`. -/
def OnlinePlayer.onlineSet (p : OnlinePlayer) (lineNo : UInt32) : TreeSet Text :=
  (p.onlinePlayer[lineNo]?).getD {}

/-- `playerLoginSuccess` -/
def playerLoginSuccess (p : OnlinePlayer) (lineNo : UInt32) (account : Text) : OnlinePlayer :=
  let players := p.onlinePlayer.insert lineNo ((p.onlineSet lineNo).insert account)
  let onlineNumber := players.foldl (fun n _ set => n + set.size) 0
  { onlinePlayer := players
    currentOnlineNumber := onlineNumber
    maxOnlineNumber := max p.maxOnlineNumber onlineNumber }

/-- `playerLoginoff` -/
def playerLoginoff (p : OnlinePlayer) (lineNo : UInt32) (account : Text) : OnlinePlayer :=
  { p with onlinePlayer := p.onlinePlayer.insert lineNo ((p.onlineSet lineNo).erase account) }

/-- What a gate tells the member system. -/
inductive Notice
  /-- `SMSG_GATE_LOGIN_RESPOND` -/
  | loginRespond (requestIndex : UInt32) (account : Text) (networkType : UInt32)
  /-- `SMSG_MEMBER_LOGIN_CONFIRM` -/
  | loginConfirm (account : Text) (lineId : UInt32)
  /-- `SMSG_MEMBER_LOGOFF` -/
  | logoff (account : Text) (lineId : UInt32)
  deriving DecidableEq, Repr

/-- What a notice does to the online players. -/
def OnlinePlayer.receive (p : OnlinePlayer) : Notice → OnlinePlayer
  | .loginRespond _ _ _ => p
  | .loginConfirm account lineId => playerLoginSuccess p lineId account
  | .logoff account lineId => playerLoginoff p lineId account

/-! ## §3. The gate. -/

/-- What a client session keeps of its account. -/
structure AccountInfo where
  clientIp : Text := []
  accountId : Text := []
  /-- `AS_VALIDATE_SUCCESS` -/
  validated : Bool := false
  openId : Text := []
  openKey : Text := []
  pf : Text := []
  openapiCallTime : UInt64 := 0
  addictionFlag : UInt32 := 0
  deriving DecidableEq, Repr

/-- Ghost: a session was marked as validated, with what the client presented and the registration
    of that key that came last. -/
structure Mark where
  session : SessionId
  account : Text
  key : Text
  now : UInt64
  latest : Option ClientAuth
  deriving DecidableEq, Repr

/-- The gate with what its login keeps. -/
structure State where
  gate : GateState
  accounts : SessionId → AccountInfo
  /-- `m_client_auth_map` -/
  clientAuthMap : TreeMap Text ClientAuth
  access : Access.Host
  /-- Notices on their way, the oldest first. -/
  loginStream : List Notice
  /-- `CMSG_REQUEST_PLAYER_LIST` for the role server: the client's guid and its account. -/
  playerListRequests : List (UInt64 × Text)
  member : OnlinePlayer
  /-- Ghost: every registration so far. -/
  registrations : List ClientAuth
  /-- Ghost -/
  marks : List Mark

/-- A gate that has just started. -/
def init : State where
  gate := Gate.init
  accounts := fun _ => {}
  clientAuthMap := {}
  access := {}
  loginStream := []
  playerListRequests := []
  member := {}
  registrations := []
  marks := []

/-- The registration of a key that came last. -/
def latest (registrations : List ClientAuth) (key : Text) : Option ClientAuth :=
  registrations.reverse.find? fun auth => auth.sessionId = key

/-- `handleMemberLogin`: `registerClientAuth` and `respondMemberLogin`. -/
def handleMemberLogin (s : State) (login : MemberLogin) (now : UInt64) : State :=
  { s with
    clientAuthMap := s.clientAuthMap.insert login.securityKey (authInfo login now)
    loginStream := s.loginStream ++
      [.loginRespond login.requestIndex login.account login.networkType]
    registrations := s.registrations ++ [authInfo login now] }

/-- `accountAuthSuccess` -/
def accountAuthSuccess (s : State) (account : Text) (lineNo : UInt32) : State :=
  { s with loginStream := s.loginStream ++ [.loginConfirm account lineNo] }

/-- What `handleValidationAccountPacket` does once the key and the access tables have let the client
    through: the account that is stored is the one the client sent. -/
def validated (s : State) (guid : UInt64) (i : SessionId) (auth : ClientAuth)
    (account key : Text) (now : UInt64) : State :=
  let info : AccountInfo := { s.accounts i with
    accountId := account
    validated := true
    openId := auth.openId
    openKey := auth.openKey
    pf := auth.pf
    openapiCallTime := now / 1000000
    addictionFlag := auth.addictionFlag }
  let s := { s with
    gate := s.gate.modify i fun cs => { cs with lineNo := auth.lineId }
    accounts := Function.update s.accounts i info
    playerListRequests := s.playerListRequests ++ [(guid, account)]
    marks := s.marks ++ [⟨i, account, key, now, latest s.registrations key⟩] }
  accountAuthSuccess s account auth.lineId

/-- `handleValidationAccountPacket` of a packet that could be parsed. -/
def handleValidationAccountPacket (cfg : Config) (s : State) (guid : UInt64) (account key : Text)
    (now : UInt64) : State :=
  match s.gate.roleMap guid with
  | none => s
  | some i =>
      match validateClientSession cfg s.clientAuthMap key now account with
      | (none, map) => { s with clientAuthMap := map, gate := s.gate.putClientSession i }
      | (some auth, map) =>
          match Access.isValidatedAccountAndIP s.access account (s.accounts i).clientIp
              (now / 1000000) with
          | (false, access) =>
              { s with
                clientAuthMap := map
                access := access
                gate := s.gate.putClientSession i }
          | (true, access) =>
              validated { s with clientAuthMap := map, access := access } guid i auth account key now

/-- The notice that `handle_close` sends for session `i`, when the cooler gets to it; a session that
    came online again sends none. -/
def closeNotice (s : State) (i : SessionId) : Option Notice :=
  if i ∈ s.gate.cleaned then none
  else
    (s.gate.sessions i).bind fun cs =>
      if cs.loginAgain then none
      else some (.logoff (s.accounts i).accountId cs.lineNo)

/-- What the gate tells the member system while something happens to its sessions. -/
def gateNotices (s : State) : Gate.Act → List Notice
  | .close i => (closeNotice s i).toList
  | _ => []

/-- The sessions have moved on, with notices. -/
def State.moved (s : State) (gate : GateState) (notices : List Notice) : State :=
  { s with gate := gate, loginStream := s.loginStream ++ notices }

/-! ## §4. Steps. -/

/-- What happens at a gate and between it and the member system. -/
inductive Act
  | memberLogin (login : MemberLogin) (now : UInt64)
  /-- A client connects from an address. -/
  | connect (ip : Text)
  /-- `CMSG_VALIATION_ACCOUNT` of the client with a guid. -/
  | validate (guid : UInt64) (account key : Text) (now : UInt64)
  /-- A command of the master about addresses and accounts. -/
  | master (a : Access.Act)
  /-- Everything else that happens to sessions; a validation that could not be parsed is a `drop`. -/
  | gate (a : Gate.Act)
  /-- The member system receives the oldest notice. -/
  | deliver

/-- One step. -/
def step (cfg : Config) (s : State) : Act → Option State
  | .memberLogin login now => some (handleMemberLogin s login now)
  | .connect ip =>
      (Gate.step s.gate .connect).map fun gate =>
        { s with
          gate := gate
          accounts := Function.update s.accounts s.gate.next { clientIp := ip } }
  | .validate guid account key now =>
      some (handleValidationAccountPacket cfg s guid account key now)
  | .master a => some { s with access := Access.step s.access a }
  | .gate a =>
      if a = .connect then none
      else
        (Gate.step s.gate a).map fun gate => s.moved gate (gateNotices s a)
  | .deliver =>
      match s.loginStream with
      | [] => none
      | notice :: rest =>
          some { s with loginStream := rest, member := s.member.receive notice }

/-- A gate and the member system as a transition system. -/
def system (cfg : Config) : TransSys State Act where
  init s := s = init
  step := step cfg

end Steppingstone.Login
