/-
  Steppingstone.Wobble.Model — the output side of the gate's client sessions.

  Every session has a block of bytes that its socket has not taken yet.  A thread of
  `RouteClientPackage::svc` writes the packets of its output list, and keeps the guids whose
  writes stopped half way; it tries these again in every round (`handleWobbleStream`).  A packet is
  handled in one step here, and what the socket says to each send is part of the step's label.
-/
import Steppingstone.Gate.Routing

namespace Steppingstone.Wobble

open Gate

/-! ## §1. The output block. -/

/-- `m_output_msg_block`: the offsets of an `ACE_Message_Block`, with its size. -/
structure MsgBlock where
  size : Nat
  rdPtr : Nat := 0
  wrPtr : Nat := 0
  deriving DecidableEq, Repr

/-- The bytes to be sent. -/
def MsgBlock.length (b : MsgBlock) : Nat := b.wrPtr - b.rdPtr

/-- The room behind them. -/
def MsgBlock.space (b : MsgBlock) : Nat := b.size - b.wrPtr

/-- `crunch` moves what is left to the front. -/
def MsgBlock.crunch (b : MsgBlock) : MsgBlock := { b with rdPtr := 0, wrPtr := b.length }

/-- `copy` of `n` bytes -/
def MsgBlock.copy (b : MsgBlock) (n : Nat) : MsgBlock :=
  if n ≤ b.space then { b with wrPtr := b.wrPtr + n } else b

/-- What `peer().send` returns, and whether the error is one of `EWOULDBLOCK`, `EINTR`, `EAGAIN`. -/
structure SendResult where
  value : Int
  again : Bool
  deriving DecidableEq, Repr

/-- The bytes that were sent are read; the socket takes at most what it was given. -/
def MsgBlock.sent (b : MsgBlock) (r : SendResult) : MsgBlock :=
  if 0 < r.value then { b with rdPtr := min b.wrPtr (b.rdPtr + r.value.toNat) } else b

/-- `PacketStream::stream_size`, with the header the gate keeps -/
def streamSize (body : Nat) : Nat := 12 + body

/-- What `serializeToMsgBlock` does: the block after it, the result, and whether it queued a
    write error. -/
structure Serialized where
  block : MsgBlock
  result : Int
  writeError : Bool

/-- `serializeToMsgBlock` for a packet with a body of this size -/
def serializeToMsgBlock (b : MsgBlock) (body : Nat) : Serialized :=
  let full := b.space < streamSize body
  let writeError := full ∧ b.size < b.length * 2
  let b := if full then b.crunch else b
  if b.space < streamSize body then ⟨b, 0, writeError⟩
  -- `ClientHeader` has 4 bytes
  else ⟨(b.copy 4).copy body, if writeError then -1 else 0, writeError⟩

/-! ## §2. The gate with its output. -/

/-- The packets that a session puts into its thread's input list when its output fails. -/
inductive NoticeCode
  /-- `GMSG_CLIENT_WRITE_ERROR` -/
  | writeError
  /-- `GMSG_CLIENT_WOBBLE` -/
  | wobble
  deriving DecidableEq, Repr

/-- A packet for the input threads. -/
structure Notice where
  opcode : NoticeCode
  guid : UInt64
  deriving DecidableEq, Repr

/-- The gate with the output of its sessions. -/
structure State where
  gate : GateState
  blocks : SessionId → MsgBlock
  /-- `m_output_wobble_time` -/
  wobbleTime : SessionId → Nat
  /-- In the input lists of the threads. -/
  notices : List Notice
  /-- The set `wobble_guid` of each thread. -/
  wobbleGuid : Nat → List UInt64

/-- The state with another output block of a session. -/
def State.setBlock (s : State) (i : SessionId) (b : MsgBlock) : State :=
  { s with blocks := Function.update s.blocks i b }

/-- A notice for the input threads. -/
def State.putInputPacket (s : State) (opcode : NoticeCode) (guid : UInt64) : State :=
  { s with notices := s.notices ++ [⟨opcode, guid⟩] }

/-- The state with another wobble time of a session. -/
def State.setWobbleTime (s : State) (i : SessionId) (n : Nat) : State :=
  { s with wobbleTime := Function.update s.wobbleTime i n }

/-- `wobble_guid.insert` -/
def State.insertWobble (s : State) (t : Nat) (guid : UInt64) : State :=
  if guid ∈ s.wobbleGuid t then s
  else { s with wobbleGuid := Function.update s.wobbleGuid t (s.wobbleGuid t ++ [guid]) }

/-- `m_account_info.role_guid` -/
def State.roleGuid (s : State) (i : SessionId) : UInt64 :=
  ((s.gate.sessions i).map (·.roleGuid)).getD 0

/-! ## §3. Writing to a session. -/

/-- `ClientSession::handleOutputStream` of a packet for `guid` -/
def handleOutputStream (s : State) (i : SessionId) (guid : UInt64) (body : Nat) (r : SendResult) :
    State × Int :=
  let z := serializeToMsgBlock (s.blocks i) body
  let s := if z.writeError then s.putInputPacket .writeError guid else s
  if z.block.length = 0 then (s.setBlock i z.block, 0)
  else
    let b := z.block.sent r
    let s := s.setBlock i b
    if r.value < 0 ∧ ¬ r.again then (s.putInputPacket .writeError (s.roleGuid i), 0)
    else
      let result := if r.value < 0 then 1 else if 0 < b.length then 1 else 0
      (s, if z.result = -1 then 0 else result)

/-- `ClientSession::wt_stream` -/
def wtStream (s : State) (i : SessionId) (r : SendResult) : State × Int :=
  if (s.blocks i).length = 0 then (s, 0)
  else if 0 < r.value then
    let b := (s.blocks i).sent r
    (s.setBlock i b.crunch, if b.length ≠ 0 then 1 else 0)
  else if r.again then (s, 1)
  else (s.putInputPacket .writeError (s.roleGuid i), 0)

/-- One guid of `handleWobbleStream` -/
def retry (t : Nat) (rs : UInt64 → SendResult) (s : State) (guid : UInt64) : State :=
  match s.gate.roleMap guid with
  | none => s
  | some i =>
      let (s, result) := wtStream s i (rs guid)
      if result = 1 then
        let s := s.setWobbleTime i (s.wobbleTime i + 1)
        if s.wobbleTime i = 30 then s.putInputPacket .wobble guid
        else (s.setWobbleTime i 0).insertWobble t guid
      else s

/-- `handleWobbleStream` of thread `t` -/
def handleWobbleStream (s : State) (t : Nat) (rs : UInt64 → SendResult) : State :=
  (s.wobbleGuid t).foldl (retry t rs) { s with wobbleGuid := Function.update s.wobbleGuid t [] }

/-- What is in the packets from the role server, the game servers and the master. -/
inductive Output
  /-- `SMSG_PLAYER_MAKE` -/
  | playerMake (info : AccountRoleInfo)
  /-- `SMSG_REQUEST_PLAYER_LIST`, with the role that the reply offers -/
  | requestPlayerList (info : Option AccountRoleInfo)
  /-- `SMSG_PLAYER_JUMP_MAP` -/
  | jumpMap (mapId : UInt32) (found : Bool)
  /-- `CMSG_LOOPBACK` -/
  | loopback
  /-- `GMSG_PLAYER_KICK_OFF` -/
  | kickOff
  /-- `SMSG_PLAYER_LEAVE_MAP`, which does nothing; likewise any of the above that does not parse. -/
  | leaveMap
  | other
  deriving DecidableEq, Repr

/-- A handler that writes to the client and goes on without the result. -/
def writeDirect (s : State) (guid : UInt64) (body : Nat) (r : SendResult) : State :=
  match s.gate.roleMap guid with
  | some i => (handleOutputStream s i guid body r).1
  | none => s

/-- A step of the role map's own. -/
def State.onGate (s : State) (a : Gate.Act) : State :=
  { s with gate := (Gate.step s.gate a).getD s.gate }

/-- `handleOutputPackage`; `body` is the size of what is written to the client. -/
def handleOutputPackage (s : State) (p : Output) (guid : UInt64) (body : Nat) (r : SendResult) :
    State × Int :=
  match p with
  | .playerMake info => (writeDirect (s.onGate (.roleList guid (some info))) guid body r, 0)
  | .requestPlayerList info => (writeDirect (s.onGate (.roleList guid info)) guid body r, 0)
  | .jumpMap mapId found =>
      let s := s.onGate (.jumpMap guid mapId found)
      (if found then writeDirect s guid body r else s, 0)
  | .loopback => (writeDirect s guid body r, 0)
  | .kickOff => (s.onGate (.drop guid false), 0)
  | .leaveMap => (s, 0)
  | .other =>
      match s.gate.roleMap guid with
      | some i => handleOutputStream s i guid body r
      | none => (s, 0)

/-! ## §4. Entering the game. -/

/-- `clientEnterMap` with `make_route` -/
def clientEnterMap (s : GateState) (clientGuid roleGuid : UInt64) (found : Bool) : GateState :=
  match s.roleMap clientGuid with
  | none => s
  | some i =>
      match (s.sessions i).bind fun cs => cs.getAccountRoleInfo roleGuid with
      | some info =>
          let temp := ((s.sessions i).map (·.roleGuid)).getD 0
          let s := (changeClientRoute s i temp roleGuid).modify i fun cs =>
            { cs with lineNo := info.lineId, roleLocation := makeMapGuid info.mapId }
          if found then
            (s.send (.enterMap info.guid (makeMapGuid info.mapId) info.lineId)).modify i fun cs =>
              { cs with enteredGame := true }
          else
            match s.roleMap clientGuid with
            | some i' => (s.modify i' fun cs => { cs with notFoundGS := true }).putClientSession i'
            | none => s
      | none => s.putClientSession i

/-- `handleEnterMap` -/
def handleEnterMap (s : GateState) (guid role : UInt64) (found : Bool) : GateState :=
  match (s.roleMap guid).bind s.sessions with
  | none => s
  | some cs =>
      if cs.canEnterGame then clientEnterMap (cleanRoleAndLogoff s role) guid role found else s

/-! ## §5. Steps. -/

/-- What the clients and the threads of the gate do. -/
inductive Act
  /-- `ClientSession::open` -/
  | connect
  /-- `CMSG_PLAYER_ENTER_MAP` -/
  | enterMap (guid role : UInt64) (found : Bool)
  /-- Log off, read error, beat timeout and the like; see `Gate.Act.drop`. -/
  | drop (guid : UInt64) (notFound : Bool)
  | dropSession (i : SessionId)
  | cleanPlayerInfo (guid : UInt64)
  /-- A failed validation: `SMSG_ERROR`, and into the cooler. -/
  | authFailed (guid : UInt64) (body : Nat) (r : SendResult)
  /-- Notice `k` is taken from its list: `handleClientWriteError`, `handleClientWobbleError`. -/
  | notice (k : Nat)
  /-- Thread `t` takes a packet from its output list. -/
  | output (t : Nat) (p : Output) (guid : UInt64) (body : Nat) (r : SendResult)
  /-- Thread `t` comes to `handleWobbleStream`. -/
  | wobbleStream (t : Nat) (rs : UInt64 → SendResult)
  /-- The cooler closes a session. -/
  | close (i : SessionId)
  /-- The cooler deletes a closed session. -/
  | expire (i : SessionId)

/-- The gate before its first client. -/
def init : State where
  gate := Gate.init
  blocks := fun _ => { size := 0 }
  wobbleTime := fun _ => 0
  notices := []
  wobbleGuid := fun _ => []

/-- Steps that are the role map's alone. -/
def State.gateStep (s : State) (a : Gate.Act) : Option State :=
  (Gate.step s.gate a).map fun g => { s with gate := g }

/-- One step; the block of a new session has `size` bytes (`socket_buffer_length`). -/
def step (size : Nat) (s : State) : Act → Option State
  | .connect =>
      (s.gateStep .connect).map fun s' =>
        (s'.setBlock s.gate.next { size := size }).setWobbleTime s.gate.next 0
  | .enterMap guid role found => some { s with gate := handleEnterMap s.gate guid role found }
  | .drop guid notFound => s.gateStep (.drop guid notFound)
  | .dropSession i => s.gateStep (.dropSession i)
  | .cleanPlayerInfo guid => s.gateStep (.cleanPlayerInfo guid)
  | .authFailed guid body r => some ((writeDirect s guid body r).onGate (.drop guid false))
  | .notice k =>
      (s.notices[k]?).map fun n =>
        { s with notices := s.notices.eraseIdx k }.onGate (.drop n.guid false)
  | .output t p guid body r =>
      let (s', result) := handleOutputPackage s p guid body r
      some (if result = 1 then s'.insertWobble t guid else s')
  | .wobbleStream t rs => some (handleWobbleStream s t rs)
  | .close i => s.gateStep (.close i)
  | .expire i => s.gateStep (.expire i)

/-- The system; `size` is the configured size of a block. -/
def system (size : Nat) : TransSys State Act where
  init s := s = init
  step := step size

end Steppingstone.Wobble
