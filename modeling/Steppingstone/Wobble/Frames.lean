/-
  Steppingstone.Wobble.Frames — the bytes that a client session writes.

  `Wobble.Model` keeps of an output block its offsets only.  Here the block has its bytes: a packet
  is put behind what the socket has not taken yet, as a `ClientHeader` and its body, or it is not
  put there at all; and the socket takes from the front.
-/
import Steppingstone.Lib.Block
import Steppingstone.Lib.LittleEndian
import Steppingstone.Lib.Outbox
import Steppingstone.Wobble.Model

namespace Steppingstone.Wobble

open Gate LittleEndian

/-! ## §1. Packets and the session. -/

/-- `PacketStream`, as it is made from a message. -/
structure PacketStream where
  opcode : UInt16
  guid : UInt64
  msg : List UInt8
  deriving DecidableEq

namespace PacketStream

variable (ps : PacketStream)

/-- `body_size`: the 16 bits of the header. -/
def bodySize : UInt16 := UInt16.ofNat ps.msg.length

/-- `m_total_size` -/
def totalSize : Nat := streamSize ps.msg.length

/-- The bytes of a `ClientHeader`. -/
def clientHeader : List UInt8 := toBytes 2 ps.opcode.toNat ++ toBytes 2 ps.bodySize.toNat

/-- The `body_size()` bytes of `pe_body()` -/
def peBody : List UInt8 := ps.msg.take ps.bodySize.toNat

/-- The length of the body has 16 bits. -/
def Fits : Prop := ps.msg.length ≤ 65535

instance : Decidable ps.Fits := inferInstanceAs (Decidable (_ ≤ _))

/-- **The complete frame** of a packet: opcode, length and body. -/
def frame : List UInt8 := toBytes 2 ps.opcode.toNat ++ toBytes 2 ps.msg.length ++ ps.msg

end PacketStream

/-- The output half of a `ClientSession`. -/
structure ClientOutput where
  outputMsgBlock : Block UInt8
  /-- `m_account_info.role_guid` -/
  roleGuid : UInt64 := 0
  /-- What the session has put into its thread's input list. -/
  notices : List Notice := []
  /-- Ghost: the bytes that the socket has taken. -/
  handed : List UInt8 := []
  /-- Ghost: the packets that were to be written, and whether each was dropped. -/
  log : List (PacketStream × Bool) := []
  deriving DecidableEq

namespace ClientOutput

variable (s : ClientOutput)

/-- A notice for the input threads. -/
def putInputPacket (opcode : NoticeCode) (guid : UInt64) : ClientOutput :=
  { s with notices := s.notices ++ [⟨opcode, guid⟩] }

/-- The first half of `serializeToMsgBlock`: a block without space for the packet is moved to its
front; and whether that block was more than half full, and a write error is queued. -/
def makeSpace (ps : PacketStream) : ClientOutput × Bool :=
  if s.outputMsgBlock.space < ps.totalSize then
    let moved := { s with outputMsgBlock := s.outputMsgBlock.crunch }
    if s.outputMsgBlock.size < s.outputMsgBlock.length * 2 then
      (moved.putInputPacket .writeError ps.guid, true)
    else (moved, false)
  else (s, false)

/-- `serializeToMsgBlock` -/
def serializeToMsgBlock (ps : PacketStream) : ClientOutput × Int :=
  let (s, failed) := s.makeSpace ps
  if s.outputMsgBlock.space < ps.totalSize then ({ s with log := s.log ++ [(ps, true)] }, 0)
  else
    ({ s with
      outputMsgBlock := (s.outputMsgBlock.copy ps.clientHeader).copy ps.peBody
      log := s.log ++ [(ps, false)] }, if failed then -1 else 0)

/-- `m_output_msg_block.rd_ptr(r)`, if anything was sent. -/
def sent (r : SendResult) : ClientOutput :=
  if 0 < r.value then
    { s with
      outputMsgBlock := s.outputMsgBlock.read r.value.toNat
      handed := s.handed ++ s.outputMsgBlock.bytes.take r.value.toNat }
  else s

/-- `handleOutputStream` -/
def handleOutputStream (ps : PacketStream) (r : SendResult) : ClientOutput × Int :=
  let (s, serializeResult) := s.serializeToMsgBlock ps
  if s.outputMsgBlock.length = 0 then (s, 0)
  else
    let s := s.sent r
    if r.value < 0 ∧ ¬ r.again then (s.putInputPacket .writeError s.roleGuid, 0)
    else
      let result := if r.value < 0 then 1 else if 0 < s.outputMsgBlock.length then 1 else 0
      (s, if serializeResult = -1 then 0 else result)

/-- `wt_stream` -/
def wtStream (r : SendResult) : ClientOutput × Int :=
  if s.outputMsgBlock.length = 0 then (s, 0)
  else if 0 < r.value then
    let s := s.sent r
    ({ s with outputMsgBlock := s.outputMsgBlock.crunch },
      if s.outputMsgBlock.length ≠ 0 then 1 else 0)
  else if r.again then (s, 1)
  else (s.putInputPacket .writeError s.roleGuid, 0)

/-- The packets that were not dropped. -/
def kept : List PacketStream := (s.log.filter fun entry => !entry.2).map Prod.fst

/-- All packets, dropped or not. -/
def sentTo : List PacketStream := s.log.map Prod.fst

end ClientOutput

/-- What the threads do with a session. -/
inductive ClientAct where
  | handleOutputStream (ps : PacketStream) (r : SendResult)
  | wtStream (r : SendResult)
  /-- The session gets another `role_guid`. -/
  | setRoleGuid (guid : UInt64)
  deriving DecidableEq

/-- The bodies have at most 65535 bytes. -/
def ClientAct.Fits : ClientAct → Prop
  | .handleOutputStream ps _ => ps.Fits
  | .wtStream _ => True
  | .setRoleGuid _ => True

instance (a : ClientAct) : Decidable a.Fits := by
  cases a <;> unfold ClientAct.Fits <;> infer_instance

/-- The packet that is to be written. -/
def ClientAct.packet : ClientAct → Option PacketStream
  | .handleOutputStream ps _ => some ps
  | .wtStream _ => none
  | .setRoleGuid _ => none

/-- A session whose block has `size` bytes. -/
def clientSystem (size : Nat) : TransSys ClientOutput ClientAct where
  init s := s = { outputMsgBlock := .empty size }
  step s
    | .handleOutputStream ps r => some (s.handleOutputStream ps r).1
    | .wtStream r => some (s.wtStream r).1
    | .setRoleGuid guid => some { s with roleGuid := guid }

/-- **The output is a sequence of whole frames**: those of the packets that were not dropped, of
which the socket has got the first bytes and the block has the others. -/
structure ClientOutput.Framed (s : ClientOutput) : Prop where
  handed : s.handed <+: s.kept.flatMap PacketStream.frame
  all : s.handed ++ s.outputMsgBlock.bytes = s.kept.flatMap PacketStream.frame

/-- A packet is dropped whole or framed whole. -/
def ClientOutput.Whole (s : ClientOutput) (ps : PacketStream) : Prop :=
  (s.serializeToMsgBlock ps).1.log = s.log ++ [(ps, true)] ∧
      (s.serializeToMsgBlock ps).1.outputMsgBlock.bytes = s.outputMsgBlock.bytes ∨
    (s.serializeToMsgBlock ps).1.log = s.log ++ [(ps, false)] ∧
      (s.serializeToMsgBlock ps).1.outputMsgBlock.bytes = s.outputMsgBlock.bytes ++ ps.frame

/-! ## §2. One packet. -/

namespace PacketStream

variable {ps : PacketStream}

/-- The head has four bytes. -/
theorem clientHeader_length : ps.clientHeader.length = 4 := by
  unfold clientHeader
  rw [List.length_append, length_toBytes, length_toBytes]

theorem peBody_length : ps.peBody.length ≤ ps.msg.length := List.length_take_le' ..

/-- A body that fits keeps its size. -/
theorem bodySize_of_fits (h : ps.Fits) : ps.bodySize.toNat = ps.msg.length := by
  unfold Fits at h
  unfold bodySize
  rw [UInt16.toNat_ofNat']
  exact Nat.mod_eq_of_lt (by omega)

/-- What is copied of a packet whose body fits. -/
theorem header_append_body (h : ps.Fits) : ps.clientHeader ++ ps.peBody = ps.frame := by
  unfold clientHeader peBody frame
  rw [bodySize_of_fits h, List.take_length]

end PacketStream

namespace ClientOutput

variable {s : ClientOutput} {ps : PacketStream}

/-- A block with space for the packet has space for its header and then for its body. -/
theorem copy_copy {b : Block UInt8} (h : ps.totalSize ≤ b.space) :
    ((b.copy ps.clientHeader).copy ps.peBody).bytes
      = b.bytes ++ (ps.clientHeader ++ ps.peBody) := by
  have hheader := ps.clientHeader_length
  have hbody := ps.peBody_length
  have htotal : ps.totalSize = 12 + ps.msg.length := rfl
  have hspace : (b.copy ps.clientHeader).space = b.space - ps.clientHeader.length :=
    b.space_copy (by omega)
  rw [Block.copy_of_le _ (by omega), Block.copy_of_le _ (by omega), List.append_assoc]

/-- Making space leaves the bytes. -/
theorem makeSpace_bytes (ps : PacketStream) :
    (s.makeSpace ps).1.outputMsgBlock.bytes = s.outputMsgBlock.bytes := by
  unfold makeSpace
  repeat' split
  all_goals rfl

theorem makeSpace_handed (ps : PacketStream) : (s.makeSpace ps).1.handed = s.handed := by
  unfold makeSpace
  repeat' split
  all_goals rfl

theorem makeSpace_log (ps : PacketStream) : (s.makeSpace ps).1.log = s.log := by
  unfold makeSpace
  repeat' split
  all_goals rfl

theorem serializeToMsgBlock_handed (ps : PacketStream) :
    (s.serializeToMsgBlock ps).1.handed = s.handed := by
  rw [← s.makeSpace_handed ps]
  unfold serializeToMsgBlock
  dsimp only
  split <;> rfl

/-- Every packet is logged. -/
theorem serializeToMsgBlock_sentTo (ps : PacketStream) :
    (s.serializeToMsgBlock ps).1.sentTo = s.sentTo ++ [ps] := by
  unfold sentTo
  rw [← s.makeSpace_log ps]
  unfold serializeToMsgBlock
  dsimp only
  split
  · exact List.map_append
  · exact List.map_append

/-- **A packet** is framed whole behind what is there, or dropped whole. -/
theorem serializeToMsgBlock_whole (h : ps.Fits) : s.Whole ps := by
  unfold Whole
  rw [← s.makeSpace_bytes ps, ← s.makeSpace_log ps]
  unfold serializeToMsgBlock
  dsimp only
  split
  · exact Or.inl ⟨rfl, rfl⟩
  · next hspace =>
      refine Or.inr ⟨rfl, ?_⟩
      show (Block.copy (Block.copy _ _) _).bytes = _
      rw [copy_copy (Nat.not_lt.mp hspace), PacketStream.header_append_body h]

/-! ## §3. The session is an outbox. -/

/-- The session's output, as an outbox. -/
def toOutbox (s : ClientOutput) : Outbox UInt8 where
  handed := s.handed
  pending := s.outputMsgBlock.bytes

/-- What the socket takes, it takes from the front. -/
theorem sent_toOutbox (r : SendResult) : (s.sent r).toOutbox = s.toOutbox.take r.value.toNat := by
  unfold sent
  split
  · rfl
  · next hnone =>
      rw [Int.toNat_of_nonpos (by omega), Outbox.take_zero]

theorem sent_log (r : SendResult) : (s.sent r).log = s.log := by
  unfold sent
  split <;> rfl

/-- A packet that is handled is put, if it is not dropped, and then something is taken. -/
theorem handleOutputStream_toOutbox (ps : PacketStream) (r : SendResult) :
    ∃ n, (s.handleOutputStream ps r).1.toOutbox = (s.serializeToMsgBlock ps).1.toOutbox.take n ∧
      (s.handleOutputStream ps r).1.log = (s.serializeToMsgBlock ps).1.log := by
  unfold handleOutputStream
  dsimp only
  split
  · exact ⟨0, (Outbox.take_zero _).symm, rfl⟩
  · split
    · exact ⟨r.value.toNat, sent_toOutbox r, sent_log r⟩
    · exact ⟨r.value.toNat, sent_toOutbox r, sent_log r⟩

/-- A round takes some bytes and logs nothing. -/
theorem wtStream_toOutbox (r : SendResult) :
    ∃ n, (s.wtStream r).1.toOutbox = s.toOutbox.take n ∧ (s.wtStream r).1.log = s.log := by
  unfold wtStream
  split
  · exact ⟨0, (Outbox.take_zero _).symm, rfl⟩
  · split
    · exact ⟨r.value.toNat, sent_toOutbox r, sent_log r⟩
    · split
      · exact ⟨0, (Outbox.take_zero _).symm, rfl⟩
      · exact ⟨0, (Outbox.take_zero _).symm, rfl⟩

/-- **The invariant**: what was handed over and what is in the block are the frames. -/
def InFrames (s : ClientOutput) : Prop :=
  s.toOutbox.all = s.kept.flatMap PacketStream.frame

theorem kept_of_log {t : ClientOutput} (h : t.log = s.log) : t.kept = s.kept := by
  unfold kept
  rw [h]

/-- Serializing a packet keeps whole frames. -/
theorem InFrames.serialize (h : s.InFrames) (hps : ps.Fits) :
    (s.serializeToMsgBlock ps).1.InFrames := by
  have hhanded := s.serializeToMsgBlock_handed ps
  unfold InFrames toOutbox Outbox.all kept at *
  match s.serializeToMsgBlock_whole hps with
  | Or.inl ⟨hlog, hbytes⟩ =>
      rw [hhanded, hbytes, hlog, h, List.filter_append]
      simp
  | Or.inr ⟨hlog, hbytes⟩ =>
      rw [hhanded, hbytes, hlog, ← List.append_assoc, h, List.filter_append]
      simp

/-- A packet that is output keeps whole frames. -/
theorem InFrames.handleOutputStream (h : s.InFrames) (hps : ps.Fits) (r : SendResult) :
    (s.handleOutputStream ps r).1.InFrames := by
  have hput := h.serialize hps
  obtain ⟨n, htake, hlog⟩ := s.handleOutputStream_toOutbox ps r
  unfold InFrames at *
  rw [htake, Outbox.all_take, kept_of_log hlog]
  exact hput

/-- A round keeps whole frames. -/
theorem InFrames.wtStream (h : s.InFrames) (r : SendResult) : (s.wtStream r).1.InFrames := by
  obtain ⟨n, htake, hlog⟩ := s.wtStream_toOutbox r
  unfold InFrames at *
  rw [htake, Outbox.all_take, kept_of_log hlog]
  exact h

theorem InFrames.framed (h : s.InFrames) : s.Framed where
  handed := h ▸ s.toOutbox.handed_prefix
  all := h

end ClientOutput

/-! ## §4. Every run. -/

namespace ClientOutput

variable {size : Nat} {s s' : ClientOutput} {a : ClientAct}

/-- **Every step** keeps whole frames. -/
theorem InFrames.step (h : s.InFrames) (hfits : a.Fits)
    (hst : (clientSystem size).step s a = some s') : s'.InFrames := by
  cases a with
  | handleOutputStream ps r =>
      rw [← Option.some.inj hst]
      exact h.handleOutputStream hfits r
  | wtStream r =>
      rw [← Option.some.inj hst]
      exact h.wtStream r
  | setRoleGuid guid =>
      rw [← Option.some.inj hst]
      exact h

/-- A step adds at most its packet. -/
theorem sentTo_step (hst : (clientSystem size).step s a = some s') :
    s'.sentTo = s.sentTo ++ a.packet.toList := by
  cases a with
  | handleOutputStream ps r =>
      obtain ⟨-, -, hlog⟩ := s.handleOutputStream_toOutbox ps r
      rw [← Option.some.inj hst]
      exact (congrArg (List.map Prod.fst) hlog).trans (s.serializeToMsgBlock_sentTo ps)
  | wtStream r =>
      obtain ⟨-, -, hlog⟩ := s.wtStream_toOutbox r
      rw [← Option.some.inj hst]
      exact (congrArg (List.map Prod.fst) hlog).trans (List.append_nil _).symm
  | setRoleGuid guid =>
      rw [← Option.some.inj hst]
      exact (List.append_nil _).symm

/-- The log has the packets of the run. -/
theorem sentTo_run {as : List ClientAct} (hrun : (clientSystem size).run s as = some s') :
    s'.sentTo = s.sentTo ++ as.filterMap ClientAct.packet := by
  induction as generalizing s with
  | nil =>
      rw [← Option.some.inj hrun]
      exact (List.append_nil _).symm
  | cons a as ih =>
      obtain ⟨m, hst, hrest⟩ := TransSys.run_cons_eq_some.mp hrun
      rw [ih hrest, sentTo_step hst, List.append_assoc]
      cases hpacket : a.packet with
      | none => rw [List.filterMap_cons_none hpacket, Option.toList_none, List.nil_append]
      | some ps => rw [List.filterMap_cons_some hpacket, Option.toList_some, List.singleton_append]

end ClientOutput

/-- **Whatever the socket takes**, whatever fits and whatever is tried again: the output is a
sequence of whole frames, each packet of the run is kept or dropped, and the next is framed whole
or dropped whole. -/
theorem client_frames {size : Nat} {as : List ClientAct} {s : ClientOutput}
    (hfits : ∀ a ∈ as, a.Fits)
    (hrun : (clientSystem size).run { outputMsgBlock := .empty size } as = some s) :
    s.Framed ∧ s.sentTo = as.filterMap ClientAct.packet ∧
      ∀ ps : PacketStream, ps.Fits → s.Whole ps := by
  refine ⟨?_, ClientOutput.sentTo_run hrun, fun _ => ClientOutput.serializeToMsgBlock_whole⟩
  have hinit : ClientOutput.InFrames { outputMsgBlock := .empty size } := rfl
  have hframes : s.InFrames := TransSys.run_invariant_of_forall
    (fun _ _ _ h hfits hst => ClientOutput.InFrames.step h hfits hst) hinit hfits hrun
  exact hframes.framed

/-- Three packets, of which a block of 20 bytes has no space for the second. -/
def threePackets : List ClientAct :=
  [.handleOutputStream ⟨1, 7, [1, 2]⟩ ⟨3, false⟩,
    .handleOutputStream ⟨2, 7, [3, 4, 5, 6, 7, 8]⟩ ⟨0, false⟩,
    .wtStream ⟨-1, true⟩,
    .handleOutputStream ⟨3, 7, []⟩ ⟨1, false⟩]

/-- A run of three packets. -/
theorem client_frames_threePackets :
    ∃ s, (clientSystem 20).run { outputMsgBlock := .empty 20 } threePackets = some s ∧
      s.kept.map PacketStream.opcode = [1, 3] ∧ s.Framed := by
  have hkept : ((clientSystem 20).run { outputMsgBlock := .empty 20 } threePackets).map
      (fun s => s.kept.map PacketStream.opcode) = some [1, 3] := by decide
  obtain ⟨s, hrun, hs⟩ := Option.map_eq_some_iff.mp hkept
  exact ⟨s, hrun, hs, (client_frames (by decide) hrun).1⟩

/-! ## §5. The offsets. -/

/-- The offsets of a block. -/
def toMsgBlock (b : Block UInt8) : MsgBlock where
  size := b.size
  rdPtr := b.rdPtr
  wrPtr := b.wrPtr

theorem toMsgBlock_length (b : Block UInt8) : (toMsgBlock b).length = b.length := by
  show b.rdPtr + b.bytes.length - b.rdPtr = b.bytes.length
  omega

theorem toMsgBlock_space (b : Block UInt8) : (toMsgBlock b).space = b.space := rfl

theorem toMsgBlock_crunch (b : Block UInt8) : toMsgBlock b.crunch = (toMsgBlock b).crunch := by
  unfold MsgBlock.crunch
  rw [toMsgBlock_length]
  show MsgBlock.mk b.size 0 (0 + b.bytes.length) = _
  rw [Nat.zero_add]
  rfl

theorem toMsgBlock_copy (b : Block UInt8) (xs : List UInt8) :
    toMsgBlock (b.copy xs) = (toMsgBlock b).copy xs.length := by
  unfold MsgBlock.copy
  rw [toMsgBlock_space]
  split
  · next hspace =>
      unfold toMsgBlock Block.wrPtr
      rw [b.copy_of_le hspace, Block.copy_size, Block.copy_rdPtr, List.length_append,
        Nat.add_assoc]
  · next hspace => rw [b.copy_of_lt (Nat.not_le.mp hspace)]

theorem toMsgBlock_sent (s : ClientOutput) (r : SendResult) :
    toMsgBlock (s.sent r).outputMsgBlock = (toMsgBlock s.outputMsgBlock).sent r := by
  unfold ClientOutput.sent MsgBlock.sent
  split
  · have hread : s.outputMsgBlock.rdPtr + min r.value.toNat s.outputMsgBlock.bytes.length
        = min (s.outputMsgBlock.rdPtr + s.outputMsgBlock.bytes.length)
          (s.outputMsgBlock.rdPtr + r.value.toNat) := by omega
    have hwrite : s.outputMsgBlock.rdPtr + min r.value.toNat s.outputMsgBlock.bytes.length
        + (s.outputMsgBlock.bytes.drop r.value.toNat).length
          = s.outputMsgBlock.rdPtr + s.outputMsgBlock.bytes.length := by
      rw [List.length_drop]
      omega
    exact congrArg₂ (MsgBlock.mk s.outputMsgBlock.size) hread hwrite
  · rfl

namespace ClientOutput

variable {s : ClientOutput} {ps : PacketStream}

/-- Session `i` of the gate has the session's output. -/
structure Agrees (s : ClientOutput) (t : State) (i : SessionId) : Prop where
  block : t.blocks i = toMsgBlock s.outputMsgBlock
  roleGuid : t.roleGuid i = s.roleGuid

/-- A step of the session and one of the gate: they agree after it, have the same result, and have
queued the same. -/
structure SameStep (s : ClientOutput) (t : State) (i : SessionId) (after : ClientOutput × Int)
    (after' : State × Int) : Prop where
  agrees : after.1.Agrees after'.1 i
  result : after.2 = after'.2
  notices : ∃ new, after.1.notices = s.notices ++ new ∧ after'.1.notices = t.notices ++ new

theorem Agrees.setBlock {t : State} {i : SessionId} (h : t.roleGuid i = s.roleGuid)
    {b : MsgBlock} (hb : b = toMsgBlock s.outputMsgBlock) : s.Agrees (t.setBlock i b) i where
  block := (Function.update_self ..).trans hb
  roleGuid := h

/-- A packet is put into the block, or not, as its length alone decides. -/
theorem serializeToMsgBlock_agrees (hps : ps.Fits) {z : Serialized}
    (hz : Wobble.serializeToMsgBlock (toMsgBlock s.outputMsgBlock) ps.msg.length = z) :
    toMsgBlock (s.serializeToMsgBlock ps).1.outputMsgBlock = z.block ∧
      (s.serializeToMsgBlock ps).2 = z.result ∧
      (s.serializeToMsgBlock ps).1.roleGuid = s.roleGuid ∧
      (s.serializeToMsgBlock ps).1.notices
        = s.notices ++ if z.writeError = true then [⟨.writeError, ps.guid⟩] else [] := by
  have hbody : ps.peBody.length = ps.msg.length := by
    unfold PacketStream.peBody
    rw [PacketStream.bodySize_of_fits hps, List.take_length]
  have hcopy : ∀ b : Block UInt8, toMsgBlock ((b.copy ps.clientHeader).copy ps.peBody)
      = ((toMsgBlock b).copy 4).copy ps.msg.length := by
    intro b
    rw [toMsgBlock_copy, toMsgBlock_copy, PacketStream.clientHeader_length, hbody]
  rw [← hz]
  unfold serializeToMsgBlock makeSpace Wobble.serializeToMsgBlock
  rw [toMsgBlock_length, toMsgBlock_space, ← toMsgBlock_crunch]
  have hsize : (toMsgBlock s.outputMsgBlock).size = s.outputMsgBlock.size := rfl
  have htotal : streamSize ps.msg.length = ps.totalSize := rfl
  rw [hsize, htotal]
  -- no space, more than half of the block unsent, and no space after crunching either
  by_cases hfull : s.outputMsgBlock.space < ps.totalSize
  · by_cases hhalf : s.outputMsgBlock.size < s.outputMsgBlock.length * 2
    · by_cases hdrop : s.outputMsgBlock.crunch.space < ps.totalSize
      · simp [hfull, hhalf, hdrop, toMsgBlock_space, putInputPacket]
      · simp [hfull, hhalf, hdrop, toMsgBlock_space, putInputPacket, hcopy]
    · by_cases hdrop : s.outputMsgBlock.crunch.space < ps.totalSize
      · simp [hfull, hhalf, hdrop, toMsgBlock_space]
      · simp [hfull, hhalf, hdrop, toMsgBlock_space, hcopy]
  · simp [hfull, toMsgBlock_space, hcopy]

/-- Both queue a write error under the guid that they agree on. -/
theorem SameStep.writeError {t : State} {i : SessionId} {u : ClientOutput} {v : State} {a b : Int}
    (h : SameStep s t i (u, a) (v, b)) (c : Int) :
    SameStep s t i (u.putInputPacket .writeError u.roleGuid, c)
      (v.putInputPacket .writeError (v.roleGuid i), c) where
  agrees := ⟨h.agrees.block, h.agrees.roleGuid⟩
  result := rfl
  notices := by
    obtain ⟨new, hu, hv⟩ := h.notices
    have hguid : v.roleGuid i = u.roleGuid := h.agrees.roleGuid
    refine ⟨new ++ [⟨.writeError, u.roleGuid⟩], ?_, ?_⟩
    · rw [← List.append_assoc, ← hu]
      rfl
    · rw [← List.append_assoc, ← hv, hguid]
      rfl

theorem sent_notices (r : SendResult) : (s.sent r).notices = s.notices := by
  unfold sent
  split <;> rfl

theorem sent_roleGuid (r : SendResult) : (s.sent r).roleGuid = s.roleGuid := by
  unfold sent
  split <;> rfl

/-- **Handling a packet** does to the gate's state what it does to the session's. -/
theorem handleOutputStream_agrees {t : State} {i : SessionId} (h : s.Agrees t i) (hps : ps.Fits)
    (r : SendResult) :
    SameStep s t i (s.handleOutputStream ps r)
      (Wobble.handleOutputStream t i ps.guid ps.msg.length r) := by
  obtain ⟨hblock, hresult, hguid, hnotices⟩ := serializeToMsgBlock_agrees (s := s) hps rfl
  rw [← h.block] at hblock hresult hnotices
  -- the gate's state with the write error of the packet
  let noted := if (Wobble.serializeToMsgBlock (t.blocks i) ps.msg.length).writeError = true then
    t.putInputPacket .writeError ps.guid else t
  have hnoted : noted.notices = t.notices ++
      if (Wobble.serializeToMsgBlock (t.blocks i) ps.msg.length).writeError = true then
        [⟨.writeError, ps.guid⟩] else [] := by
    by_cases he : (Wobble.serializeToMsgBlock (t.blocks i) ps.msg.length).writeError = true
    · simp only [noted, if_pos he]
      rfl
    · simp only [noted, if_neg he, List.append_nil]
  have hrole : noted.roleGuid i = (s.serializeToMsgBlock ps).1.roleGuid := by
    rw [hguid, ← h.roleGuid]
    by_cases he : (Wobble.serializeToMsgBlock (t.blocks i) ps.msg.length).writeError = true
    · simp only [noted, if_pos he]
      rfl
    · simp only [noted, if_neg he]
  have hlength := toMsgBlock_length (s.serializeToMsgBlock ps).1.outputMsgBlock
  rw [hblock] at hlength
  have hsent := toMsgBlock_sent (s.serializeToMsgBlock ps).1 r
  rw [hblock] at hsent
  have hrest := toMsgBlock_length ((s.serializeToMsgBlock ps).1.sent r).outputMsgBlock
  rw [hsent] at hrest
  unfold handleOutputStream Wobble.handleOutputStream
  dsimp only
  rw [hlength, hresult, hrest]
  split
  · exact ⟨Agrees.setBlock hrole hblock.symm, rfl, _, hnotices, hnoted⟩
  · have hgiven : SameStep s t i (((s.serializeToMsgBlock ps).1.sent r), 0)
        (noted.setBlock i ((Wobble.serializeToMsgBlock (t.blocks i) ps.msg.length).block.sent r),
          0) := by
      refine ⟨Agrees.setBlock ?_ hsent.symm, rfl, _, ?_, hnoted⟩
      · rw [sent_roleGuid]
        exact hrole
      · rw [sent_notices]
        exact hnotices
    split
    · exact hgiven.writeError 0
    · exact ⟨hgiven.agrees, rfl, hgiven.notices⟩

/-- **Trying again** does to the gate's state what it does to the session's. -/
theorem wtStream_agrees {t : State} {i : SessionId} (h : s.Agrees t i) (r : SendResult) :
    SameStep s t i (s.wtStream r) (Wobble.wtStream t i r) := by
  have hsame : SameStep s t i (s, 0) (t, 0) :=
    ⟨h, rfl, [], (List.append_nil _).symm, (List.append_nil _).symm⟩
  have hlength := toMsgBlock_length s.outputMsgBlock
  have hsent := toMsgBlock_sent s r
  have hrest := toMsgBlock_length (s.sent r).outputMsgBlock
  have hcrunch := toMsgBlock_crunch (s.sent r).outputMsgBlock
  rw [← h.block] at hlength hsent
  rw [hsent] at hrest hcrunch
  unfold wtStream Wobble.wtStream
  dsimp only
  rw [hlength, hrest]
  split
  · -- nothing to send
    exact hsame
  · split
    · -- some of it was sent
      refine ⟨Agrees.setBlock ?_ hcrunch.symm, rfl, [], ?_, (List.append_nil _).symm⟩
      · rw [h.roleGuid]
        exact (sent_roleGuid r).symm
      · rw [List.append_nil]
        exact sent_notices r
    · -- the socket would block, or it failed
      split
      · exact ⟨h, rfl, hsame.notices⟩
      · exact hsame.writeError 0

end ClientOutput

end Steppingstone.Wobble
