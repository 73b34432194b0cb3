/-
  Steppingstone.Client.Input — what the gate reads from a client
  (`ClientSession::handle_input`, `rd_stream`, `parseInputPacket`).

  The client sends frames of a `ClientHeader` and a body, and the session reads
  the stream in pieces of any size into a block of `recv_buffer_length` bytes.
  A frame that announces more than 20000 bytes ends the session; so does, since
  `recv` into no space returns 0 as it does for a closed connection, a frame
  that is longer than the block.
-/
import Steppingstone.Lib.TransSys
import Steppingstone.Wobble.Frames

namespace Steppingstone.Client

open LittleEndian Wobble

/-! ## §1. The session. -/

/-- `ClientHeader`: the opcode and the length of the body. -/
structure ClientHeader where
  opcode : UInt16
  size : UInt16
  deriving DecidableEq, Repr

/-- `memcpy` from the read pointer. -/
def ClientHeader.ofBytes (b : List UInt8) : ClientHeader where
  opcode := UInt16.ofNat (LittleEndian.ofBytes (b.take 2))
  size := UInt16.ofNat (LittleEndian.ofBytes ((b.drop 2).take 2))

/-- The `PacketStream` that is made of a frame. -/
structure InputPacket where
  opcode : UInt16
  guid : UInt64
  roleLocation : UInt64
  lineNo : Int
  body : List UInt8
  deriving DecidableEq, Repr

/-- The input half of a `ClientSession`. -/
structure ClientInput where
  inputMsgBlock : Block UInt8
  /-- `m_account_info.role_guid`, `m_account_info.role_location`, `m_line_no`. -/
  roleGuid : UInt64 := 0
  roleLocation : UInt64 := 0
  lineNo : Int := 0
  /-- The packets of the session in its thread's input list. -/
  packets : List InputPacket := []
  /-- The guids of its `GMSG_CLIENT_READ_ERROR`. -/
  readErrors : List UInt64 := []
  /-- `handle_input` returned -1; the reactor has removed the session. -/
  closed : Bool := false
  /-- Ghost: the bytes of the client that `recv` has not returned. -/
  wire : List UInt8
  deriving DecidableEq

namespace ClientInput

variable (s : ClientInput)

/-- What one pass of the loop comes to. -/
inductive Pass where
  | incomplete
  | tooBig
  | packet (p : InputPacket) (left : Block UInt8)

/-- One pass of the loop of `ClientSession::parseInputPacket`. -/
def parsePass : Pass :=
  if s.inputMsgBlock.length < 4 then .incomplete
  else
    let header := ClientHeader.ofBytes s.inputMsgBlock.bytes
    if 20000 < header.size.toNat then .tooBig
    else if s.inputMsgBlock.length ≥ 4 + header.size.toNat then
      let body := s.inputMsgBlock.read 4
      .packet ⟨header.opcode, s.roleGuid, s.roleLocation, s.lineNo,
        body.bytes.take header.size.toNat⟩ (body.read header.size.toNat)
    else .incomplete

/-- `parseInputPacket` in at most so many passes, and its result. -/
def parseInputPacket : Nat → ClientInput → Option (ClientInput × Int)
  | 0, _ => none
  | passes + 1, s =>
      match s.parsePass with
      | .incomplete => some ({ s with inputMsgBlock := s.inputMsgBlock.crunch }, 0)
      | .tooBig => some (s, -1)
      | .packet p left =>
          parseInputPacket passes { s with inputMsgBlock := left, packets := s.packets ++ [p] }

/-- What `recv` into the space of the block has returned: `n` bytes, or with 0 that there are none
yet. -/
def received (n : Nat) : ClientInput :=
  { s with
    inputMsgBlock := s.inputMsgBlock.copy (s.wire.take n)
    wire := s.wire.drop n }

/-- `rd_stream`.  For no space at all `recv` returns 0. -/
def rdStream (n : Nat) : Option (ClientInput × Int) :=
  if s.inputMsgBlock.space = 0 then some (s, -1)
  else if n = 0 then some (s, 0)
  else parseInputPacket ((s.received n).inputMsgBlock.length + 1) (s.received n)

/-- `handle_input` with the result of `rd_stream`. -/
def handleInput (result : Int) : ClientInput :=
  if result = -1 then { s with readErrors := s.readErrors ++ [s.roleGuid], closed := true } else s

end ClientInput

/-- What happens to a client session: something to read, or a change of its role. -/
inductive Act where
  /-- The reactor finds something to read. -/
  | handleInput (n : Nat)
  /-- The role that the session plays, and where. -/
  | account (roleGuid roleLocation : UInt64) (lineNo : Int)
  deriving DecidableEq

/-- One step of the session, where the reactor can take it. -/
def step (s : ClientInput) : Act → Option ClientInput
  | .handleInput n =>
      if s.closed = false ∧ s.wire ≠ [] ∧ n ≤ s.wire.length ∧ n ≤ s.inputMsgBlock.space then
        (s.rdStream n).map fun r => r.1.handleInput r.2
      else none
  | .account roleGuid roleLocation lineNo => some { s with roleGuid, roleLocation, lineNo }

/-- A client that sends the packets and stays connected. -/
def clientSystem (recvBufferLength : Nat) (ps : List PacketStream) : TransSys ClientInput Act where
  init s := s =
    { inputMsgBlock := .empty recvBufferLength, wire := ps.flatMap PacketStream.frame }
  step := step

/-- The session can read the frame. -/
def Readable (recvBufferLength : Nat) (p : PacketStream) : Prop :=
  p.msg.length ≤ 20000 ∧ 4 + p.msg.length ≤ recvBufferLength

instance (recvBufferLength : Nat) (p : PacketStream) : Decidable (Readable recvBufferLength p) :=
  inferInstanceAs (Decidable (_ ∧ _))

/-- What the client sent and the gate's threads get of a packet. -/
def content (p : PacketStream) : UInt16 × List UInt8 := (p.opcode, p.msg)

/-- The packets so far, each with its opcode and body. -/
def ClientInput.contents (s : ClientInput) : List (UInt16 × List UInt8) :=
  s.packets.map fun p => (p.opcode, p.body)

/-! ## §2. One frame. -/

theorem frame_length (p : PacketStream) : p.frame.length = 4 + p.msg.length := by
  unfold PacketStream.frame
  simp only [List.length_append, length_toBytes]

/-- The header of a frame is read back from any part that holds it. -/
theorem header_of_part {p : PacketStream} (hfit : p.Fits) {b w more : List UInt8}
    (h : b ++ w = p.frame ++ more) (hlen : 4 ≤ b.length) :
    ClientHeader.ofBytes b = ⟨p.opcode, UInt16.ofNat p.msg.length⟩ := by
  have hopcode := length_toBytes 2 p.opcode.toNat
  have hsize := length_toBytes 2 p.msg.length
  have hframe : p.frame ++ more =
      toBytes 2 p.opcode.toNat ++ (toBytes 2 p.msg.length ++ (p.msg ++ more)) := by
    unfold PacketStream.frame
    simp only [List.append_assoc]
  have htake : b.take 2 = toBytes 2 p.opcode.toNat := by
    have hb : (b ++ w).take 2 = b.take 2 := List.take_append_of_le_length (by omega)
    rw [← hb, h, hframe, List.take_left' hopcode]
  have hdrop : (b.drop 2).take 2 = toBytes 2 p.msg.length := by
    have hb : (b ++ w).drop 2 = b.drop 2 ++ w := List.drop_append_of_le_length (by omega)
    have hlong : 2 ≤ (b.drop 2).length := by
      rw [List.length_drop]
      omega
    have hbw : (b.drop 2 ++ w).take 2 = (b.drop 2).take 2 := List.take_append_of_le_length hlong
    rw [← hbw, ← hb, h, hframe, List.drop_left' hopcode, List.take_left' hsize]
  have hmsg : p.msg.length < 256 ^ 2 := by
    have hle : p.msg.length ≤ 65535 := hfit
    omega
  unfold ClientHeader.ofBytes
  rw [htake, hdrop, ofBytes_toBytes_of_lt p.opcode.toNat_lt, ofBytes_toBytes_of_lt hmsg,
    UInt16.ofNat_toNat]

/-- A block that has the whole frame has it at its front, before a part of what comes next. -/
theorem body_of_part {p : PacketStream} {b w more : List UInt8} (h : b ++ w = p.frame ++ more)
    (hlen : 4 + p.msg.length ≤ b.length) :
    (b.drop 4).take p.msg.length = p.msg ∧ (b.drop 4).drop p.msg.length ++ w = more := by
  have hheader : (toBytes 2 p.opcode.toNat ++ toBytes 2 p.msg.length).length = 4 := by
    simp only [List.length_append, length_toBytes]
  have hdrop : b.drop 4 ++ w = p.msg ++ more := by
    have hb : (b ++ w).drop 4 = b.drop 4 ++ w := List.drop_append_of_le_length (by omega)
    rw [← hb, h]
    unfold PacketStream.frame
    rw [List.append_assoc (toBytes 2 p.opcode.toNat ++ _), List.drop_left' hheader]
  have hlong : p.msg.length ≤ (b.drop 4).length := by
    rw [List.length_drop]
    omega
  constructor
  · have hb : (b.drop 4 ++ w).take p.msg.length = (b.drop 4).take p.msg.length :=
      List.take_append_of_le_length hlong
    rw [← hb, hdrop, List.take_left]
  · have hb : (b.drop 4 ++ w).drop p.msg.length = (b.drop 4).drop p.msg.length ++ w :=
      List.drop_append_of_le_length hlong
    rw [← hb, hdrop, List.drop_left]

namespace ClientInput

variable {s : ClientInput}

/-- **A pass** over a block that has a part of the frame `p` and what follows. -/
theorem parsePass_part {p : PacketStream} (hfit : p.Fits) {more : List UInt8}
    (h : s.inputMsgBlock.bytes ++ s.wire = p.frame ++ more) :
    s.parsePass = .incomplete ∧ s.inputMsgBlock.length < 4 + p.msg.length ∨
      s.parsePass = .tooBig ∧ 20000 < p.msg.length ∨
      ∃ left, s.parsePass =
          .packet ⟨p.opcode, s.roleGuid, s.roleLocation, s.lineNo, p.msg⟩ left ∧
        Readable s.inputMsgBlock.size p ∧ left.bytes ++ s.wire = more ∧
        left.size = s.inputMsgBlock.size ∧ left.length < s.inputMsgBlock.length := by
  unfold parsePass
  by_cases hshort : s.inputMsgBlock.length < 4
  · rw [if_pos hshort]
    exact .inl ⟨rfl, by omega⟩
  · have hheader := header_of_part hfit h (Nat.not_lt.mp hshort)
    have hsize : (UInt16.ofNat p.msg.length).toNat = p.msg.length := by
      have hle : p.msg.length ≤ 65535 := hfit
      rw [UInt16.toNat_ofNat']
      omega
    rw [if_neg hshort, hheader]
    dsimp only
    rw [hsize]
    by_cases hbig : 20000 < p.msg.length
    · rw [if_pos hbig]
      exact .inr (.inl ⟨rfl, hbig⟩)
    · rw [if_neg hbig]
      by_cases hwhole : s.inputMsgBlock.length ≥ 4 + p.msg.length
      · obtain ⟨hbody, hleft⟩ := body_of_part h hwhole
        rw [if_pos hwhole, Block.read_bytes, hbody]
        refine .inr (.inr ⟨_, rfl, ⟨Nat.not_lt.mp hbig, ?_⟩, hleft, rfl, ?_⟩)
        · have hfits := s.inputMsgBlock.fits
          unfold Block.length at hwhole
          omega
        · show ((s.inputMsgBlock.bytes.drop 4).drop p.msg.length).length < _
          rw [List.length_drop, List.length_drop]
          unfold Block.length at hwhole ⊢
          omega
      · rw [if_neg hwhole]
        exact .inl ⟨rfl, Nat.not_le.mp hwhole⟩

/-- What a call of `parseInputPacket` leaves of the frames `rest` that are to come. -/
structure Parsed (s s' : ClientInput) (result : Int) (done more : List PacketStream) : Prop where
  contents : s'.contents = s.contents ++ done.map content
  bytes : s'.inputMsgBlock.bytes ++ s'.wire = more.flatMap PacketStream.frame
  size : s'.inputMsgBlock.size = s.inputMsgBlock.size
  readable : ∀ p ∈ done, Readable s.inputMsgBlock.size p
  wire : s'.wire = s.wire
  closed : s'.closed = s.closed
  result : result = 0 ∧ s'.inputMsgBlock.rdPtr = 0 ∧
      (∀ p ∈ more.head?, s'.inputMsgBlock.length < 4 + p.msg.length) ∨
    result = -1 ∧ ∃ p ∈ more, 20000 < p.msg.length

theorem parseInputPacket_incomplete (passes : Nat) (h : s.parsePass = .incomplete) :
    parseInputPacket (passes + 1) s =
      some ({ s with inputMsgBlock := s.inputMsgBlock.crunch }, 0) := by
  unfold parseInputPacket
  rw [h]

theorem parseInputPacket_tooBig (passes : Nat) (h : s.parsePass = .tooBig) :
    parseInputPacket (passes + 1) s = some (s, -1) := by
  unfold parseInputPacket
  rw [h]

/-- A call that takes no frame. -/
theorem Parsed.of_incomplete {more : List PacketStream}
    (h : s.inputMsgBlock.bytes ++ s.wire = more.flatMap PacketStream.frame)
    (hshort : ∀ p ∈ more.head?, s.inputMsgBlock.length < 4 + p.msg.length) :
    Parsed s { s with inputMsgBlock := s.inputMsgBlock.crunch } 0 [] more where
  contents := (List.append_nil _).symm
  bytes := h
  size := rfl
  readable := nofun
  wire := rfl
  closed := rfl
  result := .inl ⟨rfl, rfl, hshort⟩

theorem Parsed.of_tooBig {more : List PacketStream}
    (h : s.inputMsgBlock.bytes ++ s.wire = more.flatMap PacketStream.frame)
    (hbig : ∃ p ∈ more, 20000 < p.msg.length) : Parsed s s (-1) [] more where
  contents := (List.append_nil _).symm
  bytes := h
  size := rfl
  readable := nofun
  wire := rfl
  closed := rfl
  result := .inr ⟨rfl, hbig⟩

/-- **A call of `parseInputPacket`** takes complete frames off the front until the block has only a
part of the next, or until the next is too long. -/
theorem parseInputPacket_part {passes : Nat} (hpasses : s.inputMsgBlock.length < passes)
    {rest : List PacketStream} (hfit : ∀ p ∈ rest, p.Fits)
    (h : s.inputMsgBlock.bytes ++ s.wire = rest.flatMap PacketStream.frame) :
    ∃ s' result done more, parseInputPacket passes s = some (s', result) ∧
      rest = done ++ more ∧ Parsed s s' result done more := by
  induction rest generalizing s passes with
  | nil =>
      obtain ⟨passes, rfl⟩ : ∃ n, passes = n + 1 := ⟨passes - 1, by omega⟩
      have hnil : s.inputMsgBlock.bytes = [] := (List.append_eq_nil_iff.mp h).1
      have hpass : s.parsePass = .incomplete := by
        unfold parsePass Block.length
        rw [hnil]
        rfl
      exact ⟨_, 0, [], [], parseInputPacket_incomplete passes hpass, rfl,
        .of_incomplete h nofun⟩
  | cons p rest ih =>
      obtain ⟨passes, rfl⟩ : ∃ n, passes = n + 1 := ⟨passes - 1, by omega⟩
      obtain ⟨hp, hfit⟩ := List.forall_mem_cons.mp hfit
      have hframes := h
      rw [List.flatMap_cons] at hframes
      obtain ⟨hpass, hshort⟩ | ⟨hpass, hbig⟩ | ⟨left, hpass, hread, hleft, hsize, hless⟩ :=
        parsePass_part hp hframes
      · refine ⟨_, 0, [], p :: rest, parseInputPacket_incomplete passes hpass, rfl, ?_⟩
        exact .of_incomplete h fun q hq => Option.some.inj hq ▸ hshort
      · exact ⟨s, -1, [], p :: rest, parseInputPacket_tooBig passes hpass, rfl,
          .of_tooBig h ⟨p, List.mem_cons_self, hbig⟩⟩
      · -- the next pass begins behind the frame
        let next : ClientInput := { s with
          inputMsgBlock := left
          packets := s.packets ++ [⟨p.opcode, s.roleGuid, s.roleLocation, s.lineNo, p.msg⟩] }
        obtain ⟨s', result, done, more, hparse, hrest, hparsed⟩ :=
          ih (s := next) (show left.length < passes by omega) hfit hleft
        refine ⟨s', result, p :: done, more, ?_, congrArg (p :: ·) hrest, ?_⟩
        · unfold parseInputPacket
          rw [hpass]
          exact hparse
        · refine
            { contents := ?_
              bytes := hparsed.bytes
              size := hparsed.size.trans hsize
              readable := ?_
              wire := hparsed.wire
              closed := hparsed.closed
              result := hparsed.result }
          · have hnext : next.contents = s.contents ++ [content p] := List.map_append ..
            rw [hparsed.contents, hnext, List.append_assoc]
            rfl
          · refine List.forall_mem_cons.mpr ⟨hread, ?_⟩
            intro q hq
            rw [← hsize]
            exact hparsed.readable q hq

end ClientInput

/-! ## §3. Runs. -/

/-- **The invariant**: the packets before some place in the stream have come, and the block and the
wire have the rest; an open session has less in the block than the next frame, and a closed one met
a frame that it cannot read. -/
structure Reading (recvBufferLength : Nat) (ps : List PacketStream) (s : ClientInput)
    (done more : List PacketStream) : Prop where
  split : ps = done ++ more
  contents : s.contents = done.map content
  bytes : s.inputMsgBlock.bytes ++ s.wire = more.flatMap PacketStream.frame
  size : s.inputMsgBlock.size = recvBufferLength
  readable : ∀ p ∈ done, Readable recvBufferLength p
  front : s.closed = false → s.inputMsgBlock.rdPtr = 0
  short : s.closed = false → ∀ p ∈ more.head?, s.inputMsgBlock.length < 4 + p.msg.length
  unreadable : s.closed = true → ∃ p ∈ more, ¬ Readable recvBufferLength p

variable {recvBufferLength : Nat} {ps : List PacketStream} {s s' : ClientInput}

theorem reading_start (hs : (clientSystem recvBufferLength ps).init s) :
    Reading recvBufferLength ps s [] ps := by
  obtain rfl : s = _ := hs
  refine ⟨rfl, rfl, rfl, rfl, nofun, fun _ => rfl, fun _ p _ => ?_, nofun⟩
  show 0 < 4 + p.msg.length
  omega

/-- There is something to read, so a frame is still to come. -/
theorem Reading.next {done more : List PacketStream} (h : Reading recvBufferLength ps s done more)
    (hwire : s.wire ≠ []) : ∃ p more', more = p :: more' := by
  cases more with
  | nil => exact absurd (List.append_eq_nil_iff.mp h.bytes).2 hwire
  | cons p more' => exact ⟨p, more', rfl⟩

/-- **One call of `handle_input`.** -/
theorem Reading.handleInput {done more : List PacketStream}
    (h : Reading recvBufferLength ps s done more) (hfit : ∀ p ∈ ps, p.Fits)
    (hopen : s.closed = false) (hwire : s.wire ≠ []) {n : Nat}
    (hspace : n ≤ s.inputMsgBlock.space) :
    ∃ s' result done' more', s.rdStream n = some (s', result) ∧
      Reading recvBufferLength ps (s'.handleInput result) done' more' ∧
      s'.wire = s.wire.drop (if s.inputMsgBlock.space = 0 then 0 else n) ∧
      (s.inputMsgBlock.space = 0 → result = -1) := by
  obtain ⟨p, more', rfl⟩ := h.next hwire
  by_cases hfull : s.inputMsgBlock.space = 0
  · -- the block is full of a part of the next frame
    refine ⟨s, -1, done, p :: more', ?_, ?_, ?_, fun _ => rfl⟩
    · unfold ClientInput.rdStream
      rw [if_pos hfull]
    · have hshort := h.short hopen p rfl
      have hlength := s.inputMsgBlock.length_add_space (h.front hopen)
      refine ⟨h.split, h.contents, h.bytes, h.size, h.readable, nofun, nofun, fun _ => ?_⟩
      refine ⟨p, List.mem_cons_self, fun hread => ?_⟩
      have hroom := hread.2
      have hsize := h.size
      omega
    · rw [if_pos hfull]
      rfl
  · by_cases hn : n = 0
    · refine ⟨s, 0, done, p :: more', ?_, ?_, ?_, fun hf => absurd hf hfull⟩
      · unfold ClientInput.rdStream
        rw [if_neg hfull, if_pos hn]
      · exact h
      · rw [hn, ite_self]
        rfl
    · have htake : (s.wire.take n).length ≤ s.inputMsgBlock.space :=
        Nat.le_trans (List.length_take_le ..) hspace
      have hbytes : (s.received n).inputMsgBlock.bytes ++ (s.received n).wire =
          (p :: more').flatMap PacketStream.frame := by
        show (s.inputMsgBlock.copy (s.wire.take n)).bytes ++ s.wire.drop n = _
        rw [Block.copy_of_le _ htake, List.append_assoc, List.take_append_drop]
        exact h.bytes
      have hrest : ∀ q ∈ p :: more', q.Fits := by
        intro q hq
        exact hfit q (h.split ▸ List.mem_append_right _ hq)
      obtain ⟨t, result, taken, left, hparse, hsplit, hparsed⟩ :=
        ClientInput.parseInputPacket_part (Nat.lt_succ_self _) hrest hbytes
      have hsize : t.inputMsgBlock.size = recvBufferLength :=
        hparsed.size.trans ((Block.copy_size ..).trans h.size)
      have hcontents : t.contents = (done ++ taken).map content := by
        rw [hparsed.contents, List.map_append, ← h.contents]
        rfl
      have hreadable : ∀ q ∈ done ++ taken, Readable recvBufferLength q := by
        intro q hq
        obtain hq | hq := List.mem_append.mp hq
        · exact h.readable q hq
        · have hread := hparsed.readable q hq
          rw [show (s.received n).inputMsgBlock.size = recvBufferLength from
            (Block.copy_size ..).trans h.size] at hread
          exact hread
      have hwhole : ps = (done ++ taken) ++ left := by
        rw [h.split, hsplit, List.append_assoc]
      refine ⟨t, result, done ++ taken, left, ?_, ?_, ?_, fun hf => absurd hf hfull⟩
      · unfold ClientInput.rdStream
        rw [if_neg hfull, if_neg hn]
        exact hparse
      · obtain ⟨rfl, hfront, hshort⟩ | ⟨rfl, q, hq, hbig⟩ := hparsed.result
        · have hstill : t.closed = false := hparsed.closed.trans hopen
          exact ⟨hwhole, hcontents, hparsed.bytes, hsize, hreadable, fun _ => hfront,
            fun _ => hshort, fun hc => absurd (hstill.symm.trans hc) Bool.false_ne_true⟩
        · refine ⟨hwhole, hcontents, hparsed.bytes, hsize, hreadable, nofun, nofun, fun _ => ?_⟩
          exact ⟨q, hq, fun hread => absurd hread.1 (Nat.not_le.mpr hbig)⟩
      · rw [if_neg hfull]
        exact hparsed.wire

/-- Every run reads on. -/
theorem reachable_reading (hfit : ∀ p ∈ ps, p.Fits)
    (hs : (clientSystem recvBufferLength ps).Reachable s) :
    ∃ done more, Reading recvBufferLength ps s done more := by
  refine hs.invariant (I := fun t => ∃ done more, Reading recvBufferLength ps t done more) ?_ ?_
  · intro t ht
    exact ⟨[], ps, reading_start ht⟩
  intro t a t' ht _ hst
  obtain ⟨done, more, h⟩ := ht
  cases a with
  | handleInput n =>
      obtain ⟨⟨hopen, hwire, -, hspace⟩, hst⟩ := Option.ite_none_right_eq_some.mp hst
      obtain ⟨t₁, result, done', more', hrd, hreading, -, -⟩ :=
        h.handleInput hfit hopen hwire hspace
      rw [hrd] at hst
      obtain rfl := Option.some.inj hst
      exact ⟨done', more', hreading⟩
  | account roleGuid roleLocation lineNo =>
      obtain rfl := Option.some.inj hst
      exact ⟨done, more, h.split, h.contents, h.bytes, h.size, h.readable, h.front, h.short,
        h.unreadable⟩

/-- An open session that has read all bytes has all packets. -/
theorem Reading.all {done more : List PacketStream} (h : Reading recvBufferLength ps s done more)
    (hopen : s.closed = false) (hwire : s.wire = []) : more = [] := by
  cases more with
  | nil => rfl
  | cons p more' =>
      have hshort := h.short hopen p rfl
      have hbytes := congrArg List.length h.bytes
      rw [hwire, List.append_nil, List.flatMap_cons, List.length_append, frame_length] at hbytes
      unfold Block.length at hshort
      omega

/-- Reading byte by byte comes to the end of the stream, or of the session. -/
theorem exists_read (hfit : ∀ p ∈ ps, p.Fits)
    (hs : (clientSystem recvBufferLength ps).Reachable s) :
    ∃ s', (clientSystem recvBufferLength ps).Reachable s' ∧ (s'.closed = true ∨ s'.wire = []) := by
  obtain ⟨n, hn⟩ : ∃ n, s.wire.length = n := ⟨_, rfl⟩
  induction n generalizing s with
  | zero => exact ⟨s, hs, .inr (List.length_eq_zero_iff.mp hn)⟩
  | succ n ih =>
      by_cases hclosed : s.closed = true
      · exact ⟨s, hs, .inl hclosed⟩
      · have hopen := Bool.eq_false_iff.mpr hclosed
        have hwire : s.wire ≠ [] := by
          intro hnil
          rw [hnil] at hn
          cases hn
        obtain ⟨done, more, h⟩ := reachable_reading hfit hs
        -- one byte, if there is space for it
        obtain ⟨k, hk, hkn⟩ : ∃ k, k ≤ s.inputMsgBlock.space ∧
            (s.inputMsgBlock.space ≠ 0 → k = 1) ∧ k ≤ 1 := by
          by_cases hfull : s.inputMsgBlock.space = 0
          · exact ⟨0, Nat.zero_le _, fun hne => absurd hfull hne, Nat.zero_le _⟩
          · exact ⟨1, Nat.pos_of_ne_zero hfull, fun _ => rfl, Nat.le_refl _⟩
        obtain ⟨t, result, done', more', hrd, hreading, hleft, hfail⟩ :=
          h.handleInput hfit hopen hwire hk
        have hst : (clientSystem recvBufferLength ps).step s (.handleInput k) =
            some (t.handleInput result) := by
          show (if _ then (s.rdStream k).map _ else none) = _
          rw [if_pos ⟨hopen, hwire, by omega, hk⟩, hrd]
          rfl
        have hreach := TransSys.ReachableWhen.next hs trivial hst
        by_cases hfull : s.inputMsgBlock.space = 0
        · refine ⟨_, hreach, .inl ?_⟩
          rw [hfail hfull]
          rfl
        · apply ih hreach
          have hsame : (t.handleInput result).wire = t.wire := by
            unfold ClientInput.handleInput
            split <;> rfl
          rw [hsame, hleft, if_neg hfull, hkn.1 hfull, List.length_drop, hn]
          rfl

/-- **What a client sends comes in order**: in every run, whatever the pieces the stream is read
in, the packets of the session are the first ones that the client sent.  No run closes the session,
and each has all packets once all bytes are read, exactly when every body has at most 20000 bytes
and every frame fits into the block. -/
theorem client_packets (recvBufferLength : Nat) (ps : List PacketStream)
    (hfit : ∀ p ∈ ps, p.Fits) :
    (∀ s, (clientSystem recvBufferLength ps).Reachable s → s.contents <+: ps.map content) ∧
      ((∀ s, (clientSystem recvBufferLength ps).Reachable s →
          s.closed = false ∧ (s.wire = [] → s.contents = ps.map content)) ↔
        ∀ p ∈ ps, Readable recvBufferLength p) := by
  refine ⟨?_, ?_, ?_⟩
  · intro s hs
    obtain ⟨done, more, h⟩ := reachable_reading hfit hs
    rw [h.contents, h.split, List.map_append]
    exact List.prefix_append ..
  · intro hall
    obtain ⟨s, hs, hend⟩ := exists_read hfit (.start rfl)
    obtain ⟨hopen, -⟩ := hall s hs
    have hwire := hend.resolve_left (by rw [hopen]; exact Bool.false_ne_true)
    obtain ⟨done, more, h⟩ := reachable_reading hfit hs
    rw [h.split, h.all hopen hwire, List.append_nil]
    exact h.readable
  · intro hall s hs
    obtain ⟨done, more, h⟩ := reachable_reading hfit hs
    have hopen : s.closed = false := by
      apply Bool.eq_false_iff.mpr
      intro hclosed
      obtain ⟨p, hp, hnot⟩ := h.unreadable hclosed
      exact hnot (hall p (h.split ▸ List.mem_append_right _ hp))
    refine ⟨hopen, fun hwire => ?_⟩
    rw [h.contents, h.split, h.all hopen hwire, List.append_nil]

/-- The buffer of `gate_config.xml`, and a request that it can hold beside an empty one. -/
theorem client_packets_two :
    let ps : List PacketStream := [⟨1, 0, List.replicate 1020 7⟩, ⟨2, 0, []⟩]
    (∀ s, (clientSystem 1024 ps).Reachable s → s.contents <+: ps.map content) ∧
      ((∀ s, (clientSystem 1024 ps).Reachable s →
          s.closed = false ∧ (s.wire = [] → s.contents = ps.map content)) ↔
        ∀ p ∈ ps, Readable 1024 p) :=
  client_packets 1024 _ (by decide +kernel)

/-- With one byte more in the body the full block ends the session. -/
example : ¬ Readable 1024 ⟨1, 0, List.replicate 1021 7⟩ := by decide +kernel

end Steppingstone.Client
