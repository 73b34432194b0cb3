/-
  Steppingstone.Link.NetStream — the link of a gate and a charsys
  (`NetStream.cpp` of both).

  A packet goes to the socket at once if nothing waits, and what the socket does
  not take goes into a block of 102400 bytes.  While something waits, the
  reactor calls `handle_output`.  The other side receives into a block of the
  same size and cuts off packets.

  The two programs differ in two places.  The gate sends the whole buffer of a
  packet, charsys the bytes that the 16 bits of `stream_size` count; and the
  gate looks at a head as soon as it is there (`<`), charsys only when there is
  something behind it (`<=`).
-/
import Steppingstone.Lib.Block
import Steppingstone.Lib.Outbox
import Steppingstone.Lib.Progress
import Steppingstone.Net.Packet
import Steppingstone.Wobble.Model

namespace Steppingstone.Link

open Net Wobble

/-! ## §1. Packets in a direction. -/

/-- Which program sends, and which receives. -/
inductive Direction where
  | toCharsys
  | toGate
  deriving DecidableEq, Repr

namespace Direction

/-- `stream_size()` bytes of `stream()`: `PacketStream` has an `int` for the size, `Packet` 16
bits. -/
def stream : Direction → Content → List UInt8
  | toCharsys, c => (Packet.new c).buffer
  | toGate, c => (Packet.new c).stream

/-- The bytes there have to be before `parseInputPacket` looks at the head. -/
def least : Direction → Nat
  | toCharsys => headSize.toNat + 1
  | toGate => headSize.toNat

/-- The head says how long the body is, and the sender sends all of it: on the way to the gate the
head and the body together have to be below `2 ^ 16` bytes, on the other way the body alone. -/
def Fits : Direction → Content → Prop
  | toCharsys, c => c.body.length < 2 ^ 16
  | toGate, c => c.Fits

instance (d : Direction) (c : Content) : Decidable (d.Fits c) := by
  cases d
  · exact inferInstanceAs (Decidable (_ < _))
  · exact inferInstanceAs (Decidable c.Fits)

/-- One round of the loop of `parseInputPacket`. -/
def next (d : Direction) (b : List UInt8) : Option (Packet × List UInt8) :=
  if b.length < d.least then none else parseOne b

/-- The parser of the direction, as a framer. -/
def framer (d : Direction) : Framer UInt8 Packet where
  next := d.next
  shrinks := by
    intro b p r h
    obtain ⟨-, h⟩ := Option.ite_none_left_eq_some.mp h
    exact packetFramer.shrinks h
  extends_ := by
    intro b p r c h
    obtain ⟨hlen, h⟩ := Option.ite_none_left_eq_some.mp h
    unfold next
    rw [if_neg (by rw [List.length_append]; omega)]
    exact packetFramer.extends_ c h

end Direction

/-! ## §2. The two ends. -/

/-- `m_socket_buffer_length` -/
def socketBufferLength : Nat := 102400

/-- The output half of a `NetStream`. -/
structure NetOutput where
  outputMsgBlock : Block UInt8 := .empty socketBufferLength
  /-- `m_net_state.closed` -/
  closed : Bool := false
  /-- The handler is registered with `WRITE_MASK`. -/
  writing : Bool := false
  /-- Ghost: the bytes that the socket has taken. -/
  handed : List UInt8 := []
  /-- Ghost: the packets given to `handleOutputStream`, and whether each was dropped. -/
  log : List (Content × Bool) := []
  deriving DecidableEq

namespace NetOutput

variable (s : NetOutput)

/-- `serializeToMsgBlock`: a block without space for the packet is moved to its front, unless it is
more than half full; and whether anything was copied. -/
def serializeToMsgBlock (stream : List UInt8) (alreadyReadByte : Nat) : Block UInt8 × Bool :=
  let rest := stream.drop alreadyReadByte
  if s.outputMsgBlock.space < stream.length then
    if s.outputMsgBlock.size < s.outputMsgBlock.length * 2 then (s.outputMsgBlock, false)
    else (s.outputMsgBlock.crunch.copy rest, decide (rest.length ≤ s.outputMsgBlock.crunch.space))
  else (s.outputMsgBlock.copy rest, decide (rest.length ≤ s.outputMsgBlock.space))

/-- The rest of a packet is serialized after `send` took `n` bytes of it. -/
def serialized (c : Content) (stream : List UInt8) (n : Nat) : NetOutput :=
  { s with
    outputMsgBlock := (s.serializeToMsgBlock stream n).1
    handed := s.handed ++ stream.take n
    log := s.log ++ [(c, !(s.serializeToMsgBlock stream n).2)] }

/-- `handleOutputStream`; `r` is what `send` says if it is called. -/
def handleOutputStream (d : Direction) (c : Content) (r : SendResult) : NetOutput :=
  let stream := d.stream c
  if s.closed then { s with log := s.log ++ [(c, true)] }
  else if s.outputMsgBlock.length = 0 then
    if r.value = stream.length then
      { s with handed := s.handed ++ stream, log := s.log ++ [(c, false)] }
    else if 0 < r.value then { s.serialized c stream r.value.toNat with writing := true }
    else if r.again then { s.serialized c stream 0 with writing := true }
    else { s with log := s.log ++ [(c, true)] }
  else s.serialized c stream 0

/-- `handle_output` with `wt_stream`; for an error the reactor calls `handle_close`. -/
def handleOutput (r : SendResult) : NetOutput :=
  if 0 < s.outputMsgBlock.length then
    if 0 < r.value then
      { s with
        outputMsgBlock := s.outputMsgBlock.read r.value.toNat
        handed := s.handed ++ s.outputMsgBlock.bytes.take r.value.toNat
        writing := decide ((s.outputMsgBlock.read r.value.toNat).length ≠ 0) }
    else if r.again then s
    else { s with closed := true, writing := false }
  else { s with writing := false }

/-- The packets that were not dropped. -/
def kept : List Content := (s.log.filter fun entry => !entry.2).map Prod.fst

end NetOutput

/-- The input half of a `NetStream`. -/
structure NetInput where
  inputMsgBlock : Block UInt8 := .empty socketBufferLength
  /-- `m_net_state.closed` -/
  closed : Bool := false
  /-- The packets given to `handlePacket`. -/
  packets : List Packet := []
  /-- Ghost: the bytes that `recv` has returned. -/
  arrived : List UInt8 := []
  deriving DecidableEq

namespace NetInput

variable (s : NetInput)

/-- `parseInputPacket`: the packets are cut off the block, and the rest is moved to its front. -/
def parseInputPacket (d : Direction) : NetInput :=
  let parsed := d.framer.parse s.inputMsgBlock.bytes
  { s with
    inputMsgBlock :=
      (s.inputMsgBlock.read (s.inputMsgBlock.length - parsed.2.length)).crunch
    packets := s.packets ++ parsed.1 }

/-- `handle_input` with `rd_stream`, when `recv` has these bytes.  For no space at all it returns 0,
as it does for a connection that was closed. -/
def handleInput (d : Direction) (bytes : List UInt8) : NetInput :=
  if s.inputMsgBlock.space = 0 then { s with closed := true }
  else
    { s with
      inputMsgBlock := s.inputMsgBlock.copy bytes
      arrived := s.arrived ++ bytes }.parseInputPacket d

end NetInput

/-! ## §3. The link. -/

/-- Both ends of the connection and the bytes between them. -/
structure State where
  output : NetOutput := {}
  input : NetInput := {}
  deriving DecidableEq

/-- The bytes on their way. -/
def State.wire (s : State) : List UInt8 := s.output.handed.drop s.input.arrived.length

/-- What the ends of the connection do. -/
inductive Act where
  /-- Any thread. -/
  | handleOutputStream (c : Content) (r : SendResult)
  /-- The reactor of the sender. -/
  | handleOutput (r : SendResult)
  /-- The reactor of the receiver finds `n` bytes. -/
  | handleInput (n : Nat)
  /-- The connection is given up at the sender. -/
  | closeOutput
  /-- The connection is given up at the receiver. -/
  | closeInput
  deriving DecidableEq

/-- The steps of the link.  A mutex makes `handleOutputStream` and `wt_stream` one step each. -/
def step (d : Direction) (s : State) : Act → Option State
  | .handleOutputStream c r =>
      if r.value ≤ (d.stream c).length then
        some { s with output := s.output.handleOutputStream d c r }
      else none
  | .handleOutput r =>
      if s.output.writing = true ∧ r.value ≤ s.output.outputMsgBlock.length then
        some { s with output := s.output.handleOutput r }
      else none
  | .handleInput n =>
      if s.input.closed = false ∧ 0 < n ∧ n ≤ s.wire.length ∧
          (n ≤ s.input.inputMsgBlock.space ∨ s.input.inputMsgBlock.space = 0) then
        some { s with input := s.input.handleInput d (s.wire.take n) }
      else none
  | .closeOutput => some { s with output := { s.output with closed := true, writing := false } }
  | .closeInput => some { s with input := { s.input with closed := true } }

/-- The connection, step by step. -/
def linkSystem (d : Direction) : TransSys State Act where
  init s := s = {}
  step := step d

/-- What is given to the link fits. -/
def Act.Fits (d : Direction) : Act → Prop
  | .handleOutputStream c _ => d.Fits c
  | _ => True

instance (d : Direction) (a : Act) : Decidable (a.Fits d) := by
  cases a <;> unfold Act.Fits <;> infer_instance

/-! ## §4. What is cut off a stream. -/

namespace Direction

variable {d : Direction} {c : Content}

theorem size_of_fits (h : d.Fits c) : (Packet.new c).head.size.toNat = c.body.length := by
  cases d with
  | toCharsys => exact Packet.new_size_of_lt h
  | toGate => exact Packet.new_size h

theorem stream_of_fits (h : d.Fits c) : d.stream c = (Packet.new c).buffer := by
  cases d with
  | toCharsys => rfl
  | toGate => exact Packet.stream_eq h

theorem stream_length (h : d.Fits c) : (d.stream c).length = c.body.length + 12 := by
  rw [stream_of_fits h, Packet.new_length]

theorem length_lt_of_fits (h : d.Fits c) : c.body.length < 2 ^ 16 := by
  cases d with
  | toCharsys => exact h
  | toGate =>
      have hlt : c.body.length + 12 < 2 ^ 16 := h
      omega

/-- A packet goes into an empty block. -/
theorem stream_length_le (h : d.Fits c) : (d.stream c).length ≤ socketBufferLength := by
  have hlt := length_lt_of_fits h
  rw [stream_length h]
  show _ ≤ 102400
  omega

theorem next_of_lt {b : List UInt8} (h : b.length < d.least) : d.framer.next b = none :=
  if_pos h

theorem next_packet (h : d.Fits c) {r : List UInt8}
    (hlen : d.least ≤ ((Packet.new c).buffer ++ r).length) :
    d.framer.next ((Packet.new c).buffer ++ r) = some (Packet.new c, r) := by
  show (if _ then _ else _) = _
  rw [if_neg (Nat.not_lt.mpr hlen)]
  exact Packet.parseOne_of_size (size_of_fits h) r

/-- The packets of a list, one behind the other. -/
theorem flatMap_stream {cs : List Content} (h : ∀ c ∈ cs, d.Fits c) :
    cs.flatMap d.stream = (cs.map Packet.new).flatMap Packet.buffer := by
  induction cs with
  | nil => rfl
  | cons c cs ih =>
      obtain ⟨hc, hcs⟩ := List.forall_mem_cons.mp h
      rw [List.map_cons, List.flatMap_cons, List.flatMap_cons, stream_of_fits hc, ih hcs]

/-- **What a receiver cuts off a part of the stream**: the first packets, until it has less than
the next one or less than it looks at; the last of them was looked at with what is left. -/
theorem parse_part {cs : List Content} (hfit : ∀ c ∈ cs, d.Fits c) {b w : List UInt8}
    (h : b ++ w = cs.flatMap d.stream) :
    ∃ done more, cs = done ++ more ∧ (d.framer.parse b).1 = done.map Packet.new ∧
      b = done.flatMap d.stream ++ (d.framer.parse b).2 ∧
      (∀ c ∈ more.head?, (d.framer.parse b).2.length < max d.least (d.stream c).length) ∧
      ∀ c ∈ done.getLast?, d.least ≤ (d.stream c).length + (d.framer.parse b).2.length := by
  rw [flatMap_stream hfit] at h
  have hnext : ∀ p ∈ cs.map Packet.new, ∀ r, d.least ≤ (p.buffer ++ r).length →
      d.framer.next (p.buffer ++ r) = some (p, r) := by
    intro p hp r hlen
    obtain ⟨c, hc, rfl⟩ := List.mem_map.mp hp
    exact next_packet (hfit c hc) hlen
  obtain ⟨rest, hsplit, hb, hrest, hlast⟩ :=
    Framer.parse_part_least (fun _ => next_of_lt) hnext h
  obtain ⟨done, more, rfl, hdone, rfl⟩ := List.map_eq_append_iff.mp hsplit
  refine ⟨done, more, rfl, hdone.symm, ?_, ?_, ?_⟩
  · rw [flatMap_stream fun c hc => hfit c (List.mem_append_left _ hc), hdone]
    exact hb
  · intro c hc
    have hmem : c ∈ more := List.mem_of_mem_head? hc
    rw [stream_of_fits (hfit c (List.mem_append_right _ hmem))]
    apply hrest
    rw [List.head?_map, Option.mem_def.mp hc]
    rfl
  · intro c hc
    have hmem : c ∈ done := List.mem_of_getLast? hc
    rw [stream_of_fits (hfit c (List.mem_append_left _ hmem))]
    apply hlast
    rw [← hdone, List.getLast?_map, Option.mem_def.mp hc]
    rfl

end Direction

namespace NetInput

variable {s : NetInput} {d : Direction}

/-- What `recv` returned is put behind what was left, and packets are cut off. -/
theorem handleInput_of_le {bytes : List UInt8} (hspace : s.inputMsgBlock.space ≠ 0)
    (hle : bytes.length ≤ s.inputMsgBlock.space) {pre : List UInt8}
    (hpre : s.inputMsgBlock.bytes ++ bytes =
      pre ++ (d.framer.parse (s.inputMsgBlock.bytes ++ bytes)).2) :
    (s.handleInput d bytes).inputMsgBlock.bytes =
        (d.framer.parse (s.inputMsgBlock.bytes ++ bytes)).2 ∧
      (s.handleInput d bytes).inputMsgBlock.rdPtr = 0 ∧
      (s.handleInput d bytes).inputMsgBlock.size = s.inputMsgBlock.size ∧
      (s.handleInput d bytes).packets =
        s.packets ++ (d.framer.parse (s.inputMsgBlock.bytes ++ bytes)).1 ∧
      (s.handleInput d bytes).arrived = s.arrived ++ bytes ∧
      (s.handleInput d bytes).closed = s.closed := by
  unfold handleInput
  rw [if_neg hspace]
  unfold parseInputPacket
  dsimp only
  rw [Block.copy_of_le _ hle]
  refine ⟨?_, rfl, Block.copy_size .., rfl, rfl, rfl⟩
  show (s.inputMsgBlock.copy bytes).bytes.drop ((s.inputMsgBlock.copy bytes).bytes.length - _) = _
  rw [Block.copy_of_le _ hle]
  generalize (d.framer.parse (s.inputMsgBlock.bytes ++ bytes)).2 = left at hpre ⊢
  rw [hpre, List.length_append, Nat.add_sub_cancel, List.drop_left]

end NetInput

/-! ## §5. What is put into the stream. -/

namespace NetOutput

variable {s : NetOutput} {d : Direction} {c : Content} {r : SendResult}

theorem serializeToMsgBlock_size (stream : List UInt8) (n : Nat) :
    (s.serializeToMsgBlock stream n).1.size = s.outputMsgBlock.size := by
  unfold serializeToMsgBlock
  dsimp only
  split
  · split
    · rfl
    · exact Block.copy_size ..
  · exact Block.copy_size ..

/-- A packet is copied whole or not at all. -/
theorem serializeToMsgBlock_bytes (stream : List UInt8) (n : Nat) :
    (s.serializeToMsgBlock stream n).1.bytes =
      s.outputMsgBlock.bytes ++
        (if (s.serializeToMsgBlock stream n).2 = true then stream.drop n else []) := by
  have hcopy : ∀ b : Block UInt8, b.bytes = s.outputMsgBlock.bytes →
      (b.copy (stream.drop n)).bytes = s.outputMsgBlock.bytes ++
        (if decide ((stream.drop n).length ≤ b.space) = true then stream.drop n else []) := by
    intro b hb
    by_cases hle : (stream.drop n).length ≤ b.space
    · rw [if_pos (decide_eq_true hle), b.copy_of_le hle, hb]
    · rw [if_neg (by rw [decide_eq_true_eq]; exact hle), b.copy_of_lt (Nat.not_le.mp hle), hb,
        List.append_nil]
  unfold serializeToMsgBlock
  dsimp only
  split
  · split
    · exact (List.append_nil _).symm
    · exact hcopy _ rfl
  · exact hcopy _ rfl

/-- An empty block takes the rest of any packet. -/
theorem serializeToMsgBlock_of_empty (hempty : s.outputMsgBlock.length = 0)
    {stream : List UInt8} (hlen : stream.length ≤ s.outputMsgBlock.size) (n : Nat) :
    (s.serializeToMsgBlock stream n).2 = true := by
  have hrest : (stream.drop n).length ≤ stream.length := by
    rw [List.length_drop]
    omega
  unfold serializeToMsgBlock
  dsimp only
  split
  · rw [if_neg (by omega)]
    have hspace := s.outputMsgBlock.space_crunch
    exact decide_eq_true (by omega)
  · exact decide_eq_true (by omega)

/-- When a packet is dropped behind what waits. -/
theorem serializeToMsgBlock_eq_false_iff (stream : List UInt8) :
    (s.serializeToMsgBlock stream 0).2 = false ↔
      s.outputMsgBlock.space < stream.length ∧
        (s.outputMsgBlock.size < s.outputMsgBlock.length * 2 ∨
          s.outputMsgBlock.size < s.outputMsgBlock.length + stream.length) := by
  have hspace := s.outputMsgBlock.space_crunch
  have hfits : s.outputMsgBlock.length ≤ s.outputMsgBlock.size := by
    have := s.outputMsgBlock.fits
    show s.outputMsgBlock.bytes.length ≤ _
    omega
  unfold serializeToMsgBlock
  rw [List.drop_zero]
  dsimp only
  split
  · split
    · simp only [true_iff]
      omega
    · simp only [decide_eq_false_iff_not]
      omega
  · simp only [decide_eq_false_iff_not]
    omega

/-- What was kept, with one packet more. -/
theorem kept_append {t : NetOutput} {dropped : Bool} (h : t.log = s.log ++ [(c, dropped)]) :
    t.kept = s.kept ++ (if dropped = true then [] else [c]) := by
  unfold kept
  rw [h, List.filter_append, List.map_append]
  cases dropped <;> rfl

/-- The output is the stream of the packets that were kept; what waits has a writer. -/
structure Framed (d : Direction) (s : NetOutput) : Prop where
  all : s.handed ++ s.outputMsgBlock.bytes = s.kept.flatMap d.stream
  size : s.outputMsgBlock.size = socketBufferLength
  writing : s.outputMsgBlock.length ≠ 0 → s.writing = true ∨ s.closed = true
  fits : ∀ c ∈ s.kept, d.Fits c

theorem framed_new : Framed d {} where
  all := rfl
  size := rfl
  writing := fun h => absurd rfl h
  fits := nofun

/-- Why an open sender drops a packet. -/
def Drops (d : Direction) (s : NetOutput) (c : Content) (r : SendResult) : Prop :=
  if s.outputMsgBlock.length = 0 then r.value ≤ 0 ∧ r.again = false
  else
    s.outputMsgBlock.space < (d.stream c).length ∧
      (s.outputMsgBlock.size < s.outputMsgBlock.length * 2 ∨
        s.outputMsgBlock.size < s.outputMsgBlock.length + (d.stream c).length)

instance (d : Direction) (s : NetOutput) (c : Content) (r : SendResult) :
    Decidable (s.Drops d c r) :=
  if h : s.outputMsgBlock.length = 0 then
    decidable_of_iff (r.value ≤ 0 ∧ r.again = false) (by unfold Drops; rw [if_pos h])
  else
    decidable_of_iff
      (s.outputMsgBlock.space < (d.stream c).length ∧
        (s.outputMsgBlock.size < s.outputMsgBlock.length * 2 ∨
          s.outputMsgBlock.size < s.outputMsgBlock.length + (d.stream c).length))
      (by unfold Drops; rw [if_neg h])

/-- One packet more in the log, and what it did to the stream. -/
structure Given (d : Direction) (s : NetOutput) (c : Content) (t : NetOutput) (dropped : Bool) :
    Prop where
  log : t.log = s.log ++ [(c, dropped)]
  all : t.handed ++ t.outputMsgBlock.bytes =
    s.handed ++ s.outputMsgBlock.bytes ++ (if dropped = true then [] else d.stream c)
  size : t.outputMsgBlock.size = s.outputMsgBlock.size
  handed : s.handed <+: t.handed
  closed : t.closed = s.closed

/-- The rest of a packet behind an empty block, or a whole packet behind what waits. -/
theorem given_serialized (hc : d.Fits c) (hsize : s.outputMsgBlock.size = socketBufferLength)
    {n : Nat} (hn : n = 0 ∨ s.outputMsgBlock.length = 0) :
    Given d s c (s.serialized c (d.stream c) n)
      (!(s.serializeToMsgBlock (d.stream c) n).2) where
  log := rfl
  all := by
    show (s.handed ++ (d.stream c).take n) ++ (s.serializeToMsgBlock (d.stream c) n).1.bytes = _
    rw [serializeToMsgBlock_bytes]
    obtain rfl | hempty := hn
    · rw [List.take_zero, List.append_nil, List.drop_zero, List.append_assoc]
      cases (s.serializeToMsgBlock (d.stream c) 0).2 <;> rfl
    · have hnil : s.outputMsgBlock.bytes = [] := List.length_eq_zero_iff.mp hempty
      rw [serializeToMsgBlock_of_empty hempty (hsize ▸ Direction.stream_length_le hc) n, hnil,
        List.append_nil, List.nil_append, List.append_assoc]
      show s.handed ++ ((d.stream c).take n ++ (d.stream c).drop n) = _
      rw [List.take_append_drop]
      rfl
  size := serializeToMsgBlock_size ..
  handed := List.prefix_append ..
  closed := rfl

/-- A packet that is dropped changes the log only. -/
theorem given_dropped : Given d s c { s with log := s.log ++ [(c, true)] } true where
  log := rfl
  all := (List.append_nil _).symm
  size := rfl
  handed := List.prefix_rfl
  closed := rfl

/-- The socket takes a whole packet. -/
theorem given_sent (hempty : s.outputMsgBlock.length = 0) :
    Given d s c { s with handed := s.handed ++ d.stream c, log := s.log ++ [(c, false)] } false
    where
  log := rfl
  all := by
    have hnil : s.outputMsgBlock.bytes = [] := List.length_eq_zero_iff.mp hempty
    show (s.handed ++ d.stream c) ++ s.outputMsgBlock.bytes = _
    rw [hnil, List.append_nil, List.append_nil]
    rfl
  size := rfl
  handed := List.prefix_append ..
  closed := rfl

/-- The rest of a packet goes into the empty block, and the reactor is told. -/
theorem given_rest (hc : d.Fits c) (hsize : s.outputMsgBlock.size = socketBufferLength)
    (hempty : s.outputMsgBlock.length = 0) (n : Nat) :
    Given d s c { s.serialized c (d.stream c) n with writing := true } false := by
  have hgiven := given_serialized hc hsize (n := n) (.inr hempty)
  rw [serializeToMsgBlock_of_empty hempty (hsize ▸ Direction.stream_length_le hc)] at hgiven
  exact ⟨hgiven.log, hgiven.all, hgiven.size, hgiven.handed, hgiven.closed⟩

/-- A packet for an open sender that has nothing to wait for. -/
theorem given_of_empty (hc : d.Fits c) (hsize : s.outputMsgBlock.size = socketBufferLength)
    (hclosed : ¬s.closed = true) (hempty : s.outputMsgBlock.length = 0) :
    ∃ dropped, Given d s c (s.handleOutputStream d c r) dropped ∧
      (dropped = true ↔ r.value ≤ 0 ∧ r.again = false) ∧
      ((s.handleOutputStream d c r).outputMsgBlock.length ≠ 0 →
        (s.handleOutputStream d c r).writing = true) := by
  have hpos : 0 < (d.stream c).length := by
    rw [Direction.stream_length hc]
    omega
  unfold handleOutputStream
  dsimp only
  rw [if_neg hclosed, if_pos hempty]
  by_cases hwhole : r.value = (d.stream c).length
  · rw [if_pos hwhole]
    refine ⟨false, given_sent hempty, ⟨nofun, fun h => ?_⟩, fun hne => absurd hempty hne⟩
    omega
  rw [if_neg hwhole]
  by_cases hpart : 0 < r.value
  · rw [if_pos hpart]
    refine ⟨false, given_rest hc hsize hempty _, ⟨nofun, fun h => ?_⟩, fun _ => rfl⟩
    omega
  rw [if_neg hpart]
  by_cases hagain : r.again = true
  · rw [if_pos hagain, hagain]
    exact ⟨false, given_rest hc hsize hempty 0, ⟨nofun, fun h => nomatch h.2⟩, fun _ => rfl⟩
  · -- the socket is broken
    rw [if_neg hagain]
    exact ⟨true, given_dropped,
      ⟨fun _ => ⟨Int.not_lt.mp hpart, Bool.eq_false_iff.mpr hagain⟩, fun _ => rfl⟩,
      fun hne => absurd hempty hne⟩

/-- **One packet** is given to the socket or the block as a whole, or dropped as a whole. -/
theorem given_handleOutputStream (hc : d.Fits c)
    (hsize : s.outputMsgBlock.size = socketBufferLength) :
    ∃ dropped, Given d s c (s.handleOutputStream d c r) dropped ∧
      (s.closed = false → (dropped = true ↔ s.Drops d c r)) ∧
      ((s.handleOutputStream d c r).outputMsgBlock.length ≠ 0 →
        s.closed = true ∨ s.outputMsgBlock.length ≠ 0 ∧
            (s.handleOutputStream d c r).writing = s.writing ∨
          (s.handleOutputStream d c r).writing = true) := by
  by_cases hclosed : s.closed = true
  · unfold handleOutputStream
    dsimp only
    rw [if_pos hclosed]
    exact ⟨true, given_dropped, fun hopen => absurd (hclosed.symm.trans hopen) nofun,
      fun _ => .inl hclosed⟩
  by_cases hempty : s.outputMsgBlock.length = 0
  · obtain ⟨dropped, hgiven, hdrops, hwriting⟩ := given_of_empty (r := r) hc hsize hclosed hempty
    refine ⟨dropped, hgiven, fun _ => ?_, fun hne => .inr (.inr (hwriting hne))⟩
    unfold Drops
    rw [if_pos hempty]
    exact hdrops
  · unfold handleOutputStream
    dsimp only
    rw [if_neg hclosed, if_neg hempty]
    refine ⟨_, given_serialized hc hsize (.inl rfl), fun _ => ?_,
      fun _ => .inr (.inl ⟨hempty, rfl⟩)⟩
    unfold Drops
    rw [if_neg hempty, ← serializeToMsgBlock_eq_false_iff, Bool.not_eq_true']

/-- **`handleOutputStream`** keeps the output a stream of whole packets. -/
theorem Framed.handleOutputStream (h : Framed d s) (hc : d.Fits c) :
    Framed d (s.handleOutputStream d c r) := by
  obtain ⟨dropped, hgiven, -, hwriting⟩ := given_handleOutputStream (r := r) hc h.size
  have hkept := kept_append hgiven.log
  refine ⟨?_, hgiven.size.trans h.size, ?_, ?_⟩
  · rw [hgiven.all, h.all, hkept, List.flatMap_append]
    cases dropped
    · exact congrArg _ (List.append_nil _).symm
    · rfl
  · intro hne
    rw [hgiven.closed]
    obtain hclosed | ⟨hold, hsame⟩ | hnew := hwriting hne
    · exact .inr hclosed
    · rw [hsame]
      exact h.writing hold
    · exact .inl hnew
  · intro c' hc'
    rw [hkept] at hc'
    obtain hc' | hc' := List.mem_append.mp hc'
    · exact h.fits c' hc'
    · cases dropped with
      | true => cases hc'
      | false => exact List.mem_singleton.mp hc' ▸ hc

/-- **`handle_output`** takes from the front of the block. -/
theorem Framed.handleOutput (h : Framed d s) (r : SendResult) :
    Framed d (s.handleOutput r) ∧ s.handed <+: (s.handleOutput r).handed ∧
      (s.handleOutput r).log = s.log := by
  unfold NetOutput.handleOutput
  by_cases hwaits : 0 < s.outputMsgBlock.length
  · rw [if_pos hwaits]
    by_cases hsent : 0 < r.value
    · rw [if_pos hsent]
      refine ⟨⟨?_, h.size, fun hne => .inl (decide_eq_true hne), h.fits⟩,
        List.prefix_append .., rfl⟩
      show (s.handed ++ s.outputMsgBlock.bytes.take r.value.toNat) ++
        s.outputMsgBlock.bytes.drop r.value.toNat = _
      rw [List.append_assoc, List.take_append_drop]
      exact h.all
    · rw [if_neg hsent]
      by_cases hagain : r.again = true
      · rw [if_pos hagain]
        exact ⟨h, List.prefix_rfl, rfl⟩
      · rw [if_neg hagain]
        exact ⟨⟨h.all, h.size, fun _ => .inr rfl, h.fits⟩, List.prefix_rfl, rfl⟩
  · rw [if_neg hwaits]
    exact ⟨⟨h.all, h.size, fun hne => absurd (Nat.pos_of_ne_zero hne) hwaits, h.fits⟩,
      List.prefix_rfl, rfl⟩

end NetOutput

end Steppingstone.Link
