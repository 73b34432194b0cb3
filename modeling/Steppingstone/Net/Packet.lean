/-
  Steppingstone.Net.Packet — packets and the byte stream (`Packet.h`,
  `Packet.cpp`, `Sessionx.cpp`, `CellSessionx.cpp`).

  A packet is a packed head of 12 bytes, little-endian, and a body.  The body's
  length goes into 16 bits, and so does the length of head and body together,
  which the sender copies.

  The sender queues packets, copies them into a buffer while there is space and
  sends as much of it as the socket takes.  The receiver moves what is left in
  its buffer to the front, receives as much as there is space for and cuts off
  the packets that are complete.  Bytes arrive in order.
-/
import Steppingstone.Lib.Framing
import Steppingstone.Lib.LittleEndian
import Steppingstone.Lib.TransSys

namespace Steppingstone.Net

open LittleEndian

/-! ## §1. Packets. -/

/-- `Head`. -/
structure Head where
  opcode : UInt16
  size : UInt16
  guid : UInt64
  deriving Repr, DecidableEq

/-- `Packet::m_head_size`. -/
def headSize : UInt16 := 12

/-- The head in memory. -/
def Head.bytes (h : Head) : List UInt8 :=
  toBytes 2 h.opcode.toNat ++ toBytes 2 h.size.toNat ++ toBytes 8 h.guid.toNat

/-- The head read from the front of a buffer. -/
def Head.ofBytes (b : List UInt8) : Head where
  opcode := UInt16.ofNat (LittleEndian.ofBytes (b.take 2))
  size := UInt16.ofNat (LittleEndian.ofBytes ((b.drop 2).take 2))
  guid := UInt64.ofNat (LittleEndian.ofBytes ((b.drop 4).take 8))

/-- What a packet is made from and what its receiver reads. -/
structure Content where
  opcode : UInt16
  guid : UInt64
  body : List UInt8
  deriving Repr, DecidableEq

/-- `Packet`: `m_head` and `m_buffer`. -/
structure Packet where
  head : Head
  buffer : List UInt8
  deriving Repr, DecidableEq

namespace Packet

/-- `Packet(opcode, guid, buffer)`. -/
def new (c : Content) : Packet :=
  let head : Head := { opcode := c.opcode, size := UInt16.ofNat c.body.length, guid := c.guid }
  { head, buffer := head.bytes ++ c.body }

variable (p : Packet)

/-- The size of the body. -/
def bodySize : UInt16 := p.head.size

/-- The size on the wire, in 16 bits. -/
def streamSize : UInt16 := headSize + p.head.size

/-- The bytes behind the head. -/
def chBody : List UInt8 := p.buffer.drop headSize.toNat

/-- The bytes the sender copies: `stream_size()` of `stream()`. -/
def stream : List UInt8 := p.buffer.take p.streamSize.toNat

/-- Opcode, guid and the `body_size()` bytes of `ch_body()`. -/
def content : Content where
  opcode := p.head.opcode
  guid := p.head.guid
  body := p.chBody.take p.bodySize.toNat

end Packet

/-! ## §2. Cutting off packets. -/

/-- One round of `parseInputPacket`. -/
def parseOne (inputs : List UInt8) : Option (Packet × List UInt8) :=
  if inputs.length < headSize.toNat then none
  else
    let head := Head.ofBytes inputs
    if inputs.length ≥ headSize.toNat + head.size.toNat then
      let body := (inputs.drop headSize.toNat).take head.size.toNat
      some ({ head, buffer := head.bytes ++ body },
        (inputs.drop headSize.toNat).drop head.size.toNat)
    else none

theorem Head.bytes_length (h : Head) : h.bytes.length = 12 := by
  simp [Head.bytes]

theorem Head.ofBytes_append {b : List UInt8} (hb : 12 ≤ b.length) (c : List UInt8) :
    Head.ofBytes (b ++ c) = Head.ofBytes b := by
  unfold Head.ofBytes
  rw [List.take_append_of_le_length (by omega), List.drop_append_of_le_length (by omega),
    List.take_append_of_le_length (by rw [List.length_drop]; omega),
    List.drop_append_of_le_length (by omega),
    List.take_append_of_le_length (by rw [List.length_drop]; omega)]

/-- **A head** is read back from its bytes. -/
theorem Head.ofBytes_bytes (h : Head) : Head.ofBytes h.bytes = h := by
  have hop : LittleEndian.ofBytes (toBytes 2 h.opcode.toNat) = h.opcode.toNat :=
    ofBytes_toBytes_of_lt h.opcode.toNat_lt
  have hsize : LittleEndian.ofBytes (toBytes 2 h.size.toNat) = h.size.toNat :=
    ofBytes_toBytes_of_lt h.size.toNat_lt
  have hguid : LittleEndian.ofBytes (toBytes 8 h.guid.toNat) = h.guid.toNat :=
    ofBytes_toBytes_of_lt h.guid.toNat_lt
  have hlop := length_toBytes 2 h.opcode.toNat
  have hlsize := length_toBytes 2 h.size.toNat
  have hlguid := length_toBytes 8 h.guid.toNat
  have hlen : (toBytes 2 h.opcode.toNat ++ toBytes 2 h.size.toNat).length = 4 := by
    rw [List.length_append, hlop, hlsize]
  have h1 : h.bytes.take 2 = toBytes 2 h.opcode.toNat := by
    unfold Head.bytes
    rw [List.append_assoc]
    exact List.take_left' hlop
  have h2 : (h.bytes.drop 2).take 2 = toBytes 2 h.size.toNat := by
    unfold Head.bytes
    rw [List.append_assoc, List.drop_left' hlop]
    exact List.take_left' hlsize
  have h3 : (h.bytes.drop 4).take 8 = toBytes 8 h.guid.toNat := by
    unfold Head.bytes
    rw [List.drop_left' hlen, List.take_of_length_le (by omega)]
  unfold Head.ofBytes
  rw [h1, h2, h3, hop, hsize, hguid]
  simp

theorem parseOne_eq_some {inputs rest : List UInt8} {p : Packet} :
    parseOne inputs = some (p, rest) ↔
      12 + p.head.size.toNat ≤ inputs.length ∧ p.head = Head.ofBytes inputs ∧
      p.buffer = p.head.bytes ++ (inputs.drop 12).take p.head.size.toNat ∧
      rest = inputs.drop (12 + p.head.size.toNat) := by
  have hsize : headSize.toNat = 12 := rfl
  unfold parseOne
  rw [hsize]
  refine ⟨?_, ?_⟩
  · intro h
    split at h
    · exact absurd h (by simp)
    · dsimp only at h
      split at h
      · next hle =>
          obtain ⟨rfl, rfl⟩ := Prod.mk.inj (Option.some.inj h)
          exact ⟨hle, rfl, rfl, by rw [List.drop_drop]⟩
      · exact absurd h (by simp)
  · intro h
    obtain ⟨hlen, hhead, hbuf, hrest⟩ := h
    rw [if_neg (by omega)]
    dsimp only
    rw [← hhead, if_pos hlen, ← hbuf, hrest, List.drop_drop]

/-- **Cutting packets off** the front of a buffer. -/
def packetFramer : Framer UInt8 Packet where
  next := parseOne
  shrinks := by
    intro b p r h
    obtain ⟨hlen, -, -, rfl⟩ := parseOne_eq_some.mp h
    rw [List.length_drop]
    omega
  extends_ := by
    intro b p r c h
    obtain ⟨hlen, hhead, hbuf, rfl⟩ := parseOne_eq_some.mp h
    refine parseOne_eq_some.mpr ⟨?_, ?_, ?_, ?_⟩
    · rw [List.length_append]
      omega
    · rw [Head.ofBytes_append (by omega)]
      exact hhead
    · rw [List.drop_append_of_le_length (by omega),
        List.take_append_of_le_length (by rw [List.length_drop]; omega)]
      exact hbuf
    · rw [List.drop_append_of_le_length hlen]

/-- `parseInputPacket`: the packets given to the handler, and what is left. -/
def parseInputPacket (inputs : List UInt8) : List Packet × List UInt8 :=
  packetFramer.parse inputs

/-- What is left is shorter than the longest packet. -/
theorem parseInputPacket_left (inputs : List UInt8) :
    (parseInputPacket inputs).2.length < 12 + 65536 := by
  have hnone : parseOne (parseInputPacket inputs).2 = none := packetFramer.next_parse inputs
  have hsize : headSize.toNat = 12 := rfl
  unfold parseOne at hnone
  rw [hsize] at hnone
  split at hnone
  · omega
  · dsimp only at hnone
    split at hnone
    · exact absurd hnone (by simp)
    · have hlt := (Head.ofBytes (parseInputPacket inputs).2).size.toNat_lt
      omega

/-! ## §3. Bodies that fit. -/

/-- Head and body together have a length of 16 bits. -/
def Content.Fits (c : Content) : Prop := c.body.length + 12 < 2 ^ 16

instance (c : Content) : Decidable c.Fits := inferInstanceAs (Decidable (_ < _))

/-- A body of 65524 bytes is too long, with the head before it. -/
theorem Content.not_fits {c : Content} (h : 65524 ≤ c.body.length) : ¬ c.Fits := by
  unfold Content.Fits
  omega

namespace Packet

theorem new_length (c : Content) : (new c).buffer.length = c.body.length + 12 := by
  show ((Head.mk ..).bytes ++ c.body).length = _
  rw [List.length_append, Head.bytes_length]
  omega

theorem new_streamSize (c : Content) :
    (new c).streamSize.toNat = (c.body.length + 12) % 2 ^ 16 := by
  show ((12 : UInt16) + UInt16.ofNat c.body.length).toNat = _
  rw [UInt16.toNat_add, UInt16.toNat_ofNat']
  show (12 + c.body.length % 2 ^ 16) % 2 ^ 16 = _
  omega

/-- **What the sender copies** is the whole packet exactly if the body fits. -/
theorem stream_length (c : Content) :
    (new c).stream.length = (c.body.length + 12) % 2 ^ 16 := by
  have hle : (c.body.length + 12) % 2 ^ 16 ≤ c.body.length + 12 := Nat.mod_le _ _
  unfold stream
  rw [List.length_take, new_streamSize, new_length, Nat.min_eq_left hle]

theorem stream_eq {c : Content} (h : c.Fits) : (new c).stream = (new c).buffer := by
  unfold stream
  refine List.take_of_length_le ?_
  rw [new_streamSize, new_length, Nat.mod_eq_of_lt h]

/-- The head of a packet has the length of any body of 16 bits. -/
theorem new_size_of_lt {c : Content} (h : c.body.length < 2 ^ 16) :
    (new c).head.size.toNat = c.body.length := by
  show (UInt16.ofNat c.body.length).toNat = _
  rw [UInt16.toNat_ofNat']
  exact Nat.mod_eq_of_lt h

theorem new_size {c : Content} (h : c.Fits) : (new c).head.size.toNat = c.body.length := by
  have h' : c.body.length + 12 < 65536 := h
  exact new_size_of_lt (by omega)

/-- A packet whose head has the length of its body is cut off the front as it was made. -/
theorem parseOne_of_size {c : Content} (hsize : (new c).head.size.toNat = c.body.length)
    (r : List UInt8) : parseOne ((new c).buffer ++ r) = some (new c, r) := by
  have hlen := new_length c
  have hbytes : (new c).buffer = (new c).head.bytes ++ c.body := rfl
  have hdrop : ((new c).buffer ++ r).drop 12 = c.body ++ r := by
    rw [hbytes, List.append_assoc, ← Head.bytes_length (new c).head, List.drop_left]
  refine parseOne_eq_some.mpr ⟨?_, ?_, ?_, ?_⟩
  · rw [List.length_append, hlen, hsize]
    omega
  · rw [Head.ofBytes_append (by omega), hbytes,
      Head.ofBytes_append (by rw [Head.bytes_length]), Head.ofBytes_bytes]
  · rw [hdrop, hsize, List.take_left, hbytes]
  · rw [← List.drop_drop, hdrop, hsize, List.drop_left]

/-- A packet is cut off the front as it was made. -/
theorem parseOne_new {c : Content} (h : c.Fits) (r : List UInt8) :
    parseOne ((new c).buffer ++ r) = some (new c, r) :=
  parseOne_of_size (new_size h) r

/-- A packet whose head has the length of its body is read as what it was made from. -/
theorem content_of_size {c : Content} (hsize : (new c).head.size.toNat = c.body.length) :
    (new c).content = c := by
  have hdrop : (new c).buffer.drop 12 = c.body := by
    show ((new c).head.bytes ++ c.body).drop 12 = c.body
    rw [← Head.bytes_length (new c).head, List.drop_left]
  show Content.mk c.opcode c.guid (((new c).buffer.drop 12).take (new c).head.size.toNat) = c
  rw [hdrop, hsize, List.take_length]

/-- **What was made from a content** is read as that content. -/
theorem content_new {c : Content} (h : c.Fits) : (new c).content = c :=
  content_of_size (new_size h)

end Packet

end Steppingstone.Net
