/-
  Steppingstone.Net.Input — the input of a session (`Sessionx::rd_stream`, `parseInputPacket`).

  Each round moves what is left in the input block to its front, receives at most as much as there
  is space for behind it, and cuts the complete packets off by moving the read pointer over them.
  What is left then stays where it is until the next round begins.
-/
import Steppingstone.Lib.Block
import Steppingstone.Net.Stream

namespace Steppingstone.Net

/-! ## §1. A round. -/

/-- One pass of the loop in `parseInputPacket`; `none` when it ends. -/
def parsePass (inputs : Block UInt8) : Option (Packet × Block UInt8) :=
  if inputs.length < headSize.toNat then none
  else
    let head := Head.ofBytes inputs.bytes
    if inputs.length ≥ headSize.toNat + head.size.toNat then
      let inputs := inputs.read headSize.toNat
      let body := inputs.bytes.take head.size.toNat
      some ({ head, buffer := head.bytes ++ body }, inputs.read head.size.toNat)
    else none

/-- `parseInputPacket` in at most so many passes: the packets and the block, if the loop ends. -/
def parseLoop : Nat → Block UInt8 → Option (List Packet × Block UInt8)
  | 0, _ => none
  | passes + 1, inputs =>
      match parsePass inputs with
      | none => some ([], inputs)
      | some (ps, inputs) =>
          (parseLoop passes inputs).map fun rest => (ps :: rest.1, rest.2)

/-- `Sessionx`: `m_inputs`. -/
structure Sessionx where
  inputs : Block UInt8 := .empty socketBufferLength
  /-- `rd_stream` returned -1; the reactor removes the session. -/
  closed : Bool := false
  /-- Ghost: the packets given to `m_handle_input`. -/
  taken : List Packet := []
  /-- Ghost: the bytes that arrived. -/
  arrived : List UInt8 := []
  deriving DecidableEq

/-- What `recv` returns; of an error whether it is one of `EWOULDBLOCK`, `EINTR` and `EAGAIN`. -/
inductive Recv where
  | bytes (chunk : List UInt8)
  | remoteClosed
  | error (again : Bool)
  deriving DecidableEq

namespace Sessionx

variable (s : Sessionx)

/-- The block that is offered to `recv`, from its write pointer on. -/
def offered : Block UInt8 := s.inputs.crunch

/-- What `recv` can return: bytes that there is space for, and never none of them. -/
def CanReceive : Recv → Prop
  | .bytes chunk => 0 < chunk.length ∧ chunk.length ≤ s.offered.space
  | .remoteClosed => True
  | .error _ => True

instance (r : Recv) : Decidable (s.CanReceive r) := by
  cases r <;> unfold CanReceive <;> infer_instance

/-- `rd_stream`.  A loop that does not end in as many passes as there are bytes is no step. -/
def rdStream (r : Recv) : Option Sessionx :=
  if s.CanReceive r then
    match r with
    | .bytes chunk =>
        let inputs := s.offered.copy chunk
        (parseLoop (inputs.length + 1) inputs).map fun parsed =>
          { s with
            inputs := parsed.2
            taken := s.taken ++ parsed.1
            arrived := s.arrived ++ chunk }
    | .remoteClosed => some { s with inputs := s.offered, closed := true }
    | .error again => some { s with inputs := s.offered, closed := !again }
  else none

end Sessionx

/-- The reactor calls `rd_stream` until it fails. -/
def inputSystem : TransSys Sessionx Recv where
  init s := s = {}
  step s r := if s.closed then none else s.rdStream r

/-- A head and the longest body that its length field can announce. -/
def longestPacket : Nat := 12 + 65535

/-- **A round has room**: what is left holds no complete packet and is shorter than the longest
one; the round begins with it at the front of the block; and there is space to receive. -/
structure Sessionx.HasRoom (s : Sessionx) : Prop where
  parsed : parseInputPacket s.arrived = (s.taken, s.inputs.bytes)
  complete : parseOne s.inputs.bytes = none
  short : s.inputs.length < longestPacket
  front : s.offered.rdPtr = 0 ∧ s.offered.bytes = s.inputs.bytes
  space : socketBufferLength - longestPacket < s.offered.space
  ends : ∀ r, s.CanReceive r → (s.rdStream r).isSome = true

/-! ## §2. The loop. -/

/-- A pass cuts off the packet that the bytes begin with. -/
theorem parsePass_eq (b : Block UInt8) :
    (parsePass b).map (fun r => (r.1, r.2.bytes)) = parseOne b.bytes := by
  unfold parsePass parseOne Block.length
  split
  · rfl
  · dsimp only
    split
    · rfl
    · rfl

theorem parsePass_size {b b' : Block UInt8} {p : Packet} (h : parsePass b = some (p, b')) :
    b'.size = b.size := by
  unfold parsePass at h
  split at h
  · exact absurd h (by simp)
  · dsimp only at h
    split at h
    · rw [← (Prod.mk.inj (Option.some.inj h)).2, Block.read_size, Block.read_size]
    · exact absurd h (by simp)

theorem parsePass_some {b b' : Block UInt8} {p : Packet} (h : parsePass b = some (p, b')) :
    packetFramer.next b.bytes = some (p, b'.bytes) := by
  show parseOne b.bytes = _
  rw [← parsePass_eq, h]
  rfl

theorem parsePass_none {b : Block UInt8} (h : parsePass b = none) :
    packetFramer.next b.bytes = none := by
  show parseOne b.bytes = _
  rw [← parsePass_eq, h]
  rfl

/-- **The loop ends**, and what it takes out and leaves is what the bytes hold and leave. -/
theorem parseLoop_eq {passes : Nat} {b : Block UInt8} (h : b.length < passes) :
    ∃ left, parseLoop passes b = some ((parseInputPacket b.bytes).1, left) ∧
      left.bytes = (parseInputPacket b.bytes).2 ∧ left.size = b.size := by
  induction passes generalizing b with
  | zero => exact absurd h (Nat.not_lt_zero _)
  | succ passes ih =>
      unfold parseLoop parseInputPacket
      match hpass : parsePass b with
      | none =>
          rw [packetFramer.parse_of_none (parsePass_none hpass)]
          exact ⟨b, rfl, rfl, rfl⟩
      | some (p, b') =>
          have hnext := parsePass_some hpass
          -- a packet has at least its head
          have hshort : b'.length < b.length := packetFramer.shrinks hnext
          obtain ⟨left, hloop, hbytes, hsize⟩ := ih (b := b') (by omega)
          rw [packetFramer.parse_of_some hnext]
          dsimp only
          rw [hloop]
          exact ⟨left, rfl, hbytes, hsize.trans (parsePass_size hpass)⟩

/-! ## §3. What is left. -/

/-- Bytes that hold no complete packet are fewer than the longest packet has. -/
theorem length_of_parseOne {inputs : List UInt8} (h : parseOne inputs = none) :
    inputs.length < longestPacket := by
  have hhead : headSize.toNat = 12 := rfl
  have hlongest : longestPacket = 65547 := rfl
  unfold parseOne at h
  split at h
  · omega
  · dsimp only at h
    split at h
    · exact absurd h (by simp)
    · have hlt := (Head.ofBytes inputs).size.toNat_lt
      omega

/-- **What is left leaves space** to receive. -/
theorem space_of_left {s : Sessionx} (hsize : s.inputs.size = socketBufferLength)
    (hshort : s.inputs.length < longestPacket) :
    socketBufferLength - longestPacket < s.offered.space := by
  have hbuffer : socketBufferLength = 102400 := rfl
  have hlongest : longestPacket = 65547 := rfl
  unfold Sessionx.offered
  rw [Block.space_crunch, hsize]
  omega

namespace Sessionx

variable {s s' : Sessionx}

/-- **The invariant**: what arrived has been parsed. -/
structure Parsed (s : Sessionx) : Prop where
  parsed : parseInputPacket s.arrived = (s.taken, s.inputs.bytes)
  size : s.inputs.size = socketBufferLength

theorem Parsed.init : Parsed {} where
  parsed := rfl
  size := rfl

/-- What `rd_stream` does with bytes that arrive. -/
theorem rdStream_bytes {chunk : List UInt8} (h : s.CanReceive (.bytes chunk)) :
    ∃ left : Block UInt8, s.rdStream (.bytes chunk) = some { s with
        inputs := left
        taken := s.taken ++ (parseInputPacket (s.inputs.bytes ++ chunk)).1
        arrived := s.arrived ++ chunk } ∧
      left.bytes = (parseInputPacket (s.inputs.bytes ++ chunk)).2 ∧
      left.size = s.inputs.size := by
  -- the chunk comes behind what was left
  have hbytes : (s.offered.copy chunk).bytes = s.inputs.bytes ++ chunk :=
    s.offered.copy_of_le h.2
  obtain ⟨left, hloop, hleft, hsize⟩ :=
    parseLoop_eq (Nat.lt_succ_self (s.offered.copy chunk).length)
  rw [hbytes] at hloop hleft
  refine ⟨left, ?_, hleft, hsize.trans (Block.copy_size ..)⟩
  unfold rdStream
  rw [if_pos h]
  dsimp only
  rw [hloop]
  rfl

/-- **A round** parses what arrives. -/
theorem Parsed.rdStream (h : s.Parsed) {r : Recv} (hst : s.rdStream r = some s') : s'.Parsed := by
  by_cases hcan : s.CanReceive r
  · cases r with
    | bytes chunk =>
        obtain ⟨left, hround, hleft, hsize⟩ := rdStream_bytes hcan
        rw [hround] at hst
        rw [← Option.some.inj hst]
        refine ⟨?_, hsize.trans h.size⟩
        -- the new bytes continue what was left
        have happ := packetFramer.parse_append s.arrived chunk
        have hparsed : packetFramer.parse s.arrived = (s.taken, s.inputs.bytes) := h.parsed
        rw [hparsed] at happ
        show parseInputPacket (s.arrived ++ chunk) = _
        rw [hleft]
        exact happ
    | remoteClosed =>
        unfold Sessionx.rdStream at hst
        rw [if_pos hcan] at hst
        rw [← Option.some.inj hst]
        exact ⟨h.parsed, h.size⟩
    | error again =>
        unfold Sessionx.rdStream at hst
        rw [if_pos hcan] at hst
        rw [← Option.some.inj hst]
        exact ⟨h.parsed, h.size⟩
  · unfold Sessionx.rdStream at hst
    rw [if_neg hcan] at hst
    exact absurd hst (by simp)

/-- Whatever `recv` returns, the round ends. -/
theorem rdStream_isSome {r : Recv} (h : s.CanReceive r) : (s.rdStream r).isSome = true := by
  cases r with
  | bytes chunk =>
      obtain ⟨left, hround, -⟩ := rdStream_bytes h
      rw [hround]
      rfl
  | remoteClosed =>
      unfold rdStream
      rw [if_pos h]
      rfl
  | error again =>
      unfold rdStream
      rw [if_pos h]
      rfl

theorem Parsed.hasRoom (h : s.Parsed) : s.HasRoom := by
  have hcomplete : parseOne s.inputs.bytes = none := by
    have hnext := packetFramer.next_parse s.arrived
    have hparsed : packetFramer.parse s.arrived = (s.taken, s.inputs.bytes) := h.parsed
    rw [hparsed] at hnext
    exact hnext
  have hshort : s.inputs.length < longestPacket := length_of_parseOne hcomplete
  exact
    { parsed := h.parsed
      complete := hcomplete
      short := hshort
      front := ⟨rfl, rfl⟩
      space := space_of_left h.size hshort
      ends := fun _ => rdStream_isSome }

end Sessionx

/-! ## §4. Every run. -/

theorem inputSystem_parsed {s : Sessionx} (hs : inputSystem.Reachable s) : s.Parsed := by
  refine hs.invariant ?_ ?_
  · intro s hs
    rw [show s = {} from hs]
    exact Sessionx.Parsed.init
  · intro s r s' h _ hst
    have hst : (if s.closed then none else s.rdStream r) = some s' := hst
    split at hst
    · exact absurd hst (by simp)
    · exact h.rdStream hst

/-- **Whatever arrives, in whatever chunks**, every round leaves less than the longest packet and
no complete one, and the next has it at the front and space behind it. -/
theorem rdStream_has_room {s : Sessionx} (hs : inputSystem.Reachable s) : s.HasRoom :=
  (inputSystem_parsed hs).hasRoom

/-- A packet without a body and the first byte of the next. -/
def packetAndByte : List UInt8 := List.replicate 13 0

theorem rdStream_has_room_packetAndByte :
    ∃ s, inputSystem.run {} [.bytes packetAndByte] = some s ∧ s.HasRoom := by
  have hsome : (inputSystem.run {} [.bytes packetAndByte]).isSome = true := by decide
  obtain ⟨s, hrun⟩ := Option.isSome_iff_exists.mp hsome
  exact ⟨s, hrun, rdStream_has_room (TransSys.reachable_of_run rfl hrun)⟩

/-- **What is left is not at the front** when the round is over. -/
theorem left_behind_packet :
    ¬ ∀ s, inputSystem.Reachable s → s.inputs.rdPtr = 0 := by
  intro hall
  have hrun : (inputSystem.run {} [.bytes packetAndByte]).map (fun s => s.inputs.rdPtr)
      = some 12 := by decide
  obtain ⟨s, hs, hptr⟩ := Option.map_eq_some_iff.mp hrun
  have hfront := hall s (TransSys.reachable_of_run rfl hs)
  omega

end Steppingstone.Net
