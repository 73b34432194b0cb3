/-
  Steppingstone.Net.Stream — the packets of a connection arrive as they were
  sent, if they fit.

  The length of head and body goes into 16 bits.  A body of 65524 bytes or more
  makes it wrap: the sender copies the length modulo 2^16, so the rest of the
  packet is lost and the receiver takes what follows for its body.
-/
import Mathlib.Data.List.Induction
import Steppingstone.Net.Packet

namespace Steppingstone.Net

/-! ## §1. The connection. -/

/-- A sender (`CellSessionx`), the bytes under way and a receiver (`Sessionx`). -/
structure Connection where
  deferredOutputs : List Packet := []
  /-- `m_outputs` from its read pointer on. -/
  outputs : List UInt8 := []
  /-- The bytes before the read pointer of `m_outputs`. -/
  outputsRead : Nat := 0
  wire : List UInt8 := []
  /-- `m_inputs`, at the front of its buffer. -/
  inputs : List UInt8 := []
  /-- The packets given to `m_handle_input->input`. -/
  received : List Packet := []
  /-- Ghost: what was sent. -/
  sent : List Content := []
  /-- Ghost: the bytes that arrived. -/
  arrived : List UInt8 := []
  deriving Repr, DecidableEq

/-- `m_socket_buffer_length`. -/
def socketBufferLength : Nat := 102400

/-- The loop of `wt_stream` that copies packets: those left, and the bytes. -/
def copyDeferred : List Packet → Nat → List Packet × List UInt8
  | [], _ => ([], [])
  | p :: ps, space =>
      if p.streamSize.toNat < space then
        let (rest, bytes) := copyDeferred ps (space - p.streamSize.toNat)
        (rest, p.stream ++ bytes)
      else (p :: ps, [])

namespace Connection

variable (s : Connection)

/-- A packet is queued. -/
def output (c : Content) : Connection :=
  { s with deferredOutputs := s.deferredOutputs ++ [Packet.new c], sent := s.sent ++ [c] }

/-- `wt_stream` when the socket takes `n` bytes. -/
def wtStream (n : Nat) : Option Connection :=
  if s.deferredOutputs = [] ∧ s.outputs = [] then some s
  else
    let (deferred, bytes) := copyDeferred s.deferredOutputs
      (socketBufferLength - s.outputsRead - s.outputs.length)
    let outputs := s.outputs ++ bytes
    if n ≤ outputs.length then
      some { s with
        deferredOutputs := deferred
        outputs := outputs.drop n
        outputsRead := if (outputs.drop n).length < 500 then 0 else s.outputsRead + n
        wire := s.wire ++ outputs.take n }
    else none

/-- `rd_stream` when `n` bytes are received. -/
def rdStream (n : Nat) : Option Connection :=
  if 0 < n ∧ n ≤ s.wire.length ∧ n ≤ socketBufferLength - s.inputs.length then
    let (packets, left) := parseInputPacket (s.inputs ++ s.wire.take n)
    some { s with
      wire := s.wire.drop n
      inputs := left
      received := s.received ++ packets
      arrived := s.arrived ++ s.wire.take n }
  else none

/-- Everything that was sent has arrived. -/
def Drained : Prop := s.deferredOutputs = [] ∧ s.outputs = [] ∧ s.wire = []

end Connection

/-- A packet is queued, or a round of the writer or the reader with `n` bytes. -/
inductive Act where
  | output (c : Content)
  | wtStream (n : Nat)
  | rdStream (n : Nat)
  deriving Repr, DecidableEq

/-- One act, where it can happen. -/
def step (s : Connection) : Act → Option Connection
  | .output c => some (s.output c)
  | .wtStream n => s.wtStream n
  | .rdStream n => s.rdStream n

/-- The connection, step by step. -/
def streamSystem : TransSys Connection Act where
  init s := s = {}
  step := step

theorem streamSystem_step (s : Connection) (a : Act) : streamSystem.step s a = step s a := rfl

/-- The bytes of a packet. -/
def encode (c : Content) : List UInt8 := (Packet.new c).buffer

/-- **The receiver is in step**: it has the first of the packets that were sent,
its buffer holds exactly the rest of what arrived, a proper part of the next
packet, and when everything has arrived it has all packets. -/
structure InStep (s : Connection) : Prop where
  tail : ∃ rest, s.sent = s.received.map Packet.content ++ rest ∧
    s.arrived = (s.received.map Packet.content).flatMap encode ++ s.inputs ∧
    (rest = [] → s.inputs = []) ∧
    ∀ c rest', rest = c :: rest' → s.inputs.length < (encode c).length
  complete : s.Drained → s.received.map Packet.content = s.sent

/-! ## §2. What every run keeps. -/

/-- The receiver has parsed what arrived; the bytes that did not arrive wait in
order; and the sender's buffer is at its start when it is nearly empty. -/
structure Piped (s : Connection) : Prop where
  parsed : parseInputPacket s.arrived = (s.received, s.inputs)
  stream : s.arrived ++ (s.wire ++ (s.outputs ++ s.deferredOutputs.flatMap Packet.stream)) =
    s.sent.flatMap fun c => (Packet.new c).stream
  low : s.outputs.length < 500 → s.outputsRead = 0

/-- Copying loses no byte. -/
theorem copyDeferred_flatMap (ps : List Packet) (space : Nat) :
    (copyDeferred ps space).2 ++ (copyDeferred ps space).1.flatMap Packet.stream =
      ps.flatMap Packet.stream := by
  induction ps generalizing space with
  | nil => rfl
  | cons p ps ih =>
      unfold copyDeferred
      split
      · show p.stream ++ _ ++ _ = _
        rw [List.append_assoc, ih, List.flatMap_cons]
      · rfl

namespace Piped

variable {s s' : Connection}

theorem init : Piped {} where
  parsed := rfl
  stream := rfl
  low := fun _ => rfl

theorem output (h : Piped s) (c : Content) : Piped (s.output c) := by
  refine ⟨h.parsed, ?_, h.low⟩
  show s.arrived ++ (s.wire ++ (s.outputs ++ (s.deferredOutputs ++ [Packet.new c]).flatMap _)) =
    (s.sent ++ [c]).flatMap _
  rw [List.flatMap_append, List.flatMap_append, ← h.stream]
  simp [List.append_assoc]

theorem wtStream (h : Piped s) {n : Nat} (hst : s.wtStream n = some s') : Piped s' := by
  unfold Connection.wtStream at hst
  split at hst
  · obtain rfl := Option.some.inj hst
    exact h
  · dsimp only at hst
    split at hst
    · obtain rfl := Option.some.inj hst
      refine ⟨h.parsed, ?_, ?_⟩
      · -- what is copied, taken by the socket and left is what waited
        have hcopy := copyDeferred_flatMap s.deferredOutputs
          (socketBufferLength - s.outputsRead - s.outputs.length)
        rw [← h.stream]
        dsimp only
        rw [← hcopy, List.append_assoc s.wire, ← List.append_assoc (List.take n _),
          List.take_append_drop, List.append_assoc s.outputs]
      · intro hlow
        exact if_pos hlow
    · exact absurd hst (by simp)

theorem rdStream (h : Piped s) {n : Nat} (hst : s.rdStream n = some s') : Piped s' := by
  unfold Connection.rdStream at hst
  split at hst
  · dsimp only at hst
    obtain rfl := Option.some.inj hst
    refine ⟨?_, ?_, h.low⟩
    · -- the new bytes continue what was left
      have happ := packetFramer.parse_append s.arrived (s.wire.take n)
      have hparsed : packetFramer.parse s.arrived = (s.received, s.inputs) := h.parsed
      rw [hparsed] at happ
      exact happ
    · rw [← h.stream]
      dsimp only
      rw [List.append_assoc s.arrived, ← List.append_assoc (List.take n s.wire),
        List.take_append_drop]
  · exact absurd hst (by simp)

/-- **Every step** loses no byte and leaves none unparsed. -/
theorem step {a : Act} (h : Piped s) (hst : Net.step s a = some s') : Piped s' := by
  match a with
  | .output c =>
      obtain rfl := Option.some.inj hst
      exact h.output c
  | .wtStream n => exact h.wtStream hst
  | .rdStream n => exact h.rdStream hst

end Piped

theorem reachable_piped {s : Connection} (hs : streamSystem.Reachable s) : Piped s := by
  refine hs.invariant ?_ ?_
  · intro s hs
    rw [show s = {} from hs]
    exact Piped.init
  · intro s a s' h _ hst
    rw [streamSystem_step] at hst
    exact h.step hst

/-! ## §3. Packets that fit. -/

theorem sent_stream {cs : List Content} (h : ∀ c ∈ cs, c.Fits) :
    cs.flatMap (fun c => (Packet.new c).stream) = (cs.map Packet.new).flatMap Packet.buffer := by
  induction cs with
  | nil => rfl
  | cons c cs ih =>
      rw [List.flatMap_cons, List.map_cons, List.flatMap_cons,
        Packet.stream_eq (h c (List.mem_cons_self ..)),
        ih (fun d hd => h d (List.mem_cons_of_mem _ hd))]

theorem map_content_new {cs : List Content} (h : ∀ c ∈ cs, c.Fits) :
    (cs.map Packet.new).map Packet.content = cs := by
  rw [List.map_map]
  exact (List.map_congr_left fun c hc => Packet.content_new (h c hc)).trans (List.map_id cs)

/-- **When every body fits**, the receiver is in step. -/
theorem Piped.inStep {s : Connection} (h : Piped s) (hfit : ∀ c ∈ s.sent, c.Fits) :
    InStep s := by
  have hstream := h.stream
  rw [sent_stream hfit] at hstream
  have henc : ∀ p ∈ s.sent.map Packet.new, ∀ r,
      packetFramer.next (p.buffer ++ r) = some (p, r) := by
    intro p hp r
    obtain ⟨c, hc, rfl⟩ := List.mem_map.mp hp
    exact Packet.parseOne_new (hfit c hc) r
  obtain ⟨rest, hsent, harr, hnil, hcons⟩ := Framer.parse_part henc hstream
  have hparsed : packetFramer.parse s.arrived = (s.received, s.inputs) := h.parsed
  rw [hparsed] at hsent harr hnil hcons
  dsimp only at hsent harr hnil hcons
  -- the received packets are the first of those that were sent
  obtain ⟨done, rest', hsplit, hdone, hrest⟩ := List.map_eq_append_iff.mp hsent
  have hfitDone : ∀ c ∈ done, c.Fits := by
    intro c hc
    refine hfit c ?_
    rw [hsplit]
    exact List.mem_append_left _ hc
  have hcontent : s.received.map Packet.content = done := by
    rw [← hdone]
    exact map_content_new hfitDone
  have htail : s.arrived = done.flatMap encode ++ s.inputs := by
    have hmap : (s.received).flatMap Packet.buffer = done.flatMap encode := by
      rw [← hdone, List.flatMap_map]
      rfl
    rw [← hmap]
    exact harr
  refine ⟨⟨rest', ?_, ?_, ?_, ?_⟩, ?_⟩
  · rw [hcontent]
    exact hsplit
  · rw [hcontent]
    exact htail
  · intro hr
    refine hnil ?_
    rw [← hrest, hr]
    rfl
  · intro c rest'' hr
    refine hcons (Packet.new c) (rest''.map Packet.new) ?_
    rw [← hrest, hr]
    rfl
  · intro hdrained
    obtain ⟨hdef, hout, hwire⟩ := hdrained
    rw [hdef, hout, hwire] at hstream
    match rest', hrest, hsplit with
    | [], _, hsplit =>
        rw [hcontent, hsplit, List.append_nil]
    | c :: rest'', hrest, hsplit =>
        -- something that was sent would be neither received nor left over
        have hlt : s.inputs.length < (Packet.new c).buffer.length :=
          hcons (Packet.new c) (rest''.map Packet.new) hrest.symm
        have harr' : s.arrived = (s.sent.map Packet.new).flatMap Packet.buffer := by
          simpa using hstream
        have hlen := congrArg List.length (harr'.symm.trans htail)
        rw [hsplit, List.map_append, List.flatMap_append, List.map_cons, List.flatMap_cons,
          List.flatMap_map] at hlen
        have hsame : done.flatMap (fun c => (Packet.new c).buffer) = done.flatMap encode := rfl
        rw [hsame] at hlen
        simp only [List.length_append] at hlen
        omega

/-! ## §4. Nobody blocks. -/

theorem copyDeferred_length (ps : List Packet) (space : Nat) :
    (copyDeferred ps space).1.length ≤ ps.length := by
  induction ps generalizing space with
  | nil => exact Nat.le_refl _
  | cons p ps ih =>
      unfold copyDeferred
      split
      · exact Nat.le_succ_of_le (ih _)
      · exact Nat.le_refl _

/-- An empty buffer has space for any packet. -/
theorem copyDeferred_shrinks {p : Packet} {ps : List Packet} :
    (copyDeferred (p :: ps) socketBufferLength).1.length < (p :: ps).length := by
  have hlt : p.streamSize.toNat < socketBufferLength :=
    Nat.lt_trans p.streamSize.toNat_lt (by decide)
  unfold copyDeferred
  rw [if_pos hlt]
  exact Nat.lt_succ_of_le (copyDeferred_length ps _)

/-- The socket takes all there is. -/
theorem wtStream_all {s : Connection} (hs : streamSystem.Reachable s)
    (hne : ¬ (s.deferredOutputs = [] ∧ s.outputs = [])) :
    ∃ s', streamSystem.Reachable s' ∧ s'.sent = s.sent ∧ s'.outputs = [] ∧
      s'.deferredOutputs = (copyDeferred s.deferredOutputs
        (socketBufferLength - s.outputsRead - s.outputs.length)).1 := by
  let n := (s.outputs ++ (copyDeferred s.deferredOutputs
    (socketBufferLength - s.outputsRead - s.outputs.length)).2).length
  obtain ⟨s', hst, hsent, hout, hdef⟩ : ∃ s', s.wtStream n = some s' ∧ s'.sent = s.sent ∧
      s'.outputs = [] ∧ s'.deferredOutputs = (copyDeferred s.deferredOutputs
        (socketBufferLength - s.outputsRead - s.outputs.length)).1 := by
    unfold Connection.wtStream
    rw [if_neg hne]
    dsimp only
    rw [if_pos (Nat.le_refl n)]
    exact ⟨_, rfl, rfl, List.drop_length, rfl⟩
  exact ⟨s', .next hs (a := .wtStream n) trivial hst, hsent, hout, hdef⟩

/-- The sender gets rid of everything. -/
theorem exists_written {s : Connection} (hs : streamSystem.Reachable s) :
    ∃ s', streamSystem.Reachable s' ∧ s'.sent = s.sent ∧ s'.outputs = [] ∧
      s'.deferredOutputs = [] := by
  have key : ∀ (k : Nat) (s : Connection), streamSystem.Reachable s →
      s.deferredOutputs.length ≤ k → s.outputs = [] →
      ∃ s', streamSystem.Reachable s' ∧ s'.sent = s.sent ∧ s'.outputs = [] ∧
        s'.deferredOutputs = [] := by
    intro k
    induction k with
    | zero =>
        intro s hs hk hout
        exact ⟨s, hs, rfl, hout, List.length_eq_zero_iff.mp (Nat.le_zero.mp hk)⟩
    | succ k ih =>
        intro s hs hk hout
        match hdef : s.deferredOutputs with
        | [] => exact ⟨s, hs, rfl, hout, hdef⟩
        | p :: ps =>
            have hread : s.outputsRead = 0 := (reachable_piped hs).low (by
              rw [hout]
              decide)
            obtain ⟨m, hm, hsent, hout', hdef'⟩ := wtStream_all hs
              (fun hc => absurd (hdef.symm.trans hc.1) (by simp))
            have hlt := @copyDeferred_shrinks p ps
            rw [hread, hout, hdef, show socketBufferLength - 0 - ([] : List UInt8).length =
              socketBufferLength from rfl] at hdef'
            rw [← hdef'] at hlt
            rw [hdef] at hk
            obtain ⟨s', hs', hsent', hrest⟩ := ih m hm (by omega) hout'
            exact ⟨s', hs', hsent'.trans hsent, hrest⟩
  by_cases hne : s.deferredOutputs = [] ∧ s.outputs = []
  · exact ⟨s, hs, rfl, hne.2, hne.1⟩
  · obtain ⟨m, hm, hsent, hout, -⟩ := wtStream_all hs hne
    obtain ⟨s', hs', hsent', hrest⟩ := key m.deferredOutputs.length m hm (Nat.le_refl _) hout
    exact ⟨s', hs', hsent'.trans hsent, hrest⟩

/-- The receiver takes everything that is under way, one byte at a time. -/
theorem exists_read {s : Connection} (hs : streamSystem.Reachable s) :
    ∃ s', streamSystem.Reachable s' ∧ s'.sent = s.sent ∧ s'.outputs = s.outputs ∧
      s'.deferredOutputs = s.deferredOutputs ∧ s'.wire = [] := by
  have key : ∀ (k : Nat) (s : Connection), streamSystem.Reachable s → s.wire.length = k →
      ∃ s', streamSystem.Reachable s' ∧ s'.sent = s.sent ∧ s'.outputs = s.outputs ∧
        s'.deferredOutputs = s.deferredOutputs ∧ s'.wire = [] := by
    intro k
    induction k with
    | zero =>
        intro s hs hk
        exact ⟨s, hs, rfl, rfl, rfl, List.length_eq_zero_iff.mp hk⟩
    | succ k ih =>
        intro s hs hk
        -- what is left of the last packet never fills the buffer
        have hspace : 1 ≤ socketBufferLength - s.inputs.length := by
          have hleft := parseInputPacket_left s.arrived
          rw [(reachable_piped hs).parsed] at hleft
          have hlt : s.inputs.length < 12 + 65536 := hleft
          show 1 ≤ 102400 - s.inputs.length
          omega
        obtain ⟨m, hst, hsent, hout, hdef, hwire⟩ : ∃ m, s.rdStream 1 = some m ∧
            m.sent = s.sent ∧ m.outputs = s.outputs ∧
            m.deferredOutputs = s.deferredOutputs ∧ m.wire = s.wire.drop 1 := by
          unfold Connection.rdStream
          rw [if_pos ⟨Nat.one_pos, by omega, hspace⟩]
          exact ⟨_, rfl, rfl, rfl, rfl, rfl⟩
        have hm : streamSystem.Reachable m := .next hs (a := .rdStream 1) trivial hst
        obtain ⟨s', hs', hsent', hout', hdef', hwire'⟩ := ih m hm (by
          rw [hwire, List.length_drop]
          omega)
        exact ⟨s', hs', hsent'.trans hsent, hout'.trans hout, hdef'.trans hdef, hwire'⟩
  exact key s.wire.length s hs rfl

/-- **From every state** everything that was sent can arrive. -/
theorem exists_drained {s : Connection} (hs : streamSystem.Reachable s) :
    ∃ s', streamSystem.Reachable s' ∧ s'.sent = s.sent ∧ s'.Drained := by
  obtain ⟨m, hm, hsent, hout, hdef⟩ := exists_written hs
  obtain ⟨s', hs', hsent', hout', hdef', hwire⟩ := exists_read hm
  exact ⟨s', hs', hsent'.trans hsent, hdef'.trans hdef, hout'.trans hout, hwire⟩

/-- Any sequence can be sent. -/
theorem exists_sent (cs : List Content) : ∃ s, streamSystem.Reachable s ∧ s.sent = cs := by
  induction cs using List.reverseRecOn with
  | nil => exact ⟨{}, .start rfl, rfl⟩
  | append_singleton cs c ih =>
      obtain ⟨s, hs, hsent⟩ := ih
      refine ⟨s.output c, .next hs (a := .output c) trivial rfl, ?_⟩
      show s.sent ++ [c] = _
      rw [hsent]

/-! ## §5. Packets that do not fit. -/

/-- The sender copies at most the packet, and all of it only if the body fits. -/
theorem stream_length_le (cs : List Content) :
    (cs.flatMap fun c => (Packet.new c).stream).length ≤ (cs.flatMap encode).length ∧
    ((cs.flatMap encode).length ≤ (cs.flatMap fun c => (Packet.new c).stream).length →
      ∀ c ∈ cs, c.Fits) := by
  induction cs with
  | nil => exact ⟨Nat.le_refl _, fun _ c hc => absurd hc (by simp)⟩
  | cons c cs ih =>
      obtain ⟨hle, hfit⟩ := ih
      have hstream : (Packet.new c).stream.length = (c.body.length + 12) % 65536 :=
        Packet.stream_length c
      have hbuf : (encode c).length = c.body.length + 12 := Packet.new_length c
      simp only [List.flatMap_cons, List.length_append]
      refine ⟨by omega, ?_⟩
      intro hall d hd
      match List.mem_cons.mp hd with
      | Or.inl heq =>
          rw [heq]
          show c.body.length + 12 < 65536
          omega
      | Or.inr hmem => exact hfit (by omega) d hmem

/-- A sequence that always arrives fits. -/
theorem fits_of_inStep {cs : List Content}
    (hall : ∀ s, streamSystem.Reachable s → s.sent = cs → InStep s) : ∀ c ∈ cs, c.Fits := by
  obtain ⟨m, hm, hsent⟩ := exists_sent cs
  obtain ⟨s, hs, hsent', hdrained⟩ := exists_drained hm
  have hcs : s.sent = cs := hsent'.trans hsent
  have hin := hall s hs hcs
  obtain ⟨rest, -, harr, -⟩ := hin.tail
  -- what arrived is what was copied, and it is at least the packets
  have hstream := (reachable_piped hs).stream
  obtain ⟨hdef, hout, hwire⟩ := hdrained
  rw [hdef, hout, hwire, hcs] at hstream
  rw [hin.complete ⟨hdef, hout, hwire⟩, hcs] at harr
  have harr' : s.arrived = cs.flatMap fun c => (Packet.new c).stream := by simpa using hstream
  have hlen := congrArg List.length (harr'.symm.trans harr)
  rw [List.length_append] at hlen
  exact (stream_length_le cs).2 (by omega)

/-- **Every sequence of packets** arrives as it was sent, on every schedule of
partial sends and receives, if and only if head and body of each have a length of
16 bits. -/
theorem stream_roundTrips_iff (cs : List Content) :
    (∀ s, streamSystem.Reachable s → s.sent = cs → InStep s) ↔ ∀ c ∈ cs, c.Fits := by
  refine ⟨fits_of_inStep, ?_⟩
  intro hfit s hs hsent
  exact (reachable_piped hs).inStep (by rw [hsent]; exact hfit)

/-- **The defect**: the stream of a packet whose body has 65524 bytes has length 0
for the sender, who copies nothing of it. -/
theorem long_body_lost :
    ¬ ∀ (cs : List Content) (s : Connection), streamSystem.Reachable s → s.sent = cs →
      InStep s := by
  intro hall
  have hlong : ∀ n, 65524 ≤ n → ¬ (Content.mk 1 2 (List.replicate n 0)).Fits := fun n hn =>
    Content.not_fits (Nat.le_trans hn (Nat.le_of_eq List.length_replicate.symm))
  exact hlong 65524 (Nat.le_refl _) (fits_of_inStep (hall [_]) _ (List.mem_singleton.mpr rfl))

end Steppingstone.Net
