/-
  Steppingstone.Terminal.Serialize — a gate terminal writes its packets (`GateTerminal.cpp`,
  `PacketSerializeAssistant.cpp`, `ManageGateOutput.cpp`).

  Twenty threads take the list of packets, with a message index, and copy the packets into blocks;
  one thread waits for one index after the other and sends the blocks, as much at a time as the
  socket takes.

  A thread copies its packets in one step: nothing but the block it fills is shared with the others.
  The blocks come from a small store or are new; either way they are empty and of one size.
-/
import Steppingstone.Lib.Block
import Steppingstone.Net.Stream
import Steppingstone.Terminal.Ordered

namespace Steppingstone.Terminal.Output

open Net (Content)

/-! ## §1. Blocks of packets. -/

/-- An `ACE_Message_Block` -/
abbrev MsgBlock := Block UInt8

/-- `m_message_length`, as `GateTerminal::initing` sets it -/
def messageLength : Nat := 102400

/-- `PacketSerializeAssistant::getMessageBlock` -/
def getMessageBlock : MsgBlock := Block.empty messageLength

/-- The packet of a content, as its stream is copied -/
def stream (c : Content) : List UInt8 := (Net.Packet.new c).stream

/-- One round of the loop of `serializePacket`: the blocks that are full, and the one that is
filled. -/
def copyPacket (b : List MsgBlock × MsgBlock) (c : Content) : List MsgBlock × MsgBlock :=
  if b.2.space < (Net.Packet.new c).streamSize.toNat then
    (b.1 ++ [b.2], getMessageBlock.copy (stream c))
  else (b.1, b.2.copy (stream c))

/-- `PacketSerializeAssistant::serializePacket` -/
def serializePacket (packetVec : List Content) : List MsgBlock :=
  let b := packetVec.foldl copyPacket ([], getMessageBlock)
  b.1 ++ [b.2]

/-! ## §2. The state. -/

/-- The packets on their way to the socket. -/
structure State where
  packetVec : List Content := []
  /-- the locals of the threads that serialize -/
  serializing : Thread → Option (UInt32 × List Content) := fun _ => none
  msgBlockIndex : UInt32 := 0
  msgBlockPos : UInt32 := 0
  msgBlockQueMap : UInt32 → Option (List MsgBlock) := fun _ => none
  currentMsgBlock : Option MsgBlock := none
  /-- the thread that writes ends with the first error -/
  writing : Bool := true
  /-- all that was put in, in the order of the calls of `outputPacket` -/
  arrived : List Content := []
  /-- the blocks that were current, and the bytes the socket took -/
  blocks : List MsgBlock := []
  sent : List UInt8 := []
  /-- how many lists were taken, and of how many all blocks were current -/
  taken : Nat := 0
  fetched : Nat := 0

/-- What `peer().send` says: how many bytes it took, that it would block, or another error. -/
inductive SendResult
  | took (n : Nat)
  | again
  | failed
  deriving DecidableEq, Repr

/-- What the threads that serialize and write do. -/
inductive Action
  /-- `outputPacket`, `handlePacket` -/
  | outputPacket (c : Content)
  /-- a thread takes the list and a message index -/
  | take (t : Thread)
  /-- a thread serializes its list: `serializePacket`, `outputBuffer` -/
  | outputBuffer (t : Thread)
  /-- the thread that writes calls `syncWrite` -/
  | syncWrite (r : SendResult)
  deriving DecidableEq, Repr

/-! ## §3. The steps. -/

/-- The part of `PacketSerializeAssistant::svc` under the mutex, for a list that is not empty. -/
def State.takeVec (s : State) (t : Thread) : Option State :=
  if s.serializing t = none ∧ s.packetVec ≠ [] then some
    { s with
      packetVec := []
      msgBlockIndex := increaseNumber s.msgBlockIndex 1
      serializing := Function.update s.serializing t (some (s.msgBlockIndex, s.packetVec))
      taken := s.taken + 1 }
  else none

/-- `GateTerminal::outputBuffer`: `insert` keeps what is there. -/
def State.outputBuffer (s : State) (t : Thread) : Option State :=
  match s.serializing t with
  | some (index, packetVec) => some
      { s with
        serializing := Function.update s.serializing t none
        msgBlockQueMap := Tickets.insertNew s.msgBlockQueMap index (serializePacket packetVec) }
  | none => none

/-- The first part of `syncWrite`: without a current block, the next one of the queue that is waited
for. -/
def State.nextBlock (s : State) : State :=
  match s.currentMsgBlock with
  | some _ => s
  | none =>
      match s.msgBlockQueMap s.msgBlockPos with
      | some (b :: que) =>
          if que.isEmpty then
            { s with
              currentMsgBlock := some b
              blocks := s.blocks ++ [b]
              msgBlockQueMap := Function.update s.msgBlockQueMap s.msgBlockPos none
              msgBlockPos := increaseNumber s.msgBlockPos 1
              fetched := s.fetched + 1 }
          else
            { s with
              currentMsgBlock := some b
              blocks := s.blocks ++ [b]
              msgBlockQueMap := Function.update s.msgBlockQueMap s.msgBlockPos (some que) }
      | _ => s

/-- The second part: what is in the current block is sent; an empty block is given back. -/
def State.sendBlock (s : State) (r : SendResult) : State :=
  match s.currentMsgBlock with
  | none => s
  | some b =>
      if b.length = 0 then { s with currentMsgBlock := none }
      else
        match r with
        | .took n =>
            { s with
              sent := s.sent ++ b.bytes.take n
              currentMsgBlock := if (b.read n).length = 0 then none else some (b.read n) }
        | .again => s
        | .failed => { s with writing := false }

/-- `GateTerminal::syncWrite` -/
def State.syncWrite (s : State) (r : SendResult) : Option State :=
  if s.writing then some (s.nextBlock.sendBlock r) else none

/-- One action, where it can happen. -/
def step (s : State) : Action → Option State
  | .outputPacket c => some { s with packetVec := s.packetVec ++ [c], arrived := s.arrived ++ [c] }
  | .take t => s.takeVec t
  | .outputBuffer t => s.outputBuffer t
  | .syncWrite r => s.syncWrite r

/-- The output of a terminal, step by step. -/
def system : TransSys State Action where
  init := fun s => s = {}
  step := step

/-- A list is taken only while there are indexes left. -/
def Room (s : State) : Action → Prop
  | .take _ => s.taken < s.fetched + 0xFFFFFFFF
  | _ => True

instance (s : State) (a : Action) : Decidable (Room s a) := by
  cases a <;> simp only [Room] <;> infer_instance

/-! ## §4. What the blocks hold. -/

/-- The bytes of several blocks. -/
def blockBytes (bs : List MsgBlock) : List UInt8 := bs.flatMap Block.bytes

/-- The streams of several packets. -/
def streams (cs : List Content) : List UInt8 := cs.flatMap stream

theorem stream_length_le (c : Content) : (stream c).length ≤ (Net.Packet.new c).streamSize.toNat :=
  List.length_take_le _ _

/-- A packet fits into an empty block. -/
theorem stream_length_le_space (c : Content) : (stream c).length ≤ getMessageBlock.space := by
  have hle := stream_length_le c
  have hlt := (Net.Packet.new c).streamSize.toNat_lt
  show _ ≤ 102400 - (0 + 0)
  omega

/-- A packet is copied as a whole, into the block or into the next one. -/
theorem blockBytes_copyPacket (b : List MsgBlock × MsgBlock) (c : Content) :
    blockBytes ((copyPacket b c).1 ++ [(copyPacket b c).2])
      = blockBytes (b.1 ++ [b.2]) ++ stream c := by
  unfold copyPacket
  split
  · have hcopy : (getMessageBlock.copy (stream c)).bytes = stream c :=
      getMessageBlock.copy_of_le (stream_length_le_space c)
    simp [blockBytes, hcopy]
  · next hspace =>
      have hle := stream_length_le c
      have hfits : (stream c).length ≤ b.2.space := by omega
      have hcopy := b.2.copy_of_le hfits
      simp [blockBytes, hcopy]

theorem blockBytes_foldl (cs : List Content) (b : List MsgBlock × MsgBlock) :
    blockBytes ((cs.foldl copyPacket b).1 ++ [(cs.foldl copyPacket b).2])
      = blockBytes (b.1 ++ [b.2]) ++ streams cs := by
  induction cs generalizing b with
  | nil => exact (List.append_nil _).symm
  | cons c cs ih =>
      rw [List.foldl_cons, ih, blockBytes_copyPacket, List.append_assoc]
      rfl

/-- **The blocks** hold the streams of the packets, one after the other. -/
theorem blockBytes_serializePacket (cs : List Content) :
    blockBytes (serializePacket cs) = streams cs := by
  have hall := blockBytes_foldl cs ([], getMessageBlock)
  have hnone : blockBytes ([] ++ [getMessageBlock]) = [] := rfl
  rw [hnone, List.nil_append] at hall
  exact hall

/-! ## §5. The lists behind the indexes. -/

/-- A thread has its whole list. -/
def Progress (cs vec : List Content) : Prop := vec = cs

/-- The blocks for a list. -/
def Result (cs : List Content) (q : List MsgBlock) : Prop := q = serializePacket cs

/-- The desk the threads work at. -/
def State.tickets (s : State) : Tickets UInt32 Thread (List Content) MsgBlock where
  index := s.msgBlockIndex
  pos := s.msgBlockPos
  held := s.serializing
  back := s.msgBlockQueMap
  handed := s.blocks

/-- What the current block holds. -/
def State.current (s : State) : List UInt8 := (s.currentMsgBlock.map Block.bytes).getD []

/-- The lists that were taken are the packets that arrived, without those that wait, and the bytes
of the blocks were sent, but for those of the current one. -/
def Ordered (s : State) : Prop :=
  (∃ jobs, s.tickets.Tracks indexes Progress Result jobs s.fetched ∧
    s.arrived = jobs.flatten ++ s.packetVec ∧ s.taken = jobs.length) ∧
  s.sent ++ s.current = blockBytes s.blocks

variable {s s' : State}

theorem ordered_init : Ordered {} :=
  ⟨⟨[], Tickets.tracks_start, rfl, rfl⟩, rfl⟩

theorem Ordered.takeVec (h : Ordered s) {t : Thread} (hroom : s.taken < s.fetched + 0xFFFFFFFF)
    (hst : s.takeVec t = some s') : Ordered s' := by
  obtain ⟨⟨jobs, htracks, harrived, htaken⟩, hsent⟩ := h
  unfold State.takeVec at hst
  split at hst
  · next hc =>
      obtain rfl := Option.some.inj hst
      refine ⟨⟨jobs ++ [s.packetVec], ?_, ?_, ?_⟩, hsent⟩
      · exact htracks.draw (by rw [← htaken]; exact hroom) hc.1 (j := s.packetVec) rfl
      · show s.arrived = (jobs ++ [s.packetVec]).flatten ++ []
        rw [harrived]
        simp
      · show s.taken + 1 = (jobs ++ [s.packetVec]).length
        rw [htaken, List.length_append]
        rfl
  · cases hst

theorem Ordered.outputBuffer (h : Ordered s) {t : Thread} (hst : s.outputBuffer t = some s') :
    Ordered s' := by
  obtain ⟨⟨jobs, htracks, harrived, htaken⟩, hsent⟩ := h
  unfold State.outputBuffer at hst
  split at hst
  · next index vec hser =>
      obtain rfl := Option.some.inj hst
      refine ⟨⟨jobs, htracks.post hser ?_, harrived, htaken⟩, hsent⟩
      intro cs hcs
      show serializePacket vec = serializePacket cs
      rw [hcs]
  · cases hst

/-- The block that becomes current is the next one. -/
theorem Ordered.nextBlock (h : Ordered s) : Ordered s.nextBlock := by
  obtain ⟨⟨jobs, htracks, harrived, htaken⟩, hsent⟩ := h
  unfold State.nextBlock
  split
  · exact ⟨⟨jobs, htracks, harrived, htaken⟩, hsent⟩
  · next hcur =>
      have hnone : s.current = [] := by
        unfold State.current
        rw [hcur]
        rfl
      split
      · next b que hque =>
          have hone := htracks.emitOne hque
          have hbytes : s.sent ++ b.bytes = blockBytes (s.blocks ++ [b]) := by
            rw [hnone, List.append_nil] at hsent
            rw [hsent]
            simp [blockBytes]
          unfold Tickets.emitOne at hone
          split
          · next hlast =>
              rw [if_pos hlast, if_pos hlast] at hone
              exact ⟨⟨jobs, hone, harrived, htaken⟩, hbytes⟩
          · next hmore =>
              rw [if_neg hmore, if_neg hmore] at hone
              exact ⟨⟨jobs, hone, harrived, htaken⟩, hbytes⟩
      · exact ⟨⟨jobs, htracks, harrived, htaken⟩, hsent⟩

/-- What the socket takes is the front of the current block. -/
theorem Ordered.sendBlock (h : Ordered s) (r : SendResult) : Ordered (s.sendBlock r) := by
  obtain ⟨hjobs, hsent⟩ := h
  unfold State.sendBlock
  split
  · exact ⟨hjobs, hsent⟩
  · next b hcur =>
      have hb : s.current = b.bytes := by
        unfold State.current
        rw [hcur]
        rfl
      rw [hb] at hsent
      split
      · next hempty =>
          have hnil : b.bytes = [] := List.length_eq_zero_iff.mp hempty
          rw [hnil] at hsent
          exact ⟨hjobs, hsent⟩
      · cases r with
        | took n =>
            refine ⟨hjobs, ?_⟩
            have hrest : ((if (b.read n).length = 0 then none else some (b.read n)).map
                Block.bytes).getD [] = b.bytes.drop n := by
              split
              · next hempty =>
                  have hnil : b.bytes.drop n = [] := List.length_eq_zero_iff.mp hempty
                  rw [hnil]
                  rfl
              · rfl
            show (s.sent ++ b.bytes.take n) ++ ((if (b.read n).length = 0 then none
              else some (b.read n)).map Block.bytes).getD [] = blockBytes s.blocks
            rw [hrest, List.append_assoc, List.take_append_drop]
            exact hsent
        | again => exact ⟨hjobs, hb ▸ hsent⟩
        | failed => exact ⟨hjobs, hb ▸ hsent⟩

/-- **A step** keeps the bytes in order. -/
theorem ordered_step {a : Action} (h : Ordered s) (hc : Room s a) (hst : step s a = some s') :
    Ordered s' := by
  cases a with
  | outputPacket c =>
      obtain ⟨⟨jobs, htracks, harrived, htaken⟩, hsent⟩ := h
      obtain rfl := Option.some.inj hst
      refine ⟨⟨jobs, htracks, ?_, htaken⟩, hsent⟩
      show s.arrived ++ [c] = jobs.flatten ++ (s.packetVec ++ [c])
      rw [harrived, List.append_assoc]
  | take t => exact h.takeVec hc hst
  | outputBuffer t => exact h.outputBuffer hst
  | syncWrite r =>
      simp only [step, State.syncWrite] at hst
      split at hst
      · obtain rfl := Option.some.inj hst
        exact h.nextBlock.sendBlock r
      · cases hst

theorem reachable_ordered (hr : system.ReachableWhen Room s) : Ordered s := by
  refine hr.invariant ?_ ?_
  · rintro s rfl
    exact ordered_init
  · intro s a s' h hc hst
    exact ordered_step h hc hst

/-! ## §6. What the gate gets. -/

/-- Nothing is on its way. -/
def State.Quiet (s : State) : Prop :=
  s.packetVec = [] ∧ (∀ t, s.serializing t = none) ∧ (∀ k, s.msgBlockQueMap k = none) ∧
    s.currentMsgBlock = none

/-- The blocks of several lists hold the streams of all their packets. -/
theorem blockBytes_result {jobs : List (List Content)} {rs : List (List MsgBlock)}
    (h : List.Forall₂ Result jobs rs) : blockBytes rs.flatten = streams jobs.flatten := by
  induction h with
  | nil => rfl
  | cons hr _ ih =>
      obtain rfl := hr
      rw [List.flatten_cons, List.flatten_cons]
      unfold blockBytes streams at *
      rw [List.flatMap_append, List.flatMap_append, ih]
      exact congrArg (· ++ _) (blockBytes_serializePacket _)

/-- **In order**: what the socket took is the beginning of the streams of the packets in the order
of their arrival, and all of them when nothing is on its way. -/
theorem sent_in_order (hr : system.ReachableWhen Room s) :
    s.sent <+: streams s.arrived ∧ (s.Quiet → s.sent = streams s.arrived) := by
  obtain ⟨⟨jobs, htracks, harrived, -⟩, hsent⟩ := reachable_ordered hr
  constructor
  · obtain ⟨rs, -, hrs, hbegin⟩ := htracks.in_order
    have hblocks : blockBytes s.blocks <+: blockBytes rs.flatten := by
      obtain ⟨more, hmore⟩ := hbegin
      refine ⟨blockBytes more, ?_⟩
      rw [← hmore]
      exact List.flatMap_append.symm
    have hfirst : streams (jobs.take rs.length).flatten <+: streams s.arrived := by
      refine ⟨streams ((jobs.drop rs.length).flatten ++ s.packetVec), ?_⟩
      have hsplit : s.arrived = (jobs.take rs.length).flatten ++
          ((jobs.drop rs.length).flatten ++ s.packetVec) := by
        rw [← List.append_assoc, ← List.flatten_append, List.take_append_drop, harrived]
      rw [hsplit]
      exact List.flatMap_append.symm
    rw [blockBytes_result hrs, ← hsent] at hblocks
    exact ((List.prefix_append _ _).trans hblocks).trans hfirst
  · rintro ⟨hvec, hser, hmap, hcur⟩
    obtain ⟨rs, hrs, hblocks⟩ := htracks.all_handed hser hmap
    have hblocks : s.blocks = rs.flatten := hblocks
    have hnone : s.current = [] := by
      unfold State.current
      rw [hcur]
      rfl
    rw [hnone, List.append_nil, hblocks, blockBytes_result hrs] at hsent
    rw [hsent, harrived, hvec, List.append_nil]

/-- **The gate** cuts the first packets off what it received, each as it was, and all of them when
nothing is on its way. -/
theorem gate_receives (hr : system.ReachableWhen Room s) (hfit : ∀ c ∈ s.arrived, c.Fits) :
    (∃ n, (Net.parseInputPacket s.sent).1 = (s.arrived.take n).map Net.Packet.new) ∧
    (s.Quiet → Net.parseInputPacket s.sent = (s.arrived.map Net.Packet.new, [])) := by
  have hstreams : streams s.arrived
      = (s.arrived.map Net.Packet.new).flatMap Net.Packet.buffer := by
    unfold streams
    rw [List.flatMap_map]
    exact List.flatMap_congr fun c hc => Net.Packet.stream_eq (hfit c hc)
  have hcut : ∀ p ∈ s.arrived.map Net.Packet.new, ∀ r,
      Net.packetFramer.next (p.buffer ++ r) = some (p, r) := by
    intro p hp r
    obtain ⟨c, hc, rfl⟩ := List.mem_map.mp hp
    exact Net.Packet.parseOne_new (hfit c hc) r
  obtain ⟨hbegin, hall⟩ := sent_in_order hr
  constructor
  · -- what the socket took ends somewhere in the stream of a packet
    obtain ⟨more, hmore⟩ := hbegin
    obtain ⟨rest, hrest, -⟩ := Net.packetFramer.parse_part hcut (hmore.trans hstreams)
    have htake := List.prefix_iff_eq_take.mp ⟨rest, hrest.symm⟩
    exact ⟨_, htake.trans List.map_take.symm⟩
  · intro hquiet
    have hparse := Net.packetFramer.parse_flatMap hcut []
    have hnil : Net.packetFramer.parse [] = ([], []) := Net.packetFramer.parse_of_none rfl
    rw [← hstreams, List.append_nil, hnil, List.append_nil] at hparse
    rw [hall hquiet]
    exact hparse

/-- The second of two packets is serialized first, and the socket takes a few bytes at a time. -/
def overtakingRun : List Action :=
  [.outputPacket ⟨1302, 5, [1, 2, 3]⟩, .take 0, .outputPacket ⟨1305, 6, []⟩, .take 1,
    .outputBuffer 1, .syncWrite (.took 7), .outputBuffer 0, .syncWrite (.took 7),
    .syncWrite .again, .syncWrite (.took 8), .syncWrite (.took 4)]

theorem gate_receives_overtaking :
    ∃ s, system.run {} overtakingRun = some s ∧
      (∃ n, (Net.parseInputPacket s.sent).1 = (s.arrived.take n).map Net.Packet.new) ∧
      (s.Quiet → Net.parseInputPacket s.sent = (s.arrived.map Net.Packet.new, [])) := by
  have harrived : (system.run {} overtakingRun).map (·.arrived)
      = some [⟨1302, 5, [1, 2, 3]⟩, ⟨1305, 6, []⟩] := by decide +kernel
  have hmeets : system.RunMeets Room {} overtakingRun := by decide +kernel
  obtain ⟨s, hrun, hs⟩ := Option.map_eq_some_iff.mp harrived
  refine ⟨s, hrun, gate_receives (TransSys.reachableWhen_of_run rfl hmeets hrun) ?_⟩
  rw [hs]
  decide

end Steppingstone.Terminal.Output
