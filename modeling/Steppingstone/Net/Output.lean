/-
  Steppingstone.Net.Output — the output of a session between servers (`CellSessionx::wt_stream`).

  Packets wait in a queue.  Each call copies those that fit behind the unsent rest in the output
  block, offers the block to the socket, and moves the block's content to its front when little is
  left.  The session is an outbox: what waits is the block and then the queue.

  A packet is copied with `stream_size()` bytes, a length of 16 bits for head and body together.
-/
import Steppingstone.Lib.Block
import Steppingstone.Lib.Outbox
import Steppingstone.Net.Stream

namespace Steppingstone.Net

/-! ## §1. The session. -/

/-- `CellSessionx`: `m_deferred_outputs` and `m_outputs`. -/
structure CellSession where
  deferredOutputs : List Packet := []
  outputs : Block UInt8 := .empty socketBufferLength
  /-- `shutdown` was called; the threads of `OutputSessionPool` write no more. -/
  closed : Bool := false
  /-- Ghost: the bytes that the socket has taken. -/
  handed : List UInt8 := []
  /-- Ghost: what was put into the queue. -/
  queued : List Content := []
  deriving DecidableEq

/-- The loop of `wt_stream` that copies packets. -/
def copyOutputs : List Packet → Block UInt8 → List Packet × Block UInt8
  | [], outputs => ([], outputs)
  | ps :: rest, outputs =>
      if ps.streamSize.toNat < outputs.space then copyOutputs rest (outputs.copy ps.stream)
      else (ps :: rest, outputs)

namespace CellSession

variable (s : CellSession)

/-- `output` -/
def output (c : Content) : CellSession :=
  { s with deferredOutputs := s.deferredOutputs ++ [Packet.new c], queued := s.queued ++ [c] }

/-- The block that a call offers to the socket. -/
def offered : Block UInt8 := (copyOutputs s.deferredOutputs s.outputs).2

/-- `if (m_outputs.length() < 500)` -/
def crunched : CellSession :=
  if s.outputs.length < 500 then { s with outputs := s.outputs.crunch } else s

/-- `wt_stream` where `send` returns `sendN`, with an error of which `again` tells whether it is one
of `EWOULDBLOCK`, `EINTR` and `EAGAIN`; and its result. -/
def wtStream (sendN : Int) (again : Bool) : CellSession × Int :=
  if s.deferredOutputs = [] ∧ s.outputs.length = 0 then (s, 1)
  else
    let (deferred, outputs) := copyOutputs s.deferredOutputs s.outputs
    let s := { s with deferredOutputs := deferred, outputs }
    if 0 < outputs.length then
      if sendN ≤ 0 then
        if again then (s.crunched, 0) else ({ s with closed := true }.crunched, -1)
      else
        ({ s with
          outputs := outputs.read sendN.toNat
          handed := s.handed ++ outputs.bytes.take sendN.toNat }.crunched, 0)
    else (s.crunched, 0)

/-- Calls that find the socket ready for so many bytes each. -/
def takeAll (accepts : List Nat) : CellSession :=
  accepts.foldl (fun s n => (s.wtStream n false).1) s

/-- All bytes of the packets that were put into the queue. -/
def whole : List UInt8 := s.queued.flatMap encode

end CellSession

/-- A call of `output`, or a round of `wt_stream` with what the socket takes. -/
inductive OutputAct where
  | output (c : Content)
  | wtStream (sendN : Int) (again : Bool)
  deriving DecidableEq

/-- Packets come at any time, and the pool's thread calls `wt_stream` until it fails. -/
def outputSystem : TransSys CellSession OutputAct where
  init s := s = {}
  step s
    | .output c => some (s.output c)
    | .wtStream sendN again => if s.closed then none else some (s.wtStream sendN again).1

/-- **The output keeps order and loses no byte**: the socket has got a prefix of the packets, and
when it takes some of what it is offered, again and again, it gets all of them. -/
structure CellSession.Sends (s : CellSession) : Prop where
  inOrder : s.handed <+: s.whole
  complete : s.closed = false → ∀ accepts : List Nat, (∀ n ∈ accepts, 0 < n) →
    s.whole.length ≤ s.handed.length + accepts.length → (s.takeAll accepts).handed = s.whole

/-! ## §2. Copying into the block. -/

theorem stream_length_le_streamSize (p : Packet) : p.stream.length ≤ p.streamSize.toNat :=
  List.length_take_le ..

/-- Copying moves packets from the queue to the block, and loses nothing. -/
theorem copyOutputs_flatMap (ps : List Packet) (b : Block UInt8) :
    (copyOutputs ps b).2.bytes ++ (copyOutputs ps b).1.flatMap Packet.stream
      = b.bytes ++ ps.flatMap Packet.stream := by
  induction ps generalizing b with
  | nil => rfl
  | cons p ps ih =>
      unfold copyOutputs
      split
      · next hroom =>
          have hfits : p.stream.length ≤ b.space :=
            Nat.le_trans (stream_length_le_streamSize p) (Nat.le_of_lt hroom)
          rw [ih, b.copy_of_le hfits, List.append_assoc, List.flatMap_cons]
      · rfl

theorem copyOutputs_size (ps : List Packet) (b : Block UInt8) :
    (copyOutputs ps b).2.size = b.size := by
  induction ps generalizing b with
  | nil => rfl
  | cons p ps ih =>
      unfold copyOutputs
      split
      · rw [ih, Block.copy_size]
      · rfl

/-- What was in the block stays at its front. -/
theorem prefix_copyOutputs (ps : List Packet) (b : Block UInt8) :
    b.bytes <+: (copyOutputs ps b).2.bytes := by
  induction ps generalizing b with
  | nil => exact List.prefix_refl _
  | cons p ps ih =>
      unfold copyOutputs
      split
      · next hroom =>
          have hfits : p.stream.length ≤ b.space :=
            Nat.le_trans (stream_length_le_streamSize p) (Nat.le_of_lt hroom)
          have hnext := ih (b.copy p.stream)
          rw [b.copy_of_le hfits] at hnext
          exact (List.prefix_append _ _).trans hnext
      · exact List.prefix_refl _

/-- **A block with room for any packet** stays empty only if there is nothing to copy. -/
theorem flatMap_stream_of_copyOutputs {ps : List Packet} {b : Block UInt8}
    (hspace : 2 ^ 16 ≤ b.space) (h : (copyOutputs ps b).2.bytes = []) :
    ps.flatMap Packet.stream = [] := by
  induction ps generalizing b with
  | nil => rfl
  | cons p ps ih =>
      have hroom : p.streamSize.toNat < b.space := Nat.lt_of_lt_of_le p.streamSize.toNat_lt hspace
      have hfits : p.stream.length ≤ b.space :=
        Nat.le_trans (stream_length_le_streamSize p) (Nat.le_of_lt hroom)
      unfold copyOutputs at h
      rw [if_pos hroom] at h
      -- what has been copied stays in the block
      have hcopied : (b.copy p.stream).bytes = [] :=
        List.prefix_nil.mp (h ▸ prefix_copyOutputs ps (b.copy p.stream))
      have hnone : p.stream = [] := by
        rw [b.copy_of_le hfits] at hcopied
        exact (List.append_eq_nil_iff.mp hcopied).2
      rw [List.flatMap_cons, hnone, List.nil_append]
      refine ih ?_ h
      rw [b.space_copy hfits, hnone]
      exact hspace

/-! ## §3. The session is an outbox. -/

namespace CellSession

variable {s : CellSession}

/-- What waits is the block and then the queue. -/
def toOutbox (s : CellSession) : Outbox UInt8 where
  handed := s.handed
  pending := s.outputs.bytes ++ s.deferredOutputs.flatMap Packet.stream

/-- A packet that is output is put into the outbox. -/
theorem toOutbox_output (c : Content) :
    (s.output c).toOutbox = s.toOutbox.put (Packet.new c).stream := by
  unfold toOutbox output Outbox.put
  simp only [List.flatMap_append, List.flatMap_singleton, List.append_assoc]

@[simp] theorem crunched_toOutbox : s.crunched.toOutbox = s.toOutbox := by
  unfold crunched
  split <;> rfl

@[simp] theorem crunched_closed : s.crunched.closed = s.closed := by
  unfold crunched
  split <;> rfl

@[simp] theorem crunched_queued : s.crunched.queued = s.queued := by
  unfold crunched
  split <;> rfl

/-- What is offered to the socket comes first. -/
theorem offered_append : s.offered.bytes ++ (copyOutputs s.deferredOutputs s.outputs).1.flatMap
    Packet.stream = s.toOutbox.pending :=
  copyOutputs_flatMap ..

/-- What it takes comes from the front. -/
theorem take_offered (n : Nat) :
    s.toOutbox.take (min n s.offered.length) =
      ⟨s.handed ++ s.offered.bytes.take n, s.offered.bytes.drop n ++
        (copyOutputs s.deferredOutputs s.outputs).1.flatMap Packet.stream⟩ := by
  have htake : s.offered.bytes.take (min n s.offered.bytes.length) = s.offered.bytes.take n :=
    List.take_eq_take_iff.mpr (by omega)
  have hdrop : s.offered.bytes.drop (min n s.offered.bytes.length) = s.offered.bytes.drop n := by
    rw [List.drop_eq_drop_iff]
    omega
  show Outbox.take _ (min n s.offered.bytes.length) = _
  unfold Outbox.take
  rw [← s.offered_append, List.take_append_of_le_length (Nat.min_le_right ..),
    List.drop_append_of_le_length (Nat.min_le_right ..), htake, hdrop]
  rfl

/-- **A call hands over** what the socket takes of the block. -/
theorem wtStream_toOutbox (sendN : Int) (again : Bool) :
    (s.wtStream sendN again).1.toOutbox
      = s.toOutbox.take (min sendN.toNat s.offered.length) := by
  rw [take_offered]
  unfold wtStream
  split
  · next hidle =>
      -- nothing waits
      have hout : s.outputs.bytes = [] := List.length_eq_zero_iff.mp hidle.2
      have hnone : s.offered = s.outputs := by
        unfold offered
        rw [hidle.1]
        rfl
      unfold toOutbox
      rw [hnone, hout, hidle.1, List.take_nil, List.drop_nil, List.append_nil]
      rfl
  · dsimp only
    split
    · split
      · next hfailed =>
          -- an error moves nothing
          have hzero : sendN.toNat = 0 := Int.toNat_of_nonpos hfailed
          rw [hzero, List.take_zero, List.drop_zero, List.append_nil]
          split
          · rw [crunched_toOutbox]
            rfl
          · rw [crunched_toOutbox]
            rfl
      · rw [crunched_toOutbox]
        rfl
    · next hempty =>
        have hnone : s.offered.bytes = [] :=
          List.length_eq_zero_iff.mp (Nat.eq_zero_of_not_pos hempty)
        rw [crunched_toOutbox, hnone, List.take_nil, List.drop_nil, List.append_nil]
        show Outbox.mk s.handed (s.offered.bytes ++ _) = _
        rw [hnone]

theorem wtStream_queued (sendN : Int) (again : Bool) :
    (s.wtStream sendN again).1.queued = s.queued := by
  unfold wtStream
  split
  · rfl
  · dsimp only
    split
    · split
      · split
        · rw [crunched_queued]
        · rw [crunched_queued]
      · rw [crunched_queued]
    · rw [crunched_queued]

/-! ## §4. Every run. -/

/-- **The invariant**: the bytes are all there, and the block is at its front when it is nearly
empty. -/
structure Inv (s : CellSession) : Prop where
  all : s.toOutbox.all = s.queued.flatMap fun c => (Packet.new c).stream
  size : s.outputs.size = socketBufferLength
  low : s.outputs.length < 500 → s.outputs.rdPtr = 0

theorem Inv.init : Inv {} where
  all := rfl
  size := rfl
  low := fun _ => rfl

/-- A packet keeps the invariant. -/
theorem Inv.output (h : s.Inv) (c : Content) : (s.output c).Inv where
  all := by
    rw [toOutbox_output, Outbox.all_put, h.all]
    show _ = (s.queued ++ [c]).flatMap _
    rw [List.flatMap_append, List.flatMap_singleton]
  size := h.size
  low := h.low

theorem crunched_size : s.crunched.outputs.size = s.outputs.size := by
  unfold crunched
  split <;> rfl

theorem crunched_low : s.crunched.outputs.length < 500 → s.crunched.outputs.rdPtr = 0 := by
  intro hlow
  unfold crunched at hlow ⊢
  split at hlow
  · next hfew =>
      rw [if_pos hfew]
      exact Block.crunch_rdPtr _
  · next hmany => exact absurd hlow hmany

/-- A call that does something ends with the block moved to its front if it is nearly empty. -/
theorem wtStream_outputs (sendN : Int) (again : Bool) :
    (s.wtStream sendN again).1 = s ∨ ∃ t : CellSession,
      (s.wtStream sendN again).1 = t.crunched ∧ t.outputs.size = s.outputs.size := by
  have hsize := copyOutputs_size s.deferredOutputs s.outputs
  unfold wtStream
  split
  · exact Or.inl rfl
  · refine Or.inr ?_
    dsimp only
    split
    · split
      · split
        · exact ⟨_, rfl, hsize⟩
        · exact ⟨_, rfl, hsize⟩
      · exact ⟨_, rfl, hsize⟩
    · exact ⟨_, rfl, hsize⟩

/-- So does a round. -/
theorem Inv.wtStream (h : s.Inv) (sendN : Int) (again : Bool) :
    (s.wtStream sendN again).1.Inv := by
  have hall : (s.wtStream sendN again).1.toOutbox.all
      = (s.wtStream sendN again).1.queued.flatMap fun c => (Packet.new c).stream := by
    rw [wtStream_toOutbox, Outbox.all_take, wtStream_queued]
    exact h.all
  match s.wtStream_outputs sendN again with
  | Or.inl hsame =>
      rw [hsame]
      exact h
  | Or.inr ⟨t, ht, hsize⟩ =>
      rw [ht] at hall ⊢
      refine ⟨hall, ?_, crunched_low⟩
      rw [crunched_size, hsize]
      exact h.size

end CellSession

open CellSession

/-- **Every run** keeps the invariant. -/
theorem outputSystem_inv {s : CellSession} (hs : outputSystem.Reachable s) : s.Inv := by
  refine hs.invariant ?_ ?_
  · intro s hs
    rw [show s = {} from hs]
    exact Inv.init
  · intro s a s' h _ hst
    cases a with
    | output c =>
        rw [← Option.some.inj hst]
        exact h.output c
    | wtStream sendN again =>
        have hst : (if s.closed then none else some (s.wtStream sendN again).1) = some s' := hst
        split at hst
        · exact absurd hst (by simp)
        · rw [← Option.some.inj hst]
          exact h.wtStream sendN again

/-- **In every run** the bytes that the socket took, those in the block and those of the queue are
the copied bytes of the packets, each once and in their order. -/
theorem reachable_all {s : CellSession} (hs : outputSystem.Reachable s) :
    s.handed ++ (s.outputs.bytes ++ s.deferredOutputs.flatMap Packet.stream)
      = s.queued.flatMap fun c => (Packet.new c).stream :=
  (outputSystem_inv hs).all

/-! ## §5. Handing over everything. -/

namespace CellSession

variable {s : CellSession}

/-- **As long as something waits**, a call offers something to the socket. -/
theorem Inv.pending_eq_nil (h : s.Inv) (hoffered : s.offered.bytes = []) :
    s.toOutbox.pending = [] := by
  -- the block was empty, and so it has room for any packet
  have hnone : s.outputs.bytes = [] :=
    List.prefix_nil.mp (hoffered ▸ prefix_copyOutputs s.deferredOutputs s.outputs)
  have hlength : s.outputs.length = 0 := List.length_eq_zero_iff.mpr hnone
  have hrdPtr : s.outputs.rdPtr = 0 := h.low (by omega)
  have hspace : 2 ^ 16 ≤ s.outputs.space := by
    have hadd := s.outputs.length_add_space hrdPtr
    rw [h.size, hlength] at hadd
    have hbuffer : socketBufferLength = 102400 := rfl
    omega
  show s.outputs.bytes ++ _ = []
  rw [hnone, flatMap_stream_of_copyOutputs hspace hoffered]
  rfl

/-- A call hands over at least one byte. -/
theorem Inv.pending_length (h : s.Inv) {n : Nat} (hn : 0 < n) :
    (s.wtStream n false).1.toOutbox.pending.length ≤ s.toOutbox.pending.length - 1 := by
  rw [wtStream_toOutbox]
  show (List.drop _ _).length ≤ _
  rw [List.length_drop, Int.toNat_natCast]
  by_cases hoffered : s.offered.bytes = []
  · rw [h.pending_eq_nil hoffered, List.length_nil, Nat.zero_sub]
  · have hpos : 0 < s.offered.length := List.length_pos_iff.mpr hoffered
    omega

/-- **Calls that each find the socket ready** hand over everything. -/
theorem Inv.takeAll (h : s.Inv) {accepts : List Nat} (haccepts : ∀ n ∈ accepts, 0 < n)
    (henough : s.toOutbox.pending.length ≤ accepts.length) :
    (s.takeAll accepts).handed = s.queued.flatMap fun c => (Packet.new c).stream := by
  induction accepts generalizing s with
  | nil =>
      have hnone : s.toOutbox.pending = [] := List.length_eq_zero_iff.mp (Nat.le_zero.mp henough)
      rw [← h.all]
      exact (Outbox.handed_eq_all_iff _).mpr hnone
  | cons n accepts ih =>
      have hpending := h.pending_length (haccepts n (List.mem_cons_self ..))
      rw [List.length_cons] at henough
      have hrest := ih (h.wtStream n false)
        (fun m hm => haccepts m (List.mem_cons_of_mem _ hm)) (by omega)
      rw [wtStream_queued] at hrest
      exact hrest

end CellSession

/-! ## §6. When it is the packets that go out. -/

/-- Packets are queued. -/
theorem exists_queued (cs : List Content) :
    ∃ s, outputSystem.Reachable s ∧ s.queued = cs ∧ s.closed = false ∧ s.handed = [] := by
  induction cs using List.reverseRecOn with
  | nil => exact ⟨{}, .start rfl, rfl, rfl, rfl⟩
  | append_singleton cs c ih =>
      obtain ⟨s, hs, hqueued, hclosed, hhanded⟩ := ih
      refine ⟨s.output c, .next hs (a := .output c) trivial rfl, ?_, hclosed, hhanded⟩
      show s.queued ++ [c] = _
      rw [hqueued]

/-- Packets that go out whole are copied whole. -/
theorem fits_of_sends {cs : List Content}
    (hall : ∀ s, outputSystem.Reachable s → s.queued = cs → s.Sends) : ∀ c ∈ cs, c.Fits := by
  obtain ⟨s, hs, hqueued, hclosed, hhanded⟩ := exists_queued cs
  have hinv := outputSystem_inv hs
  -- the socket takes a byte at a time, as long as there is one
  let accepts := List.replicate s.whole.length 1
  have haccepts : ∀ n ∈ accepts, 0 < n := by
    intro n hn
    rw [List.eq_of_mem_replicate hn]
    exact Nat.one_pos
  have hlength : accepts.length = s.whole.length := List.length_replicate
  have hwhole : s.whole = cs.flatMap encode := by
    unfold whole
    rw [hqueued]
  have hle := (stream_length_le cs).1
  have hpending : s.toOutbox.pending.length ≤ accepts.length := by
    have hsum := congrArg List.length hinv.all
    rw [hqueued] at hsum
    unfold Outbox.all at hsum
    rw [List.length_append] at hsum
    rw [hlength, hwhole]
    omega
  have hcopied := hinv.takeAll haccepts hpending
  have hsent := (hall s hs hqueued).complete hclosed accepts haccepts (by omega)
  rw [hsent, hwhole, hqueued] at hcopied
  exact (stream_length_le cs).2 (Nat.le_of_eq (congrArg List.length hcopied))

/-- **Every sequence of packets** goes out whole, in its order and each byte once, whatever the
socket takes at a time, if and only if head and body of each have a length of 16 bits. -/
theorem sends_iff (cs : List Content) :
    (∀ s, outputSystem.Reachable s → s.queued = cs → s.Sends) ↔ ∀ c ∈ cs, c.Fits := by
  refine ⟨fits_of_sends, ?_⟩
  intro hfit s hs hqueued
  have hinv := outputSystem_inv hs
  -- what is copied of a packet is all of it
  have hwhole : s.queued.flatMap (fun c => (Packet.new c).stream) = s.whole := by
    rw [hqueued, sent_stream hfit, List.flatMap_map]
    unfold whole
    rw [hqueued]
    rfl
  refine ⟨?_, ?_⟩
  · rw [← hwhole, ← hinv.all]
    exact s.toOutbox.handed_prefix
  · intro _ accepts haccepts henough
    rw [← hwhole]
    -- as many bytes wait as calls are made, or fewer
    refine hinv.takeAll haccepts ?_
    have hsum := congrArg List.length hinv.all
    rw [hwhole] at hsum
    unfold Outbox.all at hsum
    rw [List.length_append] at hsum
    have hhanded : s.toOutbox.handed.length = s.handed.length := rfl
    omega

/-- **The defect**: of a packet whose body has 65524 bytes nothing is copied. -/
theorem long_body_unsent :
    ¬ ∀ (cs : List Content) (s : CellSession), outputSystem.Reachable s → s.queued = cs →
      s.Sends := by
  intro hall
  have hlong : ∀ n, 65524 ≤ n → ¬ (Content.mk 1 2 (List.replicate n 0)).Fits := fun n hn =>
    Content.not_fits (Nat.le_trans hn (Nat.le_of_eq List.length_replicate.symm))
  exact hlong 65524 (Nat.le_refl _) (fits_of_sends (hall [_]) _ (List.mem_singleton.mpr rfl))

end Steppingstone.Net
