/-
  Steppingstone.Netstream.Session — the output of a session of netstream.

  `asyncWrite` puts a packet into one block, as a whole or not at all, and `syncWrite`, which another
  thread calls, moves from there what fits into a second block and offers that to the socket.  A
  `CellSession` has both blocks; a plain `Session` is made without memory for the first one.
-/
import Mathlib.Tactic.Ring
import Steppingstone.Lib.Block
import Steppingstone.Lib.Outbox
import Steppingstone.Lib.TransSys
import Steppingstone.Net.Packet

namespace Steppingstone.Netstream

open Net (Content Packet)

/-! ## §1. The session. -/

/-- `Session::s_socket_buf_len_` -/
def socketBufLen : Nat := 102400

/-- The output of a session. -/
structure Session where
  /-- `async_out_buf_` -/
  asyncOutBuf : Block UInt8
  /-- `sync_out_buf_` -/
  syncOutBuf : Block UInt8
  /-- `syncWrite` shut the socket down. -/
  closed : Bool := false
  /-- Ghost: the bytes that the socket has taken. -/
  handed : List UInt8 := []
  /-- Ghost: the bytes for which `asyncWrite` returned true. -/
  accepted : List UInt8 := []
  deriving DecidableEq

/-- What `setBufSize` makes of the size of `sync_out_buf_`. -/
def syncOutSize (outputBufSize : Nat) : Nat :=
  if socketBufLen < outputBufSize then outputBufSize else socketBufLen

/-- `Session()`: only the constructors of `CellSession` call `async_out_buf_.init`. -/
def Session.new (outputBufSize : Nat) : Session where
  asyncOutBuf := .empty 0
  syncOutBuf := .empty (syncOutSize outputBufSize)

/-- `CellSession()` -/
def Session.newCell (outputBufSize : Nat) : Session where
  asyncOutBuf := .empty socketBufLen
  syncOutBuf := .empty (syncOutSize outputBufSize)

namespace Session

variable (s : Session)

/-- `asyncWrite` -/
def asyncWrite (buffer : List UInt8) : Session × Bool :=
  if s.asyncOutBuf.space ≥ buffer.length then
    ({ s with
      asyncOutBuf := s.asyncOutBuf.copy buffer
      accepted := s.accepted ++ buffer }, true)
  else (s, false)

/-- The block that `syncWrite` fills from the other one. -/
def filled : Session :=
  if 0 < s.syncOutBuf.space ∧ 0 < s.asyncOutBuf.length then
    let copySize :=
      if s.asyncOutBuf.length < s.syncOutBuf.space then s.asyncOutBuf.length
      else s.syncOutBuf.space
    { s with
      syncOutBuf := s.syncOutBuf.copy (s.asyncOutBuf.bytes.take copySize)
      asyncOutBuf := (s.asyncOutBuf.read copySize).crunch }
  else s

/-- `if (sync_out_buf_.length() < 500)` -/
def crunched : Session :=
  if s.syncOutBuf.length < 500 then { s with syncOutBuf := s.syncOutBuf.crunch } else s

/-- `syncWrite` where `send` returns `sendN`, with an error of which `again` tells whether it is one
of `EWOULDBLOCK`, `EINTR` and `EAGAIN`; and its result. -/
def syncWrite (sendN : Int) (again : Bool) : Session × Int :=
  if s.asyncOutBuf.length = 0 ∧ s.syncOutBuf.length = 0 then (s, 1)
  else
    let s := s.filled
    if 0 < s.syncOutBuf.length then
      if sendN ≤ 0 then
        if again then (s.crunched, 0) else ({ s with closed := true }.crunched, -1)
      else
        let left := s.syncOutBuf.read sendN.toNat
        ({ s with
          syncOutBuf := left
          handed := s.handed ++ s.syncOutBuf.bytes.take sendN.toNat }.crunched,
          if left.length = 0 then 0 else 2)
    else (s.crunched, 1)

/-- Calls that find the socket ready for so many bytes each. -/
def takeAll (accepts : List Nat) : Session :=
  accepts.foldl (fun s n => (s.syncWrite n false).1) s

end Session

/-- A packet is queued, or the socket takes some bytes. -/
inductive Act where
  | asyncWrite (c : Content)
  | syncWrite (sendN : Int) (again : Bool)
  deriving DecidableEq

/-- Any thread writes packets, and the thread of the session offers them until that fails. -/
def sessionSystem (new : Session) : TransSys Session Act where
  init := fun s => s = new
  step := fun s a =>
    match a with
    | .asyncWrite c => some (s.asyncWrite (Packet.new c).stream).1
    | .syncWrite sendN again => if s.closed then none else some (s.syncWrite sendN again).1

/-! ## §2. The session is an outbox. -/

namespace Session

variable {s : Session}

/-- What waits is the second block and then the first. -/
def toOutbox (s : Session) : Outbox UInt8 where
  handed := s.handed
  pending := s.syncOutBuf.bytes ++ s.asyncOutBuf.bytes

/-- A packet that fits is put into the outbox. -/
theorem asyncWrite_of_le {buffer : List UInt8} (h : buffer.length ≤ s.asyncOutBuf.space) :
    (s.asyncWrite buffer).1.toOutbox = s.toOutbox.put buffer ∧
      (s.asyncWrite buffer).1.accepted = s.accepted ++ buffer ∧ (s.asyncWrite buffer).2 = true := by
  unfold asyncWrite
  rw [if_pos h]
  refine ⟨?_, rfl, rfl⟩
  unfold toOutbox Outbox.put
  rw [s.asyncOutBuf.copy_of_le h, List.append_assoc]

/-- A packet that does not fit is refused. -/
theorem asyncWrite_of_lt {buffer : List UInt8} (h : s.asyncOutBuf.space < buffer.length) :
    s.asyncWrite buffer = (s, false) := by
  unfold asyncWrite
  rw [if_neg (Nat.not_le.mpr h)]

/-- What `filled` copies. -/
def copySize (s : Session) : Nat := min s.asyncOutBuf.length s.syncOutBuf.space

/-- **Filling** moves as much as there is and fits. -/
theorem filled_bytes : s.filled.syncOutBuf.bytes
      = s.syncOutBuf.bytes ++ s.asyncOutBuf.bytes.take s.copySize ∧
    s.filled.asyncOutBuf.bytes = s.asyncOutBuf.bytes.drop s.copySize := by
  have hmin : (if s.asyncOutBuf.length < s.syncOutBuf.space then s.asyncOutBuf.length
      else s.syncOutBuf.space) = s.copySize := by
    unfold copySize
    split <;> omega
  unfold filled
  rw [hmin]
  split
  · have hfits : (s.asyncOutBuf.bytes.take s.copySize).length ≤ s.syncOutBuf.space := by
      rw [List.length_take]
      unfold copySize
      omega
    exact ⟨s.syncOutBuf.copy_of_le hfits, rfl⟩
  · next hnone =>
      have hzero : s.copySize = 0 := by
        unfold copySize
        omega
      rw [hzero, List.take_zero, List.drop_zero, List.append_nil]
      exact ⟨rfl, rfl⟩

/-- Moving bytes between the buffers keeps the outbox. -/
theorem filled_toOutbox : s.filled.toOutbox = s.toOutbox := by
  have hhanded : s.filled.handed = s.handed := by
    unfold filled
    split <;> rfl
  obtain ⟨hsync, hasync⟩ := s.filled_bytes
  unfold toOutbox
  rw [hhanded, hsync, hasync, List.append_assoc, List.take_append_drop]

@[simp] theorem crunched_toOutbox : s.crunched.toOutbox = s.toOutbox := by
  unfold crunched
  split <;> rfl

@[simp] theorem crunched_closed : s.crunched.closed = s.closed := by
  unfold crunched
  split <;> rfl

@[simp] theorem crunched_accepted : s.crunched.accepted = s.accepted := by
  unfold crunched
  split <;> rfl

theorem filled_accepted : s.filled.accepted = s.accepted := by
  unfold filled
  split <;> rfl

/-- Nothing waits when both blocks are empty. -/
theorem pending_of_idle (h : s.asyncOutBuf.length = 0 ∧ s.syncOutBuf.length = 0) :
    s.toOutbox.pending = [] := by
  show s.syncOutBuf.bytes ++ s.asyncOutBuf.bytes = []
  rw [List.length_eq_zero_iff.mp h.1, List.length_eq_zero_iff.mp h.2]
  rfl

/-- What the socket takes comes from the front. -/
theorem take_filled (n : Nat) :
    s.toOutbox.take (min n s.filled.syncOutBuf.length) =
      ⟨s.filled.handed ++ s.filled.syncOutBuf.bytes.take n,
        s.filled.syncOutBuf.bytes.drop n ++ s.filled.asyncOutBuf.bytes⟩ := by
  have htake : s.filled.syncOutBuf.bytes.take (min n s.filled.syncOutBuf.bytes.length)
      = s.filled.syncOutBuf.bytes.take n := List.take_eq_take_iff.mpr (by omega)
  have hdrop : s.filled.syncOutBuf.bytes.drop (min n s.filled.syncOutBuf.bytes.length)
      = s.filled.syncOutBuf.bytes.drop n := by
    rw [List.drop_eq_drop_iff]
    omega
  rw [← filled_toOutbox]
  show Outbox.take _ (min n s.filled.syncOutBuf.bytes.length) = _
  unfold Outbox.take toOutbox
  rw [List.take_append_of_le_length (Nat.min_le_right ..),
    List.drop_append_of_le_length (Nat.min_le_right ..), htake, hdrop]

/-- **A call hands over** what the socket takes of the block. -/
theorem syncWrite_toOutbox (sendN : Int) (again : Bool) :
    (s.syncWrite sendN again).1.toOutbox
      = s.toOutbox.take (min sendN.toNat s.filled.syncOutBuf.length) := by
  unfold syncWrite
  split
  · next hidle =>
      have hnone := pending_of_idle hidle
      unfold Outbox.take
      rw [hnone, List.take_nil, List.drop_nil, List.append_nil, ← hnone]
  · dsimp only
    rw [take_filled]
    split
    · split
      · next hfailed =>
          -- an error moves nothing
          have hzero : sendN.toNat = 0 := Int.toNat_of_nonpos hfailed
          rw [hzero, List.take_zero, List.drop_zero, List.append_nil]
          split
          · rw [crunched_toOutbox]
            rfl
          · rw [crunched_toOutbox]
            rfl
      · rw [crunched_toOutbox]
        rfl
    · next hempty =>
        have hnone : s.filled.syncOutBuf.bytes = [] :=
          List.length_eq_zero_iff.mp (Nat.eq_zero_of_not_pos hempty)
        rw [crunched_toOutbox, hnone, List.take_nil, List.drop_nil, List.append_nil]
        show Outbox.mk s.filled.handed (s.filled.syncOutBuf.bytes ++ _) = _
        rw [hnone]

/-- A call that does something ends with the second block moved to its front if it is nearly
empty. -/
theorem syncWrite_blocks (sendN : Int) (again : Bool) :
    (s.syncWrite sendN again).1 = s ∨ ∃ t : Session,
      (s.syncWrite sendN again).1 = t.crunched ∧ t.asyncOutBuf = s.filled.asyncOutBuf ∧
        t.syncOutBuf.size = s.filled.syncOutBuf.size ∧ t.accepted = s.filled.accepted := by
  unfold syncWrite
  split
  · exact .inl rfl
  · refine .inr ?_
    dsimp only
    split
    · split
      · split
        · exact ⟨_, rfl, rfl, rfl, rfl⟩
        · exact ⟨_, rfl, rfl, rfl, rfl⟩
      · exact ⟨_, rfl, rfl, rfl, rfl⟩
    · exact ⟨_, rfl, rfl, rfl, rfl⟩

theorem syncWrite_accepted (sendN : Int) (again : Bool) :
    (s.syncWrite sendN again).1.accepted = s.accepted := by
  obtain he | ⟨t, he, -, -, haccepted⟩ := s.syncWrite_blocks sendN again
  · rw [he]
  · rw [he, crunched_accepted, haccepted, filled_accepted]

/-! ## §3. Every run. -/

/-- **The invariant**: the accepted bytes are all there, the first block is at its front, and so is
the second when it is nearly empty. -/
structure Inv (new s : Session) : Prop where
  all : s.toOutbox.all = s.accepted
  asyncSize : s.asyncOutBuf.size = new.asyncOutBuf.size
  asyncFront : s.asyncOutBuf.rdPtr = 0
  syncSize : s.syncOutBuf.size = new.syncOutBuf.size
  syncLow : s.syncOutBuf.length < 500 → s.syncOutBuf.rdPtr = 0

variable {new : Session}

/-- A session that was just made. -/
structure Fresh (new : Session) : Prop where
  asyncOutBuf : ∃ n, new.asyncOutBuf = .empty n
  syncOutBuf : ∃ n, new.syncOutBuf = .empty n
  handed : new.handed = []
  accepted : new.accepted = []

theorem fresh_newCell (n : Nat) : (Session.newCell n).Fresh := ⟨⟨_, rfl⟩, ⟨_, rfl⟩, rfl, rfl⟩

/-- A new session keeps the invariant. -/
theorem Fresh.inv (h : new.Fresh) : Inv new new := by
  obtain ⟨⟨m, hasync⟩, ⟨n, hsync⟩, hhanded, haccepted⟩ := h
  refine ⟨?_, rfl, ?_, rfl, ?_⟩
  · unfold Outbox.all toOutbox
    rw [hasync, hsync, hhanded, haccepted]
    rfl
  · rw [hasync]
    rfl
  · intro _
    rw [hsync]
    rfl

/-- Queueing keeps it. -/
theorem Inv.asyncWrite (h : Inv new s) (buffer : List UInt8) :
    Inv new (s.asyncWrite buffer).1 := by
  by_cases hfits : buffer.length ≤ s.asyncOutBuf.space
  · obtain ⟨hout, haccepted, -⟩ := asyncWrite_of_le hfits
    refine ⟨?_, ?_, ?_, ?_, ?_⟩
    · rw [hout, haccepted, Outbox.all_put, h.all]
    all_goals
      unfold Session.asyncWrite
      rw [if_pos hfits]
    · exact (s.asyncOutBuf.copy_size buffer).trans h.asyncSize
    · exact (s.asyncOutBuf.copy_rdPtr buffer).trans h.asyncFront
    · exact h.syncSize
    · exact h.syncLow
  · rw [asyncWrite_of_lt (Nat.not_le.mp hfits)]
    exact h

theorem filled_sizes : s.filled.asyncOutBuf.size = s.asyncOutBuf.size ∧
    s.filled.syncOutBuf.size = s.syncOutBuf.size := by
  unfold filled
  split
  · exact ⟨rfl, s.syncOutBuf.copy_size _⟩
  · exact ⟨rfl, rfl⟩

theorem Inv.filled_front (h : Inv new s) : s.filled.asyncOutBuf.rdPtr = 0 := by
  unfold filled
  split
  · rfl
  · exact h.asyncFront

/-- A buffer that is nearly empty starts at its front again. -/
theorem crunched_low (t : Session) :
    t.crunched.syncOutBuf.length < 500 → t.crunched.syncOutBuf.rdPtr = 0 := by
  intro hlow
  unfold crunched at hlow ⊢
  split at hlow
  · next hfew =>
      rw [if_pos hfew]
      exact Block.crunch_rdPtr _
  · next hmany => exact absurd hlow hmany

theorem crunched_blocks (t : Session) : t.crunched.asyncOutBuf = t.asyncOutBuf ∧
    t.crunched.syncOutBuf.size = t.syncOutBuf.size := by
  unfold crunched
  split <;> exact ⟨rfl, rfl⟩

/-- Writing keeps it. -/
theorem Inv.syncWrite (h : Inv new s) (sendN : Int) (again : Bool) :
    Inv new (s.syncWrite sendN again).1 := by
  have hall : (s.syncWrite sendN again).1.toOutbox.all
      = (s.syncWrite sendN again).1.accepted := by
    rw [syncWrite_toOutbox, Outbox.all_take, syncWrite_accepted, h.all]
  obtain he | ⟨t, he, hasync, hsize, -⟩ := s.syncWrite_blocks sendN again
  · rw [he]
    exact h
  · rw [he] at hall ⊢
    refine ⟨hall, ?_, ?_, ?_, t.crunched_low⟩
    · rw [(t.crunched_blocks).1, hasync, filled_sizes.1, h.asyncSize]
    · rw [(t.crunched_blocks).1, hasync, h.filled_front]
    · rw [(t.crunched_blocks).2, hsize, filled_sizes.2, h.syncSize]

end Session

open Session

variable {new s : Session}

/-- **Every run** keeps the invariant. -/
theorem reachable_inv (hnew : new.Fresh) (hr : (sessionSystem new).Reachable s) : Inv new s := by
  refine hr.invariant ?_ ?_
  · rintro s rfl
    exact hnew.inv
  · intro s a s' h _ hst
    cases a with
    | asyncWrite c =>
        obtain rfl := Option.some.inj hst
        exact h.asyncWrite _
    | syncWrite sendN again =>
        have hst : (if s.closed then none else some (s.syncWrite sendN again).1) = some s' := hst
        split at hst
        · cases hst
        · obtain rfl := Option.some.inj hst
          exact h.syncWrite sendN again

/-! ## §4. A session with both blocks. -/

/-- **As long as something waits**, a call offers something to the socket. -/
theorem Session.Inv.pending_eq_nil (h : Inv new s) (hsync : 500 ≤ new.syncOutBuf.size)
    (hoffered : s.filled.syncOutBuf.bytes = []) : s.toOutbox.pending = [] := by
  obtain ⟨hbytes, -⟩ := s.filled_bytes
  rw [hoffered] at hbytes
  obtain ⟨hnone, htake⟩ := List.append_eq_nil_iff.mp hbytes.symm
  -- the second block was empty, and so there was room in it
  have hlen : s.syncOutBuf.length = 0 := List.length_eq_zero_iff.mpr hnone
  have hspace := s.syncOutBuf.length_add_space (h.syncLow (by omega))
  have hsize := h.syncSize
  have hasync : s.asyncOutBuf.length = 0 := by
    have hcopy := congrArg List.length htake
    rw [List.length_take, List.length_nil] at hcopy
    unfold copySize Block.length at *
    omega
  exact pending_of_idle ⟨hasync, hlen⟩

/-- A call hands over at least one byte. -/
theorem Session.Inv.pending_length (h : Inv new s) (hsync : 500 ≤ new.syncOutBuf.size) {n : Nat}
    (hn : 0 < n) :
    (s.syncWrite n false).1.toOutbox.pending.length ≤ s.toOutbox.pending.length - 1 := by
  rw [syncWrite_toOutbox]
  show (List.drop _ _).length ≤ _
  rw [List.length_drop, Int.toNat_natCast]
  by_cases hoffered : s.filled.syncOutBuf.bytes = []
  · rw [h.pending_eq_nil hsync hoffered, List.length_nil, Nat.zero_sub]
  · have hpos : 0 < s.filled.syncOutBuf.length := List.length_pos_iff.mpr hoffered
    omega

/-- Enough calls hand over everything. -/
theorem Session.Inv.takeAll (h : Inv new s) (hsync : 500 ≤ new.syncOutBuf.size)
    {accepts : List Nat} (hpos : ∀ n ∈ accepts, 0 < n)
    (hlen : s.toOutbox.pending.length ≤ accepts.length) :
    Inv new (s.takeAll accepts) ∧ (s.takeAll accepts).toOutbox.pending = [] ∧
      (s.takeAll accepts).accepted = s.accepted := by
  induction accepts generalizing s with
  | nil =>
      refine ⟨h, List.length_eq_zero_iff.mp (Nat.le_zero.mp hlen), rfl⟩
  | cons n accepts ih =>
      have hone := h.pending_length hsync (hpos n List.mem_cons_self)
      obtain ⟨hinv, hnone, haccepted⟩ := ih (h.syncWrite n false)
        (fun m hm => hpos m (List.mem_cons_of_mem n hm))
        (by rw [List.length_cons] at hlen; omega)
      exact ⟨hinv, hnone, haccepted.trans (s.syncWrite_accepted n false)⟩

/-- **A `CellSession` loses nothing and never refuses a packet for good**: the socket has got the
first of the accepted bytes; and calls in each of which it takes something make it get all of them,
and leave room for any packet. -/
theorem cell_sends {outputBufSize : Nat}
    (hr : (sessionSystem (.newCell outputBufSize)).Reachable s) :
    s.handed <+: s.accepted ∧
      ∀ accepts : List Nat, (∀ n ∈ accepts, 0 < n) →
        s.accepted.length ≤ s.handed.length + accepts.length →
        (s.takeAll accepts).handed = s.accepted ∧
          ∀ c : Content, ((s.takeAll accepts).asyncWrite (Packet.new c).stream).2 = true := by
  have hinv := reachable_inv (fresh_newCell outputBufSize) hr
  have hsync : 500 ≤ (Session.newCell outputBufSize).syncOutBuf.size := by
    show 500 ≤ syncOutSize outputBufSize
    unfold syncOutSize socketBufLen
    split <;> omega
  refine ⟨hinv.all ▸ s.toOutbox.handed_prefix, ?_⟩
  intro accepts hpos hlen
  have hpending : s.toOutbox.pending.length ≤ accepts.length := by
    have hall := congrArg List.length hinv.all
    have hsplit : s.toOutbox.all.length = s.handed.length + s.toOutbox.pending.length :=
      List.length_append
    omega
  obtain ⟨hinv', hnone, haccepted⟩ := hinv.takeAll hsync hpos hpending
  refine ⟨?_, ?_⟩
  · rw [← haccepted, ← hinv'.all]
    exact (Outbox.handed_eq_all_iff _).mpr hnone
  · intro c
    -- the first block is empty and at its front
    have hempty : (s.takeAll accepts).asyncOutBuf.length = 0 :=
      List.length_eq_zero_iff.mpr (List.append_eq_nil_iff.mp hnone).2
    have hspace := (s.takeAll accepts).asyncOutBuf.length_add_space hinv'.asyncFront
    have hsize : (s.takeAll accepts).asyncOutBuf.size = 102400 := hinv'.asyncSize
    have hstream : (Packet.new c).stream.length < 2 ^ 16 := by
      rw [Packet.stream_length]
      exact Nat.mod_lt _ (by decide)
    exact (asyncWrite_of_le (by omega)).2.2

/-- Two packets, of which the socket takes some bytes at a time. -/
def slowRun : List Act :=
  [.asyncWrite ⟨1302, 5, [1, 2, 3]⟩, .syncWrite 7 false, .asyncWrite ⟨1305, 6, []⟩,
    .syncWrite 0 true, .syncWrite 9 false]

/-- A run over a slow socket. -/
theorem cell_sends_slowly :
    ∃ s, (sessionSystem (.newCell 0)).run (.newCell 0) slowRun = some s ∧
      s.handed <+: s.accepted ∧
        ∀ accepts : List Nat, (∀ n ∈ accepts, 0 < n) →
          s.accepted.length ≤ s.handed.length + accepts.length →
          (s.takeAll accepts).handed = s.accepted ∧
            ∀ c : Content, ((s.takeAll accepts).asyncWrite (Packet.new c).stream).2 = true := by
  have hsome : ((sessionSystem (.newCell 0)).run (.newCell 0) slowRun).isSome = true := by
    decide +kernel
  obtain ⟨s, hrun⟩ := Option.isSome_iff_exists.mp hsome
  exact ⟨s, hrun, cell_sends (TransSys.reachable_of_run rfl hrun)⟩

end Steppingstone.Netstream
