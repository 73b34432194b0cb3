/-
  Steppingstone.Netstream.Single — a connection to one server (`SingleConnection`).

  The thread connects, puts what `ISessionPoolEvent_newConnection` writes into its queue, and then
  reads and writes in rounds until one of both fails.  A round takes over the packets of the other
  threads and gives them to the session, as long as it accepts them.  The session is a plain
  `Session`: it has no memory to accept anything.
-/
import Steppingstone.Netstream.Session

namespace Steppingstone.Netstream

open Net (Content Packet)
open Session

/-! ## §1. The thread. -/

/-- `SingleConnection`, with the `packet_que` of its `svc`. -/
structure SingleConnection where
  /-- `m_session` -/
  session : Option Session := none
  /-- `m_packet_que` -/
  mPacketQue : List Packet := []
  packetQue : List Packet := []
  /-- Ghost: what the sockets of earlier connections took. -/
  closedConnections : List (List UInt8) := []
  /-- Ghost: the packets given to `asyncWrite`. -/
  written : List Packet := []
  /-- Ghost: the connections that were made. -/
  connections : Nat := 0

/-- What `setBufSize` set, and the packet that `ISessionPoolEvent_newConnection` writes, if any. -/
structure SingleCfg where
  outputBufSize : Nat
  registration : Option Content

namespace SingleConnection

variable (s : SingleConnection)

/-- `asyncWrite` -/
def asyncWrite (c : Content) : SingleConnection :=
  { s with mPacketQue := s.mPacketQue ++ [Packet.new c], written := s.written ++ [Packet.new c] }

/-- `connectToServer` that succeeds, and `ISessionPoolEvent_newConnection`. -/
def connect (cfg : SingleCfg) : SingleConnection :=
  { s with
    session := some (.new cfg.outputBufSize)
    packetQue := s.packetQue ++ (cfg.registration.map Packet.new).toList
    connections := s.connections + 1 }

/-- The loop of `processOutputPacket`. -/
def putPackets : List Packet → Session → List Packet × Session
  | [], session => ([], session)
  | p :: rest, session =>
      if (session.asyncWrite p.stream).2 then putPackets rest (session.asyncWrite p.stream).1
      else (p :: rest, session)

/-- A round of `svc` with a session: what the read returned, and what `send` returns.  The other
threads write to `m_packet_que` between two rounds. -/
def round (readFailed : Bool) (sendN : Int) (again : Bool) : Option SingleConnection :=
  match s.session with
  | none => none
  | some session =>
      let (packetQue, session) := putPackets (s.packetQue ++ s.mPacketQue) session
      let (session, writeResult) := session.syncWrite sendN again
      let s := { s with mPacketQue := [], packetQue }
      if readFailed ∨ writeResult = -1 then some
        { s with
          session := none
          closedConnections := s.closedConnections ++ [session.handed] }
      else some { s with session := some session }

end SingleConnection

/-- What the callers and the reactor do with the connection. -/
inductive SingleAct where
  | asyncWrite (c : Content)
  | connect
  | round (readFailed : Bool) (sendN : Int) (again : Bool)
  deriving DecidableEq

/-- The connection, step by step. -/
def singleSystem (cfg : SingleCfg) : TransSys SingleConnection SingleAct where
  init := fun s => s = {}
  step := fun s a =>
    match a with
    | .asyncWrite c => some (s.asyncWrite c)
    | .connect => if s.session.isNone then some (s.connect cfg) else none
    | .round readFailed sendN again => s.round readFailed sendN again

/-! ## §2. A session without memory. -/

/-- Nothing can be accepted, and nothing waits. -/
structure Dead (session : Session) : Prop where
  size : session.asyncOutBuf.size = 0
  idle : session.toOutbox.pending = []
  handed : session.handed = []

theorem dead_new (n : Nat) : Dead (Session.new n) := ⟨rfl, rfl, rfl⟩

/-- Only no bytes at all can be accepted. -/
theorem Dead.asyncWrite {session : Session} (h : Dead session) (buffer : List UInt8) :
    ((session.asyncWrite buffer).2 = true → buffer = []) ∧ Dead (session.asyncWrite buffer).1 := by
  have hspace : session.asyncOutBuf.space = 0 := by
    unfold Block.space
    rw [h.size, Nat.zero_sub]
  by_cases hfits : buffer.length ≤ session.asyncOutBuf.space
  · obtain rfl : buffer = [] := List.length_eq_zero_iff.mp (by omega)
    obtain ⟨hout, -, -⟩ := asyncWrite_of_le hfits
    refine ⟨fun _ => rfl, ?_, ?_, ?_⟩
    · unfold Session.asyncWrite
      rw [if_pos hfits]
      exact (session.asyncOutBuf.copy_size []).trans h.size
    · rw [hout]
      show session.toOutbox.pending ++ [] = []
      rw [h.idle, List.append_nil]
    · show (session.asyncWrite []).1.toOutbox.handed = []
      rw [hout]
      exact h.handed
  · rw [asyncWrite_of_lt (Nat.not_le.mp hfits)]
    refine ⟨?_, h⟩
    intro he
    exact absurd he Bool.false_ne_true

/-- The socket is offered nothing. -/
theorem Dead.syncWrite {session : Session} (h : Dead session) (sendN : Int) (again : Bool) :
    session.syncWrite sendN again = (session, 1) := by
  obtain ⟨hsync, hasync⟩ := List.append_eq_nil_iff.mp h.idle
  unfold Session.syncWrite
  exact if_pos ⟨List.length_eq_zero_iff.mpr hasync, List.length_eq_zero_iff.mpr hsync⟩

/-- A packet that has bytes. -/
def HasStream (p : Packet) : Prop := p.stream ≠ []

instance (p : Packet) : Decidable (HasStream p) := inferInstanceAs (Decidable (_ ≠ _))

/-- The packets that have bytes stay in the queue. -/
theorem Dead.putPackets {session : Session} (h : Dead session) (ps : List Packet) :
    (SingleConnection.putPackets ps session).1.filter (HasStream ·) = ps.filter (HasStream ·) ∧
      Dead (SingleConnection.putPackets ps session).2 := by
  induction ps generalizing session with
  | nil => exact ⟨rfl, h⟩
  | cons p rest ih =>
      obtain ⟨hnil, hdead⟩ := h.asyncWrite p.stream
      unfold SingleConnection.putPackets
      split
      · next haccepted =>
          obtain ⟨hrest, hdead'⟩ := ih hdead
          refine ⟨?_, hdead'⟩
          rw [hrest, List.filter_cons_of_neg]
          simp [HasStream, hnil haccepted]
      · exact ⟨rfl, h⟩

/-! ## §3. Every run. -/

variable {cfg : SingleCfg} {s s' : SingleConnection}

/-- No byte was sent, and what was written and registered waits. -/
structure Silent (cfg : SingleCfg) (s : SingleConnection) : Prop where
  session : ∀ session ∈ s.session, Dead session
  closed : ∀ bytes ∈ s.closedConnections, bytes = []
  written : (s.written.filter (HasStream ·)).Sublist (s.packetQue ++ s.mPacketQue)
  registered : ∀ c ∈ cfg.registration, HasStream (Packet.new c) →
    s.connections ≤ (s.packetQue ++ s.mPacketQue).count (Packet.new c)

theorem Silent.asyncWrite (h : Silent cfg s) (c : Content) : Silent cfg (s.asyncWrite c) where
  session := h.session
  closed := h.closed
  written := by
    show ((s.written ++ [Packet.new c]).filter _).Sublist (s.packetQue ++ (s.mPacketQue ++ [_]))
    rw [List.filter_append, ← List.append_assoc]
    exact h.written.append List.filter_sublist
  registered := by
    intro r hr hstream
    show s.connections ≤ (s.packetQue ++ (s.mPacketQue ++ [_])).count _
    rw [← List.append_assoc, List.count_append]
    exact Nat.le_add_right_of_le (h.registered r hr hstream)

theorem Silent.connect (h : Silent cfg s) : Silent cfg (s.connect cfg) where
  session := by
    intro session hs
    obtain rfl := Option.some.inj hs
    exact dead_new _
  closed := h.closed
  written := by
    refine h.written.trans ?_
    exact List.Sublist.append (List.sublist_append_left s.packetQue _) (List.Sublist.refl _)
  registered := by
    intro r hr hstream
    have hreg : (cfg.registration.map Packet.new).toList = [Packet.new r] := by
      rw [hr]
      rfl
    show s.connections + 1 ≤ ((s.packetQue ++ _) ++ s.mPacketQue).count _
    have hcount := h.registered r hr hstream
    rw [List.count_append] at hcount
    rw [hreg, List.count_append, List.count_append, List.count_singleton_self]
    omega

/-- **A round** sends nothing. -/
theorem dead_round (h : Silent cfg s) {readFailed again : Bool} {sendN : Int}
    (hst : s.round readFailed sendN again = some s') : Silent cfg s' := by
  unfold SingleConnection.round at hst
  split at hst
  · cases hst
  · next session hsession =>
      obtain ⟨hfilter, hdead⟩ :=
        (h.session session hsession).putPackets (s.packetQue ++ s.mPacketQue)
      dsimp only at hst
      rw [hdead.syncWrite] at hst
      -- the queue keeps what has bytes
      have hkept : ((s.packetQue ++ s.mPacketQue).filter (HasStream ·)).Sublist
          ((SingleConnection.putPackets (s.packetQue ++ s.mPacketQue) session).1 ++ []) := by
        rw [List.append_nil, ← hfilter]
        exact List.filter_sublist
      have hwritten : (s.written.filter (HasStream ·)).Sublist
          ((SingleConnection.putPackets (s.packetQue ++ s.mPacketQue) session).1 ++ []) := by
        have hsub := h.written.filter (HasStream ·)
        rw [List.filter_filter] at hsub
        simp only [Bool.and_self] at hsub
        exact hsub.trans hkept
      have hregistered : ∀ c ∈ cfg.registration, HasStream (Packet.new c) → s.connections ≤
          ((SingleConnection.putPackets (s.packetQue ++ s.mPacketQue) session).1 ++ []).count
            (Packet.new c) := by
        intro c hc hstream
        have hcount := hkept.count_le (Packet.new c)
        rw [List.count_filter (by simpa using hstream)] at hcount
        exact (h.registered c hc hstream).trans hcount
      split at hst
      · obtain rfl := Option.some.inj hst
        refine ⟨fun _ hn => absurd hn (Option.not_mem_none _), ?_, hwritten, hregistered⟩
        intro bytes hbytes
        obtain hbytes | hbytes := List.mem_append.mp hbytes
        · exact h.closed bytes hbytes
        · exact (List.mem_singleton.mp hbytes).trans hdead.handed
      · obtain rfl := Option.some.inj hst
        refine ⟨?_, h.closed, hwritten, hregistered⟩
        intro session' hs
        obtain rfl := Option.some.inj hs
        exact hdead

/-- **In every run** nothing is sent. -/
theorem reachable_silent (hr : (singleSystem cfg).Reachable s) : Silent cfg s := by
  refine hr.invariant ?_ ?_
  · rintro s rfl
    exact ⟨fun _ hn => absurd hn (Option.not_mem_none _), fun _ hb => absurd hb List.not_mem_nil,
      List.Sublist.refl _, fun _ _ _ => Nat.le_refl _⟩
  · intro s a s' h _ hst
    cases a with
    | asyncWrite c =>
        obtain rfl := Option.some.inj hst
        exact h.asyncWrite c
    | connect =>
        have hst : (if s.session.isNone then some (s.connect cfg) else none) = some s' := hst
        split at hst
        · obtain rfl := Option.some.inj hst
          exact h.connect
        · cases hst
    | round readFailed sendN again => exact dead_round h hst

/-- **Nothing is ever sent**: in every run the socket of no connection, earlier or present, takes a
byte; all packets with a stream that were written are still in the queues, in their order; and so
is a registration for every connection that was made, if it has a stream. -/
theorem nothing_sent (hr : (singleSystem cfg).Reachable s) :
    (∀ bytes ∈ s.closedConnections, bytes = []) ∧ (∀ session ∈ s.session, session.handed = []) ∧
      (s.written.filter (HasStream ·)).Sublist (s.packetQue ++ s.mPacketQue) ∧
      ∀ c ∈ cfg.registration, HasStream (Packet.new c) →
        s.connections ≤ (s.packetQue ++ s.mPacketQue).count (Packet.new c) := by
  have h := reachable_silent hr
  exact ⟨h.closed, fun session hs => (h.session session hs).handed, h.written, h.registered⟩

/-- Two connections, and a packet in between. -/
def reconnectRun : List SingleAct :=
  [.connect, .round false 0 true, .asyncWrite ⟨17, 5, [1, 2]⟩, .round false 14 false,
    .round true 14 false, .connect, .round false 14 false]

/-- A run that connects twice. -/
theorem nothing_sent_reconnected :
    ∃ s, (singleSystem ⟨0, some ⟨991, 0, [7]⟩⟩).run {} reconnectRun = some s ∧
      (∀ bytes ∈ s.closedConnections, bytes = []) ∧ (∀ session ∈ s.session, session.handed = []) ∧
        (s.written.filter (HasStream ·)).Sublist (s.packetQue ++ s.mPacketQue) ∧
        ∀ c ∈ (some ⟨991, 0, [7]⟩ : Option Content), HasStream (Packet.new c) →
          s.connections ≤ (s.packetQue ++ s.mPacketQue).count (Packet.new c) := by
  have hsome : ((singleSystem ⟨0, some ⟨991, 0, [7]⟩⟩).run {} reconnectRun).isSome = true := by
    decide +kernel
  obtain ⟨s, hrun⟩ := Option.isSome_iff_exists.mp hsome
  exact ⟨s, hrun, nothing_sent (TransSys.reachable_of_run rfl hrun)⟩

end Steppingstone.Netstream
