/-
  Steppingstone.Link.Delivered — what the link of a gate and a charsys delivers.

  The receiver has the first packets that were kept, and in its block a part of
  what follows.  When all bytes are there, the gate has all packets.  Charsys
  has them all unless the last one has no body: that one stays in its block
  until more bytes come.
-/
import Steppingstone.Link.NetStream

namespace Steppingstone.Link

open Net Wobble

/-! ## §1. The invariant. -/

/-- The packets `done` have been cut off, and the block has a part of the packets `more`. -/
structure Cut (d : Direction) (s : State) (done more : List Content) : Prop where
  framed : s.output.Framed d
  kept : s.output.kept = done ++ more
  arrived : s.input.arrived <+: s.output.handed
  packets : s.input.packets = done.map Packet.new
  bytes : s.input.arrived = done.flatMap d.stream ++ s.input.inputMsgBlock.bytes
  size : s.input.inputMsgBlock.size = socketBufferLength
  front : s.input.inputMsgBlock.rdPtr = 0
  short : ∀ c ∈ more.head?,
    s.input.inputMsgBlock.length < max d.least (d.stream c).length
  last : ∀ c ∈ done.getLast?,
    d.least ≤ (d.stream c).length + s.input.inputMsgBlock.length

variable {d : Direction} {s s' : State} {done more : List Content}

theorem cut_start : Cut d {} [] [] where
  framed := NetOutput.framed_new
  kept := rfl
  arrived := List.prefix_rfl
  packets := rfl
  bytes := rfl
  size := rfl
  front := rfl
  short := nofun
  last := nofun

/-- What arrived, and what is on its way. -/
theorem Cut.arrived_wire (h : Cut d s done more) :
    s.input.arrived ++ s.wire = s.output.handed := by
  obtain ⟨w, hw⟩ := h.arrived
  unfold State.wire
  rw [← hw, List.drop_left]

/-- What arrived, and what is on its way or waits. -/
theorem Cut.arrived_append (h : Cut d s done more) :
    s.input.arrived ++ (s.wire ++ s.output.outputMsgBlock.bytes) =
      s.output.kept.flatMap d.stream := by
  rw [← List.append_assoc, h.arrived_wire]
  exact h.framed.all

/-- The block and what is still to come are the packets `more`. -/
theorem Cut.rest (h : Cut d s done more) :
    s.input.inputMsgBlock.bytes ++ (s.wire ++ s.output.outputMsgBlock.bytes) =
      more.flatMap d.stream := by
  have hall := h.arrived_append
  rw [h.bytes, h.kept, List.flatMap_append, List.append_assoc] at hall
  exact List.append_cancel_left hall

theorem Cut.fits (h : Cut d s done more) : ∀ c ∈ more, d.Fits c := by
  intro c hc
  exact h.framed.fits c (h.kept ▸ List.mem_append_right _ hc)

theorem least_le (d : Direction) : d.least ≤ 13 := by
  cases d <;> decide

/-- A block that has less than a packet has space. -/
theorem Cut.space_pos (h : Cut d s done more) : 0 < s.input.inputMsgBlock.space := by
  have hlength := s.input.inputMsgBlock.length_add_space h.front
  have hsize : s.input.inputMsgBlock.size = 102400 := h.size
  cases more with
  | nil =>
      have hnil : s.input.inputMsgBlock.bytes = [] := (List.append_eq_nil_iff.mp h.rest).1
      have hzero : s.input.inputMsgBlock.length = 0 := congrArg List.length hnil
      omega
  | cons c more' =>
      have hshort := h.short c rfl
      have hfits := h.fits c List.mem_cons_self
      have hlt := Direction.length_lt_of_fits hfits
      have hleast := least_le d
      rw [Direction.stream_length hfits] at hshort
      omega

/-! ## §2. Steps. -/

/-- A step of the sender: packets are kept behind the others, and bytes are handed over. -/
theorem Cut.output (h : Cut d s done more) {t : NetOutput} (hframed : t.Framed d)
    (hhanded : s.output.handed <+: t.handed) {new : List Content}
    (hkept : t.kept = s.output.kept ++ new) : Cut d { s with output := t } done (more ++ new) where
  framed := hframed
  kept := by
    rw [hkept, h.kept, List.append_assoc]
  arrived := h.arrived.trans hhanded
  packets := h.packets
  bytes := h.bytes
  size := h.size
  front := h.front
  short := by
    cases more with
    | nil =>
        -- nothing was in the block
        have hnil : s.input.inputMsgBlock.bytes = [] := (List.append_eq_nil_iff.mp h.rest).1
        intro c hc
        have hmem : c ∈ t.kept := hkept ▸ List.mem_append_right _ (List.mem_of_mem_head? hc)
        have hlen := Direction.stream_length (hframed.fits c hmem)
        show s.input.inputMsgBlock.bytes.length < _
        rw [hnil]
        show 0 < _
        omega
    | cons c more' => exact h.short
  last := h.last

/-- A step of the receiver: it cuts packets off. -/
theorem Cut.handleInput (h : Cut d s done more) {n : Nat} (hn : n ≤ s.wire.length)
    (hspace : n ≤ s.input.inputMsgBlock.space) :
    ∃ done' more', Cut d { s with input := s.input.handleInput d (s.wire.take n) } done' more' ∧
      (s.input.handleInput d (s.wire.take n)).closed = s.input.closed ∧
      (s.input.handleInput d (s.wire.take n)).arrived.length = s.input.arrived.length + n := by
  have htake : (s.wire.take n).length = n := by
    rw [List.length_take, Nat.min_eq_left hn]
  have hparts : (s.input.inputMsgBlock.bytes ++ s.wire.take n) ++
      (s.wire.drop n ++ s.output.outputMsgBlock.bytes) = more.flatMap d.stream := by
    rw [← h.rest, List.append_assoc, ← List.append_assoc (s.wire.take n), List.take_append_drop]
  obtain ⟨taken, left, hmore, hpackets, hbytes, hshort, hlast⟩ :=
    Direction.parse_part h.fits hparts
  obtain ⟨hleft, hfront, hsize, hnew, harrived, hclosed⟩ :=
    NetInput.handleInput_of_le (s := s.input) (Nat.pos_iff_ne_zero.mp h.space_pos)
      (htake.le.trans hspace) hbytes
  refine ⟨done ++ taken, left,
    ⟨h.framed, ?_, ?_, ?_, ?_, hsize.trans h.size, hfront, ?_, ?_⟩, hclosed, ?_⟩
  · rw [h.kept, hmore, List.append_assoc]
  · show (s.input.handleInput d (s.wire.take n)).arrived <+: s.output.handed
    rw [harrived, ← h.arrived_wire]
    exact ⟨s.wire.drop n, by rw [List.append_assoc, List.take_append_drop]⟩
  · show (s.input.handleInput d (s.wire.take n)).packets = _
    rw [hnew, h.packets, hpackets, List.map_append]
  · show (s.input.handleInput d (s.wire.take n)).arrived =
      _ ++ (s.input.handleInput d (s.wire.take n)).inputMsgBlock.bytes
    rw [harrived, h.bytes, hleft, List.flatMap_append, List.append_assoc, List.append_assoc]
    exact congrArg _ hbytes
  · intro c hc
    show (s.input.handleInput d (s.wire.take n)).inputMsgBlock.bytes.length < _
    rw [hleft]
    exact hshort c hc
  · intro c hc
    show _ ≤ _ + (s.input.handleInput d (s.wire.take n)).inputMsgBlock.bytes.length
    rw [hleft]
    by_cases hnone : taken = []
    · -- only the block has grown
      rw [hnone, List.append_nil] at hc
      rw [hnone, List.flatMap_nil, List.nil_append] at hbytes
      have hold := h.last c hc
      rw [← hbytes, List.length_append]
      show _ ≤ _ + (s.input.inputMsgBlock.length + _)
      omega
    · rw [List.getLast?_append_of_ne_nil _ hnone] at hc
      exact hlast c hc
  · rw [harrived, List.length_append, htake]

/-- **One step** keeps the invariant; and only `closeInput` closes the receiver. -/
theorem Cut.step (h : Cut d s done more) {a : Act} (ha : a.Fits d)
    (hst : (linkSystem d).step s a = some s') :
    (∃ done' more', Cut d s' done' more') ∧
      (a ≠ .closeInput → s'.input.closed = s.input.closed) := by
  cases a with
  | handleOutputStream c r =>
      obtain ⟨-, hst⟩ := Option.ite_none_right_eq_some.mp hst
      obtain rfl := Option.some.inj hst
      obtain ⟨dropped, hgiven, -, -⟩ :=
        NetOutput.given_handleOutputStream (r := r) ha h.framed.size
      exact ⟨⟨done, _, h.output (h.framed.handleOutputStream ha) hgiven.handed
        (NetOutput.kept_append hgiven.log)⟩, fun _ => rfl⟩
  | handleOutput r =>
      obtain ⟨-, hst⟩ := Option.ite_none_right_eq_some.mp hst
      obtain rfl := Option.some.inj hst
      obtain ⟨hframed, hhanded, hlog⟩ := h.framed.handleOutput r
      have hkept : (s.output.handleOutput r).kept = s.output.kept ++ [] := by
        unfold NetOutput.kept
        rw [hlog, List.append_nil]
      exact ⟨⟨done, _, h.output hframed hhanded hkept⟩, fun _ => rfl⟩
  | handleInput n =>
      obtain ⟨⟨-, -, hn, hspace⟩, hst⟩ := Option.ite_none_right_eq_some.mp hst
      obtain rfl := Option.some.inj hst
      have hpos := h.space_pos
      obtain ⟨done', more', hcut, hclosed, -⟩ :=
        h.handleInput hn (hspace.resolve_right (by omega))
      exact ⟨⟨done', more', hcut⟩, fun _ => hclosed⟩
  | closeOutput =>
      obtain rfl := Option.some.inj hst
      refine ⟨⟨done, more, ?_⟩, fun _ => rfl⟩
      exact ⟨⟨h.framed.all, h.framed.size, fun _ => .inr rfl, h.framed.fits⟩, h.kept, h.arrived,
        h.packets, h.bytes, h.size, h.front, h.short, h.last⟩
  | closeInput =>
      obtain rfl := Option.some.inj hst
      exact ⟨⟨done, more, h.framed, h.kept, h.arrived, h.packets, h.bytes, h.size, h.front,
        h.short, h.last⟩, fun hne => absurd rfl hne⟩

/-- Every run whose packets fit cuts packets off in their order. -/
theorem reachable_cut (hs : (linkSystem d).ReachableWhen (fun _ a => a.Fits d) s) :
    ∃ done more, Cut d s done more := by
  refine hs.invariant (I := fun t => ∃ done more, Cut d t done more) ?_ ?_
  · intro t ht
    obtain rfl : t = {} := ht
    exact ⟨[], [], cut_start⟩
  · intro t a t' ht ha hst
    obtain ⟨done, more, h⟩ := ht
    exact (h.step ha hst).1

/-! ## §3. What is delivered. -/

/-- What is cut off when all bytes are there: charsys leaves a last packet without a body. -/
def delivered (d : Direction) (kept : List Content) : List Content :=
  match d, kept.getLast? with
  | .toCharsys, some c => if c.body = [] then kept.dropLast else kept
  | _, _ => kept

theorem Cut.contents (h : Cut d s done more) :
    s.input.packets.map Packet.content = done := by
  rw [h.packets, List.map_map]
  refine (List.map_congr_left fun c hc => ?_).trans (List.map_id done)
  exact Packet.content_of_size
    (Direction.size_of_fits (h.framed.fits c (h.kept ▸ List.mem_append_left _ hc)))

/-- **When all bytes are there.** -/
theorem Cut.delivered (h : Cut d s done more) (hwire : s.wire = [])
    (hempty : s.output.outputMsgBlock.length = 0) : done = delivered d s.output.kept := by
  have hout : s.output.outputMsgBlock.bytes = [] := List.length_eq_zero_iff.mp hempty
  have hrest := h.rest
  rw [hwire, hout, List.append_nil, List.append_nil] at hrest
  have hkept := h.kept
  unfold Link.delivered
  cases more with
  | nil =>
      rw [List.append_nil] at hkept
      rw [hkept]
      split
      · next c hc =>
          -- the last packet has been looked at, and nothing is behind it
          have hlast := h.last c hc
          have hfits := h.framed.fits c (hkept ▸ List.mem_of_getLast? hc)
          have hzero : s.input.inputMsgBlock.length = 0 := congrArg List.length hrest
          rw [Direction.stream_length hfits, hzero] at hlast
          have hleast : Direction.toCharsys.least = 13 := rfl
          rw [if_neg]
          intro hnil
          rw [hnil, hleast] at hlast
          exact absurd hlast (by decide)
      · rfl
  | cons c more' =>
      have hshort := h.short c rfl
      have hstream := Direction.stream_length (h.fits c List.mem_cons_self)
      have hlength := congrArg List.length hrest
      rw [List.flatMap_cons, List.length_append, hstream] at hlength
      change s.input.inputMsgBlock.length = _ at hlength
      rw [hstream] at hshort
      cases d with
      | toGate =>
          have hleast : Direction.toGate.least = 12 := rfl
          omega
      | toCharsys =>
          have hleast : Direction.toCharsys.least = 13 := rfl
          have hbody : c.body = [] := List.length_eq_zero_iff.mp (by omega)
          have hmore : more' = [] := by
            cases more' with
            | nil => rfl
            | cons e more' =>
                rw [List.flatMap_cons, List.length_append, Direction.stream_length
                  (h.fits e (List.mem_cons_of_mem _ List.mem_cons_self))] at hlength
                omega
          subst hmore
          rw [hkept, List.getLast?_concat, List.dropLast_concat]
          exact (if_pos hbody).symm

/-! ## §4. Everything arrives. -/

/-- The reactor of either side. -/
def Act.Reacts : Act → Prop
  | .handleOutput _ => True
  | .handleInput _ => True
  | _ => False

/-- What waits has two steps to go, and what is on its way one. -/
def State.toGo (s : State) : Nat := 2 * s.output.outputMsgBlock.length + s.wire.length

/-- Both ends are open, and these packets were given to the link. -/
structure Going (d : Direction) (log : List (Content × Bool)) (s : State) : Prop where
  cut : ∃ done more, Cut d s done more
  output : s.output.closed = false
  input : s.input.closed = false
  log : s.output.log = log

variable {log : List (Content × Bool)}

/-- The socket takes what waits. -/
theorem Going.handleOutput (h : Going d log s) (hwaits : s.output.outputMsgBlock.length ≠ 0) :
    ∃ m, (linkSystem d).Leads (fun _ a => a.Reacts) s m ∧ Going d log m ∧ m.toGo < s.toGo := by
  obtain ⟨done, more, hcut⟩ := h.cut
  have hwriting : s.output.writing = true := by
    obtain hw | hclosed := hcut.framed.writing hwaits
    · exact hw
    · exact absurd (h.output.symm.trans hclosed) Bool.false_ne_true
  let r : SendResult := ⟨s.output.outputMsgBlock.length, false⟩
  have hst : (linkSystem d).step s (.handleOutput r) =
      some { s with output := s.output.handleOutput r } := if_pos ⟨hwriting, Int.le_refl _⟩
  have hafter : s.output.handleOutput r =
      { s.output with
        outputMsgBlock := s.output.outputMsgBlock.read s.output.outputMsgBlock.length
        handed := s.output.handed ++
          s.output.outputMsgBlock.bytes.take s.output.outputMsgBlock.length
        writing := decide ((s.output.outputMsgBlock.read
          s.output.outputMsgBlock.length).length ≠ 0) } := by
    unfold NetOutput.handleOutput
    rw [if_pos (by omega), if_pos (show (0 : Int) < s.output.outputMsgBlock.length by omega)]
    rfl
  obtain ⟨⟨done', more', hcut'⟩, -⟩ := hcut.step (a := .handleOutput r) trivial hst
  refine ⟨_, .one (a := .handleOutput r) trivial hst,
    ⟨⟨done', more', hcut'⟩, ?_, h.input, ?_⟩, ?_⟩
  · rw [hafter]
    exact h.output
  · rw [hafter]
    exact h.log
  · unfold State.toGo State.wire
    rw [hafter]
    dsimp only
    have hread : (s.output.outputMsgBlock.read s.output.outputMsgBlock.length).length = 0 := by
      show (s.output.outputMsgBlock.bytes.drop s.output.outputMsgBlock.bytes.length).length = 0
      rw [List.drop_length]
      rfl
    have hbytes : s.output.outputMsgBlock.bytes.length = s.output.outputMsgBlock.length := rfl
    have hle : s.input.arrived.length ≤ s.output.handed.length := hcut.arrived.length_le
    rw [hread, List.length_drop, List.length_drop, List.length_append, List.length_take, hbytes]
    omega

/-- The receiver takes a byte. -/
theorem Going.handleInput (h : Going d log s) (hwire : s.wire ≠ []) :
    ∃ m, (linkSystem d).Leads (fun _ a => a.Reacts) s m ∧ Going d log m ∧ m.toGo < s.toGo := by
  obtain ⟨done, more, hcut⟩ := h.cut
  have hone : 1 ≤ s.wire.length := List.length_pos_iff.mpr hwire
  have hspace := hcut.space_pos
  have hst : (linkSystem d).step s (.handleInput 1) =
      some { s with input := s.input.handleInput d (s.wire.take 1) } :=
    if_pos ⟨h.input, Nat.one_pos, hone, .inl hspace⟩
  obtain ⟨done', more', hcut', hclosed, harrived⟩ := hcut.handleInput hone hspace
  refine ⟨_, .one (a := .handleInput 1) trivial hst,
    ⟨⟨done', more', hcut'⟩, h.output, hclosed.trans h.input, h.log⟩, ?_⟩
  unfold State.toGo State.wire at *
  dsimp only
  rw [List.length_drop] at hone ⊢
  rw [List.length_drop, harrived]
  omega

/-- **The reactors alone** bring all bytes over. -/
theorem exists_arrived (h : Going d log s) :
    ∃ s', (linkSystem d).Leads (fun _ a => a.Reacts) s s' ∧ Going d log s' ∧ s'.wire = [] ∧
      s'.output.outputMsgBlock.length = 0 := by
  obtain ⟨s', hleads, hgoing, hzero⟩ :=
    TransSys.leads_of_decreasing (M := linkSystem d) (C := fun _ a => a.Reacts) State.toGo
      (I := Going d log) (fun t ht hne => by
        by_cases hwaits : t.output.outputMsgBlock.length = 0
        · refine ht.handleInput fun hnil => hne ?_
          unfold State.toGo
          rw [hwaits, hnil]
          rfl
        · exact ht.handleOutput hwaits) h
  unfold State.toGo at hzero
  exact ⟨s', hleads, hgoing, List.length_eq_zero_iff.mp (by omega), by omega⟩

/-! ## §5. Every run. -/

/-- **The link delivers packets in order.**  In every run whose packets fit, whatever the socket
takes and in whatever pieces the bytes come:

  * the receiver has the first of the packets that were kept, and space for more bytes;
  * what waits has a writer, as long as the sender is open;
  * an open sender drops a packet only when the socket fails or the block is too full;
  * once all bytes are there, the receiver has all packets that were kept, but for a last one
    without a body that came to charsys;
  * and as long as both ends are open, the reactors alone lead there. -/
theorem link_delivers (d : Direction) {s : State}
    (hs : (linkSystem d).ReachableWhen (fun _ a => a.Fits d) s) :
    s.input.packets.map Packet.content <+: s.output.kept ∧
      0 < s.input.inputMsgBlock.space ∧
      (s.output.outputMsgBlock.length ≠ 0 → s.output.writing = true ∨ s.output.closed = true) ∧
      (s.output.closed = false → ∀ c r, d.Fits c →
        (s.output.handleOutputStream d c r).log =
          s.output.log ++ [(c, decide (s.output.Drops d c r))]) ∧
      (s.wire = [] → s.output.outputMsgBlock.length = 0 →
        s.input.packets.map Packet.content = delivered d s.output.kept) ∧
      (s.output.closed = false → s.input.closed = false →
        ∃ s', (linkSystem d).Leads (fun _ a => a.Reacts) s s' ∧
          s'.output.log = s.output.log ∧
          s'.input.packets.map Packet.content = delivered d s.output.kept) := by
  obtain ⟨done, more, h⟩ := reachable_cut hs
  refine ⟨?_, h.space_pos, h.framed.writing, ?_, ?_, ?_⟩
  · rw [h.contents, h.kept]
    exact List.prefix_append ..
  · intro hopen c r hc
    obtain ⟨dropped, hgiven, hdrops, -⟩ :=
      NetOutput.given_handleOutputStream (r := r) hc h.framed.size
    have hdropped : dropped = decide (s.output.Drops d c r) := by
      rw [Bool.eq_iff_iff, decide_eq_true_iff]
      exact hdrops hopen
    rw [hgiven.log, hdropped]
  · intro hwire hempty
    rw [h.contents]
    exact h.delivered hwire hempty
  · intro hout hin
    obtain ⟨s', hleads, hgoing, hwire, hempty⟩ := exists_arrived ⟨⟨done, more, h⟩, hout, hin, rfl⟩
    obtain ⟨done', more', h'⟩ := hgoing.cut
    have hkept : s'.output.kept = s.output.kept := by
      unfold NetOutput.kept
      rw [hgoing.log]
    refine ⟨s', hleads, hgoing.log, ?_⟩
    rw [h'.contents, ← hkept]
    exact h'.delivered hwire hempty

/-- A request and one without a body go to charsys: the socket takes five bytes of the first. -/
def twoRequests : List Act :=
  [.handleOutputStream ⟨1, 5, [7, 8]⟩ ⟨5, false⟩, .handleOutputStream ⟨2, 5, []⟩ ⟨0, true⟩,
    .handleOutput ⟨21, false⟩, .handleInput 9, .handleInput 17]

theorem link_delivers_two :
    ∃ s, (linkSystem .toCharsys).run {} twoRequests = some s ∧
      s.input.packets.map Packet.content <+: s.output.kept ∧
      0 < s.input.inputMsgBlock.space ∧
      (s.output.outputMsgBlock.length ≠ 0 → s.output.writing = true ∨ s.output.closed = true) ∧
      (s.output.closed = false → ∀ c r, Direction.toCharsys.Fits c →
        (s.output.handleOutputStream .toCharsys c r).log =
          s.output.log ++ [(c, decide (s.output.Drops .toCharsys c r))]) ∧
      (s.wire = [] → s.output.outputMsgBlock.length = 0 →
        s.input.packets.map Packet.content = delivered .toCharsys s.output.kept) ∧
      (s.output.closed = false → s.input.closed = false →
        ∃ s', (linkSystem .toCharsys).Leads (fun _ a => a.Reacts) s s' ∧
          s'.output.log = s.output.log ∧
          s'.input.packets.map Packet.content = delivered .toCharsys s.output.kept) := by
  have hrun : ((linkSystem .toCharsys).run {} twoRequests).isSome := by decide +kernel
  obtain ⟨s, hs⟩ := Option.isSome_iff_exists.mp hrun
  exact ⟨s, hs, link_delivers .toCharsys
    (TransSys.reachableWhen_of_run rfl (by decide +kernel) hs)⟩

/-- The second request waits for more bytes. -/
example : ((linkSystem .toCharsys).run {} twoRequests).map
    (fun s => (s.wire, s.input.packets.map Packet.content)) = some ([], [⟨1, 5, [7, 8]⟩]) := by
  decide +kernel

end Steppingstone.Link
