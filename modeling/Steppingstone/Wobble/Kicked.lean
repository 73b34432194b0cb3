/-
  Steppingstone.Wobble.Kicked — when a client is given up for being slow.

  A thread looks at the guids of its wobble set in every round.  A session whose output `wt_stream`
  leaves unfinished for the 30th round in a row is meant to be reported with `GMSG_CLIENT_WOBBLE`.
  The counter is cleared in the round that counts, so it never gets there.

  Beside the gate's state a log is kept here of what each round saw, and for each thread and session
  the number of rounds in a row that left its output unfinished.
-/
import Steppingstone.Wobble.Stuck

namespace Steppingstone.Wobble

open Gate

/-! ## §1. Rounds that are watched. -/

/-- What a round of `handleWobbleStream` did to one session. -/
structure Retried where
  session : SessionId
  /-- `wt_stream` returned 1. -/
  unfinished : Bool
  /-- Nothing is left to send. -/
  drained : Bool
  /-- A `GMSG_CLIENT_WOBBLE` was queued. -/
  queued : Bool
  /-- `m_output_wobble_time` after it -/
  time : Nat
  deriving DecidableEq

/-- How many `GMSG_CLIENT_WOBBLE` are in the input lists. -/
def State.wobbles (s : State) : Nat := s.notices.countP (·.opcode = .wobble)

/-- The retry of one guid, watched. -/
def watch (t : Nat) (rs : UInt64 → SendResult) (s : State) (guid : UInt64) : Option Retried :=
  (s.gate.roleMap guid).map fun i =>
    { session := i
      unfinished := (wtStream s i (rs guid)).2 = 1
      drained := ((wtStream s i (rs guid)).1.blocks i).length = 0
      queued := s.wobbles < (retry t rs s guid).wobbles
      time := (retry t rs s guid).wobbleTime i }

/-- A round, watched. -/
def watchAll (t : Nat) (rs : UInt64 → SendResult) : State → List UInt64 → List Retried
  | _, [] => []
  | s, guid :: guids => (watch t rs s guid).toList ++ watchAll t rs (retry t rs s guid) guids

/-- What a round saw, and the rounds in a row after it. -/
structure Round where
  seen : List Retried
  inRow : SessionId → Nat

/-- The gate with its rounds. -/
structure World where
  state : State
  /-- For each thread and session, in how many of the last rounds of that thread in a row
  `wt_stream` left the output unfinished. -/
  inRow : Nat → SessionId → Nat
  rounds : List Round

/-- A gate that has just started. -/
def World.init : World where
  state := Wobble.init
  inRow := fun _ _ => 0
  rounds := []

/-- What thread `t` sees in its next round. -/
def World.seen (w : World) (t : Nat) (rs : UInt64 → SendResult) : List Retried :=
  watchAll t rs { w.state with wobbleGuid := Function.update w.state.wobbleGuid t [] }
    (w.state.wobbleGuid t)

/-- The rounds in a row after it. -/
def World.counted (w : World) (t : Nat) (rs : UInt64 → SendResult) (i : SessionId) : Nat :=
  if (w.seen t rs).any fun e => e.session = i ∧ e.unfinished then w.inRow t i + 1 else 0

/-- The ghosts of a step. -/
def World.record (w : World) (s : State) : Act → World
  | .wobbleStream t rs =>
      { state := s
        inRow := Function.update w.inRow t (w.counted t rs)
        rounds := w.rounds ++ [⟨w.seen t rs, w.counted t rs⟩] }
  | _ => { w with state := s }

/-- The gate, watched. -/
def watchedSystem (size : Nat) : TransSys World Act where
  init w := w = World.init
  step w a := (step size w.state a).map fun s => w.record s a

/-- `getWobbleTime() == 30` -/
def wobbleLimit : Nat := 30

/-- A round reports exactly the sessions that it left unfinished for the 30th time in a row, and
starts the count anew for those that it drained. -/
def Round.Right (r : Round) : Prop :=
  ∀ e ∈ r.seen, (e.queued = true ↔ r.inRow e.session = wobbleLimit) ∧
    (e.drained = true → e.time = 0)

/-- **Clients are kicked when they are slow**, and once. -/
structure World.Kicked (w : World) : Prop where
  right : ∀ r ∈ w.rounds, r.Right
  once : ∀ i, (w.rounds.flatMap Round.seen).countP (fun e => e.session = i ∧ e.queued) ≤ 1

/-- A socket that leaves something in the block. -/
def LeftUnfinished (b : MsgBlock) (r : SendResult) : Prop :=
  b.length ≠ 0 ∧ if 0 < r.value then r.value.toNat < b.length else r.again = true

instance (b : MsgBlock) (r : SendResult) : Decidable (LeftUnfinished b r) := by
  unfold LeftUnfinished
  infer_instance

/-- The condition on a step: no session is left unfinished for the 30th round in a row. -/
def World.NobodyDue (w : World) : Act → Prop
  | .wobbleStream t rs => ∀ g ∈ w.state.wobbleGuid t, ∀ i, w.state.gate.roleMap g = some i →
      LeftUnfinished (w.state.blocks i) (rs g) → w.inRow t i + 1 ≠ wobbleLimit
  | _ => True

/-! ## §2. One retry. -/

/-- **What leaves the output unfinished.** -/
theorem wtStream_eq_one_iff (s : State) (i : SessionId) (r : SendResult) :
    (wtStream s i r).2 = 1 ↔ LeftUnfinished (s.blocks i) r := by
  unfold wtStream LeftUnfinished
  by_cases hempty : (s.blocks i).length = 0
  · simp [hempty]
  · by_cases hsent : 0 < r.value
    · have hrest : ((s.blocks i).sent r).length ≠ 0 ↔ r.value.toNat < (s.blocks i).length := by
        unfold MsgBlock.sent
        rw [if_pos hsent]
        unfold MsgBlock.length at *
        dsimp only
        omega
      simp [hempty, hsent, ← hrest]
    · by_cases hagain : r.again = true
      · simp [hempty, hsent, hagain]
      · simp [hempty, hsent, hagain]

/-- A retry leaves the map and the other sessions alone. -/
theorem retry_gate (t : Nat) (rs : UInt64 → SendResult) (s : State) (g : UInt64) :
    (retry t rs s g).gate = s.gate := by
  unfold retry
  split
  · rfl
  · next i hi =>
      have hw := (wtStream_writes s i (rs g)).gate
      dsimp only
      split
      · split
        · exact hw
        · exact (insertWobble_rest ..).1.trans hw
      · exact hw

/-- A retry touches the block of its session only. -/
theorem retry_blocks {t : Nat} {rs : UInt64 → SendResult} {s : State} {g : UInt64}
    {j : SessionId} (hj : s.gate.roleMap g ≠ some j) :
    (retry t rs s g).blocks j = s.blocks j := by
  unfold retry
  split
  · rfl
  · next i hi =>
      have hne : j ≠ i := fun he => hj (he ▸ hi)
      have hw := (wtStream_writes s i (rs g)).blocks j hne
      dsimp only
      split
      · split
        · exact hw
        · exact (congrFun (insertWobble_rest ..).2.1 j).trans hw
      · exact hw

/-- Without a count there is no report. -/
theorem Untimed.wobbles {s : State} (h : Untimed s) : s.wobbles = 0 := by
  unfold State.wobbles
  rw [List.countP_eq_zero]
  intro n hn
  rw [h.2 n hn]
  decide

/-- What is seen in a retry without a count. -/
theorem watch_untimed {t : Nat} {rs : UInt64 → SendResult} {s : State} {g : UInt64} {e : Retried}
    (h : Untimed s) (he : watch t rs s g = some e) :
    s.gate.roleMap g = some e.session ∧ e.queued = false ∧ e.time = 0 ∧
      (e.unfinished = true ↔ LeftUnfinished (s.blocks e.session) (rs g)) := by
  obtain ⟨i, hi, rfl⟩ := Option.map_eq_some_iff.mp he
  have hafter := h.retry t rs g
  refine ⟨hi, ?_, hafter.1 i, ?_⟩
  · show decide (s.wobbles < (retry t rs s g).wobbles) = false
    rw [hafter.wobbles, decide_eq_false_iff_not]
    exact Nat.not_lt_zero _
  · exact decide_eq_true_iff.trans (wtStream_eq_one_iff s i (rs g))

/-! ## §3. A round. -/

section Round

variable {t : Nat} {rs : UInt64 → SendResult}

/-- **What a round sees**, from the state in which it begins. -/
theorem mem_watchAll {s : State} {guids : List UInt64} (h : Untimed s) (hinv : Inv s.gate)
    (hnodup : guids.Nodup) {e : Retried} (he : e ∈ watchAll t rs s guids) :
    ∃ g ∈ guids, s.gate.roleMap g = some e.session ∧ e.queued = false ∧ e.time = 0 ∧
      (e.unfinished = true ↔ LeftUnfinished (s.blocks e.session) (rs g)) := by
  induction guids generalizing s with
  | nil => exact absurd he List.not_mem_nil
  | cons g guids ih =>
      obtain ⟨hg, hnodup⟩ := List.nodup_cons.mp hnodup
      match List.mem_append.mp he with
      | Or.inl hfirst =>
          exact ⟨g, List.mem_cons_self .., watch_untimed h (Option.mem_toList.mp hfirst)⟩
      | Or.inr hlater =>
          have hgate := retry_gate t rs s g
          obtain ⟨g', hg', hi, hqueued, htime, hleft⟩ :=
            ih (h.retry t rs g) (hgate.symm ▸ hinv) hnodup hlater
          rw [hgate] at hi
          -- another guid is another session
          have hother : s.gate.roleMap g ≠ some e.session := by
            intro hsame
            exact hg (hinv.single hsame hi ▸ hg')
          rw [retry_blocks hother] at hleft
          exact ⟨g', List.mem_cons_of_mem _ hg', hi, hqueued, htime, hleft⟩

/-- Every session under one of the guids is seen. -/
theorem exists_mem_watchAll {s : State} {guids : List UInt64} (h : Untimed s) (hinv : Inv s.gate)
    (hnodup : guids.Nodup) {g : UInt64} (hg : g ∈ guids) {i : SessionId}
    (hi : s.gate.roleMap g = some i) :
    ∃ e ∈ watchAll t rs s guids, e.session = i ∧
      (e.unfinished = true ↔ LeftUnfinished (s.blocks i) (rs g)) := by
  induction guids generalizing s with
  | nil => exact absurd hg List.not_mem_nil
  | cons g' guids ih =>
      obtain ⟨hg', hnodup⟩ := List.nodup_cons.mp hnodup
      match List.mem_cons.mp hg with
      | Or.inl hfirst =>
          rw [← hfirst]
          have hwatch : watch t rs s g = some _ := congrArg (Option.map _) hi
          refine ⟨_, List.mem_append_left _ (Option.mem_toList.mpr hwatch), rfl, ?_⟩
          exact (watch_untimed h hwatch).2.2.2
      | Or.inr hlater =>
          have hgate := retry_gate t rs s g'
          have hother : s.gate.roleMap g' ≠ some i := by
            intro hsame
            exact hg' (hinv.single hi hsame ▸ hlater)
          obtain ⟨e, he, hsession, hleft⟩ :=
            ih (h.retry t rs g') (hgate.symm ▸ hinv) hnodup hlater (hgate.symm ▸ hi)
          rw [retry_blocks hother] at hleft
          exact ⟨e, List.mem_append_right _ he, hsession, hleft⟩

end Round

/-! ## §4. What every step keeps. -/

/-- A session is under one guid, and a thread has a guid once. -/
structure Steady (s : State) : Prop where
  gate : Inv s.gate
  nodup : ∀ t, (s.wobbleGuid t).Nodup

namespace Steady

variable {s s' : State}

theorem init : Steady Wobble.init where
  gate := inv_init
  nodup _ := List.nodup_nil

theorem writes (h : Steady s) {i : SessionId} (hw : Writes i s s') : Steady s' where
  gate := by
    rw [hw.gate]
    exact h.gate
  nodup t := by
    rw [hw.wobbleGuid]
    exact h.nodup t

theorem insertWobble (h : Steady s) (t : Nat) (g : UInt64) : Steady (s.insertWobble t g) := by
  refine ⟨(insertWobble_rest s t g).1.symm ▸ h.gate, fun u => ?_⟩
  unfold State.insertWobble
  split
  · exact h.nodup u
  · next hnew =>
      show (Function.update s.wobbleGuid t (s.wobbleGuid t ++ [g]) u).Nodup
      by_cases hu : u = t
      · rw [hu, Function.update_self]
        exact List.nodup_append.mpr ⟨h.nodup t, List.pairwise_singleton _ g, fun x hx y hy he =>
          hnew (List.mem_singleton.mp hy ▸ he ▸ hx)⟩
      · rw [Function.update_of_ne hu]
        exact h.nodup u

theorem gateStep (h : Steady s) {a : Gate.Act} (hq : Quiet a) (hs : s.gateStep a = some s') :
    Steady s' := by
  obtain ⟨g', hg', rfl⟩ := Option.map_eq_some_iff.mp hs
  exact ⟨(quiet_keeps hq h.gate hg').1, h.nodup⟩

theorem onGate (h : Steady s) {a : Gate.Act} (hq : Quiet a) : Steady (s.onGate a) := by
  refine ⟨?_, h.nodup⟩
  show Inv ((Gate.step s.gate a).getD s.gate)
  match hg : Gate.step s.gate a with
  | none => exact h.gate
  | some g' => exact (quiet_keeps hq h.gate hg).1

theorem writeDirect (h : Steady s) (g : UInt64) (body : Nat) (r : SendResult) :
    Steady (Wobble.writeDirect s g body r) := by
  unfold Wobble.writeDirect
  split
  · exact h.writes (handleOutputStream_writes ..)
  · exact h

theorem output (h : Steady s) (p : Output) (g : UInt64) (body : Nat) (r : SendResult) :
    Steady (handleOutputPackage s p g body r).1 := by
  cases p with
  | playerMake info => exact (h.onGate (a := .roleList g (some info)) trivial).writeDirect g body r
  | requestPlayerList info => exact (h.onGate (a := .roleList g info) trivial).writeDirect g body r
  | jumpMap mapId found =>
      cases found with
      | false => exact h.onGate (a := .jumpMap g mapId false) trivial
      | true => exact (h.onGate (a := .jumpMap g mapId true) trivial).writeDirect g body r
  | loopback => exact h.writeDirect g body r
  | kickOff => exact h.onGate (a := .drop g false) trivial
  | leaveMap => exact h
  | other =>
      unfold handleOutputPackage
      dsimp only
      split
      · exact h.writes (handleOutputStream_writes ..)
      · exact h

theorem retry (h : Steady s) (t : Nat) (rs : UInt64 → SendResult) (g : UInt64) :
    Steady (Wobble.retry t rs s g) := by
  unfold Wobble.retry
  split
  · exact h
  · next i _ =>
      have hw : Steady (wtStream s i (rs g)).1 := h.writes (wtStream_writes s i (rs g))
      dsimp only
      split
      · split
        · exact ⟨hw.gate, hw.nodup⟩
        · have htimed : Steady (((wtStream s i (rs g)).1.setWobbleTime i
              ((wtStream s i (rs g)).1.wobbleTime i + 1)).setWobbleTime i 0) :=
            ⟨hw.gate, hw.nodup⟩
          exact htimed.insertWobble t g
      · exact hw

theorem foldl_retry (t : Nat) (rs : UInt64 → SendResult) (guids : List UInt64) (h : Steady s) :
    Steady (guids.foldl (Wobble.retry t rs) s) := by
  induction guids generalizing s with
  | nil => exact h
  | cons g guids ih => exact ih (h.retry t rs g)

/-- A thread that clears its set has nothing in it. -/
theorem clear (h : Steady s) (t : Nat) :
    Steady { s with wobbleGuid := Function.update s.wobbleGuid t [] } := by
  refine ⟨h.gate, fun u => ?_⟩
  show (Function.update s.wobbleGuid t [] u).Nodup
  by_cases hu : u = t
  · rw [hu, Function.update_self]
    exact List.nodup_nil
  · rw [Function.update_of_ne hu]
    exact h.nodup u

/-- **Every step** keeps a session under one guid. -/
theorem step {size : Nat} {a : Act} (h : Steady s) (hs : Wobble.step size s a = some s') :
    Steady s' := by
  cases a with
  | connect =>
      unfold Wobble.step at hs
      obtain ⟨s₁, hs₁, rfl⟩ := Option.map_eq_some_iff.mp hs
      obtain ⟨g', hg', rfl⟩ := Option.map_eq_some_iff.mp hs₁
      exact ⟨Gate.step_inv (a := .connect) h.gate trivial hg', h.nodup⟩
  | enterMap guid role found =>
      rw [← Option.some.inj hs]
      exact ⟨inv_handleEnterMap h.gate guid role found, h.nodup⟩
  | drop guid notFound => exact h.gateStep (a := .drop guid notFound) trivial hs
  | dropSession i => exact h.gateStep (a := .dropSession i) trivial hs
  | cleanPlayerInfo guid => exact h.gateStep (a := .cleanPlayerInfo guid) trivial hs
  | authFailed guid body r =>
      rw [← Option.some.inj hs]
      exact (h.writeDirect guid body r).onGate (a := .drop guid false) trivial
  | notice k =>
      obtain ⟨n, _, rfl⟩ := Option.map_eq_some_iff.mp hs
      have hless : Steady { s with notices := s.notices.eraseIdx k } := ⟨h.gate, h.nodup⟩
      exact hless.onGate (a := .drop n.guid false) trivial
  | output t p guid body r =>
      rw [← Option.some.inj hs]
      have hout := h.output p guid body r
      show Steady (if (handleOutputPackage s p guid body r).2 = 1 then _ else _)
      split
      · exact hout.insertWobble t guid
      · exact hout
  | wobbleStream t rs =>
      rw [← Option.some.inj hs]
      exact foldl_retry t rs _ (h.clear t)
  | close i => exact h.gateStep (a := .close i) trivial hs
  | expire i =>
      obtain ⟨g', hg', rfl⟩ := Option.map_eq_some_iff.mp hs
      exact ⟨Gate.step_inv (a := .expire i) h.gate trivial hg', h.nodup⟩

end Steady

/-! ## §5. Every run. -/

/-- What holds in every run: nothing is counted and nobody reported. -/
structure World.Quiet (w : World) : Prop where
  steady : Steady w.state
  untimed : Untimed w.state
  none : ∀ r ∈ w.rounds, ∀ e ∈ r.seen, e.queued = false

theorem World.Quiet.init : World.init.Quiet where
  steady := Steady.init
  untimed := ⟨fun _ => rfl, fun _ hn => absurd hn List.not_mem_nil⟩
  none _ hr := absurd hr List.not_mem_nil

namespace World

variable {w : World} {t : Nat} {rs : UInt64 → SendResult}

/-- What a round sees, from the state before it. -/
theorem Quiet.seen (h : w.Quiet) {e : Retried} (he : e ∈ w.seen t rs) :
    ∃ g ∈ w.state.wobbleGuid t, w.state.gate.roleMap g = some e.session ∧
      e.queued = false ∧ e.time = 0 ∧
      (e.unfinished = true ↔ LeftUnfinished (w.state.blocks e.session) (rs g)) :=
  mem_watchAll (s := { w.state with wobbleGuid := Function.update w.state.wobbleGuid t [] })
    h.untimed h.steady.gate (h.steady.nodup t) he

theorem Quiet.exists_seen (h : w.Quiet) {g : UInt64} (hg : g ∈ w.state.wobbleGuid t)
    {i : SessionId} (hi : w.state.gate.roleMap g = some i) :
    ∃ e ∈ w.seen t rs, e.session = i ∧
      (e.unfinished = true ↔ LeftUnfinished (w.state.blocks i) (rs g)) :=
  exists_mem_watchAll
    (s := { w.state with wobbleGuid := Function.update w.state.wobbleGuid t [] })
    h.untimed h.steady.gate (h.steady.nodup t) hg hi

/-- A session is counted when its output is left unfinished. -/
theorem counted_eq_limit_iff (i : SessionId) :
    w.counted t rs i = wobbleLimit ↔
      (∃ e ∈ w.seen t rs, e.session = i ∧ e.unfinished = true) ∧
        w.inRow t i + 1 = wobbleLimit := by
  have hany : ((w.seen t rs).any fun e => e.session = i ∧ e.unfinished) = true ↔
      ∃ e ∈ w.seen t rs, e.session = i ∧ e.unfinished = true := by
    rw [List.any_eq_true]
    simp only [decide_eq_true_eq]
  unfold counted
  split
  · next hseen => exact (and_iff_right (hany.mp hseen)).symm
  · next hseen =>
      constructor
      · intro hzero
        exact absurd hzero (by decide)
      · intro h
        exact absurd (hany.mpr h.1) hseen

/-- **A round is right** exactly if it leaves no session unfinished for the 30th time in a row. -/
theorem Quiet.right_iff (h : w.Quiet) :
    (Round.mk (w.seen t rs) (w.counted t rs)).Right ↔ w.NobodyDue (.wobbleStream t rs) := by
  constructor
  · intro hright g hg i hi hleft hdue
    obtain ⟨e, he, hsession, hunfinished⟩ :
        ∃ e ∈ w.seen t rs, e.session = i ∧
          (e.unfinished = true ↔ LeftUnfinished (w.state.blocks i) (rs g)) := h.exists_seen hg hi
    have hlimit : w.counted t rs e.session = wobbleLimit := by
      rw [hsession]
      exact (counted_eq_limit_iff i).mpr ⟨⟨e, he, hsession, hunfinished.mpr hleft⟩, hdue⟩
    -- it is due, and the code does not report it
    have hqueued : e.queued = true := ((hright e he).1).mpr hlimit
    obtain ⟨-, -, -, hnot, -⟩ := h.seen he
    exact absurd (hqueued.symm.trans hnot) (by decide)
  · intro hnobody e he
    obtain ⟨-, -, -, hnot, htime, -⟩ := h.seen he
    refine ⟨?_, fun _ => htime⟩
    rw [hnot]
    refine ⟨fun hfalse => absurd hfalse (by decide), fun hlimit => ?_⟩
    obtain ⟨⟨e', he', hsame, hunfinished⟩, hdue⟩ := (counted_eq_limit_iff e.session).mp hlimit
    obtain ⟨g, hg, hi, -, -, hleft⟩ := h.seen he'
    rw [hsame] at hi hleft
    exact absurd hdue (hnobody g hg e.session hi (hleft.mp hunfinished))

/-- Nobody is reported twice where nobody is reported. -/
theorem Quiet.kicked_iff_right (h : w.Quiet) : w.Kicked ↔ ∀ r ∈ w.rounds, r.Right := by
  refine ⟨fun hkicked => hkicked.right, fun hright => ⟨hright, fun i => ?_⟩⟩
  have hnone : (w.rounds.flatMap Round.seen).countP (fun e => e.session = i ∧ e.queued) = 0 := by
    rw [List.countP_eq_zero]
    intro e he
    obtain ⟨r, hr, her⟩ := List.mem_flatMap.mp he
    rw [h.none r hr e her]
    simp
  omega

/-- The log grows by what a round sees. -/
theorem rounds_record (w : World) (s : State) (a : Act) :
    (w.record s a).rounds = w.rounds ∧ (w.NobodyDue a ↔ True) ∨
      ∃ t rs, a = .wobbleStream t rs ∧
        (w.record s a).rounds = w.rounds ++ [⟨w.seen t rs, w.counted t rs⟩] := by
  cases a with
  | wobbleStream t rs => exact Or.inr ⟨t, rs, rfl, rfl⟩
  | _ => exact Or.inl ⟨rfl, Iff.rfl⟩

theorem record_state (w : World) (s : State) (a : Act) : (w.record s a).state = s := by
  cases a <;> rfl

/-- **Every step** is quiet. -/
theorem Quiet.step {size : Nat} {w' : World} {a : Act} (h : w.Quiet)
    (hs : (watchedSystem size).step w a = some w') : w'.Quiet := by
  obtain ⟨s, hst, rfl⟩ := Option.map_eq_some_iff.mp hs
  refine ⟨?_, ?_, ?_⟩
  · rw [record_state]
    exact h.steady.step hst
  · rw [record_state]
    exact step_untimed h.untimed hst
  · match w.rounds_record s a with
    | Or.inl ⟨hsame, _⟩ =>
        rw [hsame]
        exact h.none
    | Or.inr ⟨t, rs, _, hgrown⟩ =>
        rw [hgrown]
        intro r hr e he
        match List.mem_append.mp hr with
        | Or.inl hold => exact h.none r hold e he
        | Or.inr hnew =>
            rw [List.mem_singleton.mp hnew] at he
            obtain ⟨-, -, -, hnot, -⟩ := h.seen he
            exact hnot

/-- **A step** keeps the reports right exactly if nobody is due. -/
theorem Quiet.kicked_step {size : Nat} {w' : World} {a : Act} (h : w.Quiet)
    (hs : (watchedSystem size).step w a = some w') : w'.Kicked ↔ w.Kicked ∧ w.NobodyDue a := by
  rw [(h.step hs).kicked_iff_right, h.kicked_iff_right]
  obtain ⟨s, hst, rfl⟩ := Option.map_eq_some_iff.mp hs
  match w.rounds_record s a with
  | Or.inl ⟨hsame, hnobody⟩ => rw [hsame, hnobody, and_true]
  | Or.inr ⟨t, rs, ha, hgrown⟩ =>
      rw [hgrown, ha, List.forall_mem_append, List.forall_mem_singleton, h.right_iff]

end World

/-- **Clients are kicked when they are slow**, in every state of a run, if and only if no session
is left unfinished for the 30th round in a row. -/
theorem kicked_iff {size : Nat} {as : List Act} {w : World}
    (hrun : (watchedSystem size).run World.init as = some w) :
    w.Kicked ↔ (watchedSystem size).RunMeets World.NobodyDue World.init as := by
  have hinit : World.init.Kicked :=
    ⟨fun _ hr => absurd hr List.not_mem_nil, fun _ => Nat.zero_le _⟩
  have hiff := TransSys.run_iff_runMeets (I := World.Quiet) (P := World.Kicked)
    (fun _ _ _ h hs => h.step hs) (fun _ _ _ h hs => h.kicked_step hs) World.Quiet.init hrun
  rw [hiff]
  exact and_iff_right hinit

/-! ## §6. Short runs and long ones. -/

namespace World

/-- A round counts at most one more in a row. -/
theorem counted_le (w : World) (t : Nat) (rs : UInt64 → SendResult) (i : SessionId) :
    w.counted t rs i ≤ w.inRow t i + 1 := by
  unfold counted
  split
  · exact Nat.le_refl _
  · exact Nat.zero_le _

/-- No more rounds in a row than rounds. -/
def InRowLe (w : World) : Prop := ∀ t i, w.inRow t i ≤ w.rounds.length

theorem InRowLe.record {w : World} (h : w.InRowLe) (s : State) (a : Act) :
    (w.record s a).InRowLe ∧ (w.record s a).rounds.length ≤ w.rounds.length + 1 := by
  cases a with
  | wobbleStream t rs =>
      have hgrown : (w.record s (.wobbleStream t rs)).rounds.length = w.rounds.length + 1 :=
        List.length_append
      refine ⟨fun u i => ?_, Nat.le_of_eq hgrown⟩
      rw [hgrown]
      show Function.update w.inRow t (w.counted t rs) u i ≤ _
      by_cases hu : u = t
      · rw [hu, Function.update_self]
        exact Nat.le_trans (w.counted_le t rs i) (Nat.succ_le_succ (h t i))
      · rw [Function.update_of_ne hu]
        exact Nat.le_trans (h u i) (Nat.le_succ _)
  | _ => exact ⟨h, Nat.le_succ _⟩

/-- In fewer than 30 steps nobody becomes due. -/
theorem nobodyDue_of_few {size : Nat} {as : List Act} {w w' : World} (h : w.InRowLe)
    (hfew : w.rounds.length + as.length < wobbleLimit)
    (hrun : (watchedSystem size).run w as = some w') :
    (watchedSystem size).RunMeets NobodyDue w as := by
  induction as generalizing w with
  | nil => trivial
  | cons a as ih =>
      obtain ⟨m, hst, hrest⟩ := TransSys.run_cons_eq_some.mp hrun
      rw [List.length_cons] at hfew
      refine ⟨?_, m, hst, ?_⟩
      · cases a with
        | wobbleStream t rs =>
            intro g _ i _ _
            have hle := h t i
            omega
        | _ => trivial
      · obtain ⟨s, _, rfl⟩ := Option.map_eq_some_iff.mp hst
        obtain ⟨hle, hlength⟩ := h.record s a
        exact ih hle (by omega) hrest

end World

/-- A client that takes nothing for two rounds, and then everything. -/
def patientRun : List Act :=
  [.connect, .output 0 .other 1 10 (room 5), .wobbleStream 0 fun _ => ⟨-1, true⟩,
    .wobbleStream 0 fun _ => ⟨-1, true⟩, .wobbleStream 0 fun _ => room 9]

/-- A run in which a client is kicked. -/
theorem kicked_patientRun :
    ∃ w, (watchedSystem 8192).run World.init patientRun = some w ∧ w.Kicked := by
  obtain ⟨w, hw⟩ : ∃ w, (watchedSystem 8192).run World.init patientRun = some w := ⟨_, rfl⟩
  have hzero : World.init.InRowLe := fun _ _ => Nat.zero_le _
  exact ⟨w, hw, (kicked_iff hw).mpr (World.nobodyDue_of_few hzero (by decide) hw)⟩

/-- A client that takes nothing for 30 rounds. -/
def slowRun : List Act :=
  [.connect, .output 0 .other 1 10 (room 5)] ++
    List.replicate 30 (.wobbleStream 0 fun _ => ⟨-1, true⟩)

/-- Somebody was left unfinished for the 30th round in a row, and was not reported. -/
def World.missed (w : World) : Bool :=
  w.rounds.any fun r => r.seen.any fun e => !e.queued && r.inRow e.session = wobbleLimit

/-- A client that was missed is not. -/
theorem not_kicked_of_missed {w : World} (h : w.missed = true) : ¬ w.Kicked := by
  intro hkicked
  obtain ⟨r, hr, hround⟩ := List.any_eq_true.mp h
  obtain ⟨e, he, hmissed⟩ := List.any_eq_true.mp hround
  simp only [Bool.and_eq_true, Bool.not_eq_true', decide_eq_true_eq] at hmissed
  have hqueued := ((hkicked.right r hr e he).1).mpr hmissed.2
  rw [hmissed.1] at hqueued
  exact absurd hqueued (by decide)

/-- **The defect**: a client that takes nothing is never kicked. -/
theorem slow_not_kicked :
    ∃ w, (watchedSystem 8192).run World.init slowRun = some w ∧ ¬ w.Kicked := by
  have hmissed : ((watchedSystem 8192).run World.init slowRun).map World.missed = some true := by
    decide +kernel
  obtain ⟨w, hw, hw'⟩ := Option.map_eq_some_iff.mp hmissed
  exact ⟨w, hw, not_kicked_of_missed hw'⟩

end Steppingstone.Wobble
