/-
  Steppingstone.CrossServer.Deadlock — when the end of a session and a broadcast block each other.

  The thread that reports a closed session holds the table of the sessions and waits for the table
  of the online servers; a broadcast holds that and waits for the first.  No other order of the
  threads blocks them.
-/
import Steppingstone.CrossServer.Model
import Steppingstone.Lib.Progress

namespace Steppingstone.CrossServer

/-! ## §1. Waiting for each other. -/

/-- A session is being reported while a broadcast has servers left. -/
def State.Deadlocked (s : State) : Prop :=
  s.closing ≠ none ∧ ∃ packet server servers, s.broadcasting = some ⟨packet, server :: servers⟩

/-- Any step. -/
abbrev AnyStep : State → Action → Prop := fun _ _ => True

variable {s s' : State}

/-- What both threads and their tables are. -/
structure Held (s s' : State) : Prop where
  closing : s'.closing = s.closing
  broadcasting : s'.broadcasting = s.broadcasting
  sessionInfo : s'.sessionInfo = s.sessionInfo
  online : s'.online = s.online
  outputs : s'.outputs = s.outputs

theorem Held.refl (s : State) : Held s s := ⟨rfl, rfl, rfl, rfl, rfl⟩

/-- **A step of a deadlock** moves neither thread and changes no table. -/
theorem deadlocked_step (h : s.Deadlocked) {a : Action} (hst : step s a = some s') : Held s s' := by
  obtain ⟨hclosing, packet, server, servers, hcast⟩ := h
  have hpool : ¬ s.PoolFree := hclosing
  have honline : ¬ s.OnlineFree := fun hfree =>
    Option.some_ne_none _ (hcast.symm.trans hfree)
  cases a with
  | receive session m =>
      simp only [step] at hst
      split at hst
      · obtain rfl := Option.some.inj hst
        exact ⟨rfl, rfl, rfl, rfl, rfl⟩
      · cases hst
  | poolRegister =>
      simp only [step] at hst
      split at hst
      · split at hst
        · next hfree =>
            obtain rfl := Option.some.inj hst
            rw [poolRegister_of_not_takesPool fun htakes => hpool (hfree htakes)]
            exact ⟨rfl, rfl, rfl, rfl, rfl⟩
        · cases hst
      · cases hst
  | validate =>
      simp only [step] at hst
      split at hst
      · rw [if_neg hpool] at hst
        cases hst
      · cases hst
  | lineInput =>
      simp only [step] at hst
      split at hst
      · split at hst
        · next hfree =>
            obtain rfl := Option.some.inj hst
            exact ⟨rfl, rfl, rfl,
              crossServerInput_online fun htakes => honline (hfree htakes), rfl⟩
        · cases hst
      · cases hst
  | close session =>
      simp only [step] at hst
      rw [if_neg fun hfree => hpool hfree.1] at hst
      cases hst
  | reportClosed =>
      simp only [step] at hst
      split at hst
      · rw [if_neg honline] at hst
        cases hst
      · cases hst
  | broadcast packet =>
      simp only [step] at hst
      rw [if_neg honline] at hst
      cases hst
  | broadcastNext =>
      simp only [step] at hst
      split at hst
      · rw [if_neg hpool] at hst
        cases hst
      · cases hst
  | broadcastEnd =>
      simp only [step] at hst
      split at hst
      · next hnil =>
          rw [hcast] at hnil
          cases hnil
      · cases hst

/-- **For ever.** -/
theorem deadlocked_leads (h : s.Deadlocked) (hl : system.Leads AnyStep s s') : Held s s' := by
  refine hl.invariant (I := Held s) ?_ (.refl s)
  intro m a m' hm _ hst
  have hdead : m.Deadlocked := by
    unfold State.Deadlocked
    rw [hm.closing, hm.broadcasting]
    exact h
  obtain ⟨hc, hb, hi, ho, hq⟩ := deadlocked_step hdead hst
  exact ⟨hc.trans hm.closing, hb.trans hm.broadcasting, hi.trans hm.sessionInfo,
    ho.trans hm.online, hq.trans hm.outputs⟩

/-! ## §2. Otherwise both finish. -/

/-- A broadcast that has the table of the sessions to itself. -/
theorem leads_broadcast (hclosing : s.closing = none) {b : Broadcast}
    (hcast : s.broadcasting = some b) :
    ∃ s', system.Leads AnyStep s s' ∧ s'.closing = none ∧ s'.broadcasting = none := by
  obtain ⟨packet, servers⟩ := b
  induction servers generalizing s with
  | nil =>
      have hst : system.step s .broadcastEnd = some { s with broadcasting := none } := by
        show step s .broadcastEnd = _
        simp only [step, hcast]
      exact ⟨_, .one trivial hst, hclosing, rfl⟩
  | cons server servers ih =>
      let m : State :=
        { s with
          broadcasting := some { packet, servers }
          outputs := s.outputs ++ [(s.getSession server.platform server.lineId, packet)] }
      have hst : system.step s .broadcastNext = some m := by
        show step s .broadcastNext = some m
        simp only [step, hcast]
        exact if_pos hclosing
      obtain ⟨s', hlead, hend⟩ := ih (s := m) hclosing rfl
      exact ⟨s', .step trivial hst hlead, hend⟩

/-- The report of a session that has the online table to itself. -/
theorem leads_reportClosed (hcast : s.broadcasting = none) :
    ∃ s', system.Leads AnyStep s s' ∧ s'.closing = none ∧ s'.broadcasting = none := by
  cases hclosing : s.closing with
  | none => exact ⟨s, .refl s, hclosing, hcast⟩
  | some c =>
      have hst : system.step s .reportClosed = some
          { s.crossServerInput (.disconnect (some c.server)) with
            sessionInfo := s.sessionInfo.erase c.key
            validated := Function.update s.validated c.session false
            closing := none } := by
        show step s .reportClosed = _
        simp only [step, hclosing]
        exact if_pos hcast
      exact ⟨_, .one trivial hst, rfl, hcast⟩

theorem leads_finished (h : ¬ s.Deadlocked) :
    ∃ s', system.Leads AnyStep s s' ∧ s'.closing = none ∧ s'.broadcasting = none := by
  cases hcast : s.broadcasting with
  | none => exact leads_reportClosed hcast
  | some b =>
      obtain ⟨packet, servers⟩ := b
      cases servers with
      | nil =>
          -- the broadcast ends, and then the session is reported
          have hst : system.step s .broadcastEnd = some { s with broadcasting := none } := by
            show step s .broadcastEnd = _
            simp only [step, hcast]
          obtain ⟨s', hlead, hend⟩ := leads_reportClosed (s := { s with broadcasting := none }) rfl
          exact ⟨s', .step trivial hst hlead, hend⟩
      | cons server servers =>
          have hclosing : s.closing = none := by
            by_contra hne
            exact h ⟨hne, packet, server, servers, hcast⟩
          exact leads_broadcast hclosing hcast

/-- A line registers, a broadcast begins, and the session of the line is closed. -/
def deadlockRun : List Action :=
  [.receive 1 (.register (some ⟨['a'], ['1']⟩)), .poolRegister, .validate, .lineInput,
    .broadcast ⟨700, 0, []⟩, .close 1]

/-- **The two threads block each other** for ever exactly when the one reports a session while the
other broadcasts and has servers left; otherwise both can finish.  The state is reached. -/
theorem blocked_forever_iff :
    (∃ s, system.run {} deadlockRun = some s ∧ s.Deadlocked) ∧
      ∀ s : State, (∀ s', system.Leads AnyStep s s' → s'.closing ≠ none ∨ s'.broadcasting ≠ none) ↔
        s.Deadlocked := by
  constructor
  · refine ⟨_, rfl, Option.some_ne_none _, ?_⟩
    exact ⟨⟨700, 0, []⟩, ⟨['a'], ['1']⟩, [], rfl⟩
  · intro s
    constructor
    · intro hall
      by_contra hdead
      obtain ⟨s', hlead, hclosing, hcast⟩ := leads_finished hdead
      exact (hall s' hlead).elim (fun hne => hne hclosing) fun hne => hne hcast
    · intro hdead s' hlead
      left
      rw [(deadlocked_leads hdead hlead).closing]
      exact hdead.1

end Steppingstone.CrossServer
