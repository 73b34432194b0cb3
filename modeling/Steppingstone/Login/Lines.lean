/-
  Steppingstone.Login.Lines — the line numbers of the gate's sessions.

  The line of a session is written when it is validated and when its role enters a map
  (`clientEnterMap`), and nowhere else; a session is closed by the cooler only.
-/
import Steppingstone.Gate.Model

namespace Steppingstone.Login

open Gate (GateState SessionId ClientSession EnterJob EnterStage AccountRoleInfo)

/-! ## §1. The parts of a step. -/

/-- Sessions come and go nowhere between two states, keep their lines, and none is closed. -/
structure SameLines (g g' : GateState) : Prop where
  lines : ∀ i, (g'.sessions i).map (·.lineNo) = (g.sessions i).map (·.lineNo)
  cleaned : g'.cleaned = g.cleaned
  next : g'.next = g.next

theorem SameLines.refl (g : GateState) : SameLines g g := ⟨fun _ => rfl, rfl, rfl⟩

theorem SameLines.trans {g g' g'' : GateState} (h : SameLines g g') (h' : SameLines g' g'') :
    SameLines g g'' :=
  ⟨fun i => (h'.lines i).trans (h.lines i), h'.cleaned.trans h.cleaned, h'.next.trans h.next⟩

/-- The session that is changed. -/
theorem sessions_modify_self (g : GateState) (i : SessionId) (f : ClientSession → ClientSession) :
    (g.modify i f).sessions i = (g.sessions i).map f := Function.update_self ..

/-- The others are not. -/
theorem sessions_modify_of_ne (g : GateState) {i k : SessionId} (hk : k ≠ i)
    (f : ClientSession → ClientSession) : (g.modify i f).sessions k = g.sessions k :=
  Function.update_of_ne hk ..

/-- A change of one session that keeps its line. -/
theorem sameLines_modify (g : GateState) (i : SessionId) {f : ClientSession → ClientSession}
    (hf : ∀ cs, (f cs).lineNo = cs.lineNo) : SameLines g (g.modify i f) := by
  refine ⟨?_, rfl, rfl⟩
  intro j
  by_cases hj : j = i
  · rw [hj, sessions_modify_self, Option.map_map]
    exact congrArg (fun k => (g.sessions i).map k) (funext hf)
  · rw [sessions_modify_of_ne g hj]

/-- Putting a session into the cooler changes no line. -/
theorem sameLines_putClientSession (g : GateState) (i : SessionId) :
    SameLines g (g.putClientSession i) := by
  unfold GateState.putClientSession
  split
  · exact .refl g
  · split
    · exact .refl g
    · have h := sameLines_modify g i (f := fun cs => { cs with inCooler := true }) fun _ => rfl
      exact ⟨h.lines, rfl, rfl⟩

theorem sameLines_eraseRole (g : GateState) (guid : UInt64) : SameLines g (g.eraseRole guid) :=
  ⟨fun _ => rfl, rfl, rfl⟩

/-- A role that a session takes changes no line. -/
theorem sameLines_collectRoleClientSession (g : GateState) (guid : UInt64) (i : SessionId) :
    SameLines g (Gate.collectRoleClientSession g guid i) := by
  have h := sameLines_modify g i (f := fun cs => { cs with roleGuid := guid }) fun _ => rfl
  unfold Gate.collectRoleClientSession
  dsimp only
  split
  · next o _ =>
      -- the session that was there is marked, put in the cooler and taken off the map
      have hmark := sameLines_modify (g.modify i fun cs => { cs with roleGuid := guid }) o
        (f := fun cs => { cs with loginAgain := true }) fun _ => rfl
      have hput := h.trans (hmark.trans (sameLines_putClientSession _ o))
      exact ⟨hput.lines, hput.cleaned, hput.next⟩
  · exact ⟨h.lines, rfl, rfl⟩

theorem sameLines_removeRoleClientSession (g : GateState) (guid : UInt64) (i : SessionId) :
    SameLines g (Gate.removeRoleClientSession g guid i) := by
  unfold Gate.removeRoleClientSession
  split
  · exact sameLines_eraseRole g guid
  · exact .refl g

/-- A log-off changes no line. -/
theorem sameLines_logoff (g : GateState) (guid : UInt64) (i : SessionId) :
    SameLines g (Gate.logoff g guid i) := by
  unfold Gate.logoff
  dsimp only
  have h := sameLines_modify ((g.eraseRole guid).send
    (.leaveMap guid (((g.sessions i).map (·.roleLocation)).getD 0) 0)) i
    (f := fun cs => { cs with leftGame := true }) fun _ => rfl
  have hput := h.trans (sameLines_putClientSession _ i)
  exact ⟨hput.lines, hput.cleaned, hput.next⟩

theorem sameLines_cleanRoleInfo (g : GateState) (guid : UInt64) :
    SameLines g (Gate.cleanRoleInfo g guid) := by
  unfold Gate.cleanRoleInfo
  split
  · exact sameLines_logoff g guid _
  · exact .refl g

theorem sameLines_cleanRoleAndLogoff (g : GateState) (guid : UInt64) :
    SameLines g (Gate.cleanRoleAndLogoff g guid) := by
  unfold Gate.cleanRoleAndLogoff
  split
  · next i _ =>
      have h := sameLines_logoff g guid i
      exact ⟨h.lines, h.cleaned, h.next⟩
  · exact .refl g

/-- A change of route changes no line. -/
theorem sameLines_changeClientRoute (g : GateState) (i : SessionId) (temp role : UInt64) :
    SameLines g (Gate.changeClientRoute g i temp role) := by
  have h := sameLines_modify g i (f := fun cs => { cs with roleGuid := role }) fun _ => rfl
  unfold Gate.changeClientRoute
  dsimp only
  split
  · next o _ =>
      have hput := (sameLines_putClientSession ({ ((g.modify i fun cs =>
        { cs with roleGuid := role }).eraseRole temp) with
          lastEntered := Function.update ((g.modify i fun cs =>
            { cs with roleGuid := role }).eraseRole temp).lastEntered role (some i) }) o)
      exact ⟨fun j => (hput.lines j).trans (h.lines j), hput.cleaned, hput.next⟩
  · exact ⟨h.lines, rfl, rfl⟩

/-- A closed session changes no line. -/
theorem sameLines_handleClose (g : GateState) (i : SessionId) (cs : ClientSession) :
    SameLines g (Gate.handleClose g i cs) := by
  unfold Gate.handleClose
  split
  · dsimp only
    split
    · have h := sameLines_removeRoleClientSession
        (g.send (.leaveMap (if cs.realRoleGuid ≠ 0 then cs.realRoleGuid else cs.roleGuid)
          cs.roleLocation 1)) cs.roleGuid i
      exact ⟨h.lines, h.cleaned, h.next⟩
    · exact sameLines_removeRoleClientSession g cs.roleGuid i
  · split
    · exact sameLines_removeRoleClientSession g cs.roleGuid i
    · exact .refl g

/-! ## §2. Steps. -/

/-- A job whose role is about to get its map and its line. -/
def routes (g : GateState) (j : Nat) (i : SessionId) (info : AccountRoleInfo) : Prop :=
  ∃ job temp, g.jobs[j]? = some job ∧ job.stage = .route i temp info

/-- The other stages of a job keep the lines. -/
theorem sameLines_advance (g : GateState) (job : EnterJob) (found : Bool)
    (hroute : ∀ i temp info, job.stage ≠ .route i temp info) :
    SameLines g (Gate.advance g job found).1 := by
  unfold Gate.advance
  cases hstage : job.stage with
  | clean => exact sameLines_cleanRoleAndLogoff g job.roleGuid
  | find =>
      dsimp only
      split
      · exact .refl g
      · split
        · exact .refl g
        · exact sameLines_putClientSession g _
  | route i temp info => exact absurd hstage (hroute i temp info)
  | enter i info =>
      dsimp only
      split
      · have h := sameLines_modify (g.send (.enterMap info.guid (Gate.makeMapGuid info.mapId)
          info.lineId)) i (f := fun cs => { cs with enteredGame := true }) fun _ => rfl
        exact ⟨h.lines, rfl, rfl⟩
      · split
        · next i' _ =>
            exact (sameLines_modify g i' (f := fun cs => { cs with notFoundGS := true })
              fun _ => rfl).trans (sameLines_putClientSession _ i')
        · exact .refl g

/-- The state after a job has moved on is that of `advance`, but for the jobs. -/
theorem step_advance {g g' : GateState} {j : Nat} {found : Bool}
    (h : Gate.step g (.advance j found) = some g') :
    ∃ job, g.jobs[j]? = some job ∧ g'.sessions = (Gate.advance g job found).1.sessions ∧
      g'.cleaned = (Gate.advance g job found).1.cleaned ∧
      g'.next = (Gate.advance g job found).1.next := by
  simp only [Gate.step] at h
  obtain ⟨job, hjob, heq⟩ := Option.map_eq_some_iff.mp h
  refine ⟨job, hjob, ?_⟩
  rw [← heq]
  cases Gate.advance g job found with
  | mk m stage =>
      cases stage with
      | none => exact ⟨rfl, rfl, rfl⟩
      | some stage => exact ⟨rfl, rfl, rfl⟩

/-- `clientEnterMap`: session `i` gets the line of its role. -/
theorem advance_route {g g' : GateState} {j : Nat} {found : Bool} {i : SessionId}
    {info : AccountRoleInfo} (hr : routes g j i info)
    (h : Gate.step g (.advance j found) = some g') :
    (∀ k, k ≠ i → (g'.sessions k).map (·.lineNo) = (g.sessions k).map (·.lineNo)) ∧
      (g'.sessions i).map (·.lineNo) = (g.sessions i).map (fun _ => info.lineId) ∧
      g'.cleaned = g.cleaned ∧ g'.next = g.next := by
  obtain ⟨job, temp, hjob, hstage⟩ := hr
  obtain ⟨job', hjob', hsessions, hcleaned, hnext⟩ := step_advance h
  obtain rfl : job = job' := Option.some.inj (hjob.symm.trans hjob')
  have hroute := sameLines_changeClientRoute g i temp job.roleGuid
  have hadv : (Gate.advance g job found).1 =
      (Gate.changeClientRoute g i temp job.roleGuid).modify i fun cs =>
        { cs with lineNo := info.lineId, roleLocation := Gate.makeMapGuid info.mapId } := by
    unfold Gate.advance
    rw [hstage]
  rw [hadv] at hsessions hcleaned hnext
  refine ⟨?_, ?_, hcleaned.trans hroute.cleaned, hnext.trans hroute.next⟩
  · intro k hk
    rw [hsessions, sessions_modify_of_ne _ hk]
    exact hroute.lines k
  · rw [hsessions, sessions_modify_self, Option.map_map]
    show Option.map (fun _ => info.lineId) _ = _
    -- the session is there after `changeClientRoute` when it was there before
    have hline := hroute.lines i
    cases hg : g.sessions i with
    | none =>
        rw [hg] at hline
        rw [Option.map_eq_none_iff.mp hline]
    | some cs =>
        rw [hg] at hline
        obtain ⟨cs', hcs', -⟩ := Option.map_eq_some_iff.mp hline
        rw [hcs']
        rfl

/-- The cooler gets to session `i`: it is closed now, or it was already. -/
theorem close_cases {g g' : GateState} {i : SessionId} (h : Gate.step g (.close i) = some g') :
    ∃ cs, g.sessions i = some cs ∧ g'.next = g.next ∧
      (∀ k, (g'.sessions k).map (·.lineNo) = (g.sessions k).map (·.lineNo)) ∧
      g'.cleaned = if i ∈ g.cleaned then g.cleaned else g.cleaned ++ [i] := by
  simp only [Gate.step] at h
  split at h
  · obtain ⟨cs, hcs, heq⟩ := Option.map_eq_some_iff.mp h
    refine ⟨cs, hcs, ?_⟩
    by_cases hin : i ∈ g.cleaned
    · rw [if_pos hin] at heq
      rw [if_pos hin, ← heq]
      exact ⟨rfl, fun _ => rfl, rfl⟩
    · rw [if_neg hin] at heq
      rw [if_neg hin, ← heq]
      have hclose := sameLines_handleClose ({ g with
        cooler := g.cooler.filter (· ≠ i)
        cleaned := g.cleaned ++ [i] }) i cs
      exact ⟨hclose.next, hclose.lines, hclose.cleaned⟩
  · cases h

/-- A closed session is deleted. -/
theorem expire_eq {g g' : GateState} {i : SessionId} (h : Gate.step g (.expire i) = some g') :
    i ∈ g.cleaned ∧ g' = { g with
      cleaned := g.cleaned.filter (· ≠ i)
      sessions := Function.update g.sessions i none } := by
  simp only [Gate.step] at h
  split at h
  · next hin => exact ⟨hin, (Option.some.inj h).symm⟩
  · cases h

/-- A client connects: its session is the next one, on line 0. -/
theorem connect_eq {g g' : GateState} (h : Gate.step g .connect = some g') :
    (∀ k, k ≠ g.next → (g'.sessions k).map (·.lineNo) = (g.sessions k).map (·.lineNo)) ∧
      g'.cleaned = g.cleaned ∧ g'.next = g.next + 1 := by
  simp only [Gate.step] at h
  rw [← Option.some.inj h]
  obtain ⟨hlines, hcleaned, hnext⟩ := sameLines_collectRoleClientSession ({ g with
    sessions := Function.update g.sessions g.next
      (some { roleGuid := ((g.tempGuid + 1) % 0xFFFFFFF).toUInt64 })
    next := g.next + 1
    tempGuid := (g.tempGuid + 1) % 0xFFFFFFF }) ((g.tempGuid + 1) % 0xFFFFFFF).toUInt64 (g.next + 1 - 1)
  refine ⟨?_, hcleaned, hnext⟩
  intro k hk
  rw [hlines k]
  show (Function.update g.sessions g.next (some _) k).map (·.lineNo) = _
  rw [Function.update_of_ne hk]

/-- **The other steps keep every line**, and close nothing. -/
theorem sameLines_step {g g' : GateState} {a : Gate.Act} (h : Gate.step g a = some g')
    (hconnect : a ≠ .connect) (hclose : ∀ i, a ≠ .close i) (hexpire : ∀ i, a ≠ .expire i)
    (hroute : ∀ j found i info, a = .advance j found → ¬ routes g j i info) : SameLines g g' := by
  cases a with
  | connect => exact absurd rfl hconnect
  | close i => exact absurd rfl (hclose i)
  | expire i => exact absurd rfl (hexpire i)
  | roleList guid info =>
      simp only [Gate.step] at h
      obtain ⟨i, -, heq⟩ := Option.map_eq_some_iff.mp h
      rw [← heq]
      apply sameLines_modify
      intro cs
      cases info with
      | none => rfl
      | some info =>
          -- the role is added to the list of the session, whose line stays
          show (ClientSession.playerLineInfo { cs with hasRoleList := true } info).lineNo = _
          unfold ClientSession.playerLineInfo
          split <;> rfl
  | enterMap guid role =>
      simp only [Gate.step] at h
      obtain ⟨cs, -, heq⟩ := Option.bind_eq_some_iff.mp h
      split at heq
      · rw [← Option.some.inj heq]
        exact ⟨fun _ => rfl, rfl, rfl⟩
      · rw [← Option.some.inj heq]
        exact .refl g
  | advance j found =>
      -- a job that does not route the session writes no line
      obtain ⟨job, hjob, hsessions, hcleaned, hnext⟩ := step_advance h
      have hadv := sameLines_advance g job found fun i temp info hstage =>
        hroute j found i info rfl ⟨job, temp, hjob, hstage⟩
      refine ⟨?_, hcleaned.trans hadv.cleaned, hnext.trans hadv.next⟩
      intro i
      rw [hsessions]
      exact hadv.lines i
  | jumpMap guid mapId found =>
      simp only [Gate.step] at h
      split at h
      · split at h
        · next i _ =>
            rw [← Option.some.inj h]
            have hmod := sameLines_modify (g.send (.jumpMap guid (Gate.makeMapGuid mapId))) i
              (f := fun cs => { cs with roleLocation := Gate.makeMapGuid mapId }) fun _ => rfl
            exact ⟨hmod.lines, rfl, rfl⟩
        · rw [← Option.some.inj h]
          exact ⟨fun _ => rfl, rfl, rfl⟩
      · rw [← Option.some.inj h]
        exact .refl g
  | drop guid notFound =>
      simp only [Gate.step] at h
      obtain ⟨i, -, heq⟩ := Option.map_eq_some_iff.mp h
      rw [← heq]
      exact (sameLines_modify g i (f := fun cs =>
        { cs with notFoundGS := cs.notFoundGS || notFound }) fun _ => rfl).trans
        (sameLines_putClientSession _ i)
  | dropSession i =>
      simp only [Gate.step] at h
      obtain ⟨cs, -, heq⟩ := Option.map_eq_some_iff.mp h
      rw [← heq]
      exact (sameLines_modify g i (f := fun cs => { cs with notFoundGS := true })
        fun _ => rfl).trans (sameLines_putClientSession _ i)
  | cleanPlayerInfo guid =>
      simp only [Gate.step] at h
      rw [← Option.some.inj h]
      exact sameLines_cleanRoleInfo g guid

end Steppingstone.Login
