/-
  Steppingstone.Player.Phase — the phases of a player's life cycle, and that
  runs whose steps are in order stay within them.

  A phase fixes every field of the scene but the history of the removals: what
  is outstanding, what is queued, what is in the pool and what the state entry
  says.  Each message or completion takes a phase to a phase, and one operation
  at a time is read off the phases.
-/
import Steppingstone.Player.LifeCycle

namespace Steppingstone.Player

/-! ## §1. Phases. -/

/-- Where a player of a scene stands. -/
inductive Phase
  /-- The player is not on this scene. -/
  | absent (left : Bool)
  /-- A load waits for `stage`; `offline` if the player has left again. -/
  | loading (offline queued : Bool) (stage : LoadStage) (pld : PlayerLoadingData)
  /-- Left while loading, and loaded: a flush is queued or sent. -/
  | offlineLoaded (sent coinGuid coin : Bool)
  /-- Left while loading, and the load failed. -/
  | offlineFailed (queued : Bool)
  | online (queued : Bool)
  /-- Left: a flush is queued or sent; `again` if the player has entered again. -/
  | leaving (again sent : Bool)
  /-- Jumping to another map: a flush is queued or sent. -/
  | jumping (sent : Bool)
  deriving Repr, DecidableEq

/-- A queued flush of a player that has left. -/
def queue (queued : Bool) : Option Bool := if queued then some false else none

/-- A queued flush, or none once it is sent. -/
def unsent (sent isUpdating : Bool) : Option Bool := if sent then none else some isUpdating

/-- A flush that was sent. -/
def sentFlush (sent isUpdating : Bool) : List Bool := if sent then [isUpdating] else []

namespace Phase

/-- The scene in a phase, with the history of its removals. -/
def scene (removals : List Removal) : Phase → Scene
  | .absent left => { left, removals }
  | .loading offline queued stage pld =>
      { playerState := some { playerState := if offline then .offline else .loadingEnterMap }
        needFlushPlayer := queue queued
        loadingData := some pld
        loads := [stage]
        left := offline
        removals }
  | .offlineLoaded sent coinGuid coin =>
      { playerState := some { playerState := .offline }
        needFlushPlayer := unsent sent false
        player := some { isFlushing := sent, coinGuid }
        coin
        flushes := sentFlush sent false
        left := true
        removals }
  | .offlineFailed queued =>
      { playerState := some { playerState := .offline }
        needFlushPlayer := queue queued
        left := true
        removals }
  | .online queued =>
      { playerState := some { playerState := .online }
        needFlushPlayer := queue queued
        player := some { coinGuid := true }
        coin := true
        removals }
  | .leaving again sent =>
      { playerState := some { playerState := .flushingLeaveMap }
        playerOnlineBeforeFinishFlushing := again
        needFlushPlayer := unsent sent false
        player := some { isFlushing := sent, coinGuid := true }
        coin := true
        flushes := sentFlush sent false
        left := !again
        removals }
  | .jumping sent =>
      { playerState :=
          some { playerState := .flushingLeaveMapWithJump, transferInfo := true }
        needFlushPlayer := unsent sent true
        player := some { isFlushing := sent, coinGuid := true }
        flushes := sentFlush sent true
        removals }

/-- What the loading data hold when a load waits for a stage. -/
def Fits : Phase → Prop
  | .loading _ _ .coin pld => pld.player = none
  | .loading _ _ .player pld => pld.player = none
  | .loading _ _ .role pld => ∃ coinGuid, pld.player = some coinGuid ∧ (coinGuid → pld.coin)
  | .loading _ _ .equipment pld =>
      ∃ coinGuid, pld.player = some coinGuid ∧ (coinGuid → pld.coin)
  | _ => True

end Phase

/-- The removals of players that had left followed a flush-type request. -/
def FlushedFirst (removals : List Removal) : Prop :=
  ∀ r ∈ removals, r.afterLeave → r.flush = some false

/-- The scene is in one of the phases. -/
def InPhase (s : Scene) : Prop :=
  ∃ (ph : Phase) (removals : List Removal),
    s = ph.scene removals ∧ ph.Fits ∧ FlushedFirst removals

/-- A scene that a phase describes is in it. -/
theorem inPhase_of_eq {s : Scene} (ph : Phase) (removals : List Removal)
    (hs : s = ph.scene removals) (hfit : ph.Fits) (hrem : FlushedFirst removals) : InPhase s :=
  ⟨ph, removals, hs, hfit, hrem⟩

/-- A removal after a flush. -/
theorem flushedFirst_cons {r : Removal} {removals : List Removal}
    (hr : r.afterLeave → r.flush = some false) (h : FlushedFirst removals) :
    FlushedFirst (r :: removals) := by
  intro r' hr'
  rcases List.mem_cons.mp hr' with rfl | hmem
  · exact hr
  · exact h r' hmem

/-! ## §2. Every message and completion keeps the phases. -/

variable {ph : Phase} {removals : List Removal}

/-- Entering leads from phase to phase. -/
theorem enterWorld_inPhase (hfit : ph.Fits) (hrem : FlushedFirst removals)
    (entered : Bool) (hord : (ph.scene removals).InOrder (.enterWorld entered)) :
    InPhase ((ph.scene removals).enterWorld entered) := by
  have hload : ∀ queued, (Phase.loading false queued
      (if entered then .coin else .player) {}).Fits := by
    intro queued
    cases entered <;> rfl
  cases ph with
  | absent left => exact inPhase_of_eq (.loading false false _ {}) removals rfl (hload _) hrem
  | loading offline queued stage pld =>
      cases offline with
      | false => exact inPhase_of_eq (.loading false queued stage pld) removals rfl hfit hrem
      | true =>
          refine inPhase_of_eq (.loading false queued stage pld) removals ?_
            (by cases stage <;> exact hfit) hrem
          rfl
  | offlineLoaded sent coinGuid coin =>
      -- the entities are still in the pool
      exact absurd (hord rfl) (by simp [Phase.scene])
  | offlineFailed queued =>
      exact inPhase_of_eq (.loading false queued _ {}) removals rfl (hload _) hrem
  | online queued => exact inPhase_of_eq (.online queued) removals rfl trivial hrem
  | leaving again sent =>
      cases again <;> exact inPhase_of_eq (.leaving true sent) removals rfl trivial hrem
  | jumping sent => exact inPhase_of_eq (.jumping sent) removals rfl trivial hrem

/-- So does leaving. -/
theorem leaveWorld_inPhase (hfit : ph.Fits) (hrem : FlushedFirst removals)
    (hord : ¬ (ph.scene removals).stateIs .flushingLeaveMapWithJump) :
    InPhase (ph.scene removals).leaveWorld := by
  cases ph with
  | absent left => exact inPhase_of_eq (.absent left) removals rfl trivial hrem
  | loading offline queued stage pld =>
      cases offline <;>
        exact inPhase_of_eq (.loading true queued stage pld) removals rfl
          (by cases stage <;> exact hfit) hrem
  | offlineLoaded sent coinGuid coin =>
      exact inPhase_of_eq (.offlineLoaded sent coinGuid coin) removals rfl trivial hrem
  | offlineFailed queued =>
      exact inPhase_of_eq (.offlineFailed queued) removals rfl trivial hrem
  | online queued => exact inPhase_of_eq (.leaving false false) removals rfl trivial hrem
  | leaving again sent =>
      cases again <;> exact inPhase_of_eq (.leaving false sent) removals rfl trivial hrem
  | jumping sent => exact absurd rfl hord

/-- So does logging off. -/
theorem innerRequestLogoff_inPhase (hfit : ph.Fits) (hrem : FlushedFirst removals)
    (sameMap : Bool) (hord : (ph.scene removals).InOrder (.innerRequestLogoff sameMap)) :
    InPhase ((ph.scene removals).innerRequestLogoff sameMap) := by
  unfold Scene.innerRequestLogoff
  cases sameMap with
  | true => exact ⟨ph, removals, rfl, hfit, hrem⟩
  | false =>
      have hcond := hord rfl
      rcases hget : (ph.scene removals).getPlayer with _ | player
      · rw [hget] at hcond
        have hnone : (ph.scene removals).playerState = none := hcond
        simp only [Bool.false_eq_true, if_false, hnone]
        exact ⟨ph, removals, rfl, hfit, hrem⟩
      · rw [hget] at hcond
        exact leaveWorld_inPhase hfit hrem hcond

/-- So does jumping to another map. -/
theorem jumpMap_inPhase (hfit : ph.Fits) (hrem : FlushedFirst removals)
    (allowed : Bool) (hord : (ph.scene removals).InOrder (.jumpMap allowed)) :
    InPhase ((ph.scene removals).jumpMap allowed) := by
  cases allowed with
  | false =>
      have hsame : (ph.scene removals).jumpMap false = ph.scene removals := by
        unfold Scene.jumpMap
        split <;> rfl
      exact ⟨ph, removals, hsame, hfit, hrem⟩
  | true =>
      have hcond := hord rfl
      cases ph with
      | absent left => exact inPhase_of_eq (.absent left) removals rfl trivial hrem
      | loading offline queued stage pld =>
          exact inPhase_of_eq (.loading offline queued stage pld) removals rfl hfit hrem
      | offlineLoaded sent coinGuid coin =>
          cases sent with
          | false => exact absurd rfl (hcond rfl).2
          | true => exact inPhase_of_eq (.offlineLoaded true coinGuid coin) removals rfl trivial hrem
      | offlineFailed queued =>
          exact inPhase_of_eq (.offlineFailed queued) removals rfl trivial hrem
      | online queued => exact inPhase_of_eq (.jumping false) removals rfl trivial hrem
      | leaving again sent =>
          cases sent with
          | false => exact absurd rfl (hcond rfl).1
          | true => exact inPhase_of_eq (.leaving again true) removals rfl trivial hrem
      | jumping sent =>
          -- the coin is gone already, so no second transfer object is made
          cases sent <;> exact inPhase_of_eq (.jumping _) removals rfl trivial hrem

theorem arrive_inPhase (hrem : FlushedFirst removals)
    (hord : (ph.scene removals).InOrder .arrive) : InPhase (ph.scene removals).arrive := by
  cases ph with
  | absent left => exact inPhase_of_eq (.online false) removals rfl trivial hrem
  | _ => exact absurd hord.1 (by simp [Phase.scene])

/-- So does a tick of the pool. -/
theorem updatePool_inPhase (hfit : ph.Fits) (hrem : FlushedFirst removals)
    (isLastUpdateFinish : Bool) :
    InPhase ((ph.scene removals).updatePool isLastUpdateFinish) := by
  cases isLastUpdateFinish with
  | false => exact ⟨ph, removals, rfl, hfit, hrem⟩
  | true =>
      cases ph with
      | absent left => exact inPhase_of_eq (.absent left) removals rfl trivial hrem
      | loading offline queued stage pld =>
          -- nothing is in the pool, so nothing is sent
          refine inPhase_of_eq (.loading offline false stage pld) removals ?_
            (by cases stage <;> exact hfit) hrem
          cases offline <;> cases queued <;> rfl
      | offlineLoaded sent coinGuid coin =>
          refine inPhase_of_eq (.offlineLoaded true coinGuid coin) removals ?_ trivial hrem
          cases sent <;> rfl
      | offlineFailed queued =>
          refine inPhase_of_eq (.offlineFailed false) removals ?_ trivial hrem
          cases queued <;> rfl
      | online queued =>
          refine inPhase_of_eq (.online false) removals ?_ trivial hrem
          cases queued <;> rfl
      | leaving again sent =>
          refine inPhase_of_eq (.leaving again true) removals ?_ trivial hrem
          cases sent <;> rfl
      | jumping sent =>
          refine inPhase_of_eq (.jumping true) removals ?_ trivial hrem
          cases sent <;> rfl

/-! ## §3. Completions. -/

theorem playerFlushDataFinish_inPhase (hrem : FlushedFirst removals) {i : Nat}
    {isUpdating : Bool} (hi : (ph.scene removals).flushes[i]? = some isUpdating)
    (entered : Bool) :
    InPhase (Scene.playerFlushDataFinish
      { ph.scene removals with flushes := (ph.scene removals).flushes.eraseIdx i }
      isUpdating entered) := by
  have hload : (Phase.loading false false (if entered then .coin else .player) {}).Fits := by
    cases entered <;> rfl
  -- the one flush that is outstanding is answered
  have hone : ∀ {sent kind : Bool}, (sentFlush sent kind)[i]? = some isUpdating →
      sent = true ∧ i = 0 ∧ isUpdating = kind := by
    intro sent kind h
    cases sent with
    | false => exact absurd h (by simp [sentFlush])
    | true =>
        cases i with
        | zero => exact ⟨rfl, rfl, (by simpa [sentFlush] using h.symm)⟩
        | succ i => exact absurd h (by simp [sentFlush])
  cases ph with
  | offlineLoaded sent coinGuid coin =>
      obtain ⟨rfl, rfl, rfl⟩ := hone hi
      refine inPhase_of_eq (.absent true) ({ afterLeave := true, flush := some false } :: removals)
        ?_ trivial (flushedFirst_cons (fun _ => rfl) hrem)
      cases coin <;> rfl
  | leaving again sent =>
      obtain ⟨rfl, rfl, rfl⟩ := hone hi
      cases again with
      | false =>
          exact inPhase_of_eq (.absent true) ({ afterLeave := true, flush := some false } :: removals)
            rfl trivial (flushedFirst_cons (fun _ => rfl) hrem)
      | true => exact inPhase_of_eq (.loading false false _ {}) removals rfl hload hrem
  | jumping sent =>
      obtain ⟨rfl, rfl, rfl⟩ := hone hi
      exact inPhase_of_eq (.absent false) ({ afterLeave := false, flush := some true } :: removals)
        rfl trivial (flushedFirst_cons (fun h => absurd h (by decide)) hrem)
  | _ => exact absurd hi (by simp [Phase.scene])

/-- A load that has failed. -/
theorem playerLoadFailed_inPhase (hrem : FlushedFirst removals) (offline queued : Bool)
    (stage : LoadStage) (pld : PlayerLoadingData) :
    InPhase (Scene.playerLoadFailed
      { (Phase.loading offline queued stage pld).scene removals with loads := [] }) := by
  cases offline with
  | false =>
      exact inPhase_of_eq (.absent false) ({ afterLeave := false, flush := none } :: removals) rfl
        trivial (flushedFirst_cons (fun h => absurd h (by decide)) hrem)
  | true => exact inPhase_of_eq (.offlineFailed true) removals rfl trivial hrem

/-- A load that has succeeded, with the player and the coin it refers to. -/
theorem playerLoadSuccess_inPhase (hrem : FlushedFirst removals) (offline queued : Bool)
    (stage : LoadStage) (coin coinGuid : Bool) (hcoin : coinGuid → coin)  :
    InPhase (Scene.playerLoadSuccess
      { (Phase.loading offline queued stage { coin, player := some coinGuid }).scene removals with
        loads := [] }) := by
  cases offline with
  | true =>
      exact inPhase_of_eq (.offlineLoaded false coinGuid coin) removals rfl trivial hrem
  | false =>
      refine inPhase_of_eq (.online queued) removals ?_ trivial hrem
      cases coinGuid with
      | false => rfl
      | true =>
          obtain rfl : coin = true := hcoin rfl
          rfl

/-- So does the reply to a load. -/
theorem loadReply_inPhase (hfit : ph.Fits) (hrem : FlushedFirst removals) {i : Nat}
    {stage : LoadStage} (hi : (ph.scene removals).loads[i]? = some stage)
    (success empty coinGuid : Bool)
    (hord : (ph.scene removals).InOrder (.loadReply i success empty coinGuid)) :
    InPhase ((ph.scene removals).loadReply i stage success empty coinGuid) := by
  cases ph with
  | loading offline queued stage' pld =>
      -- the one load that is outstanding is answered
      obtain ⟨rfl, rfl⟩ : i = 0 ∧ stage' = stage := by
        cases i with
        | zero => exact ⟨rfl, by simpa [Phase.scene] using hi⟩
        | succ i => exact absurd hi (by simp [Phase.scene])
      obtain ⟨coin, player⟩ := pld
      cases success with
      | false =>
          cases stage' with
          | coin =>
              exact inPhase_of_eq (.loading offline queued .player { coin := true, player }) removals
                rfl hfit hrem
          | player => exact playerLoadFailed_inPhase hrem offline queued .player _
          | role => exact playerLoadFailed_inPhase hrem offline queued .role _
          | equipment => exact playerLoadFailed_inPhase hrem offline queued .equipment _
      | true =>
          cases stage' with
          | coin =>
              exact inPhase_of_eq (.loading offline queued .player { coin := true, player }) removals
                rfl hfit hrem
          | player =>
              obtain rfl : player = none := hfit
              have hcoin : coinGuid → coin := by
                intro h
                simpa [Phase.scene] using hord rfl rfl h
              cases empty with
              | true => exact playerLoadSuccess_inPhase hrem offline queued .player coin coinGuid hcoin
              | false =>
                  exact inPhase_of_eq
                    (.loading offline queued .role { coin, player := some coinGuid }) removals rfl
                    ⟨coinGuid, rfl, hcoin⟩ hrem
          | role =>
              obtain ⟨coinGuid, hplayer, hcoin⟩ := hfit
              obtain rfl : player = some coinGuid := hplayer
              cases empty with
              | true => exact playerLoadSuccess_inPhase hrem offline queued .role coin coinGuid hcoin
              | false =>
                  exact inPhase_of_eq
                    (.loading offline queued .equipment { coin, player := some coinGuid }) removals
                    rfl ⟨coinGuid, rfl, hcoin⟩ hrem
          | equipment =>
              obtain ⟨coinGuid, hplayer, hcoin⟩ := hfit
              obtain rfl : player = some coinGuid := hplayer
              exact playerLoadSuccess_inPhase hrem offline queued .equipment coin coinGuid hcoin
  | _ => exact absurd hi (by simp [Phase.scene])

/-! ## §4. One operation at a time. -/

/-- **Step lemma**: a step that is in order takes a phase to a phase. -/
theorem step_inPhase {s s' : Scene} {a : LifeAction} (h : InPhase s) (hord : s.InOrder a)
    (hst : s.step a = some s') : InPhase s' := by
  obtain ⟨ph, removals, rfl, hfit, hrem⟩ := h
  cases a with
  | enterWorld entered =>
      obtain rfl := Option.some.inj hst
      exact enterWorld_inPhase hfit hrem entered hord
  | leaveWorld =>
      obtain rfl := Option.some.inj hst
      exact leaveWorld_inPhase hfit hrem hord
  | innerRequestLogoff sameMap =>
      obtain rfl := Option.some.inj hst
      exact innerRequestLogoff_inPhase hfit hrem sameMap hord
  | jumpMap allowed =>
      obtain rfl := Option.some.inj hst
      exact jumpMap_inPhase hfit hrem allowed hord
  | arrive =>
      obtain rfl := Option.some.inj hst
      exact arrive_inPhase hrem hord
  | loadReply i success empty coinGuid =>
      obtain ⟨stage, hi, rfl⟩ := Option.map_eq_some_iff.mp hst
      exact loadReply_inPhase hfit hrem hi success empty coinGuid hord
  | flushReply i success entered =>
      obtain ⟨isUpdating, hi, rfl⟩ := Option.map_eq_some_iff.mp hst
      exact playerFlushDataFinish_inPhase hrem hi entered
  | updatePool isLastUpdateFinish =>
      obtain rfl := Option.some.inj hst
      exact updatePool_inPhase hfit hrem isLastUpdateFinish

/-- In every phase one operation at most is under way. -/
theorem lifeCycle_of_inPhase {s : Scene} (h : InPhase s) : LifeCycle s := by
  obtain ⟨ph, removals, rfl, hfit, hrem⟩ := h
  refine ⟨?_, ?_, ?_, ?_⟩
  · cases ph with
    | offlineLoaded sent coinGuid coin => cases sent <;> simp [Phase.scene, sentFlush]
    | leaving again sent => cases sent <;> simp [Phase.scene, sentFlush]
    | jumping sent => cases sent <;> simp [Phase.scene, sentFlush]
    | _ => simp [Phase.scene]
  · cases ph <;> rfl
  · intro hloads hflushes hqueue
    cases ph with
    | absent left => exact ⟨rfl, rfl⟩
    | loading offline queued stage pld => exact absurd hloads (by simp [Phase.scene])
    | offlineLoaded sent coinGuid coin =>
        -- either the flush is queued or it is outstanding
        cases sent with
        | false => exact absurd hqueue (by simp [Phase.scene, unsent])
        | true => exact absurd hflushes (by simp [Phase.scene, sentFlush])
    | offlineFailed queued => exact ⟨rfl, rfl⟩
    | online queued => exact ⟨rfl, rfl⟩
    | leaving again sent =>
        cases sent with
        | false => exact absurd hqueue (by simp [Phase.scene, unsent])
        | true => exact absurd hflushes (by simp [Phase.scene, sentFlush])
    | jumping sent =>
        cases sent with
        | false => exact absurd hqueue (by simp [Phase.scene, unsent])
        | true => exact absurd hflushes (by simp [Phase.scene, sentFlush])
  · have hsame : (ph.scene removals).removals = removals := by
      cases ph <;> rfl
    rw [hsame]
    exact hrem

/-- **One operation at a time** in every state of every run of in-order steps. -/
theorem reachable_lifeCycle {s : Scene} (hs : lifeSystem.ReachableWhen Scene.InOrder s) :
    LifeCycle s := by
  have hphase : InPhase s := by
    refine hs.invariant (I := InPhase) ?_ ?_
    · intro s h0
      obtain rfl := h0
      exact inPhase_of_eq (.absent false) [] rfl trivial (by intro r hr; cases hr)
    · intro s a s' h hord hst
      exact step_inPhase h hord hst
  exact lifeCycle_of_inPhase hphase

/-- The replies of a complete load of a player with a coin. -/
def loadReplies : List LifeAction :=
  [.loadReply 0 true false true, .loadReply 0 true false true, .loadReply 0 true false true,
    .loadReply 0 true false true]

/-- A player enters, leaves, enters again during the flush, and is loaded again. -/
theorem reachable_lifeCycle_again :
    ∃ s, lifeSystem.run {} (.enterWorld true :: loadReplies ++
        [.leaveWorld, .updatePool true, .enterWorld true, .flushReply 0 true true] ++
        loadReplies) = some s ∧ s.stateIs .online ∧ LifeCycle s := by
  have hrun : (lifeSystem.run {} (.enterWorld true :: loadReplies ++
      [.leaveWorld, .updatePool true, .enterWorld true, .flushReply 0 true true] ++
      loadReplies)).map (fun s => s.stateIs .online) = some true := by
    decide +kernel
  obtain ⟨s, hs, honline⟩ := Option.map_eq_some_iff.mp hrun
  exact ⟨s, hs, honline, reachable_lifeCycle
    (TransSys.reachableWhen_of_run rfl (by decide +kernel) hs)⟩

/-- **The defect**: a player leaves while it is loaded and enters again before
the flush is sent; the state says nothing of the entities in the pool, so it is
loaded again, and the tick flushes it meanwhile. -/
theorem enter_during_flush_overlaps : ¬ ∀ s, lifeSystem.Reachable s → LifeCycle s := by
  intro hall
  have hrun : (lifeSystem.run {} ([.enterWorld true, .leaveWorld] ++ loadReplies ++
      [.enterWorld true, .updatePool true])).map (fun s => (s.loads, s.flushes))
      = some ([.coin], [false]) := by
    decide +kernel
  obtain ⟨s, hs, hout⟩ := Option.map_eq_some_iff.mp hrun
  have hone := (hall s (TransSys.reachable_of_run rfl hs)).one
  obtain ⟨hloads, hflushes⟩ := Prod.mk.inj hout
  rw [hloads, hflushes] at hone
  exact absurd hone (by decide)

-- a log-off during the flush removes the entry that its completion needs
example : (lifeSystem.run {} (.enterWorld true :: loadReplies ++
    [.leaveWorld, .updatePool true, .innerRequestLogoff false, .flushReply 0 true true])).map
      (fun s => (s.orphaned, s.player.isSome)) = some (true, true) := by
  decide +kernel

-- a leave during a jump removes the player after an update-type request
example : (lifeSystem.run {} (.enterWorld true :: loadReplies ++
    [.jumpMap true, .updatePool true, .leaveWorld, .flushReply 0 true true])).map (·.removals)
      = some [{ afterLeave := true, flush := some true }] := by
  decide +kernel

end Steppingstone.Player
