/-
  Steppingstone.Terminal.Drain — the threads and the dispatcher never wait for each other.

  The dispatcher waits for one index, and a queue under another one does not help it; a list that
  was taken by a thread is only ever delivered by that thread; and a change of the routes holds a
  mutex that the dispatcher needs.  None of this can stop the packets: from every state the threads
  can go on until all of them have left.
-/
import Steppingstone.Lib.Progress
import Steppingstone.Terminal.Ordered

namespace Steppingstone.Terminal

/-! ## §1. Steps of the threads and the dispatcher. -/

/-- Nothing new arrives, and nobody asks for a change of the routes. -/
def Action.Inner : Action → Prop
  | .input _ => False
  | .register _ => False
  | .addRoute _ _ => False
  | _ => True

/-- What the lookups find does not matter. -/
abbrev Anything : Packet → Option TerminalPtr → Prop := fun _ _ => True

/-- An inner step, and a list is taken only while there are indexes left. -/
def Going (terminalVec : List TerminalPtr) (s : State) (a : Action) : Prop :=
  a.Inner ∧ Meets Anything terminalVec s a

variable {terminalVec : List TerminalPtr} {s s' : State}

theorem meets_anything_route (t : Thread) : Meets Anything terminalVec s (.route t) := by
  simp only [Meets]
  split <;> trivial

/-! ## §2. Who holds the mutex. -/

/-- A change that is under way has a table to reach, and the dispatcher waits only for such a
change. -/
structure Locked (s : State) : Prop where
  tables : ∀ c ts, s.changing = some (c, ts) → ts ≠ []
  removing : s.leaving = .removing → s.changing ≠ none

theorem locked_init : Locked {} where
  tables := fun _ _ h => absurd h (Option.some_ne_none _).symm
  removing := fun h => by cases h

theorem startChange_tables {c c' : RouteChange} {ts : List Thread}
    (h : s.startChange c = some (c', ts)) : ts ≠ [] := by
  unfold State.startChange at h
  split at h
  · cases h
  · next hne =>
      obtain ⟨-, rfl⟩ := Prod.mk.inj (Option.some.inj h)
      intro hnil
      exact hne (by rw [hnil]; rfl)

theorem locked_changeNext (hst : s.changeNext = some s') : Locked s' := by
  unfold State.changeNext at hst
  split at hst
  · next c t ts hc =>
      obtain rfl := Option.some.inj hst
      cases ts with
      | nil =>
          refine ⟨fun _ _ he => absurd he (Option.some_ne_none _).symm, ?_⟩
          intro he
          by_cases hl : s.leaving = .removing
          · simp [hl] at he
          · simp [hl] at he
      | cons t' ts =>
          refine ⟨?_, fun _ he => absurd he (Option.some_ne_none _)⟩
          intro c' ts' he
          obtain ⟨-, rfl⟩ := Prod.mk.inj (Option.some.inj he)
          exact List.cons_ne_nil _ _
  · cases hst

theorem locked_startRemove (hst : s.startRemove = some s') : Locked s' := by
  unfold State.startRemove at hst
  split at hst
  · next i rest hdisp =>
      split at hst
      · obtain rfl := Option.some.inj hst
        refine ⟨fun c ts he => startChange_tables he, ?_⟩
        intro he
        by_cases hreg : s.terminalRouteQue.isEmpty
        · simp [hreg] at he
        · simp [State.startChange, hreg]
      · cases hst
  · cases hst

theorem locked_step {a : Action} (h : Locked s) (hst : step terminalVec s a = some s') :
    Locked s' := by
  cases a with
  | input p =>
      obtain rfl := Option.some.inj hst
      exact ⟨h.tables, h.removing⟩
  | register t =>
      simp only [step] at hst
      split at hst
      · obtain rfl := Option.some.inj hst
        exact ⟨h.tables, h.removing⟩
      · cases hst
  | addRoute guid terminal =>
      simp only [step] at hst
      split at hst
      · next hfree =>
          obtain rfl := Option.some.inj hst
          exact ⟨fun c ts he => startChange_tables he, fun he => absurd hfree (h.removing he)⟩
      · cases hst
  | change => exact locked_changeNext hst
  | take t =>
      simp only [step, State.takeVec] at hst
      split at hst
      · obtain rfl := Option.some.inj hst
        exact ⟨h.tables, h.removing⟩
      · cases hst
  | route t =>
      simp only [step, State.routeNext] at hst
      split at hst
      · split at hst
        · obtain rfl := Option.some.inj hst
          exact ⟨h.tables, h.removing⟩
        · cases hst
      · cases hst
  | deliver t =>
      simp only [step, State.deliver] at hst
      split at hst
      · split at hst
        · obtain rfl := Option.some.inj hst
          exact ⟨h.tables, h.removing⟩
        · cases hst
      · cases hst
  | fetch =>
      simp only [step, State.fetch] at hst
      split at hst
      · split at hst
        · obtain rfl := Option.some.inj hst
          exact ⟨h.tables, h.removing⟩
        · cases hst
      · cases hst
  | removeRoute => exact locked_startRemove hst
  | output =>
      simp only [step, State.outputNext] at hst
      split at hst
      · split at hst
        · obtain rfl := Option.some.inj hst
          exact ⟨h.tables, fun he => by cases he⟩
        · cases hst
      · cases hst

/-! ## §3. Finishing what was begun. -/

variable (terminalVec)

/-- **A change** reaches its last table, and the dispatcher has its removal if it was its own. -/
theorem leads_unchanged (h : Locked s) :
    ∃ tables, (system terminalVec).Leads (Going terminalVec) s
      { s with
        changing := none
        terminalMap := tables
        leaving := if s.leaving = .removing then .removed else s.leaving } := by
  cases hc : s.changing with
  | none =>
      have hl : s.leaving ≠ .removing := fun he => h.removing he hc
      refine ⟨s.terminalMap, ?_⟩
      rw [if_neg hl, ← hc]
      exact .refl s
  | some ct =>
      obtain ⟨c, ts⟩ := ct
      induction ts generalizing s with
      | nil => exact absurd rfl (h.tables c [] hc)
      | cons t ts ih =>
          have hnext : s.changeNext = some
              { s with
                terminalMap := Function.update s.terminalMap t (c.apply (s.terminalMap t))
                changing := if ts.isEmpty then none else some (c, ts)
                leaving :=
                  if ts.isEmpty ∧ s.leaving = .removing then .removed else s.leaving } := by
            unfold State.changeNext
            rw [hc]
          have hst : (system terminalVec).step s .change = _ := hnext
          have hgo : Going terminalVec s .change := ⟨trivial, trivial⟩
          cases ts with
          | nil =>
              refine ⟨Function.update s.terminalMap t (c.apply (s.terminalMap t)),
                .step hgo hst ?_⟩
              simp only [List.isEmpty_nil, true_and, if_true]
              exact .refl _
          | cons t' ts =>
              obtain ⟨tables, hlead⟩ := ih (locked_changeNext hnext) rfl
              refine ⟨tables, .step hgo hst ?_⟩
              simpa using hlead

/-- The change of the routes is over when the packet in front is handed to its terminal. -/
theorem leads_output {i : PacketRouteInfo} {rest : List PacketRouteInfo}
    (hfree : s.changing = none) (hdisp : s.dispatching = i :: rest)
    (hl : i.packet.opcode = SMSG_PLAYER_LEAVE_MAP → s.leaving = .removed) :
    (system terminalVec).Leads (Going terminalVec) s
      { s with
        dispatching := rest
        leaving := .notYet
        changing := none
        dispatched := s.dispatched ++ [i] } := by
  have hnext : (system terminalVec).step s .output = some
      { s with dispatching := rest, leaving := .notYet, dispatched := s.dispatched ++ [i] } := by
    show s.outputNext = _
    unfold State.outputNext
    rw [hdisp]
    exact if_pos hl
  rw [← hfree]
  exact .one (a := .output) ⟨trivial, trivial⟩ hnext

/-- The dispatcher begins to remove the route of the player of the packet in front. -/
theorem startRemove_eq {i : PacketRouteInfo} {rest : List PacketRouteInfo}
    (hdisp : s.dispatching = i :: rest) (hop : i.packet.opcode = SMSG_PLAYER_LEAVE_MAP)
    (hl : s.leaving = .notYet) (hfree : s.changing = none) :
    s.startRemove = some
      { s with
        changing := s.startChange (.remove i.packet.guid)
        leaving := if s.terminalRouteQue.isEmpty then .removed else .removing } := by
  unfold State.startRemove
  rw [hdisp]
  exact if_pos ⟨hop, hl, hfree⟩

/-- The packet in front reaches its terminal. -/
theorem leads_dispatchOne (h : Locked s) {i : PacketRouteInfo} {rest : List PacketRouteInfo}
    (hdisp : s.dispatching = i :: rest) :
    ∃ tables, (system terminalVec).Leads (Going terminalVec) s
      { s with
        dispatching := rest
        leaving := .notYet
        changing := none
        terminalMap := tables
        dispatched := s.dispatched ++ [i] } := by
  obtain ⟨tables, hfree⟩ := leads_unchanged terminalVec h
  by_cases hl : i.packet.opcode = SMSG_PLAYER_LEAVE_MAP →
      (if s.leaving = .removing then Leaving.removed else s.leaving) = .removed
  · exact ⟨tables, hfree.trans (leads_output terminalVec rfl hdisp hl)⟩
  · -- the dispatcher removes the route of the player first
    obtain ⟨hop, hl⟩ := Classical.not_imp.mp hl
    have hnot : s.leaving = .notYet := by
      cases hcase : s.leaving with
      | notYet => rfl
      | removing => simp [hcase] at hl
      | removed => simp [hcase] at hl
    rw [hnot, if_neg (by decide)] at hfree
    let m : State :=
      { s with
        terminalMap := tables
        leaving := if s.terminalRouteQue.isEmpty then .removed else .removing
        changing := s.startChange (.remove i.packet.guid) }
    have hremove : State.startRemove
        { s with changing := none, terminalMap := tables, leaving := .notYet } = some m :=
      startRemove_eq hdisp hop rfl rfl
    obtain ⟨tables', hfree'⟩ := leads_unchanged terminalVec
      (s := m) (locked_startRemove hremove)
    have hremoved : (if m.leaving = .removing then Leaving.removed else m.leaving) = .removed := by
      by_cases hreg : s.terminalRouteQue.isEmpty
      · simp [m, hreg]
      · simp [m, hreg]
    have hgo : ∀ m, Going terminalVec m .removeRoute := fun _ => ⟨trivial, trivial⟩
    refine ⟨tables', hfree.trans (.step (hgo _) hremove (hfree'.trans ?_))⟩
    exact leads_output terminalVec rfl hdisp fun _ => hremoved

/-- **A queue** is handed on to its last packet. -/
theorem leads_dispatched (h : Locked s) :
    ∃ tables lv ch, (system terminalVec).Leads (Going terminalVec) s
      { s with
        dispatching := []
        leaving := lv
        changing := ch
        terminalMap := tables
        dispatched := s.dispatched ++ s.dispatching } := by
  induction hd : s.dispatching generalizing s with
  | nil =>
      refine ⟨s.terminalMap, s.leaving, s.changing, ?_⟩
      rw [List.append_nil, ← hd]
      exact .refl s
  | cons i rest ih =>
      obtain ⟨tables, hone⟩ := leads_dispatchOne terminalVec h hd
      have hlocked : Locked
          { s with
            dispatching := rest
            leaving := .notYet
            changing := none
            terminalMap := tables
            dispatched := s.dispatched ++ [i] } :=
        ⟨fun _ _ he => absurd he (Option.some_ne_none _).symm, fun he => by cases he⟩
      obtain ⟨tables', lv, ch, hrest⟩ := ih hlocked rfl
      refine ⟨tables', lv, ch, hone.trans ?_⟩
      simpa using hrest

/-- **A list** that was taken is delivered by its thread. -/
theorem leads_delivered {t : Thread} {k : UInt32} {w : Work} (hw : s.routing t = some (k, w)) :
    ∃ q, (system terminalVec).Leads (Going terminalVec) s
      { s with
        routing := Function.update s.routing t none
        packetRouteInfoMap := Tickets.insertNew s.packetRouteInfoMap k q } := by
  obtain ⟨packets, info⟩ := w
  induction packets generalizing s info with
  | nil =>
      refine ⟨info, .one (a := .deliver t) ⟨trivial, trivial⟩ ?_⟩
      show s.deliver t = _
      unfold State.deliver
      rw [hw]
      rfl
  | cons p rest ih =>
      let w' := (⟨p :: rest, info⟩ : Work).route
        (findTerminal terminalVec (s.terminalMap t) p) p rest
      let m : State := { s with routing := Function.update s.routing t (some (k, w')) }
      have hst : (system terminalVec).step s (.route t) = some m := by
        show s.routeNext terminalVec t = _
        unfold State.routeNext
        rw [hw]
      have hm : m.routing t = some (k, ⟨rest, w'.packetRouteInfo⟩) := Function.update_self ..
      obtain ⟨q, hq⟩ := ih _ hm
      refine ⟨q, .step (a := .route t) ⟨trivial, meets_anything_route t⟩ hst ?_⟩
      simpa [m] using hq

/-! ## §4. Everything leaves. -/

/-- What the steps of the threads and the dispatcher leave alone, but for taking the list. -/
structure Kept (s s' : State) : Prop where
  arrived : s'.arrived = s.arrived
  packetVec : s'.packetVec = s.packetVec
  registered : s'.terminalRouteQue = s.terminalRouteQue

theorem Kept.refl (s : State) : Kept s s := ⟨rfl, rfl, rfl⟩

/-- The invariants of a reachable state. -/
def Sound (s : State) : Prop := Ordered Anything s ∧ Locked s

variable {terminalVec} in
theorem Sound.leads (h : Sound s) (hl : (system terminalVec).Leads (Going terminalVec) s s') :
    Sound s' := by
  refine hl.invariant ?_ h
  intro m a m' hm hc hst
  exact ⟨ordered_step hm.1 hc.2 hst, locked_step hm.2 hst⟩

/-- The queue that is waited for comes, if its thread still has it. -/
theorem leads_waited (h : Sound s) (hout : s.fetched < s.taken) :
    ∃ m q, (system terminalVec).Leads (Going terminalVec) s m ∧ Kept s m ∧
      m.dispatching = [] ∧ m.packetRouteInfoMap m.packetRoutePos = some q ∧
      m.taken = s.taken ∧ m.fetched = s.fetched := by
  obtain ⟨tables, lv, ch, hdisp⟩ := leads_dispatched terminalVec h.2
  obtain ⟨jobs, htracks, -, htaken⟩ := h.1
  rcases htracks.next_is_held (htaken ▸ hout) with hback | ⟨t, w, hw⟩
  · obtain ⟨q, hq⟩ := Option.ne_none_iff_exists'.mp hback
    exact ⟨_, q, hdisp, ⟨rfl, rfl, rfl⟩, rfl, hq, rfl, rfl⟩
  · have hw' : s.routing t = some (s.packetRoutePos, w) := hw
    have hfree := (htracks.held _ _ _ hw).1
    have hfree' : s.packetRouteInfoMap s.packetRoutePos = none := hfree
    obtain ⟨q, hdel⟩ := leads_delivered terminalVec (s :=
      { s with
        dispatching := []
        leaving := lv
        changing := ch
        terminalMap := tables
        dispatched := s.dispatched ++ s.dispatching }) hw'
    refine ⟨_, q, hdisp.trans hdel, ⟨rfl, rfl, rfl⟩, rfl, ?_, rfl, rfl⟩
    show Tickets.insertNew s.packetRouteInfoMap s.packetRoutePos q s.packetRoutePos = some q
    unfold Tickets.insertNew
    rw [hfree']
    exact Function.update_self ..

/-- **All lists that were taken** reach the terminals. -/
theorem leads_fetched (h : Sound s) :
    ∃ s', (system terminalVec).Leads (Going terminalVec) s s' ∧ Kept s s' ∧
      s'.dispatching = [] ∧ s'.taken = s'.fetched := by
  -- by the number of lists that the dispatcher has not taken over
  have hmeasure := TransSys.leads_of_decreasing (M := system terminalVec) (C := Going terminalVec)
    (I := fun m => Sound m ∧ Kept s m) (fun m => m.taken - m.fetched) ?_ ⟨h, .refl s⟩
  · obtain ⟨m, hm, ⟨hsound, hkept⟩, hzero⟩ := hmeasure
    obtain ⟨tables, lv, ch, hdisp⟩ := leads_dispatched terminalVec hsound.2
    refine ⟨_, hm.trans hdisp, ⟨hkept.arrived, hkept.packetVec, hkept.registered⟩, rfl, ?_⟩
    show m.taken = m.fetched
    obtain ⟨jobs, htracks, -, htaken⟩ := hsound.1
    have hle := htracks.pos_le
    omega
  · rintro m ⟨hsound, hkept⟩ hne
    obtain ⟨m', q, hm, hk, hnil, hq, htaken, hfetched⟩ :=
      leads_waited terminalVec hsound (by omega)
    let m'' : State :=
      { m' with
        packetRouteInfoMap := Function.update m'.packetRouteInfoMap m'.packetRoutePos none
        packetRoutePos := increaseNumber m'.packetRoutePos 1
        dispatching := q
        fetched := m'.fetched + 1 }
    have hfetch : (system terminalVec).step m' .fetch = some m'' := by
      show m'.fetch = _
      unfold State.fetch
      rw [if_pos hnil, hq]
    have hlead := hm.trans (.one (a := .fetch) ⟨trivial, trivial⟩ hfetch)
    refine ⟨m'', hlead, ⟨hsound.leads hlead, ?_⟩, ?_⟩
    · exact ⟨hk.arrived.trans hkept.arrived, hk.packetVec.trans hkept.packetVec,
        hk.registered.trans hkept.registered⟩
    · show m'.taken - (m'.fetched + 1) < m.taken - m.fetched
      omega

/-- An idle thread takes what is in the list. -/
theorem takeVec_spec {t : Thread} (ht : t ∈ s.terminalRouteQue) (hidle : s.routing t = none)
    (hvec : s.packetVec ≠ []) :
    ∃ s', s.takeVec t = some s' ∧ s'.packetVec = [] ∧ s'.arrived = s.arrived :=
  ⟨_, if_pos ⟨ht, hidle, hvec⟩, rfl, rfl⟩

/-- With all lists fetched and handed on, and none waiting, nothing is on its way. -/
theorem quiet_of_fetched (h : Ordered Anything s) (hvec : s.packetVec = [])
    (hdisp : s.dispatching = []) (hall : s.taken = s.fetched) : s.Quiet := by
  obtain ⟨jobs, htracks, -, htaken⟩ := h
  obtain ⟨hheld, hback⟩ := htracks.nothing_out (by omega)
  exact ⟨hvec, hheld, hback, hdisp⟩

variable {terminalVec} in
/-- The threads and the dispatcher can go on until nothing is on its way. -/
theorem Sound.leads_quiet (hsound : Sound s) (hthread : s.terminalRouteQue ≠ []) :
    ∃ s', (system terminalVec).Leads (Going terminalVec) s s' ∧ s'.Quiet ∧
      s'.arrived = s.arrived := by
  obtain ⟨m, hm, hkept, hdisp, hall⟩ := leads_fetched terminalVec hsound
  have hsoundm := hsound.leads hm
  by_cases hvec : m.packetVec = []
  · exact ⟨m, hm, quiet_of_fetched hsoundm.1 hvec hdisp hall, hkept.arrived⟩
  · -- a thread takes what is left in the list
    obtain ⟨t, ht⟩ := List.exists_mem_of_ne_nil _ (hkept.registered ▸ hthread)
    have hidle : m.routing t = none := by
      obtain ⟨jobs, htracks, -, htaken⟩ := hsoundm.1
      exact (htracks.nothing_out (by omega)).1 t
    obtain ⟨m', hst, hnil, harrived⟩ := takeVec_spec ht hidle hvec
    have hroom : Going terminalVec m (.take t) := by
      refine ⟨trivial, ?_⟩
      show m.taken < m.fetched + 0xFFFFFFFF
      omega
    have hlead := hm.trans (.one hroom hst)
    obtain ⟨s', hs', hkept', hdisp', hall'⟩ := leads_fetched terminalVec (hsound.leads hlead)
    refine ⟨s', hlead.trans hs', ?_, ?_⟩
    · exact quiet_of_fetched ((hsound.leads hlead).leads hs').1 (hkept'.packetVec.trans hnil)
        hdisp' hall'
    · rw [hkept'.arrived, harrived, hkept.arrived]

/-! ## §5. What the lookups found. -/

/-- At some point of the run a thread came to the packet in its list, and the routes that it saw
then gave `o`. -/
def LookedUp (terminalVec : List TerminalPtr) (as : List Action) (p : Packet)
    (o : Option TerminalPtr) : Prop :=
  ∃ n m t index rest info, (system terminalVec).run {} (as.take n) = some m ∧
    as[n]? = some (.route t) ∧ m.routing t = some (index, ⟨p :: rest, info⟩) ∧
    o = findTerminal terminalVec (m.terminalMap t) p

variable {terminalVec} in
/-- Every lookup of a run is one of its lookups. -/
theorem runMeets_lookedUp {as : List Action}
    (h : (system terminalVec).RunMeets (Meets Anything terminalVec) {} as) :
    (system terminalVec).RunMeets (Meets (LookedUp terminalVec as) terminalVec) {} as := by
  refine h.mono_at fun n m a hrun ha hmeets => ?_
  cases a with
  | take t => exact hmeets
  | route t =>
      simp only [Meets]
      split
      · next index p rest info hrouting =>
          exact ⟨n, m, t, index, rest, info, hrun, ha, hrouting, rfl⟩
      · trivial
  | _ => trivial

variable {terminalVec} in
/-- **After every run** the threads and the dispatcher can go on, without anything new arriving,
until nothing is on its way: by then the terminal of every packet that arrived was looked up, and
those that the lookup found a terminal for were handed to it, in their order. -/
theorem drains {as : List Action}
    (hmeets : (system terminalVec).RunMeets (Meets Anything terminalVec) {} as)
    (hrun : (system terminalVec).run {} as = some s) (hthread : s.terminalRouteQue ≠ []) :
    ∃ bs s', (system terminalVec).RunMeets (Going terminalVec) s bs ∧
      (system terminalVec).run s bs = some s' ∧ s'.Quiet ∧ s'.arrived = s.arrived ∧
      ∃ outs, List.Forall₂ (LookedUp terminalVec (as ++ bs)) s.arrived outs ∧
        s'.dispatched = found s.arrived outs := by
  have hr := TransSys.reachableWhen_of_run (M := system terminalVec) rfl hmeets hrun
  have hsound : Sound s := by
    refine ⟨reachable_ordered hr, hr.invariant ?_ fun m a m' hm _ hst => locked_step hm hst⟩
    rintro s rfl
    exact locked_init
  obtain ⟨s', hlead, hquiet, harrived⟩ := hsound.leads_quiet hthread
  obtain ⟨bs, hgoing, hrun'⟩ := hlead.exists_run
  refine ⟨bs, s', hgoing, hrun', hquiet, harrived, ?_⟩
  -- the whole run, with what its own lookups found
  have hwhole : (system terminalVec).RunMeets (Meets Anything terminalVec) {} (as ++ bs) :=
    hmeets.append hrun (hgoing.mono_at fun _ _ _ _ _ h => h.2)
  have hrun'' : (system terminalVec).run {} (as ++ bs) = some s' := by
    rw [TransSys.run_append, hrun]
    exact hrun'
  have hordered := reachable_ordered
    (TransSys.reachableWhen_of_run (M := system terminalVec) rfl (runMeets_lookedUp hwhole) hrun'')
  obtain ⟨outs, houts, hdisp⟩ := hordered.quiet hquiet
  rw [harrived] at houts hdisp
  exact ⟨outs, houts, hdisp⟩

/-- A thread has taken its list and looked up nothing, the other waits for the dispatcher. -/
theorem drains_halfway :
    ∃ s, (system [9, 11]).run {} (overtakingRun.take 12) = some s ∧
      ∃ bs s', (system [9, 11]).RunMeets (Going [9, 11]) s bs ∧
        (system [9, 11]).run s bs = some s' ∧ s'.Quiet ∧ s'.arrived = s.arrived ∧
        ∃ outs, List.Forall₂ (LookedUp [9, 11] (overtakingRun.take 12 ++ bs)) s.arrived outs ∧
          s'.dispatched = found s.arrived outs := by
  have hthread : ((system [9, 11]).run {} (overtakingRun.take 12)).map (·.terminalRouteQue)
      = some [0, 1] := by decide +kernel
  have hmeets : (system [9, 11]).RunMeets (Meets Anything [9, 11]) {} (overtakingRun.take 12) := by
    decide +kernel
  obtain ⟨s, hrun, hque⟩ := Option.map_eq_some_iff.mp hthread
  refine ⟨s, hrun, drains hmeets hrun ?_⟩
  rw [hque]
  exact List.cons_ne_nil 0 [1]

end Steppingstone.Terminal
