/-
  Steppingstone.Terminal.Ordered — packets are routed by many threads and leave in their order.

  A thread that took its list early can be done with it late.  The route index it drew with the
  list is what keeps the packets of a player in order: the dispatcher works as if one thread had
  looked up one packet after the other.
-/
import Steppingstone.Terminal.Route

namespace Steppingstone.Terminal

/-! ## §1. The indexes. -/

theorem increaseNumber_toNat {src : UInt32} (h : src.toNat < 0xFFFFFFFF) :
    (increaseNumber src 1).toNat = (src.toNat + 1) % 0xFFFFFFFF := by
  have hsum : (src.toNat + 1) % 2 ^ 32 = src.toNat + 1 := Nat.mod_eq_of_lt (by omega)
  unfold increaseNumber
  rw [UInt32.toNat_mod, UInt32.toNat_add]
  show (src.toNat + 1) % 2 ^ 32 % 0xFFFFFFFF = _
  rw [hsum]

theorem iterate_increaseNumber_toNat (n : Nat) :
    ((fun src => increaseNumber src 1)^[n] 0).toNat = n % 0xFFFFFFFF := by
  induction n with
  | zero => rfl
  | succ n ih =>
      have hlt : n % 0xFFFFFFFF < 0xFFFFFFFF := Nat.mod_lt n (by decide)
      rw [Function.iterate_succ_apply', increaseNumber_toNat (ih ▸ hlt), ih]
      omega

/-- The indexes of both counters: `0xFFFFFFFF` of them are different. -/
def indexes : Serials UInt32 where
  first := 0
  succ := fun src => increaseNumber src 1
  period := 0xFFFFFFFF
  apart := by
    intro m n hlt hnear he
    have hmod := congrArg UInt32.toNat he
    rw [iterate_increaseNumber_toNat, iterate_increaseNumber_toNat] at hmod
    omega

/-! ## §2. What the sequential program would hand on. -/

/-- The packets whose terminal was found, with it. -/
def found : List Packet → List (Option TerminalPtr) → List PacketRouteInfo
  | p :: ps, some ter :: outs => { packet := p, terminal := ter } :: found ps outs
  | _ :: ps, none :: outs => found ps outs
  | _, _ => []

theorem found_append {ps ps' : List Packet} {outs outs' : List (Option TerminalPtr)}
    (h : ps.length = outs.length) :
    found (ps ++ ps') (outs ++ outs') = found ps outs ++ found ps' outs' := by
  induction ps generalizing outs with
  | nil =>
      obtain rfl := List.length_eq_zero_iff.mp h.symm
      rfl
  | cons p ps ih =>
      cases outs with
      | nil => simp at h
      | cons o outs =>
          have hlen : ps.length = outs.length := by simpa using h
          cases o with
          | some ter =>
              show _ :: found (ps ++ ps') (outs ++ outs') = _
              rw [ih hlen]
              rfl
          | none =>
              show found (ps ++ ps') (outs ++ outs') = _
              rw [ih hlen]
              rfl

/-! ## §3. The lists behind the indexes. -/

section

variable (Ok : Packet → Option TerminalPtr → Prop)

/-- A thread looked up the terminals of some of its packets, and has the others left. -/
def Progress (vec : List Packet) (w : Work) : Prop :=
  ∃ ps outs, vec = ps ++ w.packetVec ∧ List.Forall₂ Ok ps outs ∧ w.packetRouteInfo = found ps outs

/-- The queue for a list. -/
def Result (vec : List Packet) (q : List PacketRouteInfo) : Prop :=
  ∃ outs, List.Forall₂ Ok vec outs ∧ q = found vec outs

/-- The desk the threads and the dispatcher work at. -/
def State.tickets (s : State) : Tickets UInt32 Thread Work PacketRouteInfo where
  index := s.packetRouteIndex
  pos := s.packetRoutePos
  held := s.routing
  back := s.packetRouteInfoMap
  handed := s.dispatched ++ s.dispatching

/-- The lists that were taken are the packets that arrived, without those that wait. -/
def Ordered (s : State) : Prop :=
  ∃ jobs, s.tickets.Tracks indexes (Progress Ok) (Result Ok) jobs s.fetched ∧
    s.arrived = jobs.flatten ++ s.packetVec ∧ s.taken = jobs.length

/-- A list is taken only while there are indexes left, and what the lookups of a thread find is
as `Ok` says. -/
def Meets (terminalVec : List TerminalPtr) (s : State) : Action → Prop
  | .take _ => s.taken < s.fetched + 0xFFFFFFFF
  | .route t =>
      match s.routing t with
      | some (_, ⟨p :: _, _⟩) => Ok p (findTerminal terminalVec (s.terminalMap t) p)
      | _ => True
  | _ => True

instance (terminalVec : List TerminalPtr) [∀ p o, Decidable (Ok p o)] (s : State) (a : Action) :
    Decidable (Meets Ok terminalVec s a) := by
  cases a <;> simp only [Meets] <;> try infer_instance
  split <;> infer_instance

variable {Ok} {terminalVec : List TerminalPtr} {s s' : State}

theorem ordered_init : Ordered Ok {} :=
  ⟨[], Tickets.tracks_start, rfl, rfl⟩

/-- Taking the list. -/
theorem Ordered.takeVec (h : Ordered Ok s) {t : Thread} (hroom : s.taken < s.fetched + 0xFFFFFFFF)
    (hst : s.takeVec t = some s') : Ordered Ok s' := by
  obtain ⟨jobs, htracks, harrived, htaken⟩ := h
  unfold State.takeVec at hst
  split at hst
  · next hc =>
      obtain rfl := Option.some.inj hst
      have hprogress : Progress Ok s.packetVec ⟨s.packetVec, []⟩ := ⟨[], [], rfl, .nil, rfl⟩
      refine ⟨jobs ++ [s.packetVec], ?_, ?_, ?_⟩
      · exact htracks.draw (by rw [← htaken]; exact hroom) hc.2.1 hprogress
      · show s.arrived = (jobs ++ [s.packetVec]).flatten ++ []
        rw [harrived]
        simp
      · show s.taken + 1 = (jobs ++ [s.packetVec]).length
        rw [htaken, List.length_append]
        rfl
  · cases hst

/-- Looking up a terminal. -/
theorem Ordered.routeNext (h : Ordered Ok s) {t : Thread}
    (hok : Meets Ok terminalVec s (.route t)) (hst : s.routeNext terminalVec t = some s') :
    Ordered Ok s' := by
  obtain ⟨jobs, htracks, harrived, htaken⟩ := h
  unfold State.routeNext at hst
  split at hst
  · next index w hrouting =>
      obtain ⟨packets, info⟩ := w
      split at hst
      · next p rest hw =>
          obtain rfl : packets = p :: rest := hw
          obtain rfl := Option.some.inj hst
          have hok' : Ok p (findTerminal terminalVec (s.terminalMap t) p) := by
            simpa only [Meets, hrouting] using hok
          refine ⟨jobs, htracks.work hrouting ?_, harrived, htaken⟩
          rintro vec ⟨ps, outs, hvec, houts, hinfo⟩
          refine ⟨ps ++ [p], outs ++ [_], ?_, List.rel_append houts (.cons hok' .nil), ?_⟩
          · rw [hvec]
            simp [Work.route]
          · -- the packet joins the queue if its terminal was found
            have hinfo' : info = found ps outs := hinfo
            rw [found_append houts.length_eq, ← hinfo']
            unfold Work.route
            cases findTerminal terminalVec (s.terminalMap t) p with
            | some ter => rfl
            | none => exact (List.append_nil info).symm
      · cases hst
  · cases hst

/-- Giving the queue to the dispatcher. -/
theorem Ordered.deliver (h : Ordered Ok s) {t : Thread} (hst : s.deliver t = some s') :
    Ordered Ok s' := by
  obtain ⟨jobs, htracks, harrived, htaken⟩ := h
  unfold State.deliver at hst
  split at hst
  · next index w hrouting =>
      split at hst
      · next hnil =>
          obtain rfl := Option.some.inj hst
          refine ⟨jobs, htracks.post hrouting ?_, harrived, htaken⟩
          rintro vec ⟨ps, outs, hvec, houts, hinfo⟩
          have hall : vec = ps := by rw [hvec, hnil, List.append_nil]
          exact ⟨outs, hall ▸ houts, hall ▸ hinfo⟩
      · cases hst
  · cases hst

/-- Taking the queue that was waited for. -/
theorem Ordered.fetch (h : Ordered Ok s) (hst : s.fetch = some s') : Ordered Ok s' := by
  obtain ⟨jobs, htracks, harrived, htaken⟩ := h
  unfold State.fetch at hst
  split at hst
  · next hidle =>
      split at hst
      · next q hq =>
          obtain rfl := Option.some.inj hst
          refine ⟨jobs, ?_, harrived, htaken⟩
          have hemit := htracks.emit hq
          have hhanded : s.tickets.handed ++ q = s.dispatched ++ q := by
            show (s.dispatched ++ s.dispatching) ++ q = _
            rw [hidle, List.append_nil]
          unfold Tickets.emit at hemit
          rw [hhanded] at hemit
          exact hemit
      · cases hst
  · cases hst

/-- Handing a packet to its terminal. -/
theorem Ordered.outputNext (h : Ordered Ok s) (hst : s.outputNext = some s') : Ordered Ok s' := by
  obtain ⟨jobs, htracks, harrived, htaken⟩ := h
  unfold State.outputNext at hst
  split at hst
  · next i rest hdisp =>
      split at hst
      · obtain rfl := Option.some.inj hst
        refine ⟨jobs, ?_, harrived, htaken⟩
        have hhanded : s.dispatched ++ s.dispatching = (s.dispatched ++ [i]) ++ rest := by
          rw [hdisp, List.append_assoc]
          rfl
        have htracks' := htracks
        unfold State.tickets at htracks'
        rw [hhanded] at htracks'
        exact htracks'
      · cases hst
  · cases hst

/-- **A step** keeps the lists in order; those that change the routes do not touch them. -/
theorem ordered_step {a : Action} (h : Ordered Ok s) (hc : Meets Ok terminalVec s a)
    (hst : step terminalVec s a = some s') : Ordered Ok s' := by
  cases a with
  | input p =>
      obtain ⟨jobs, htracks, harrived, htaken⟩ := h
      obtain rfl := Option.some.inj hst
      refine ⟨jobs, htracks, ?_, htaken⟩
      show s.arrived ++ [p] = jobs.flatten ++ (s.packetVec ++ [p])
      rw [harrived, List.append_assoc]
  | register t =>
      simp only [step] at hst
      split at hst
      · obtain rfl := Option.some.inj hst
        exact h
      · cases hst
  | addRoute guid terminal =>
      simp only [step] at hst
      split at hst
      · obtain rfl := Option.some.inj hst
        exact h
      · cases hst
  | change =>
      simp only [step, State.changeNext] at hst
      split at hst
      · obtain rfl := Option.some.inj hst
        exact h
      · cases hst
  | take t => exact h.takeVec hc hst
  | route t => exact h.routeNext hc hst
  | deliver t => exact h.deliver hst
  | fetch => exact h.fetch hst
  | removeRoute =>
      simp only [step, State.startRemove] at hst
      split at hst
      · split at hst
        · obtain rfl := Option.some.inj hst
          exact h
        · cases hst
      · cases hst
  | output => exact h.outputNext hst

theorem reachable_ordered (hr : (system terminalVec).ReachableWhen (Meets Ok terminalVec) s) :
    Ordered Ok s := by
  refine hr.invariant ?_ ?_
  · rintro s rfl
    exact ordered_init
  · intro s a s' h hc hst
    exact ordered_step h hc hst

/-! ## §4. Order. -/

/-- Nothing is on its way. -/
def State.Quiet (s : State) : Prop :=
  s.packetVec = [] ∧ (∀ t, s.routing t = none) ∧ (∀ k, s.packetRouteInfoMap k = none) ∧
    s.dispatching = []

/-- The queues of several lists are the queue of all their packets. -/
theorem result_flatten {jobs : List (List Packet)} {rs : List (List PacketRouteInfo)}
    (h : List.Forall₂ (Result Ok) jobs rs) : Result Ok jobs.flatten rs.flatten := by
  induction h with
  | nil => exact ⟨[], .nil, rfl⟩
  | cons hr _ ih =>
      obtain ⟨outs, houts, hq⟩ := hr
      obtain ⟨outs', houts', hq'⟩ := ih
      refine ⟨outs ++ outs', List.rel_append houts houts', ?_⟩
      rw [List.flatten_cons, List.flatten_cons, hq, hq', found_append houts.length_eq]

/-- When nothing is on its way, what was handed on is the queue of all packets. -/
theorem Ordered.quiet (h : Ordered Ok s) (hq : s.Quiet) : Result Ok s.arrived s.dispatched := by
  obtain ⟨jobs, htracks, harrived, -⟩ := h
  obtain ⟨hvec, hrouting, hmap, hdisp⟩ := hq
  obtain ⟨rs, hrs, hhanded⟩ := htracks.all_handed hrouting hmap
  have hall : s.arrived = jobs.flatten := by rw [harrived, hvec, List.append_nil]
  have hout : s.dispatched = rs.flatten := by
    rw [← hhanded]
    show s.dispatched = s.dispatched ++ s.dispatching
    rw [hdisp, List.append_nil]
  rw [hall, hout]
  exact result_flatten hrs

/-- **In the order of arrival**: what the terminals got so far is the beginning of what one thread
would have handed on after looking up the first packets one by one, whatever the threads do and
however the routes change meanwhile; and when nothing is on its way, it is that for all packets. -/
theorem dispatched_in_order
    (hr : (system terminalVec).ReachableWhen (Meets Ok terminalVec) s) :
    (∃ n outs, n ≤ s.arrived.length ∧ List.Forall₂ Ok (s.arrived.take n) outs ∧
      s.dispatched <+: found (s.arrived.take n) outs) ∧
    (s.Quiet → ∃ outs, List.Forall₂ Ok s.arrived outs ∧ s.dispatched = found s.arrived outs) := by
  have hordered := reachable_ordered hr
  refine ⟨?_, hordered.quiet⟩
  obtain ⟨jobs, htracks, harrived, -⟩ := hordered
  obtain ⟨rs, -, hrs, hbegin⟩ := htracks.in_order
  obtain ⟨outs, houts, hq⟩ := result_flatten hrs
  have hfirst : (jobs.take rs.length).flatten <+: s.arrived := by
    refine ⟨(jobs.drop rs.length).flatten ++ s.packetVec, ?_⟩
    rw [← List.append_assoc, ← List.flatten_append, List.take_append_drop, harrived]
  have htake := List.prefix_iff_eq_take.mp hfirst
  refine ⟨(jobs.take rs.length).flatten.length, outs, hfirst.length_le, htake ▸ houts, ?_⟩
  rw [← htake, ← hq]
  exact (List.prefix_append s.dispatched s.dispatching).trans hbegin

end

/-- Two threads; the second takes its list later and delivers it earlier, and in it is the packet
with which player 5 leaves the map. -/
def overtakingRun : List Action :=
  [.register 0, .register 1, .addRoute 5 11, .change, .change,
    .input ⟨⟨1305, 5, []⟩, 0⟩, .input ⟨⟨1305, 0, []⟩, 9⟩, .take 0,
    .input ⟨⟨SMSG_PLAYER_LEAVE_MAP, 5, []⟩, 0⟩, .take 1, .route 1, .deliver 1,
    .route 0, .route 0, .deliver 0, .fetch, .output, .output,
    .fetch, .removeRoute, .change, .change, .output]

/-- Player 5 is at terminal 11, and what has no guid goes to terminal 9. -/
def atTheirTerminals (p : Packet) (o : Option TerminalPtr) : Prop :=
  o = some (if p.guid = 0 then 9 else 11)

instance (p : Packet) (o : Option TerminalPtr) : Decidable (atTheirTerminals p o) :=
  inferInstanceAs (Decidable (_ = _))

theorem dispatched_in_order_overtaking :
    ∃ s, (system [9, 11]).run {} overtakingRun = some s ∧
      (∃ n outs, n ≤ s.arrived.length ∧
        List.Forall₂ atTheirTerminals (s.arrived.take n) outs ∧
        s.dispatched <+: found (s.arrived.take n) outs) ∧
      (s.Quiet → ∃ outs, List.Forall₂ atTheirTerminals s.arrived outs ∧
        s.dispatched = found s.arrived outs) := by
  have hsome : ((system [9, 11]).run {} overtakingRun).isSome = true := by decide +kernel
  have hmeets : (system [9, 11]).RunMeets (Meets atTheirTerminals [9, 11]) {} overtakingRun := by
    decide +kernel
  obtain ⟨s, hrun⟩ := Option.isSome_iff_exists.mp hsome
  exact ⟨s, hrun, dispatched_in_order (TransSys.reachableWhen_of_run rfl hmeets hrun)⟩

end Steppingstone.Terminal
