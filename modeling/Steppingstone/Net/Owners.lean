/-
  Steppingstone.Net.Owners — replies that find their session by its address (`getSession` of cached
  and of guidsys).

  A request keeps the pointer of its session, and the reply goes where the pointer points.  guidsys
  answers in the thread that reads the session.  cached answers in a thread of its own and first
  looks the pointer up among the open sessions: a new session may have the address by then, and the
  session that was found may be deleted before the reply is put into it.
-/
import Steppingstone.Net.TornDown

namespace Steppingstone.Net.Sessions

/-! ## §1. The services. -/

/-- A service over the pool, and the requests it works on. -/
structure Service where
  pool : State
  /-- The owners of the requests that wait, with the numbers of the sessions that asked. -/
  requests : List (Address × Nat) := []
  /-- What `getSession` has found, before the `output` of the session. -/
  found : Option (Address × Nat) := none
  /-- Ghost: the sessions that asked, with the sessions that got the reply. -/
  replies : List (Nat × Nat) := []
  /-- Ghost: the sessions whose replies were dropped since their owner was not found. -/
  dropped : List Nat := []
  /-- Ghost: the sessions whose replies were put into a deleted session. -/
  astray : List Nat := []

namespace Service

variable (s : Service)

/-- `session->output(packet)` -/
def put (p : Address × Nat) : Service :=
  if s.pool.alive p.1 = true then { s with replies := s.replies ++ [(p.2, s.pool.born p.1)] }
  else { s with astray := s.astray ++ [p.2] }

/-- `ManageSessionPool::getSession` -/
def getSession (p : Address × Nat) : Service :=
  let s := { s with requests := s.requests.erase p }
  if p.1 ∈ s.pool.sessionSet then { s with found := some p }
  else { s with dropped := s.dropped ++ [p.2] }

end Service

/-- What the pool and the service's threads do. -/
inductive ServiceAct where
  | pool (act : Act)
  /-- cached: `EntityHander::input` keeps the packet for its thread. -/
  | input (a : Address)
  /-- cached: the thread has the reply to a request. -/
  | getSession (p : Address × Nat)
  | output
  /-- guidsys: the reader's thread answers, and the session is the owner as it stands. -/
  | answer (a : Address)
  deriving DecidableEq, Repr

/-- The thread of cached is free for the request. -/
instance (s : Service) (p : Address × Nat) : Decidable (s.found = none ∧ p ∈ s.requests) :=
  decidable_of_iff (s.found.isNone = true ∧ s.requests.contains p = true)
    (and_congr Option.isNone_iff_eq_none List.contains_iff_mem)

/-- One act, where it can happen. -/
def serviceStep (s : Service) : ServiceAct → Option Service
  | .pool act => (step s.pool act).map fun pool => { s with pool }
  | .input a =>
      if s.pool.reading a = true then
        some { s with requests := s.requests ++ [(a, s.pool.born a)] }
      else none
  | .getSession p => if s.found = none ∧ p ∈ s.requests then some (s.getSession p) else none
  | .output => s.found.map fun p => { s with found := none }.put p
  | .answer a => if s.pool.reading a = true then some (s.put (a, s.pool.born a)) else none

/-- A service that has just started. -/
def serviceInit (outputThreads : Nat) : Service := { pool := init outputThreads }

/-- The service, step by step. -/
def serviceSystem (outputThreads : Nat) : TransSys Service ServiceAct where
  init s := s = serviceInit outputThreads
  step := serviceStep

/-! ## §2. A step of the pool. -/

variable {s s' : State} {a b : Address} {act : Act} {t : Nat}

/-- A new session gets the address. -/
def Arrives : Act → Address → Prop
  | .accept a, b => b = a
  | .connect a, b => b = a
  | _, _ => False

/-- The step leaves the session at the address, or deletes it. -/
structure Kept (s s' : State) (act : Act) (b : Address) : Prop where
  born : s'.born b = s.born b
  alive : s'.alive b = true ↔ s.alive b = true ∧ ¬ Deletes s act b
  reading : s'.reading b = true → s.reading b = true
  next : s.next ≤ s'.next

/-- A new session is at the address. -/
structure Arrived (s s' : State) (b : Address) : Prop where
  free : s.alive b = false
  reading : s'.reading b = true
  born : s'.born b = s.next
  next : s'.next = s.next + 1

theorem outputHandleSession_same (s : State) (a : Address) :
    (s.outputHandleSession a).born = s.born ∧ (s.outputHandleSession a).alive = s.alive ∧
      (s.outputHandleSession a).reading = s.reading ∧
      (s.outputHandleSession a).next = s.next := by
  unfold State.outputHandleSession
  split <;> exact ⟨rfl, rfl, rfl, rfl⟩

theorem Shape.pass_same (h : Shape s) :
    (s.pass t).born = s.born ∧ (s.pass t).reading = s.reading ∧ (s.pass t).next = s.next := by
  refine (h.pass_induction
    (I := fun u => u.born = s.born ∧ u.reading = s.reading ∧ u.next = s.next)
    (J := fun u => u.born = s.born ∧ u.reading = s.reading ∧ u.next = s.next) ⟨rfl, rfl, rfl⟩
    ?_ fun u _ _ hI => hI).2
  intro u b hu hb hI
  by_cases hcell : b ∈ (u.threads t).cellSessionSet
  · rw [hu.letGo_eq hb hcell]
    exact hI
  · rw [letGo_of_not_mem hcell]
    exact hI

/-- A step that neither makes nor deletes a session. -/
theorem Kept.of_same (hborn : s'.born b = s.born b) (halive : s'.alive b = s.alive b)
    (hreading : s'.reading b = true → s.reading b = true) (hnext : s.next ≤ s'.next)
    (hdeletes : ¬ Deletes s act b) : Kept s s' act b :=
  ⟨hborn, by rw [halive, and_iff_left hdeletes], hreading, hnext⟩

/-- The new session and the others. -/
theorem newSession_step (ha : s.alive a = false) (hact : ∀ b, Arrives act b ↔ b = a)
    (hdeletes : ∀ b, ¬ Deletes s act b)
    (hborn : s'.born = ((s.newSession a).inputHandleSession a).born)
    (halive : s'.alive = ((s.newSession a).inputHandleSession a).alive)
    (hreading : s'.reading = ((s.newSession a).inputHandleSession a).reading)
    (hnext : s'.next = s.next + 1) (b : Address) :
    (Arrives act b → Arrived s s' b) ∧ (¬ Arrives act b → Kept s s' act b) := by
  rw [hact b]
  constructor
  · rintro rfl
    refine ⟨ha, ?_, ?_, hnext⟩
    · rw [hreading]
      exact Function.update_self ..
    · rw [hborn]
      exact Function.update_self ..
  · intro hne
    refine .of_same ?_ ?_ ?_ (hnext ▸ Nat.le_succ _) (hdeletes b)
    · rw [hborn]
      exact Function.update_of_ne hne ..
    · rw [halive]
      exact Function.update_of_ne hne ..
    · rw [hreading]
      intro hb
      exact (Function.update_of_ne hne ..).symm.trans hb

/-- **What a step of the pool does to each session.** -/
theorem session_step (h : Shape s) (hst : step s act = some s') (b : Address) :
    (Arrives act b → Arrived s s' b) ∧ (¬ Arrives act b → Kept s s' act b) := by
  cases taken_of_step hst with
  | @accept a ha =>
      obtain ⟨hborn, halive, hreading, hnext⟩ :=
        outputHandleSession_same ((s.newSession a).inputHandleSession a) a
      have hkeeps : ∀ c, ¬ Deletes s (.accept a) c := fun _ => id
      exact newSession_step ha (fun _ => Iff.rfl) hkeeps hborn halive hreading hnext b
  | @connect a ha =>
      have hkeeps : ∀ c, ¬ Deletes s (.connect a) c := fun _ => id
      refine newSession_step ha (fun _ => Iff.rfl) hkeeps ?_ ?_ ?_ ?_ b <;> rfl
  | @connectOutput a _ =>
      obtain ⟨hborn, halive, hreading, hnext⟩ := outputHandleSession_same
        { s with connecting := s.connecting.filter (· ≠ a) } a
      refine ⟨False.elim, fun _ => ?_⟩
      refine .of_same (congrFun hborn b) (congrFun halive b) ?_ (Nat.le_of_eq hnext.symm) id
      exact fun hb => (congrFun hreading b).symm.trans hb
  | @readClosed a ha =>
      refine ⟨False.elim, fun _ => ?_⟩
      rw [h.readClosed_eq ha]
      unfold State.outputRemoveSession
      have hreading : Function.update s.reading a false b = true → s.reading b = true := by
        rw [Function.update_apply]
        split
        · exact nofun
        · exact id
      dsimp only
      split
      · exact .of_same rfl rfl hreading (Nat.le_refl _) id
      · exact .of_same rfl rfl hreading (Nat.le_refl _) id
  | @handleClose p _ =>
      refine ⟨False.elim, fun _ => ?_⟩
      unfold State.handleClose State.use
      dsimp only
      split
      · exact .of_same rfl rfl id (Nat.le_refl _) id
      · exact .of_same rfl rfl id (Nat.le_refl _) id
  | @pass t _ =>
      obtain ⟨hborn, hreading, hnext⟩ := h.pass_same (t := t)
      refine ⟨False.elim, fun _ => ⟨congrFun hborn b, ?_, ?_, (Nat.le_of_eq hnext.symm)⟩⟩
      · have hthere := h.pass_intact (t := t) (b, s.born b)
        unfold State.Intact at hthere
        rw [hborn, and_iff_left rfl, and_iff_left rfl] at hthere
        exact hthere
      · exact fun hb => (congrFun hreading b).symm.trans hb
  | @write t a failed ha =>
      refine ⟨False.elim, fun _ => ?_⟩
      rw [h.write_eq ha]
      split
      · exact .of_same rfl rfl id (Nat.le_refl _) id
      · exact .of_same rfl rfl id (Nat.le_refl _) id

/-! ## §3. Replies. -/

/-- No reply has gone wrong, and none can at once: the session that was found is the one that asked,
and so is each that has its address and would be found. -/
structure Service.Straight (s : Service) : Prop where
  replies : ∀ r ∈ s.replies, r.2 = r.1
  astray : s.astray = []
  found : ∀ p ∈ s.found, s.pool.Intact p
  requests : ∀ p ∈ s.requests, s.pool.reading p.1 = true → s.pool.born p.1 = p.2

/-- No pass deletes the session that was found for a reply, and no new session gets the address of
one that waits for a reply. -/
def Careful (s : Service) : ServiceAct → Prop
  | .pool act => (∀ p ∈ s.found, ¬ Deletes s.pool act p.1) ∧ ∀ p ∈ s.requests, ¬ Arrives act p.1
  | _ => True

/-- The services know the sessions that asked, and those that were dropped are closed. -/
structure Known (s : Service) : Prop where
  shape : Shape s.pool
  deaths : Deaths s.pool
  requests : ∀ p ∈ s.requests, p.2 < s.pool.next ∧ ∀ b, s.pool.alive b = true →
    s.pool.born b = p.2 → b = p.1
  dropped : ∀ n ∈ s.dropped, n < s.pool.next ∧ ∀ b, s.pool.reading b = true → s.pool.born b ≠ n

variable {v v' : Service} {service : ServiceAct}

/-- The address of a session is still its own, or was free. -/
theorem Known.pool (h : Known v) (hst : step v.pool act = some s') :
    Known { v with pool := s' } := by
  have hsession := session_step h.shape hst
  have hnext : v.pool.next ≤ s'.next := by
    by_cases harrives : Arrives act 0
    · rw [((hsession 0).1 harrives).next]
      exact Nat.le_succ _
    · exact ((hsession 0).2 harrives).next
  refine ⟨h.shape.step hst, h.deaths.step h.shape hst, ?_, ?_⟩
  · intro p hp
    obtain ⟨hlt, hown⟩ := h.requests p hp
    refine ⟨Nat.lt_of_lt_of_le hlt hnext, fun b halive hborn => ?_⟩
    by_cases harrives : Arrives act b
    · have hnew := ((hsession b).1 harrives).born
      rw [show s'.born b = p.2 from hborn] at hnew
      omega
    · have hkept := (hsession b).2 harrives
      exact hown b (hkept.alive.mp halive).1 (hkept.born.symm.trans hborn)
  · intro n hn
    obtain ⟨hlt, hclosed⟩ := h.dropped n hn
    refine ⟨Nat.lt_of_lt_of_le hlt hnext, fun b hreading hborn => ?_⟩
    by_cases harrives : Arrives act b
    · have hnew := ((hsession b).1 harrives).born
      rw [show s'.born b = n from hborn] at hnew
      omega
    · have hkept := (hsession b).2 harrives
      exact hclosed b (hkept.reading hreading) (hkept.born.symm.trans hborn)

theorem Known.input (h : Known v) (ha : v.pool.reading a = true) :
    Known { v with requests := v.requests ++ [(a, v.pool.born a)] } := by
  have halive := h.shape.reading a ha
  refine ⟨h.shape, h.deaths, List.forall_mem_append.mpr ⟨h.requests, ?_⟩, h.dropped⟩
  rw [List.forall_mem_singleton]
  exact ⟨h.deaths.born a halive, fun b hb hborn => h.deaths.one b a hb halive hborn⟩

/-- An owner that is not found is closed: its address may have a new session, its number has not. -/
theorem Known.getSession (h : Known v) {p : Address × Nat} (hp : p ∈ v.requests) :
    Known (v.getSession p) := by
  have hrest : ∀ q ∈ v.requests.erase p, q.2 < v.pool.next ∧ ∀ b, v.pool.alive b = true →
      v.pool.born b = q.2 → b = q.1 := fun q hq => h.requests q (List.mem_of_mem_erase hq)
  unfold Service.getSession
  dsimp only
  split
  · exact ⟨h.shape, h.deaths, hrest, h.dropped⟩
  · rename_i hnot
    refine ⟨h.shape, h.deaths, hrest, List.forall_mem_append.mpr ⟨h.dropped, ?_⟩⟩
    rw [List.forall_mem_singleton]
    obtain ⟨hlt, hown⟩ := h.requests p hp
    refine ⟨hlt, fun b hreading hborn => hnot ?_⟩
    obtain rfl := hown b (h.shape.reading b hreading) hborn
    exact (h.shape.sessionSet _).mpr hreading

theorem Known.put (h : Known v) (p : Address × Nat) : Known (v.put p) := by
  unfold Service.put
  split
  · exact ⟨h.shape, h.deaths, h.requests, h.dropped⟩
  · exact ⟨h.shape, h.deaths, h.requests, h.dropped⟩

theorem Known.step (h : Known v) (hst : serviceStep v service = some v') : Known v' := by
  cases service with
  | pool act =>
      obtain ⟨s', hpool, rfl⟩ := Option.map_eq_some_iff.mp hst
      exact h.pool hpool
  | input a =>
      obtain ⟨ha, hst⟩ := Option.ite_none_right_eq_some.mp hst
      obtain rfl := Option.some.inj hst
      exact h.input ha
  | getSession p =>
      obtain ⟨⟨-, hp⟩, hst⟩ := Option.ite_none_right_eq_some.mp hst
      obtain rfl := Option.some.inj hst
      exact h.getSession hp
  | output =>
      obtain ⟨p, -, rfl⟩ := Option.map_eq_some_iff.mp hst
      exact Known.put (v := { v with found := none })
        ⟨h.shape, h.deaths, h.requests, h.dropped⟩ p
  | answer a =>
      obtain ⟨-, hst⟩ := Option.ite_none_right_eq_some.mp hst
      obtain rfl := Option.some.inj hst
      exact h.put _

/-- A step of the pool keeps the replies straight exactly when it is careful. -/
theorem Service.Straight.pool_iff (hv : v.Straight) (h : Known v)
    (hst : Sessions.step v.pool act = some s') :
    Service.Straight { v with pool := s' } ↔ Careful v (.pool act) := by
  have hsession := session_step h.shape hst
  constructor
  · intro hv'
    refine ⟨fun p hp hdeletes => ?_, fun p hp harrives => ?_⟩
    · have harrives : ¬ Arrives act p.1 := by
        cases act <;> first | exact hdeletes.elim | exact id
      exact (((hsession p.1).2 harrives).alive.mp (hv'.found p hp).1).2 hdeletes
    · -- the new session would get the reply
      have hnew := (hsession p.1).1 harrives
      have hborn := hv'.requests p hp hnew.reading
      have hlt := (h.requests p hp).1
      rw [hnew.born] at hborn
      omega
  · rintro ⟨hfound, hrequests⟩
    refine ⟨hv.replies, hv.astray, fun p hp => ?_, fun p hp hreading => ?_⟩
    · have hthere := hv.found p hp
      by_cases harrives : Arrives act p.1
      · have hfree := ((hsession p.1).1 harrives).free
        rw [hthere.1] at hfree
        cases hfree
      · have hkept := (hsession p.1).2 harrives
        exact ⟨hkept.alive.mpr ⟨hthere.1, hfound p hp⟩, hkept.born.trans hthere.2⟩
    · have hkept := (hsession p.1).2 (hrequests p hp)
      exact hkept.born.trans (hv.requests p hp (hkept.reading hreading))

theorem Service.Straight.getSession (hv : v.Straight) (h : Known v) {p : Address × Nat}
    (hp : p ∈ v.requests) : (v.getSession p).Straight := by
  have hrest : ∀ q ∈ v.requests.erase p, v.pool.reading q.1 = true → v.pool.born q.1 = q.2 :=
    fun q hq => hv.requests q (List.mem_of_mem_erase hq)
  unfold Service.getSession
  dsimp only
  split
  · rename_i hmem
    have hreading := (h.shape.sessionSet p.1).mp hmem
    refine ⟨hv.replies, hv.astray, ?_, hrest⟩
    intro q hq
    obtain rfl := Option.some.inj hq
    exact ⟨h.shape.reading p.1 hreading, hv.requests p hp hreading⟩
  · exact ⟨hv.replies, hv.astray, hv.found, hrest⟩

/-- The reply goes into the session that asked. -/
theorem Service.Straight.put (hv : v.Straight) {p : Address × Nat} (hp : v.pool.Intact p) :
    (v.put p).Straight := by
  unfold Service.put
  rw [if_pos hp.1]
  refine ⟨List.forall_mem_append.mpr ⟨hv.replies, ?_⟩, hv.astray, hv.found, hv.requests⟩
  rw [List.forall_mem_singleton]
  exact hp.2

/-- **A step keeps the replies straight exactly when it is careful.** -/
theorem Service.Straight.step_iff (hv : v.Straight) (h : Known v)
    (hst : serviceStep v service = some v') : v'.Straight ↔ Careful v service := by
  cases service with
  | pool act =>
      obtain ⟨s', hpool, rfl⟩ := Option.map_eq_some_iff.mp hst
      exact hv.pool_iff h hpool
  | input a =>
      obtain ⟨ha, hst⟩ := Option.ite_none_right_eq_some.mp hst
      obtain rfl := Option.some.inj hst
      refine iff_of_true ⟨hv.replies, hv.astray, hv.found, ?_⟩ trivial
      exact List.forall_mem_append.mpr ⟨hv.requests, List.forall_mem_singleton.mpr fun _ => rfl⟩
  | getSession p =>
      obtain ⟨⟨-, hp⟩, hst⟩ := Option.ite_none_right_eq_some.mp hst
      obtain rfl := Option.some.inj hst
      exact iff_of_true (hv.getSession h hp) trivial
  | output =>
      obtain ⟨p, hp, rfl⟩ := Option.map_eq_some_iff.mp hst
      have hnone : Service.Straight { v with found := none } :=
        ⟨hv.replies, hv.astray, nofun, hv.requests⟩
      exact iff_of_true (hnone.put (hv.found p hp)) trivial
  | answer a =>
      obtain ⟨ha, hst⟩ := Option.ite_none_right_eq_some.mp hst
      obtain rfl := Option.some.inj hst
      have hthere : v.pool.Intact (a, v.pool.born a) := ⟨h.shape.reading a ha, rfl⟩
      exact iff_of_true (hv.put hthere) trivial

/-! ## §4. Runs. -/

theorem straight_init (n : Nat) : (serviceInit n).Straight := ⟨nofun, rfl, nofun, nofun⟩

theorem known_init (n : Nat) : Known (serviceInit n) :=
  ⟨shape_init n, deaths_init n, nofun, nofun⟩

/-- guidsys: all that happens to the pool, and answers of the reader's thread. -/
def ServiceAct.Direct : ServiceAct → Prop
  | .pool _ | .answer _ => True
  | _ => False

/-- A direct step is careful and leaves no reply waiting. -/
theorem direct_step (hdirect : service.Direct) (hst : serviceStep v service = some v')
    (hfound : v.found = none) (hrequests : v.requests = []) :
    Careful v service ∧ v'.found = none ∧ v'.requests = [] := by
  cases service with
  | pool act =>
      obtain ⟨s', -, rfl⟩ := Option.map_eq_some_iff.mp hst
      refine ⟨⟨?_, ?_⟩, hfound, hrequests⟩
      · rw [hfound]
        exact nofun
      · rw [hrequests]
        exact nofun
  | answer a =>
      obtain ⟨-, hst⟩ := Option.ite_none_right_eq_some.mp hst
      obtain rfl := Option.some.inj hst
      unfold Service.put
      split
      · exact ⟨trivial, hfound, hrequests⟩
      · exact ⟨trivial, hfound, hrequests⟩
  | input a => exact hdirect.elim
  | getSession p => exact hdirect.elim
  | output => exact hdirect.elim

/-- **Replies by address.**  A reply is dropped only if its session is closed.  At no moment of a
run can a reply go to another session than the one that asked, or into none, exactly when no pass
deletes a session between `getSession` and `output` and no new session gets the address of one that
waits for a reply.  Replies that the reader's thread gives itself never go wrong. -/
theorem replies_straight (outputThreads : Nat) :
    (∀ s, (serviceSystem outputThreads).Reachable s →
      ∀ n ∈ s.dropped, ∀ a, s.pool.reading a = true → s.pool.born a ≠ n) ∧
      ∀ as s, (serviceSystem outputThreads).run (serviceInit outputThreads) as = some s →
        ((∀ bs m, bs <+: as →
            (serviceSystem outputThreads).run (serviceInit outputThreads) bs = some m →
              m.Straight) ↔
          (serviceSystem outputThreads).RunMeets Careful (serviceInit outputThreads) as) ∧
        ((∀ service ∈ as, service.Direct) → s.Straight) := by
  have hknown : ∀ s, (serviceSystem outputThreads).Reachable s → Known s := by
    intro s hs
    refine hs.invariant (I := Known) ?_ fun u service u' hu _ hst => hu.step hst
    rintro u rfl
    exact known_init outputThreads
  refine ⟨fun s hs n hn => ((hknown s hs).dropped n hn).2, fun as s hrun => ⟨?_, fun hdirect => ?_⟩⟩
  · have hstart : Known (serviceInit outputThreads) ∧ (serviceInit outputThreads).Straight :=
      ⟨known_init _, straight_init _⟩
    rw [← TransSys.always_iff_runMeets (P := fun v => Known v ∧ v.Straight) ?_ hstart hrun]
    · refine forall_congr' fun bs => forall₃_congr fun m _ hm => ?_
      exact (and_iff_right (hknown m (TransSys.reachable_of_run rfl hm))).symm
    · intro u service u' hu hst
      exact (and_iff_right (hu.1.step hst)).trans (hu.2.step_iff hu.1 hst)
  · refine (TransSys.run_invariant_of_forall (K := ServiceAct.Direct)
      (I := fun v => Known v ∧ v.Straight ∧ v.found = none ∧ v.requests = []) ?_
      ⟨known_init _, straight_init _, rfl, rfl⟩ hdirect hrun).2.1
    intro u service u' hu hservice hst
    obtain ⟨hk, hstraight, hfound, hrequests⟩ := hu
    obtain ⟨hcareful, hfound', hrequests'⟩ := direct_step hservice hst hfound hrequests
    exact ⟨hk.step hst, (hstraight.step_iff hk hst).mpr hcareful, hfound', hrequests'⟩

/-- A new session at the address of one that is deleted gets its reply. -/
example :
    ((serviceSystem 1).run (serviceInit 1)
      [.pool (.accept 0), .pool (.pass 0), .input 0, .pool (.readClosed 0),
        .pool (.handleClose (0, 0)), .pool (.pass 0), .pool (.accept 0), .getSession (0, 0),
        .output]).map Service.replies = some [(0, 1)] := by decide

end Steppingstone.Net.Sessions
