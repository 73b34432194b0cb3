/-
  Steppingstone.Chain.Returns — which calls wait for a mutex that they hold.

  All scopes but one follow an order: the role map's mutex first, the others after it and one at a
  time.  The exception is `enterGame`, which logs a role off under its own mutex; the log-off asks
  `canLeaveGame`, under the same one.
-/
import Steppingstone.Chain.Model

namespace Steppingstone.Chain

open Gate (GateState SessionId ClientSession AccountRoleInfo makeMapGuid)
open RoleState (RoleGsStateInfo Opcode)
open Guarded

/-! ## §1. The order of the mutexes. -/

/-- The mutex of the role map comes before the others. -/
def rank : Mutex → Nat
  | .clientSessionMap => 0
  | _ => 1

theorem ranked_onGs (k : Nat) (f : RoleState.State → RoleState.State) : Ranked rank k (onGs f) :=
  Ranked.update _

theorem ranked_onGate (k : Nat) (f : GateState → GateState) : Ranked rank k (onGate f) :=
  Ranked.update _

theorem onGate_apply (f : GateState → GateState) (held : List Mutex) (s : State) :
    onGate f held s = some ((), { s with gate := f s.gate }) := rfl

/-- Touching a mutex is ranked as the mutex. -/
theorem ranked_touch {m : Mutex} {k : Nat} (hk : k ≤ rank m) : Ranked rank k (touch m) :=
  Ranked.withGuard hk (Ranked.pure _)

/-- A scope that reads. -/
theorem ranked_read {α : Type} {m : Mutex} {k : Nat} (hk : k ≤ rank m) (f : State → α) :
    Ranked rank k (withGuard m do let s ← state; return f s) :=
  Ranked.withGuard hk (Ranked.bind Ranked.state fun s => Ranked.pure (f s))

theorem ranked_canEnterGame (guid : UInt64) : Ranked rank 1 (canEnterGame guid) :=
  ranked_read (by exact Nat.le_refl _) _

theorem ranked_canLeaveGame (guid : UInt64) : Ranked rank 1 (canLeaveGame guid) :=
  ranked_read (by exact Nat.le_refl _) _

theorem ranked_leaveGame (guid : UInt64) : Ranked rank 1 (leaveGame guid) :=
  Ranked.withGuard (by exact Nat.le_refl _) (ranked_onGs _ _)

theorem ranked_gsOutputStream (gs : Nat) (opcode : Opcode) (guid : UInt64) :
    Ranked rank 1 (gsOutputStream gs opcode guid) :=
  Ranked.withGuard (by exact Nat.le_refl _) (ranked_onGs _ _)

theorem ranked_findGSSession (mapId : UInt64) : Ranked rank 1 (findGSSession mapId) :=
  ranked_read (by exact Nat.le_refl _) _

/-- Leaving a map takes the mutexes in order. -/
theorem ranked_handleLeaveMap (guid mapId : UInt64) : Ranked rank 1 (handleLeaveMap guid mapId) := by
  apply Ranked.bind (ranked_findGSSession mapId)
  intro gs
  cases gs with
  | none => exact Ranked.pure _
  | some gs =>
      apply Ranked.bind (ranked_canLeaveGame guid)
      intro can
      apply Ranked.ite
      · apply Ranked.bind (ranked_leaveGame guid)
        intro _
        apply Ranked.bind (ranked_gsOutputStream gs .leaveMap guid)
        intro _
        exact Ranked.pure _
      · exact Ranked.pure _

theorem ranked_sendLogoffMsg (guid mapId : UInt64) : Ranked rank 1 (sendLogoffMsg guid mapId) :=
  Ranked.bind (ranked_handleLeaveMap guid mapId) fun _ => Ranked.pure _

/-- So does a packet for a game server. -/
theorem ranked_handleOtherPackage (n : Nat) (guid mapId : UInt64) :
    Ranked rank 1 (handleOtherPackage n guid mapId) := by
  apply Ranked.bind (ranked_findGSSession mapId)
  intro gs
  cases gs with
  | none => exact Ranked.pure _
  | some gs =>
      apply Ranked.bind (ranked_gsOutputStream gs (.other n) guid)
      intro _
      exact Ranked.pure _

theorem ranked_succeedEnter (guid : UInt64) : Ranked rank 1 (succeedEnter guid) := by
  apply Ranked.withGuard (by exact Nat.le_refl _)
  apply Ranked.bind Ranked.state
  intro s
  split
  · exact Ranked.pure _
  · apply Ranked.ite
    · exact Ranked.bind (ranked_onGs _ _) fun _ => Ranked.pure _
    · exact Ranked.pure _

/-- So does the end of an entry. -/
theorem ranked_enterGameSuccess (guid : UInt64) : Ranked rank 1 (enterGameSuccess guid) := by
  apply Ranked.bind (ranked_succeedEnter guid)
  intro logoff
  cases logoff with
  | none => exact Ranked.pure _
  | some mapId => exact ranked_sendLogoffMsg guid mapId

theorem ranked_getRoleClientSession (guid : UInt64) : Ranked rank 0 (getRoleClientSession guid) :=
  ranked_read (by exact Nat.le_refl _) _

theorem ranked_putClientSession (i : SessionId) : Ranked rank 1 (putClientSession i) := by
  apply Ranked.bind Ranked.state
  intro s
  apply Ranked.ite
  · exact Ranked.pure _
  · apply Ranked.bind (ranked_onGate _ _)
    intro _
    exact Ranked.withGuard (by exact Nat.le_refl _) (ranked_onGate _ _)

theorem ranked_handleOutputStream (fails : Bool) : Ranked rank 1 (handleOutputStream fails) :=
  Ranked.ite (ranked_touch (by exact Nat.le_refl _)) (Ranked.pure _)

/-- So does a session that takes a role. -/
theorem ranked_collectRoleClientSession (guid : UInt64) (i : SessionId) :
    Ranked rank 0 (collectRoleClientSession guid i) := by
  apply Ranked.bind (ranked_onGate _ _)
  intro _
  apply Ranked.withGuard (by exact Nat.le_refl _)
  apply Ranked.bind Ranked.state
  intro s
  have hrest : Ranked rank 1
      (onGate fun g => { g with roleMap := Function.update g.roleMap guid (some i) }) :=
    ranked_onGate _ _
  split
  · rename_i o _
    apply Ranked.bind (ranked_onGate _ _)
    intro _
    apply Ranked.bind (ranked_putClientSession o)
    intro _
    exact Ranked.bind (ranked_onGate _ _) fun _ => hrest
  · exact hrest

theorem ranked_removeRoleClientSession (guid : UInt64) (i : SessionId) :
    Ranked rank 0 (removeRoleClientSession guid i) :=
  Ranked.withGuard (by exact Nat.le_refl _) (ranked_onGate _ _)

/-- So does a role that leaves its map. -/
theorem ranked_roleLeaveMap (guid mapId : UInt64) : Ranked rank 1 (roleLeaveMap guid mapId) :=
  Ranked.bind (ranked_handleLeaveMap guid mapId) fun _ => Ranked.pure _

/-- So does logging a session off. -/
theorem ranked_logoffSession (guid : UInt64) (i : SessionId) :
    Ranked rank 1 (logoffSession guid i) := by
  apply Ranked.bind Ranked.state
  intro s
  apply Ranked.bind (ranked_roleLeaveMap _ _)
  intro _
  apply Ranked.bind (ranked_onGate _ _)
  intro _
  exact ranked_putClientSession i

theorem ranked_cleanFound (guid : UInt64) (found : Option SessionId) :
    Ranked rank 1 (cleanFound guid found) := by
  cases found with
  | none => exact Ranked.pure _
  | some i => exact ranked_logoffSession guid i

/-- So does cleaning a role. -/
theorem ranked_cleanRoleInfo (guid : UInt64) : Ranked rank 0 (cleanRoleInfo guid) := by
  have htake : Ranked rank 0 (takeRole guid) := by
    apply Ranked.withGuard (by exact Nat.le_refl _)
    apply Ranked.bind Ranked.state
    intro s
    exact Ranked.bind (ranked_onGate _ _) fun _ => Ranked.pure _
  apply Ranked.bind htake
  intro found
  exact (ranked_cleanFound guid found).mono (Nat.zero_le _)

/-- The log-off under the mutex of the role map: the role states do not ask back. -/
theorem ranked_cleanRoleAndLogoff (role : UInt64) : Ranked rank 0 (cleanRoleAndLogoff role) := by
  apply Ranked.withGuard (by exact Nat.le_refl _)
  apply Ranked.bind Ranked.state
  intro s
  apply Ranked.bind (ranked_onGate _ _)
  intro _
  exact ranked_cleanFound role _

/-- So does changing a route. -/
theorem ranked_changeClientRoute (i : SessionId) (temp role : UInt64) :
    Ranked rank 0 (changeClientRoute i temp role) := by
  apply Ranked.bind (ranked_onGate _ _)
  intro _
  apply Ranked.withGuard (by exact Nat.le_refl _)
  apply Ranked.bind (ranked_onGate _ _)
  intro _
  apply Ranked.bind Ranked.state
  intro s
  split
  · exact ranked_putClientSession _
  · exact ranked_onGate _ _

/-- A look at the role map, and something done with the session that is found. -/
theorem ranked_found {guid : UInt64} {f : Option SessionId → Call Unit}
    (hnone : Ranked rank 0 (f none)) (hsome : ∀ i, Ranked rank 0 (f (some i))) :
    Ranked rank 0 (getRoleClientSession guid >>= f) := by
  apply Ranked.bind (ranked_getRoleClientSession guid)
  intro found
  cases found with
  | none => exact hnone
  | some i => exact hsome i

theorem ranked_notFindGS (guid : UInt64) : Ranked rank 0 (notFindGS guid) := by
  apply ranked_found
  · exact Ranked.pure _
  · intro i
    apply Ranked.bind (ranked_onGate _ _)
    intro _
    exact (ranked_putClientSession i).mono (Nat.zero_le _)

theorem ranked_putOutputPackage (guid : UInt64) : Ranked rank 0 (putOutputPackage guid) :=
  ranked_found (Ranked.pure _) fun _ => ranked_touch (Nat.zero_le _)

theorem ranked_putInputPackage (guid : UInt64) : Ranked rank 0 (putInputPackage guid) :=
  ranked_found (Ranked.pure _) fun _ => ranked_touch (Nat.zero_le _)

theorem ranked_handleRolePackage (guid : UInt64) (fails : Bool) :
    Ranked rank 0 (handleRolePackage guid fails) :=
  ranked_found (Ranked.pure _) fun _ => (ranked_handleOutputStream fails).mono (Nat.zero_le _)

theorem ranked_dropSession (guid : UInt64) : Ranked rank 0 (dropSession guid) :=
  ranked_found (Ranked.pure _) fun i => (ranked_putClientSession i).mono (Nat.zero_le _)

/-- So does a validation. -/
theorem ranked_handleValidation (guid : UInt64) (valid allowed fails : Bool) :
    Ranked rank 0 (handleValidationAccountPacket guid valid allowed fails) := by
  apply ranked_found
  · exact Ranked.pure _
  · intro i
    have hput := (ranked_putClientSession i).mono (Nat.zero_le 1)
    apply Ranked.bind (ranked_touch (Nat.zero_le _))
    intro _
    apply Ranked.ite
    · apply Ranked.bind (ranked_touch (Nat.zero_le _))
      intro _
      apply Ranked.ite
      · apply Ranked.bind (ranked_touch (Nat.zero_le _))
        intro _
        apply Ranked.bind (ranked_touch (Nat.zero_le _))
        intro _
        apply Ranked.bind (ranked_touch (Nat.zero_le _))
        intro _
        exact ranked_touch (Nat.zero_le _)
      · exact hput
    · apply Ranked.bind (ranked_touch (Nat.zero_le _))
      intro _
      apply Ranked.bind ((ranked_handleOutputStream fails).mono (Nat.zero_le _))
      intro _
      exact hput

/-- So does a jump to another map. -/
theorem ranked_handlePlayerJumpmap (guid : UInt64) (mapId : UInt32) (fails : Bool) :
    Ranked rank 0 (handlePlayerJumpmap guid mapId fails) := by
  have hout : ∀ gs opcode, Ranked rank 0 (gsOutputStream gs opcode guid) := fun gs opcode =>
    (ranked_gsOutputStream gs opcode guid).mono (Nat.zero_le _)
  apply Ranked.bind (ranked_getRoleClientSession guid)
  intro found
  apply Ranked.bind Ranked.state
  intro s
  split
  · apply Ranked.bind (ranked_onGate _ _)
    intro _
    apply Ranked.bind (hout _ _)
    intro _
    exact (ranked_handleOutputStream fails).mono (Nat.zero_le _)
  · exact Ranked.bind (hout _ _) fun _ => hout _ _
  · exact Ranked.pure _

/-- So does a packet of a game server. -/
theorem ranked_handleOutputPackage (p : OutputPacket) (fails : Bool) :
    Ranked rank 0 (handleOutputPackage p fails) := by
  cases p with
  | roleList guid info =>
      apply ranked_found
      · exact Ranked.pure _
      · intro i
        apply Ranked.bind (ranked_onGate _ _)
        intro _
        exact (ranked_handleOutputStream fails).mono (Nat.zero_le _)
  | jumpMap guid mapId => exact ranked_handlePlayerJumpmap guid mapId fails
  | write guid => exact ranked_handleRolePackage guid fails
  | kickOff guid => exact ranked_dropSession guid
  | leaveMap guid => exact Ranked.pure _

/-- So does the retry of clients. -/
theorem ranked_handleWobbleStream (guids : List (UInt64 × Bool)) :
    Ranked rank 0 (handleWobbleStream guids) := by
  induction guids with
  | nil => exact Ranked.pure _
  | cons p rest ih => exact Ranked.bind (ranked_handleRolePackage p.1 p.2) fun _ => ih

theorem ranked_openSession : Ranked rank 0 openSession := by
  apply Ranked.bind Ranked.state
  intro s
  apply Ranked.bind (ranked_onGate _ _)
  intro _
  apply Ranked.bind (ranked_collectRoleClientSession _ _)
  intro _
  exact ranked_touch (Nat.zero_le _)

/-- So does a close. -/
theorem ranked_closeSession (i : SessionId) : Ranked rank 0 (closeSession i) := by
  apply Ranked.bind Ranked.state
  intro s
  split
  · exact Ranked.pure _
  · rename_i cs _
    apply Ranked.ite
    · have hrest : Ranked rank 0 (removeRoleClientSession cs.roleGuid i >>= fun _ =>
          touch .loginServerRegister) :=
        Ranked.bind (ranked_removeRoleClientSession _ _) fun _ => ranked_touch (Nat.zero_le _)
      apply Ranked.ite
      · exact Ranked.bind ((ranked_roleLeaveMap _ _).mono (Nat.zero_le _)) fun _ => hrest
      · exact hrest
    · apply Ranked.ite
      · exact ranked_removeRoleClientSession _ _
      · exact Ranked.pure _

/-! ## §2. The log-off of a role that enters again. -/

/-- `doLogoff` would go to a game server: the role is in one that the gate knows. -/
def LogsOff (s : RoleState.State) (guid : UInt64) : Prop :=
  ∃ info, s.roles guid = some info ∧ info.roleGsState = .enterGameSuccess ∧
    (s.gsSessions info.mapId).isSome = true

/-- Nothing of this rank is held. -/
theorem not_held {held : List Mutex} {m : Mutex} {k : Nat} (hheld : ∀ m ∈ held, rank m < k)
    (hk : k ≤ rank m) : m ∉ held := fun hm => absurd (hheld m hm) (Nat.not_lt.mpr hk)

/-- Finding a game server, its mutex being free. -/
theorem findGSSession_eq {held : List Mutex} (mapId : UInt64) (s : State)
    (hfree : Mutex.gsSessionMap ∉ held) :
    findGSSession mapId held s = some (s.gs.gsSessions mapId, s) := if_neg hfree

/-- A leave under the mutex of the role states gets stuck at the game server it finds. -/
theorem handleLeaveMap_held (guid mapId : UInt64) (s : State) :
    (handleLeaveMap guid mapId).Returns [.roleGsStateMap] s ↔ s.gs.gsSessions mapId = none := by
  unfold handleLeaveMap
  rw [returns_bind_of_eq (findGSSession_eq mapId s (by decide))]
  match s.gs.gsSessions mapId with
  | none => exact ⟨fun _ => rfl, fun _ => rfl⟩
  | some gs =>
      constructor
      · intro h
        obtain ⟨can, s', heq, _⟩ := returns_bind.mp h
        rw [canLeaveGame, withGuard_held List.mem_cons_self] at heq
        cases heq
      · intro h
        cases h

/-- Under the role map's mutex, sending a log-off returns only if the map has no game server. -/
theorem sendLogoffMsg_held (guid mapId : UInt64) (s : State) :
    (sendLogoffMsg guid mapId).Returns [.roleGsStateMap] s ↔ s.gs.gsSessions mapId = none := by
  rw [← handleLeaveMap_held guid, sendLogoffMsg, returns_bind]
  constructor
  · intro h
    obtain ⟨v, t, heq, _⟩ := h
    exact returns_of_eq heq
  · intro h
    obtain ⟨⟨v, t⟩, heq⟩ := returns_iff_exists.mp h
    exact ⟨v, t, heq, rfl⟩

/-- Only a role that is in a game server is logged off. -/
theorem doLogoff_held (info : RoleGsStateInfo) (s : State) :
    (doLogoff { info with roleOffline := true }).Returns [.roleGsStateMap] s ↔
      ¬ (info.roleGsState = .enterGameSuccess ∧ (s.gs.gsSessions info.mapId).isSome = true) := by
  obtain ⟨roleGsState, mapId, guid, _⟩ := info
  cases roleGsState with
  | enterGameSuccess =>
      show (sendLogoffMsg guid mapId).Returns [.roleGsStateMap] s ↔ _
      rw [sendLogoffMsg_held]
      simp
  | enterGame | leaveGame | leaveGameSuccess =>
      constructor
      · intro _ hlog
        cases hlog.1
      · exact fun _ => rfl

/-- **`enterGame` returns** unless it has a role to log off. -/
theorem enterGame_returns (guid mapId : UInt64) (s : State) :
    (enterGame guid mapId).Returns [] s ↔ ¬ LogsOff s.gs guid := by
  show (enterFound guid mapId (s.gs.roles guid)).Returns [.roleGsStateMap] s ↔ _
  match hrole : s.gs.roles guid with
  | none =>
      constructor
      · intro _ hlog
        obtain ⟨info, hinfo, _⟩ := hlog
        rw [hrole] at hinfo
        cases hinfo
      · exact fun _ => rfl
  | some info =>
      show (doLogoff { info with roleOffline := true }).Returns [.roleGsStateMap]
        { s with gs := s.gs.setRole guid (some { info with roleOffline := true }) } ↔ _
      rw [doLogoff_held]
      apply not_congr
      constructor
      · exact fun h => ⟨info, hrole, h⟩
      · intro h
        obtain ⟨info', hinfo', h⟩ := h
        obtain rfl : info = info' := Option.some.inj (hrole.symm.trans hinfo')
        exact h

/-! ## §3. Entering packets. -/

/-- `handleClientPackage` of an enter packet -/
theorem handleEnterPackage_returns (guid mapId : UInt64) (s : State) :
    (handleEnterPackage guid mapId).Returns [] s ↔
      ¬ ((s.gs.gsSessions mapId).isSome = true ∧ LogsOff s.gs guid) := by
  unfold handleEnterPackage
  rw [returns_bind_of_eq (findGSSession_eq mapId s (by decide))]
  match s.gs.gsSessions mapId with
  | none =>
      constructor
      · intro _ h
        cases h.1
      · exact fun _ => rfl
  | some gs =>
      have hcan : canEnterGame guid [] s = some (RoleState.canEnterGame s.gs guid, s) := rfl
      show (canEnterGame guid >>= fun can => _).Returns [] s ↔ _
      rw [returns_bind_of_eq hcan]
      have henter : ∀ {f : Unit → Call Int}, (∀ u, Ranked rank 1 (f u)) →
          ((enterGame guid mapId >>= f).Returns [] s ↔
            ¬ ((some gs).isSome = true ∧ LogsOff s.gs guid)) := by
        intro f hf
        rw [returns_bind_ranked fun u => (hf u).mono (Nat.zero_le 1), enterGame_returns]
        simp
      split
      · exact henter fun _ => Ranked.pure _
      · exact henter fun _ => Ranked.bind (ranked_gsOutputStream gs .enterMap guid)
          fun _ => Ranked.pure _

/-- What `roleLogoffSuccess` would wait for: the client under the guid enters again. -/
def Rejoins (s : State) (guid : UInt64) : Prop :=
  ∃ i cs, s.gate.roleMap guid = some i ∧ s.gate.sessions i = some cs ∧ cs.enteredGame = true ∧
    (s.gs.gsSessions cs.roleLocation).isSome = true ∧ LogsOff s.gs guid

/-- Finding a role's session, no mutex being held. -/
theorem getRoleClientSession_eq (guid : UInt64) (s : State) :
    getRoleClientSession guid [] s = some (s.gate.roleMap guid, s) := rfl

/-- **A log-off returns** unless the role joins again. -/
theorem roleLogoffSuccess_returns (guid : UInt64) (s : State) :
    (roleLogoffSuccess guid).Returns [] s ↔ ¬ Rejoins s guid := by
  -- the session under the role is the one that is found
  have hrejoin : ∀ cs, (s.gate.roleMap guid).bind s.gate.sessions = some cs →
      (Rejoins s guid ↔ cs.enteredGame = true ∧
        (s.gs.gsSessions cs.roleLocation).isSome = true ∧ LogsOff s.gs guid) := by
    intro cs hcs
    obtain ⟨i, hi, hcs⟩ := Option.bind_eq_some_iff.mp hcs
    constructor
    · intro h
      obtain ⟨i', cs', hi', hcs', h⟩ := h
      obtain rfl : i = i' := Option.some.inj (hi.symm.trans hi')
      obtain rfl : cs = cs' := Option.some.inj (hcs.symm.trans hcs')
      exact h
    · exact fun h => ⟨i, cs, hi, hcs, h⟩
  unfold roleLogoffSuccess
  rw [returns_bind_of_eq (getRoleClientSession_eq guid s), returns_bind_of_eq (state_apply ..)]
  match hfound : (s.gate.roleMap guid).bind s.gate.sessions with
  | none =>
      constructor
      · intro _ h
        obtain ⟨i, cs, hi, hcs, _⟩ := h
        rw [hi] at hfound
        replace hfound : s.gate.sessions i = none := hfound
        rw [hcs] at hfound
        cases hfound
      · exact fun _ => rfl
  | some cs =>
      rw [hrejoin cs hfound]
      by_cases hent : cs.enteredGame = true
      · show Returns (if cs.enteredGame = true then _ else _) [] s ↔ _
        have hdone : ∀ _ : Int, Ranked rank 0 (pure () : Call Unit) := fun _ => Ranked.pure _
        rw [if_pos hent, returns_bind_ranked hdone]
        show (handleEnterPackage guid cs.roleLocation).Returns [] s ↔ _
        rw [handleEnterPackage_returns]
        simp [hent]
      · show Returns (if cs.enteredGame = true then _ else _) [] s ↔ _
        rw [if_neg hent]
        constructor
        · intro _ h
          exact hent h.1
        · exact fun _ => rfl

/-- A role that was just taken out of the table is not logged off. -/
theorem leaveGameSuccess_returns (guid : UInt64) (s : State) :
    (leaveGameSuccess guid).Returns [] s := by
  show (roleLogoffSuccess guid).Returns [] { s with gs := s.gs.setRole guid none }
  rw [roleLogoffSuccess_returns]
  intro h
  obtain ⟨_, _, _, _, _, _, info, hinfo, _⟩ := h
  replace hinfo : Function.update s.gs.roles guid none guid = some info := hinfo
  rw [Function.update_self] at hinfo
  cases hinfo

/-! ## §4. A client that enters. -/

/-- What can be read of the roles of the sessions. -/
def infos (s : State) (i : SessionId) : Option (List AccountRoleInfo) :=
  (s.gate.sessions i).map (·.roleInfos)

/-- The role states are as they were. -/
def SameGs (s s' : State) : Prop := s'.gs = s.gs

/-- The role map and the roles of the sessions are as they were. -/
def SameRoutes (s s' : State) : Prop := s'.gate.roleMap = s.gate.roleMap ∧ infos s' = infos s

theorem SameGs.refl (s : State) : SameGs s s := rfl

theorem SameRoutes.refl (s : State) : SameRoutes s s := ⟨rfl, rfl⟩

theorem SameGs.trans (s t u : State) (h : SameGs s t) (h' : SameGs t u) : SameGs s u :=
  Eq.trans h' h

theorem SameRoutes.trans (s t u : State) (h : SameRoutes s t) (h' : SameRoutes t u) :
    SameRoutes s u :=
  ⟨h'.1.trans h.1, h'.2.trans h.2⟩

theorem sameGs_onGate (f : GateState → GateState) : Leaves SameGs (onGate f) :=
  Leaves.update fun _ => rfl

/-- A session's own data, other than its roles. -/
theorem sameRoutes_modify (i : SessionId) (f : ClientSession → ClientSession)
    (hf : ∀ cs, (f cs).roleInfos = cs.roleInfos) :
    Leaves SameRoutes (onGate fun g => g.modify i f) := by
  apply Leaves.update
  intro s
  refine ⟨rfl, funext fun j => ?_⟩
  show (Function.update s.gate.sessions i ((s.gate.sessions i).map f) j).map _ = _
  by_cases hji : j = i
  · rw [hji, Function.update_self, Option.map_map]
    show _ = (s.gate.sessions i).map _
    congr 1
    exact funext hf
  · rw [Function.update_of_ne hji]
    rfl

theorem sameGs_putClientSession (i : SessionId) : Leaves SameGs (putClientSession i) := by
  apply Leaves.bind SameGs.trans (Leaves.state SameGs.refl)
  intro s
  apply Leaves.ite
  · exact Leaves.pure SameGs.refl _
  · apply Leaves.bind SameGs.trans (sameGs_onGate _)
    intro _
    exact Leaves.withGuard (sameGs_onGate _)

theorem sameRoutes_putClientSession (i : SessionId) : Leaves SameRoutes (putClientSession i) := by
  apply Leaves.bind SameRoutes.trans (Leaves.state SameRoutes.refl)
  intro s
  apply Leaves.ite
  · exact Leaves.pure SameRoutes.refl _
  · refine Leaves.bind SameRoutes.trans (sameRoutes_modify i _ ?_) fun _ => ?_
    · exact fun _ => rfl
    apply Leaves.withGuard
    apply Leaves.update
    intro s
    show SameRoutes s { s with gate := if i ∈ s.gate.cooler then s.gate else _ }
    split <;> exact ⟨rfl, rfl⟩

/-- **A leave does what the model of the role states says**, wherever its mutexes are free. -/
theorem handleLeaveMap_eq {held : List Mutex} (hheld : ∀ m ∈ held, rank m < 1)
    (guid mapId : UInt64) (s : State) :
    handleLeaveMap guid mapId held s =
      some ((RoleState.handleLeaveMap s.gs guid mapId).2,
        { s with gs := (RoleState.handleLeaveMap s.gs guid mapId).1 }) := by
  have hgs : Mutex.gsSessionMap ∉ held := not_held hheld (by exact Nat.le_refl _)
  have hrole : Mutex.roleGsStateMap ∉ held := not_held hheld (by exact Nat.le_refl _)
  have hcan : canLeaveGame guid held s = some (RoleState.canLeaveGame s.gs guid, s) := if_neg hrole
  simp only [handleLeaveMap, RoleState.handleLeaveMap, bind_apply, findGSSession_eq mapId s hgs,
    Option.bind_some]
  cases s.gs.gsSessions mapId with
  | none => rfl
  | some gs =>
      have hout : Mutex.gsOutput gs ∉ held := not_held hheld (by exact Nat.le_refl _)
      have hset : leaveGame guid held s =
          some ((), { s with gs := RoleState.leaveGame s.gs guid }) := if_neg hrole
      have hsent : ∀ t : State, gsOutputStream gs .leaveMap guid held t =
          some ((), { t with gs := t.gs.forward gs .leaveMap guid }) := fun t => if_neg hout
      simp only [bind_apply, hcan, Option.bind_some]
      by_cases hleave : RoleState.canLeaveGame s.gs guid = true
      · simp only [if_pos hleave, bind_apply, hset, hsent, Option.bind_some, pure_apply]
      · simp only [if_neg hleave, pure_apply]

/-- A leave that found a game server leaves no role to log off. -/
theorem logsOff_handleLeaveMap (s : RoleState.State) (guid mapId : UInt64) :
    LogsOff (RoleState.handleLeaveMap s guid mapId).1 guid ↔
      LogsOff s guid ∧ s.gsSessions mapId = none := by
  unfold RoleState.handleLeaveMap
  match hgs : s.gsSessions mapId with
  | none => simp
  -- with a game server the role is not left in the game, so it does not log off
  | some gs =>
      have hfalse : ¬ (LogsOff s guid ∧ some gs = none) := by simp
      simp only [iff_false_intro hfalse, iff_false]
      intro hlog
      by_cases hleave : RoleState.canLeaveGame s guid = true
      · -- the role is marked, or on its way out
        rw [if_pos hleave] at hlog
        obtain ⟨info, hinfo, hstate, _⟩ := hlog
        replace hinfo : (RoleState.leaveGame s guid).roles guid = some info := hinfo
        unfold RoleState.canLeaveGame at hleave
        unfold RoleState.leaveGame at hinfo
        match hrole : s.roles guid with
        | none =>
            rw [hrole] at hleave
            cases hleave
        | some old =>
            rw [hrole] at hleave hinfo
            simp only at hleave hinfo
            split at hinfo
            · rename_i hold
              replace hinfo : Function.update s.roles guid _ guid = some info := hinfo
              rw [Function.update_self] at hinfo
              rw [← Option.some.inj hinfo] at hstate
              rw [hold] at hstate
              cases hstate
            · replace hinfo : Function.update s.roles guid _ guid = some info := hinfo
              rw [Function.update_self] at hinfo
              rw [← Option.some.inj hinfo] at hstate
              cases hstate
            · rename_i hold
              simp [hold] at hleave
            · rename_i hold
              simp [hold] at hleave
      · rw [if_neg hleave] at hlog
        obtain ⟨info, hinfo, hstate, _⟩ := hlog
        apply hleave
        unfold RoleState.canLeaveGame
        rw [hinfo]
        simp [hstate]

/-- The role states once the session under `role`, if there is one, has been logged off. -/
def loggedOff (s : State) (role : UInt64) : RoleState.State :=
  match s.gate.roleMap role with
  | some o => (RoleState.handleLeaveMap s.gs role (s.roleLocation o)).1
  | none => s.gs

/-- What is done with a session once its leave has been sent. -/
def afterLeave (i : SessionId) : Call Unit := do
  onGate fun g => g.modify i fun cs => { cs with leftGame := true }
  putClientSession i

theorem sameGs_afterLeave (i : SessionId) : Leaves SameGs (afterLeave i) :=
  Leaves.bind SameGs.trans (sameGs_onGate _) fun _ => sameGs_putClientSession i

/-- Leaving a map changes no route. -/
theorem sameRoutes_afterLeave (i : SessionId) : Leaves SameRoutes (afterLeave i) := by
  refine Leaves.bind SameRoutes.trans (sameRoutes_modify i _ ?_) fun _ => ?_
  · exact fun _ => rfl
  · exact sameRoutes_putClientSession i

/-- A log-off is a leave first. -/
theorem logoffSession_eq {held : List Mutex} (hheld : ∀ m ∈ held, rank m < 1) (guid : UInt64)
    (i : SessionId) (s : State) :
    logoffSession guid i held s = afterLeave i held
      { s with gs := (RoleState.handleLeaveMap s.gs guid (s.roleLocation i)).1 } := by
  have hleave : roleLeaveMap guid (s.roleLocation i) held s =
      some ((), { s with gs := (RoleState.handleLeaveMap s.gs guid (s.roleLocation i)).1 }) := by
    show (handleLeaveMap guid (s.roleLocation i) >>= fun _ => pure ()) held s = _
    rw [bind_apply, handleLeaveMap_eq hheld]
    rfl
  show (roleLeaveMap guid (s.roleLocation i) >>= fun _ => afterLeave i) held s = _
  rw [bind_apply, hleave]
  rfl

/-- **What `cleanRoleAndLogoff` leaves.** -/
theorem cleanRoleAndLogoff_spec (role : UInt64) (s : State) :
    ∃ s', cleanRoleAndLogoff role [] s = some ((), s') ∧ s'.gs = loggedOff s role ∧
      s'.gate.roleMap = Function.update s.gate.roleMap role none ∧ infos s' = infos s := by
  obtain ⟨⟨_, s'⟩, heq⟩ := returns_iff_exists.mp ((ranked_cleanRoleAndLogoff role).returns s)
  refine ⟨s', heq, ?_⟩
  have herase : cleanRoleAndLogoff role [] s =
      (cleanFound role (s.gate.roleMap role)) [.clientSessionMap]
        { s with gate := s.gate.eraseRole role } := rfl
  rw [herase] at heq
  unfold loggedOff
  match hmap : s.gate.roleMap role with
  | none =>
      rw [hmap] at heq
      obtain ⟨_, rfl⟩ := Prod.mk.inj (Option.some.inj heq)
      exact ⟨rfl, rfl, rfl⟩
  | some o =>
      have hone : ∀ m ∈ [Mutex.clientSessionMap], rank m < 1 := by
        intro m hm
        rw [List.mem_singleton.mp hm]
        exact Nat.lt_succ_self 0
      rw [hmap] at heq
      replace heq : logoffSession role o [.clientSessionMap]
        { s with gate := s.gate.eraseRole role } = some ((), s') := heq
      rw [logoffSession_eq hone] at heq
      have hgs := sameGs_afterLeave o _ _ _ _ heq
      have hroutes := sameRoutes_afterLeave o _ _ _ _ heq
      exact ⟨hgs, hroutes.1, hroutes.2⟩

/-- The last step of an entry returns unless the role is to be logged off. -/
theorem enterRole_returns (clientGuid role : UInt64) (i : SessionId) (info : AccountRoleInfo)
    (s : State) :
    (enterRole clientGuid role i info).Returns [] s ↔
      ¬ ((s.gs.gsSessions (makeMapGuid info.mapId)).isSome = true ∧ LogsOff s.gs role) := by
  unfold enterRole
  rw [returns_bind_of_eq (state_apply ..)]
  have hroute := ranked_changeClientRoute i (((s.gate.sessions i).map (·.roleGuid)).getD 0) role
  obtain ⟨⟨_, t⟩, heq⟩ := returns_iff_exists.mp (hroute.returns s)
  have hgs : SameGs s t := by
    have hkeep : Leaves SameGs
        (changeClientRoute i (((s.gate.sessions i).map (·.roleGuid)).getD 0) role) := by
      apply Leaves.bind SameGs.trans (sameGs_onGate _)
      intro _
      apply Leaves.withGuard
      apply Leaves.bind SameGs.trans (sameGs_onGate _)
      intro _
      apply Leaves.bind SameGs.trans (Leaves.state SameGs.refl)
      intro s
      split
      · exact sameGs_putClientSession _
      · exact sameGs_onGate _
    exact hkeep _ _ _ _ heq
  rw [returns_bind_of_eq heq, returns_bind_of_eq (onGate_apply _ [] t)]
  have hlast : ∀ hr : Int, Ranked rank 0
      (if hr = -1 then notFindGS clientGuid
        else onGate fun g => g.modify i fun cs => { cs with enteredGame := true }) := fun hr =>
    Ranked.ite (ranked_notFindGS clientGuid) (ranked_onGate _ _)
  rw [returns_bind_ranked hlast]
  show (handleEnterPackage role (makeMapGuid info.mapId)).Returns [] _ ↔ _
  rw [handleEnterPackage_returns]
  show ¬ ((t.gs.gsSessions _).isSome = true ∧ LogsOff t.gs role) ↔ _
  rw [show t.gs = s.gs from hgs]

/-- What a client's entry would wait for: a role that is in a game server, and that no session
    under it could be logged off from. -/
structure EntersInside (s : State) (guid role : UInt64) : Prop where
  other : guid ≠ role
  inside : LogsOff s.gs role
  /-- The client may enter with the role, and its map has a game server. -/
  enters : ∃ i cs info, s.gate.roleMap guid = some i ∧ s.gate.sessions i = some cs ∧
    cs.canEnterGame = true ∧ cs.getAccountRoleInfo role = some info ∧
    (s.gs.gsSessions (makeMapGuid info.mapId)).isSome = true
  /-- A session under the role is where there is no game server. -/
  stays : ∀ o, s.gate.roleMap role = some o → s.gs.gsSessions (s.roleLocation o) = none

/-- A role is still to be logged off when no session under it was. -/
theorem logsOff_loggedOff (s : State) (role : UInt64) :
    LogsOff (loggedOff s role) role ↔ LogsOff s.gs role ∧
      ∀ o, s.gate.roleMap role = some o → s.gs.gsSessions (s.roleLocation o) = none := by
  unfold loggedOff
  match s.gate.roleMap role with
  | none => simp
  | some o => simp [logsOff_handleLeaveMap]

/-- A log-off leaves the game servers. -/
theorem loggedOff_gsSessions (s : State) (role : UInt64) :
    (loggedOff s role).gsSessions = s.gs.gsSessions := by
  unfold loggedOff RoleState.handleLeaveMap RoleState.leaveGame
  repeat' split
  all_goals rfl

/-- A role's data depend on the infos only. -/
theorem getAccountRoleInfo_congr {s t : State} (h : infos t = infos s) (i : SessionId)
    (role : UInt64) :
    ((t.gate.sessions i).bind fun cs => cs.getAccountRoleInfo role) =
      (s.gate.sessions i).bind fun cs => cs.getAccountRoleInfo role := by
  have hread : ∀ u : State, ((u.gate.sessions i).bind fun cs => cs.getAccountRoleInfo role) =
      (infos u i).bind fun l => l.find? (·.guid = role) := by
    intro u
    unfold infos
    cases u.gate.sessions i <;> rfl
  rw [hread, hread, h]

/-- **An entry returns** unless it comes to a role that is still inside. -/
theorem handleEnterMap_returns (guid role : UInt64) (s : State) :
    (handleEnterMap guid role).Returns [] s ↔ ¬ EntersInside s guid role := by
  unfold handleEnterMap
  rw [returns_bind_of_eq (getRoleClientSession_eq guid s), returns_bind_of_eq (state_apply ..)]
  by_cases hcan : (((s.gate.roleMap guid).bind s.gate.sessions).map (·.canEnterGame)).getD false = true
  · rw [if_pos hcan]
    obtain ⟨i, cs, hi, hcs, hmay⟩ : ∃ i cs, s.gate.roleMap guid = some i ∧
        s.gate.sessions i = some cs ∧ cs.canEnterGame = true := by
      match hfound : (s.gate.roleMap guid).bind s.gate.sessions with
      | none =>
          rw [hfound] at hcan
          cases hcan
      | some cs =>
          rw [hfound] at hcan
          obtain ⟨i, hi, hcs⟩ := Option.bind_eq_some_iff.mp hfound
          exact ⟨i, cs, hi, hcs, hcan⟩
    -- the role is logged off first, under whatever session it stands
    obtain ⟨t, heq, hgs, hmap, hinfos⟩ := cleanRoleAndLogoff_spec role s
    rw [returns_bind_of_eq heq, clientEnterMap, returns_bind_of_eq (getRoleClientSession_eq guid t)]
    rw [hmap]
    by_cases hsame : guid = role
    · -- the session has just been logged off itself
      rw [hsame, Function.update_self]
      constructor
      · intro _ h
        exact h.other rfl
      · exact fun _ => rfl
    · rw [Function.update_of_ne hsame, hi]
      show (state >>= fun t => _).Returns [] t ↔ _
      rw [returns_bind_of_eq (state_apply ..), getAccountRoleInfo_congr hinfos, hcs]
      show (enterWith guid role i (cs.getAccountRoleInfo role)).Returns [] t ↔ _
      match hinfo : cs.getAccountRoleInfo role with
      | none =>
          constructor
          · intro _ h
            obtain ⟨i', cs', info, hi', hcs', _, hinfo', _⟩ := h.enters
            obtain rfl : i = i' := Option.some.inj (hi.symm.trans hi')
            obtain rfl : cs = cs' := Option.some.inj (hcs.symm.trans hcs')
            rw [hinfo] at hinfo'
            cases hinfo'
          · intro _
            exact ((ranked_putClientSession i).mono (Nat.zero_le _)).returns t
      | some info =>
          show (enterRole guid role i info).Returns [] t ↔ _
          rw [enterRole_returns, hgs, loggedOff_gsSessions, logsOff_loggedOff]
          apply not_congr
          constructor
          · exact fun h => ⟨hsame, h.2.1, ⟨i, cs, info, hi, hcs, hmay, hinfo, h.1⟩, h.2.2⟩
          · intro h
            obtain ⟨i', cs', info', hi', hcs', _, hinfo', hgs'⟩ := h.enters
            obtain rfl : i = i' := Option.some.inj (hi.symm.trans hi')
            obtain rfl : cs = cs' := Option.some.inj (hcs.symm.trans hcs')
            obtain rfl : info = info' := Option.some.inj (hinfo.symm.trans hinfo')
            exact ⟨hgs', h.inside, h.stays⟩
  · rw [if_neg hcan]
    constructor
    · intro _ h
      obtain ⟨i, cs, _, hi, hcs, hmay, _⟩ := h.enters
      apply hcan
      rw [hi]
      show ((s.gate.sessions i).map _).getD false = true
      rw [hcs]
      exact hmay
    · exact fun _ => rfl

/-! ## §5. Every call. -/

/-- The call comes to a log-off under the mutex of the role states. -/
def SelfLocks (s : State) : Act → Prop
  | .enterGame guid _ => LogsOff s.gs guid
  | .handleClientPackage .enterMap guid mapId =>
      (s.gs.gsSessions mapId).isSome = true ∧ LogsOff s.gs guid
  | .roleLogoffSuccess guid => Rejoins s guid
  | .inputPackage (.enterMap guid role) => EntersInside s guid role
  | _ => False

/-- A ranked call has nothing to wait for. -/
theorem returns_of_ranked {k : Nat} {x : Call Unit} (h : Ranked rank k x) (s : State) :
    x.Returns [] s ↔ ¬ False :=
  ⟨fun _ => id, fun _ => h.returns s⟩

/-- A result that is thrown away. -/
theorem ranked_discard {α : Type} {k : Nat} {x : Call α} (h : Ranked rank k x) :
    Ranked rank k (x >>= fun _ => (pure () : Call Unit)) :=
  Ranked.bind h fun _ => Ranked.pure _

/-- Queueing a packet returns. -/
theorem putPackage_returns (p : GsMessage) (s : State) : (putPackage p).Returns [] s := by
  cases p with
  | register mapId gs =>
      have hreg : Ranked rank 1 (handleRegisterMapID mapId gs) := by
        apply Ranked.bind Ranked.state
        intro s
        apply Ranked.ite
        · exact Ranked.pure _
        · exact Ranked.withGuard (by exact Nat.le_refl _) (ranked_onGs _ _)
      exact hreg.returns s
  | createSelf guid =>
      have hself : Ranked rank 0 (putPackage (.createSelf guid)) :=
        Ranked.bind ((ranked_enterGameSuccess guid).mono (Nat.zero_le _))
          fun _ => ranked_putOutputPackage guid
      exact hself.returns s
  | jumpMap guid target =>
      have hjump : Ranked rank 1 (jumpMapSuccess guid (makeMapGuid target)) :=
        Ranked.withGuard (by exact Nat.le_refl _) (ranked_onGs _ _)
      have hself : Ranked rank 0 (putPackage (.jumpMap guid target)) :=
        Ranked.bind (hjump.mono (Nat.zero_le _)) fun _ => ranked_putOutputPackage guid
      exact hself.returns s
  | leaveMap guid =>
      show (leaveGameSuccess guid >>= fun _ => putOutputPackage guid).Returns [] s
      rw [returns_bind_ranked fun _ => ranked_putOutputPackage guid]
      exact leaveGameSuccess_returns guid s
  | member =>
      have hself : Ranked rank 0 (putPackage .member) := Ranked.pure ()
      exact hself.returns s
  | other guid => exact (ranked_putOutputPackage guid).returns s

/-- A client's packet is ranked, unless it enters a map. -/
theorem ranked_handleInputPackage (p : ClientPacket) (h : ∀ guid role, p ≠ .enterMap guid role) :
    Ranked rank 0 (handleInputPackage p) := by
  cases p with
  | enterMap guid role => exact absurd rfl (h guid role)
  | validation guid valid allowed fails => exact ranked_handleValidation guid valid allowed fails
  | playerMake guid => exact ranked_discard (ranked_getRoleClientSession guid)
  | loopback guid =>
      apply Ranked.bind (ranked_getRoleClientSession guid)
      intro found
      apply Ranked.bind Ranked.state
      intro s
      cases found with
      | none => exact Ranked.pure _
      | some i =>
          exact ranked_discard ((ranked_handleOtherPackage _ guid _).mono (Nat.zero_le _))
  | beat guid => exact ranked_discard (ranked_getRoleClientSession guid)
  | drop guid => exact ranked_dropSession guid
  | elsewhere => exact Ranked.pure _
  | other n guid location =>
      apply Ranked.bind ((ranked_handleOtherPackage n guid location).mono (Nat.zero_le _))
      intro hr
      exact Ranked.ite (ranked_notFindGS guid) (Ranked.pure _)

/-- **Every call of a public function returns**, unless it comes to a log-off under the mutex that
    the log-off takes. -/
theorem call_returns (s : State) (a : Act) : (call a).Returns [] s ↔ ¬ SelfLocks s a := by
  have hroles : ∀ f, Ranked rank 1 (withGuard Mutex.roleGsStateMap (onGs f)) := fun f =>
    Ranked.withGuard (by exact Nat.le_refl _) (ranked_onGs _ _)
  have hsessions : ∀ f, Ranked rank 1 (withGuard Mutex.gsSessionMap (onGs f)) := fun f =>
    Ranked.withGuard (by exact Nat.le_refl _) (ranked_onGs _ _)
  -- only the calls that enter a role take a mutex twice; the rest climb in rank
  cases a with
  | enterGame guid mapId => exact enterGame_returns guid mapId s
  | canEnterGame guid => exact returns_of_ranked (ranked_discard (ranked_canEnterGame guid)) s
  | enterGameSuccess guid => exact returns_of_ranked (ranked_enterGameSuccess guid) s
  | leaveGame guid => exact returns_of_ranked (ranked_leaveGame guid) s
  | canLeaveGame guid => exact returns_of_ranked (ranked_discard (ranked_canLeaveGame guid)) s
  | leaveGameSuccess guid => exact ⟨fun _ => id, fun _ => leaveGameSuccess_returns guid s⟩
  | jumpMapSuccess guid mapId => exact returns_of_ranked (hroles _) s
  | roleLogoff guid => exact returns_of_ranked (hroles _) s
  | cleanUnnormalPlayer guid => exact returns_of_ranked (hroles _) s
  | cleanAllPlayerStatus => exact returns_of_ranked (hroles _) s
  | putPackage p => exact ⟨fun _ => id, fun _ => putPackage_returns p s⟩
  | handleClientPackage opcode guid mapId =>
      have hdone : ∀ _ : Int, Ranked rank 0 (pure () : Call Unit) := fun _ => Ranked.pure _
      show (handleClientPackage opcode guid mapId >>= fun _ => pure ()).Returns [] s ↔ _
      rw [returns_bind_ranked hdone]
      cases opcode with
      | enterMap => exact handleEnterPackage_returns guid mapId s
      | leaveMap => exact ⟨fun _ => id, fun _ => (ranked_handleLeaveMap guid mapId).returns s⟩
      | other n => exact ⟨fun _ => id, fun _ => (ranked_handleOtherPackage n guid mapId).returns s⟩
  | registerGSMapID mapId gs => exact returns_of_ranked (hsessions _) s
  | removeGSMapID mapId => exact returns_of_ranked (hsessions _) s
  | assignGsThread => exact returns_of_ranked (ranked_touch (Nat.zero_le _)) s
  | removeGsThread => exact returns_of_ranked (ranked_touch (Nat.zero_le _)) s
  | putInputPackage guid => exact returns_of_ranked (ranked_putInputPackage guid) s
  | putOutputPackage guid => exact returns_of_ranked (ranked_putOutputPackage guid) s
  | handleRolePackage guid fails => exact returns_of_ranked (ranked_handleRolePackage guid fails) s
  | collectRoleClientSession guid i =>
      exact returns_of_ranked (ranked_collectRoleClientSession guid i) s
  | removeRoleClientSession guid i =>
      exact returns_of_ranked (ranked_removeRoleClientSession guid i) s
  | collectThreadPacketStreamList => exact returns_of_ranked (ranked_touch (Nat.zero_le _)) s
  | assignClientThread => exact returns_of_ranked (ranked_touch (Nat.zero_le _)) s
  | getRoleClientSession guid =>
      exact returns_of_ranked (ranked_discard (ranked_getRoleClientSession guid)) s
  | cleanPlayerInfo guid => exact returns_of_ranked (ranked_cleanRoleInfo guid) s
  | roleLogoffSuccess guid => exact roleLogoffSuccess_returns guid s
  | inputPackage p =>
      by_cases henter : ∃ guid role, p = .enterMap guid role
      · obtain ⟨guid, role, rfl⟩ := henter
        exact handleEnterMap_returns guid role s
      · have hne : ∀ guid role, p ≠ .enterMap guid role := fun guid role he =>
          henter ⟨guid, role, he⟩
        have hfalse : ¬ SelfLocks s (.inputPackage p) := by
          cases p with
          | enterMap guid role => exact absurd rfl (hne guid role)
          | _ => exact id
        exact ⟨fun _ => hfalse, fun _ => (ranked_handleInputPackage p hne).returns s⟩
  | outputPackage p fails => exact returns_of_ranked (ranked_handleOutputPackage p fails) s
  | wobbleStream guids => exact returns_of_ranked (ranked_handleWobbleStream guids) s
  | openSession => exact returns_of_ranked ranked_openSession s
  | closeSession i => exact returns_of_ranked (ranked_closeSession i) s

/-- **Which calls wait for themselves, and which sequences of calls block the gate**: exactly those
    that log a role off in `enterGame`. -/
theorem blocks_iff (s : State) (a : Act) (as : List Act) :
    ((call a).Returns [] s ↔ ¬ SelfLocks s a) ∧
      ((system.run init as).isSome = true ↔
        system.RunMeets (fun s a => ¬ SelfLocks s a) init as) := by
  refine ⟨call_returns s a, TransSys.run_isSome_iff fun s a => ?_⟩
  rw [← call_returns]
  show ((call a [] s).map _).isSome = true ↔ (call a [] s).isSome = true
  rw [Option.isSome_map]

/-! ## §6. A blocked gate. -/

/-- A role of map 7. -/
def hero : AccountRoleInfo := ⟨72057594037927941, 7, 1⟩

/-- A role is in a transcript when the server of the transcript goes away and the client leaves;
    the server is back when the client returns. -/
def returningRun : List Act :=
  [.registerGSMapID (makeMapGuid 7) 0, .registerGSMapID (makeMapGuid 1001) 1,
    .openSession, .outputPackage (.roleList 1 (some hero)) false,
    .inputPackage (.enterMap 1 hero.guid), .putPackage (.createSelf hero.guid),
    .putPackage (.jumpMap hero.guid 1001), .outputPackage (.jumpMap hero.guid 1001) false,
    .removeGSMapID (makeMapGuid 1001), .inputPackage (.drop hero.guid), .closeSession 0,
    .registerGSMapID (makeMapGuid 1001) 2,
    .openSession, .outputPackage (.roleList 2 (some hero)) false]

/-- A run after which a client blocks the gate. -/
theorem gate_blocks :
    ∃ s, system.run init returningRun = some s ∧
      ¬ (call (.inputPackage (.enterMap 2 hero.guid))).Returns [] s := by
  refine ⟨_, rfl, ?_⟩
  rw [not_returns_iff]
  rfl

end Steppingstone.Chain
