/-
  Steppingstone.RoleState.Notices — the enter and leave notices of a role.

  The state of a role says which notice came last, as long as two things do not happen: a leave that
  comes while the role is still entering is forwarded at once and made up for once more when the
  game server has answered, and an answer to a leave that was never sent takes the role out of the
  table as if it had been.
-/
import Steppingstone.Lib.Turns
import Steppingstone.RoleState.Model
import Steppingstone.Lib.Lookup

namespace Steppingstone.RoleState

open Turns (Alternate alternate_snoc next)

/-! ## §1. Notices. -/

/-- `CMSG_PLAYER_ENTER_MAP` or `CMSG_PLAYER_LEAVE_MAP` -/
inductive Notice
  | enter
  | leave
  deriving DecidableEq, Repr

/-- What a forwarded packet tells of a role. -/
def Forwarded.notice (guid : UInt64) (p : Forwarded) : Option Notice :=
  if p.guid = guid then
    match p.opcode with
    | .enterMap => some .enter
    | .leaveMap => some .leave
    | .other _ => none
  else none

/-- The notices of a role that were forwarded, the oldest first. -/
def State.notices (s : State) (guid : UInt64) : List Notice :=
  s.forwarded.filterMap (Forwarded.notice guid)

/-- **The notices of every role alternate**, starting with an enter. -/
def Alternates (s : State) : Prop := ∀ guid, Alternate .enter .leave (s.notices guid)

/-- The last notice of the role was an enter. -/
def State.Inside (s : State) (guid : UInt64) : Prop := (s.notices guid).getLast? = some .enter

theorem notices_forward (s : State) (gs : Nat) (opcode : Opcode) (guid guid' : UInt64) :
    (s.forward gs opcode guid).notices guid' =
      s.notices guid' ++ (Forwarded.notice guid' ⟨gs, opcode, guid⟩).toList := by
  show (s.forwarded ++ [(⟨gs, opcode, guid⟩ : Forwarded)]).filterMap _ = _
  rw [List.filterMap_append]
  rfl

/-! ## §2. The invariant. -/

/-- The state of a role that has been told to a game server, and not been taken out again. -/
def RoleGsState.isInside : RoleGsState → Prop
  | .enterGame => True
  | .enterGameSuccess => True
  | .leaveGame => False
  | .leaveGameSuccess => False

/-- What the table says of the role. -/
def State.entered (s : State) (guid : UInt64) : Prop :=
  ∃ info, s.roles guid = some info ∧ info.roleGsState.isInside

/-- The notices alternate, the table says which came last, and an entry carries its guid. -/
structure Inv (s : State) : Prop where
  alternate : Alternates s
  inside : ∀ guid, s.Inside guid ↔ s.entered guid
  keyed : ∀ guid info, s.roles guid = some info → info.roleGuid = guid

/-- An entry that is rewritten within its side of the table. -/
theorem Inv.setRole {s : State} (h : Inv s) {guid : UInt64} {info : RoleGsStateInfo}
    (hguid : info.roleGuid = guid) (hside : info.roleGsState.isInside ↔ s.entered guid) :
    Inv (s.setRole guid (some info)) where
  alternate := h.alternate
  inside guid' := by
    show s.Inside guid' ↔ ∃ info', Function.update s.roles guid (some info) guid' = some info' ∧ _
    by_cases hg : guid' = guid
    · rw [hg, Function.update_self, h.inside guid, ← hside]
      constructor
      · intro hin
        exact ⟨info, rfl, hin⟩
      · intro hin
        obtain ⟨info', heq, hin⟩ := hin
        obtain rfl : info = info' := Option.some.inj heq
        exact hin
    · rw [Function.update_of_ne hg]
      exact h.inside guid'
  keyed guid' info' hinfo := by
    obtain ⟨rfl, rfl⟩ | ⟨-, hinfo⟩ := Lookup.update_some.mp hinfo
    · exact hguid
    · exact h.keyed guid' info' hinfo

/-- A role whose notices end with a leave can be forgotten. -/
theorem Inv.forget {s : State} (h : Inv s) {guid : UInt64} (hout : ¬ s.entered guid) :
    Inv (s.setRole guid none) where
  alternate := h.alternate
  inside guid' := by
    show s.Inside guid' ↔ ∃ info', Function.update s.roles guid none guid' = some info' ∧ _
    by_cases hg : guid' = guid
    · rw [hg, Function.update_self, h.inside guid]
      constructor
      · intro hin
        exact absurd hin hout
      · intro hin
        obtain ⟨info', heq, -⟩ := hin
        cases heq
    · rw [Function.update_of_ne hg]
      exact h.inside guid'
  keyed guid' info' hinfo := by
    exact h.keyed guid' info' (Lookup.update_none.mp hinfo).2

/-- A packet that is no notice of the role. -/
theorem notices_forward_none (s : State) (gs : Nat) (opcode : Opcode) (guid guid' : UInt64)
    (h : Forwarded.notice guid' ⟨gs, opcode, guid⟩ = none) :
    (s.forward gs opcode guid).notices guid' = s.notices guid' := by
  rw [notices_forward, h]
  exact List.append_nil _

theorem notice_of_ne {guid guid' : UInt64} (h : guid' ≠ guid) (gs : Nat) (opcode : Opcode) :
    Forwarded.notice guid' ⟨gs, opcode, guid⟩ = none := if_neg (Ne.symm h)

/-- The next notice of a role goes out, and its entry changes side. -/
theorem Inv.told {s : State} (h : Inv s) (notice : Notice) {guid : UInt64}
    {info : RoleGsStateInfo} {gs : Nat} {opcode : Opcode} (hguid : info.roleGuid = guid)
    (hnotice : Forwarded.notice guid ⟨gs, opcode, guid⟩ = some notice)
    (hturn : notice = .enter ↔ ¬ s.entered guid)
    (hside : info.roleGsState.isInside ↔ notice = .enter) :
    Inv ((s.setRole guid (some info)).forward gs opcode guid) := by
  have hnew : ((s.setRole guid (some info)).forward gs opcode guid).notices guid =
      s.notices guid ++ [notice] := by
    rw [notices_forward, hnotice]
    rfl
  have hold : ∀ guid', guid' ≠ guid →
      ((s.setRole guid (some info)).forward gs opcode guid).notices guid' = s.notices guid' := by
    intro guid' hg
    exact notices_forward_none _ gs opcode guid guid' (notice_of_ne hg gs opcode)
  constructor
  · intro guid'
    by_cases hg : guid' = guid
    · rw [hg, hnew, alternate_snoc (by decide)]
      refine ⟨h.alternate guid, ?_⟩
      -- the side on which the table has the role tells whose turn it is
      unfold next
      by_cases hin : (s.notices guid).getLast? = some .enter
      · rw [if_pos hin]
        cases hn : notice with
        | leave => rfl
        | enter => exact absurd ((h.inside guid).mp hin) (hturn.mp hn)
      · rw [if_neg hin]
        exact hturn.mpr fun hent => hin ((h.inside guid).mpr hent)
    · rw [hold guid' hg]
      exact h.alternate guid'
  · intro guid'
    show _ ↔ ∃ info', Function.update s.roles guid (some info) guid' = some info' ∧ _
    by_cases hg : guid' = guid
    · unfold State.Inside
      rw [hg, Function.update_self, hnew, List.getLast?_append, List.getLast?_singleton,
        Option.some_or]
      constructor
      · intro hin
        exact ⟨info, rfl, hside.mpr (Option.some.inj hin)⟩
      · intro hin
        obtain ⟨info', heq, hin⟩ := hin
        obtain rfl : info = info' := Option.some.inj heq
        rw [hside.mp hin]
    · unfold State.Inside
      rw [hold guid' hg, Function.update_of_ne hg]
      exact h.inside guid'
  · intro guid' info' hinfo
    obtain ⟨rfl, rfl⟩ | ⟨-, hinfo⟩ := Lookup.update_some.mp hinfo
    · exact hguid
    · exact h.keyed guid' info' hinfo

/-- A packet of another kind changes nothing of this. -/
theorem Inv.other {s : State} (h : Inv s) (gs n : Nat) (guid : UInt64) :
    Inv (s.forward gs (.other n) guid) := by
  have hsame : ∀ guid', (s.forward gs (.other n) guid).notices guid' = s.notices guid' := by
    intro guid'
    apply notices_forward_none
    show (if guid = guid' then none else none : Option Notice) = none
    split <;> rfl
  constructor
  · intro guid'
    rw [hsame guid']
    exact h.alternate guid'
  · intro guid'
    unfold State.Inside
    rw [hsame guid']
    exact h.inside guid'
  · exact h.keyed

/-! ## §3. Steps. -/

/-- A role is in a game server's hands, and has not been told to leave. -/
def State.entering (s : State) (guid : UInt64) : Prop :=
  ∃ info, s.roles guid = some info ∧ info.roleGsState = .enterGame

/-- The orders in which the table is right: no leave of a role comes while it is still entering, and
    a game server answers a leave only after one was sent. -/
def Ordered (s : State) : Act → Prop
  | .clientPackage .leaveMap guid mapId => (s.gsSessions mapId).isSome → ¬ s.entering guid
  | .playerLeaveMap guid _ => ¬ s.entered guid
  | _ => True

variable {cfg : Config} {s s' : State}

/-- A leave of a role that is not entering. -/
theorem inv_handleLeaveMap (h : Inv s) {guid mapId : UInt64}
    (hc : (s.gsSessions mapId).isSome → ¬ s.entering guid) :
    Inv (handleLeaveMap s guid mapId).1 := by
  unfold handleLeaveMap
  cases hgs : s.gsSessions mapId with
  | none => exact h
  | some gs =>
      have hnot : ¬ s.entering guid := hc (by rw [hgs]; rfl)
      cases hrole : s.roles guid with
      | none =>
          have hcan : canLeaveGame s guid = false := by simp only [canLeaveGame, hrole]
          simp only [hcan]
          exact h
      | some info =>
          cases hstate : info.roleGsState with
          | enterGame => exact absurd ⟨info, hrole, hstate⟩ hnot
          | enterGameSuccess =>
              have hcan : canLeaveGame s guid = true := by simp [canLeaveGame, hrole, hstate]
              have hleave : leaveGame s guid =
                  s.setRole guid (some { info with roleGsState := .leaveGame }) := by
                simp only [leaveGame, hrole, hstate]
              simp only [hcan, if_true, hleave]
              refine h.told .leave (h.keyed guid info hrole) (if_pos rfl) ?_ ?_
              · have hent : s.entered guid := ⟨info, hrole, by rw [hstate]; trivial⟩
                exact iff_of_false (by decide) fun h => h hent
              · exact iff_of_false (fun h => h) (by decide)
          | leaveGame =>
              have hcan : canLeaveGame s guid = false := by simp [canLeaveGame, hrole, hstate]
              simp only [hcan]
              exact h
          | leaveGameSuccess =>
              have hcan : canLeaveGame s guid = false := by simp [canLeaveGame, hrole, hstate]
              simp only [hcan]
              exact h

/-- The log-off that `enterGame` starts for a role that is in already. -/
theorem inv_doLogoff (h : Inv s) {guid : UInt64} {info : RoleGsStateInfo}
    (hrole : s.roles guid = some info) (hst : doLogoff cfg s info = some s') : Inv s' := by
  unfold doLogoff at hst
  split at hst
  · exact Option.some.inj hst ▸ h
  · cases hstate : info.roleGsState with
    | enterGameSuccess =>
        simp only [hstate] at hst
        split at hst
        · cases hst
        · rw [← Option.some.inj hst]
          apply inv_handleLeaveMap h
          intro _ hent
          obtain ⟨info', hinfo', hstate'⟩ := hent
          rw [h.keyed guid info hrole] at hinfo'
          obtain rfl : info = info' := Option.some.inj (hrole.symm.trans hinfo')
          rw [hstate] at hstate'
          cases hstate'
    | enterGame =>
        simp only [hstate] at hst
        exact Option.some.inj hst ▸ h
    | leaveGame =>
        simp only [hstate] at hst
        exact Option.some.inj hst ▸ h
    | leaveGameSuccess =>
        simp only [hstate] at hst
        exact Option.some.inj hst ▸ h

/-- A new role enters; one that is known is logged off. -/
theorem inv_enterMap (h : Inv s) {guid mapId : UInt64} {result : State × Int}
    (hst : handleClientPackage cfg s .enterMap guid mapId = some result) : Inv result.1 := by
  unfold handleClientPackage at hst
  dsimp only at hst
  cases hgs : s.gsSessions mapId with
  | none =>
      simp only [hgs] at hst
      rw [← Option.some.inj hst]
      exact h
  | some gs =>
      simp only [hgs] at hst
      cases hrole : s.roles guid with
      | none =>
          have hcan : canEnterGame s guid = true := by simp only [canEnterGame, hrole]; rfl
          simp only [hcan, enterGame, hrole] at hst
          have heq : ((s.setRole guid (some { mapId := mapId, roleGuid := guid })).forward gs
              .enterMap guid, (0 : Int)) = result := Option.some.inj hst
          rw [← heq]
          refine h.told .enter rfl (if_pos rfl) ?_ ?_
          · refine iff_of_true rfl ?_
            intro hent
            obtain ⟨info, hinfo, -⟩ := hent
            rw [hrole] at hinfo
            cases hinfo
          · exact iff_of_true trivial rfl
      | some info =>
          have hcan : canEnterGame s guid = false := by simp only [canEnterGame, hrole]; rfl
          simp only [hcan, enterGame, hrole] at hst
          obtain ⟨m, hm, heq⟩ := Option.map_eq_some_iff.mp hst
          rw [← heq]
          have hmark : Inv (s.setRole guid (some { info with roleOffline := true })) := by
            refine h.setRole (h.keyed guid info hrole) ?_
            -- the mark changes nothing of the side
            constructor
            · intro hin
              exact ⟨info, hrole, hin⟩
            · intro hent
              obtain ⟨info', hinfo', hin⟩ := hent
              obtain rfl : info = info' := Option.some.inj (hrole.symm.trans hinfo')
              exact hin
          have hself : (s.setRole guid (some { info with roleOffline := true })).roles guid =
              some { info with roleOffline := true } := Function.update_self ..
          exact inv_doLogoff hmark hself hm

/-- The game server has the role now; a log-off that was put off goes out. -/
theorem inv_enterGameSuccess (h : Inv s) (guid : UInt64) : Inv (enterGameSuccess s guid) := by
  unfold enterGameSuccess
  cases hrole : s.roles guid with
  | none => exact h
  | some info =>
      dsimp only
      split
      · next hstate =>
          have hset : Inv (s.setRole guid (some { info with roleGsState := .enterGameSuccess })) := by
            refine h.setRole (h.keyed guid info hrole) ?_
            exact iff_of_true trivial ⟨info, hrole, by rw [hstate]; trivial⟩
          split
          · apply inv_handleLeaveMap hset
            intro _ hent
            obtain ⟨info', hinfo', hstate'⟩ := hent
            have hself : (s.setRole guid (some
                { info with roleGsState := .enterGameSuccess })).roles guid =
                some { info with roleGsState := .enterGameSuccess } := Function.update_self ..
            rw [← Option.some.inj (hself.symm.trans hinfo')] at hstate'
            cases hstate'
          · exact hset
      · exact h

/-- **Every step in order keeps the invariant.** -/
theorem inv_step {a : Act} (h : Inv s) (hc : Ordered s a) (hst : step cfg s a = some s') :
    Inv s' := by
  cases a with
  | registerMap mapId gs =>
      rw [← Option.some.inj hst]
      exact ⟨h.alternate, h.inside, h.keyed⟩
  | removeMap mapId =>
      rw [← Option.some.inj hst]
      exact ⟨h.alternate, h.inside, h.keyed⟩
  | clientPackage opcode guid mapId =>
      obtain ⟨result, hresult, heq⟩ := Option.map_eq_some_iff.mp hst
      rw [← heq]
      cases opcode with
      | enterMap => exact inv_enterMap h hresult
      | leaveMap =>
          have hleave : handleLeaveMap s guid mapId = result := Option.some.inj hresult
          rw [← hleave]
          exact inv_handleLeaveMap h hc
      | other n =>
          unfold handleClientPackage at hresult
          dsimp only at hresult
          split at hresult
          · rw [← Option.some.inj hresult]
            exact h
          · rw [← Option.some.inj hresult]
            exact h.other _ n guid
  | createSelf guid =>
      rw [← Option.some.inj hst]
      exact inv_enterGameSuccess h guid
  | jumpMap guid target =>
      rw [← Option.some.inj hst]
      unfold jumpMapSuccess
      cases hrole : s.roles guid with
      | none => exact h
      | some info =>
          refine h.setRole (h.keyed guid info hrole) ?_
          constructor
          · intro hin
            exact ⟨info, hrole, hin⟩
          · intro hent
            obtain ⟨info', hinfo', hin⟩ := hent
            obtain rfl : info = info' := Option.some.inj (hrole.symm.trans hinfo')
            exact hin
  | playerLeaveMap guid client =>
      have hforget : Inv (s.setRole guid none) := h.forget hc
      cases client with
      | none => exact Option.some.inj hst ▸ hforget
      | some location =>
          obtain ⟨result, hresult, heq⟩ := Option.map_eq_some_iff.mp hst
          rw [← heq]
          exact inv_enterMap hforget hresult

theorem inv_init : Inv init where
  alternate _ := trivial
  inside guid := by
    constructor
    · intro h
      cases h
    · intro h
      obtain ⟨info, hinfo, -⟩ := h
      cases hinfo
  keyed guid info hinfo := by cases hinfo

/-- **The notices of every role alternate** in the runs in which no role leaves while it is entering
    and no game server answers a leave that was not sent. -/
theorem reachable_alternates (hr : (system cfg).ReachableWhen Ordered s) : Alternates s := by
  have hinv : Inv s := by
    apply hr.invariant (I := Inv)
    · intro s hs
      obtain rfl : s = init := hs
      exact inv_init
    · intro s a s' hi hc hst
      exact inv_step hi hc hst
  exact hinv.alternate

/-- A role enters, is created, leaves, is answered, and enters again. -/
def orderedRun : List Act :=
  [.registerMap 1 0, .clientPackage .enterMap 7 1, .createSelf 7, .clientPackage .leaveMap 7 1,
    .playerLeaveMap 7 none, .clientPackage .enterMap 7 1]

theorem ordered_orderedRun : (system {}).RunMeets Ordered init orderedRun := by
  refine ⟨trivial, _, rfl, trivial, _, rfl, trivial, _, rfl, ?_, _, rfl, ?_, _, rfl, trivial, _,
    rfl, trivial⟩
  · intro _ hent
    obtain ⟨info, hinfo, hstate⟩ := hent
    rw [← Option.some.inj hinfo] at hstate
    cases hstate
  · intro hent
    obtain ⟨info, hinfo, hin⟩ := hent
    rw [← Option.some.inj hinfo] at hin
    exact hin

theorem alternates_orderedRun :
    ∃ s', (system {}).run init orderedRun = some s' ∧ s'.notices 7 = [.enter, .leave, .enter] ∧
      Alternates s' :=
  ⟨_, rfl, by decide, reachable_alternates
    (TransSys.reachableWhen_of_run (M := system {}) rfl ordered_orderedRun rfl)⟩

/-- **A role leaves twice**: its leave comes before the game server has created it, and goes out at
    once and a second time after the answer. -/
theorem left_twice :
    ∃ s', (system {}).run init [.registerMap 1 0, .clientPackage .enterMap 7 1,
        .clientPackage .leaveMap 7 1, .createSelf 7] = some s' ∧
      s'.notices 7 = [.enter, .leave, .leave] ∧ ¬ Alternates s' := by
  refine ⟨_, rfl, by decide, ?_⟩
  intro h
  obtain ⟨-, -, hthird, -⟩ := h 7
  cases hthird

end Steppingstone.RoleState
