/-
  Steppingstone.Wobble.Routes — what the steps of the role map leave alone.
-/
import Steppingstone.Wobble.Model
import Steppingstone.Lib.Lookup

namespace Steppingstone.Wobble

open Gate

/-! ## §1. Kept. -/

/-- The session is in the cooler's hands: it will be closed. -/
def GivenUp (s : GateState) (i : SessionId) : Prop :=
  ∃ cs, s.sessions i = some cs ∧ cs.inCooler = true

/-- Entries of the role map are old ones or `new`; sessions in the cooler stay there. -/
structure Keeps (new : UInt64 → SessionId → Prop) (s s' : GateState) : Prop where
  mapped : ∀ g i, s'.roleMap g = some i → s.roleMap g = some i ∨ new g i
  cooled : ∀ i, GivenUp s i → GivenUp s' i

variable {new : UInt64 → SessionId → Prop} {s s' t : GateState}

theorem Keeps.refl (s : GateState) : Keeps new s s :=
  ⟨fun _ _ h => Or.inl h, fun _ h => h⟩

/-- Where nothing is new, what is in the map was there. -/
theorem Keeps.old (h : Keeps (fun _ _ => False) s s') {g : UInt64} {i : SessionId}
    (hi : s'.roleMap g = some i) : s.roleMap g = some i :=
  (h.mapped g i hi).resolve_right id

/-- The same role map over the same sessions. -/
theorem Keeps.congr (h : Keeps new s s') (hmap : t.roleMap = s'.roleMap)
    (hsess : t.sessions = s'.sessions) : Keeps new s t where
  mapped g i hi := h.mapped g i (by rwa [hmap] at hi)
  cooled i hi := by
    obtain ⟨cs, hcs, hflag⟩ := h.cooled i hi
    exact ⟨cs, by rw [hsess, hcs], hflag⟩

/-- A change of a session that leaves it in the cooler. -/
theorem Keeps.modify (h : Keeps new s s') (i : SessionId) {f : ClientSession → ClientSession}
    (hcool : ∀ cs, cs.inCooler = true → (f cs).inCooler = true) :
    Keeps new s (s'.modify i f) where
  mapped := h.mapped
  cooled j hj := by
    obtain ⟨cs, hcs, hflag⟩ := h.cooled j hj
    by_cases hji : j = i
    · subst hji
      exact ⟨f cs, modify_sessions hcs, hcool cs hflag⟩
    · refine ⟨cs, ?_, hflag⟩
      show Function.update s'.sessions i _ j = some cs
      rw [Function.update_of_ne hji, hcs]

theorem Keeps.send (h : Keeps new s s') (p : GsPacket) : Keeps new s (s'.send p) :=
  h.congr rfl rfl

/-- A session that is displaced goes to the cooler. -/
theorem Keeps.displace (h : Keeps new s s') (g : UInt64) (i : SessionId) :
    Keeps new s (s'.displace g i) :=
  h.congr rfl rfl

/-- A role that is erased has no session. -/
theorem Keeps.eraseRole (h : Keeps new s s') (g : UInt64) : Keeps new s (s'.eraseRole g) where
  mapped g' i hi := by
    exact h.mapped g' i (Lookup.update_none.mp hi).2
  cooled := h.cooled

theorem Keeps.putClientSession (h : Keeps new s s') (i : SessionId) :
    Keeps new s (s'.putClientSession i) := by
  unfold GateState.putClientSession
  split
  · exact h
  · split
    · exact h
    · -- the lists of the cooler are not read here
      exact (h.modify i fun _ _ => rfl).congr rfl rfl

/-- A session that exists is in the cooler's hands once it was put there. -/
theorem givenUp_putClientSession {i : SessionId} {cs : ClientSession}
    (hcs : s.sessions i = some cs) : GivenUp (s.putClientSession i) i := by
  unfold GateState.putClientSession
  rw [hcs]
  show GivenUp (if cs.inCooler = true then s else _) i
  by_cases hflag : cs.inCooler = true
  · rw [if_pos hflag]
    exact ⟨cs, hcs, hflag⟩
  · rw [if_neg hflag]
    exact ⟨_, modify_sessions hcs, rfl⟩

theorem Keeps.logoff (h : Keeps new s s') (g : UInt64) (i : SessionId) :
    Keeps new s (Gate.logoff s' g i) :=
  (((h.eraseRole g).send _).modify i (by intro _ hflag; exact hflag)).putClientSession i

theorem Keeps.cleanRoleInfo (h : Keeps new s s') (g : UInt64) :
    Keeps new s (Gate.cleanRoleInfo s' g) := by
  unfold Gate.cleanRoleInfo
  split
  · exact h.logoff g _
  · exact h

theorem Keeps.cleanRoleAndLogoff (h : Keeps new s s') (g : UInt64) :
    Keeps new s (Gate.cleanRoleAndLogoff s' g) := by
  unfold Gate.cleanRoleAndLogoff
  split
  · exact (h.logoff g _).displace g _
  · exact h

theorem Keeps.removeRole (h : Keeps new s s') (g : UInt64) (i : SessionId) :
    Keeps new s (removeRoleClientSession s' g i) := by
  unfold removeRoleClientSession
  split
  · exact h.eraseRole g
  · exact h

theorem Keeps.handleClose (h : Keeps new s s') (i : SessionId) (cs : ClientSession) :
    Keeps new s (Gate.handleClose s' i cs) := by
  unfold Gate.handleClose
  split
  · simp only
    split
    · exact (h.send _).removeRole _ i
    · exact h.removeRole _ i
  · split
    · exact h.removeRole _ i
    · exact h

/-- A session comes under a guid. -/
theorem Keeps.enter (h : Keeps new s s') {g : UInt64} {i : SessionId} (hnew : new g i)
    (hmap : t.roleMap = Function.update s'.roleMap g (some i)) (hsess : t.sessions = s'.sessions) :
    Keeps new s t := by
  refine ⟨fun g' j hj => ?_, (h.congr (t := { s' with sessions := t.sessions }) rfl hsess).cooled⟩
  rw [hmap] at hj
  by_cases hg : g' = g
  · subst hg
    rw [Function.update_self] at hj
    obtain rfl := Option.some.inj hj
    exact Or.inr hnew
  · rw [Function.update_of_ne hg] at hj
    exact h.mapped g' j hj

/-- Only the new route is added. -/
theorem Keeps.collect (h : Keeps new s s') {g : UInt64} {i : SessionId} (hnew : new g i) :
    Keeps new s (collectRoleClientSession s' g i) := by
  have hset : Keeps new s (s'.modify i fun cs => { cs with roleGuid := g }) :=
    h.modify i (by intro _ hflag; exact hflag)
  unfold collectRoleClientSession
  simp only
  split
  · rename_i o _
    have hold : Keeps new s ((((s'.modify i fun cs => { cs with roleGuid := g }).modify o fun cs =>
        { cs with loginAgain := true }).putClientSession o).eraseRole g) :=
      ((hset.modify o (by intro _ hflag; exact hflag)).putClientSession o).eraseRole g
    exact hold.enter hnew rfl rfl
  · exact hset.enter hnew rfl rfl

theorem Keeps.changeClientRoute (h : Keeps new s s') {i : SessionId} (temp : UInt64) {role : UInt64}
    (hnew : new role i) : Keeps new s (Gate.changeClientRoute s' i temp role) := by
  have hset : Keeps new s ((s'.modify i fun cs => { cs with roleGuid := role }).eraseRole temp) :=
    (h.modify i (by intro _ hflag; exact hflag)).eraseRole temp
  unfold Gate.changeClientRoute
  simp only
  split
  · apply Keeps.displace
    apply Keeps.putClientSession
    exact hset.congr rfl rfl
  · exact hset.enter hnew rfl rfl

/-! ## §2. The steps of the role map. -/

/-- A step of the role map that is not a connection, a stage of an entry or the end of a session
    brings nobody anywhere. -/
theorem gateStep_keeps {a : Gate.Act} (hs : Gate.step s a = some s') (hc : a ≠ .connect)
    (hadv : ∀ j found, a ≠ .advance j found) (hexp : ∀ i, a ≠ .expire i) : Keeps new s s' := by
  cases a with
  | connect => exact absurd rfl hc
  | advance j found => exact absurd rfl (hadv j found)
  | expire i => exact absurd rfl (hexp i)
  | roleList guid info =>
      obtain ⟨i, _, rfl⟩ := Option.map_eq_some_iff.mp hs
      apply (Keeps.refl s).modify
      intro cs hflag
      cases info with
      | none => exact hflag
      | some info =>
          simp only [ClientSession.playerLineInfo]
          split <;> exact hflag
  | enterMap guid role =>
      obtain ⟨cs, _, hs⟩ := Option.bind_eq_some_iff.mp hs
      split at hs <;> obtain rfl := Option.some.inj hs
      · exact (Keeps.refl s).congr rfl rfl
      · exact Keeps.refl s
  | jumpMap guid mapId found =>
      replace hs : (if found = true then _ else some s) = some s' := hs
      split at hs
      · split at hs <;> obtain rfl := Option.some.inj hs
        · exact ((Keeps.refl s).send _).modify _ (by intro _ hflag; exact hflag)
        · exact ((Keeps.refl s).send _).send _
      · obtain rfl := Option.some.inj hs
        exact Keeps.refl s
  | drop guid notFound =>
      obtain ⟨i, _, rfl⟩ := Option.map_eq_some_iff.mp hs
      exact ((Keeps.refl s).modify i (by intro _ hflag; exact hflag)).putClientSession i
  | dropSession i =>
      obtain ⟨cs, _, rfl⟩ := Option.map_eq_some_iff.mp hs
      exact ((Keeps.refl s).modify i (by intro _ hflag; exact hflag)).putClientSession i
  | cleanPlayerInfo guid =>
      obtain rfl := Option.some.inj hs
      exact (Keeps.refl s).cleanRoleInfo guid
  | close i =>
      replace hs : (if i ∈ s.cooler then _ else none) = some s' := hs
      split at hs
      case isFalse => cases hs
      obtain ⟨cs, _, rfl⟩ := Option.map_eq_some_iff.mp hs
      simp only
      split
      · exact (Keeps.refl s).congr rfl rfl
      · apply Keeps.handleClose
        exact (Keeps.refl s).congr rfl rfl

/-- A connection brings the new session, and nobody else. -/
theorem connect_keeps (h : Inv s) (hs : Gate.step s .connect = some s') :
    Keeps (fun _ i => i = s.next) s s' := by
  obtain rfl := Option.some.inj hs
  have hopen : Keeps (fun _ i => i = s.next) s { s with
      sessions := Function.update s.sessions s.next
        (some { roleGuid := ((s.tempGuid + 1) % 0xFFFFFFF).toUInt64 })
      next := s.next + 1
      tempGuid := (s.tempGuid + 1) % 0xFFFFFFF } := by
    refine ⟨fun _ _ hi => Or.inl hi, fun i hi => ?_⟩
    obtain ⟨cs, hcs, hflag⟩ := hi
    have hne : i ≠ s.next := by
      intro he
      rw [he, (h.fresh s.next (Nat.le_refl _)).1] at hcs
      cases hcs
    refine ⟨cs, ?_, hflag⟩
    show Function.update s.sessions s.next _ i = some cs
    rw [Function.update_of_ne hne, hcs]
  exact hopen.collect rfl

/-! ## §3. Entering. -/

/-- What an entry needs to bring session `i` from `guid` to `role`. -/
def Enters (s : GateState) (guid role : UInt64) (i : SessionId) : Prop :=
  s.roleMap guid = some i ∧ guid ≠ role ∧
    ∃ cs, s.sessions i = some cs ∧ cs.canEnterGame = true ∧
      (cs.getAccountRoleInfo role).isSome = true

/-- Nobody is under the role after its session has been logged off. -/
theorem cleanRoleAndLogoff_role (h : Inv s) (role : UInt64) :
    (cleanRoleAndLogoff s role).roleMap role = none := by
  unfold cleanRoleAndLogoff
  split
  · rename_i i hi
    match hmap : ((logoff s role i).displace role i).roleMap role with
    | none => rfl
    | some j =>
        have hj : (logoff s role i).roleMap role = some j := hmap
        have hold : s.roleMap role = some j :=
          Keeps.old ((Keeps.refl s).logoff role i) hj
        obtain rfl : i = j := Option.some.inj (hi.symm.trans hold)
        exact absurd hj ((logoff_spec h hi).2.1 role)
  · assumption

/-- Others keep their data. -/
theorem cleanRoleAndLogoff_sessions (role : UInt64) {i : SessionId}
    (hi : s.roleMap role ≠ some i) : (cleanRoleAndLogoff s role).sessions i = s.sessions i := by
  unfold cleanRoleAndLogoff
  split
  · rename_i o ho
    have hne : i ≠ o := by
      intro he
      exact hi (he ▸ ho)
    show (logoff s role o).sessions i = s.sessions i
    unfold logoff GateState.putClientSession
    simp only
    split
    · exact Function.update_of_ne hne ..
    · split
      · exact Function.update_of_ne hne ..
      · show Function.update (Function.update s.sessions o _) o _ i = s.sessions i
        rw [Function.update_of_ne hne, Function.update_of_ne hne]
  · rfl

/-- The two looks at the map in one go: what the second one finds is there, under its own guid. -/
theorem enter_routeFree (h : Inv s) {guid role : UInt64} {i : SessionId}
    (hi : (cleanRoleAndLogoff s role).roleMap guid = some i) :
    RouteFree (cleanRoleAndLogoff s role) i
      ((((cleanRoleAndLogoff s role).sessions i).map (·.roleGuid)).getD 0) role := by
  obtain ⟨cs, hcs, hguid, _⟩ := (inv_cleanRoleAndLogoff h role).mapped guid i hi
  rw [hcs]
  show RouteFree _ i cs.roleGuid role
  exact ⟨by rw [hguid, hi], Or.inr (cleanRoleAndLogoff_role h role)⟩

/-- Entering a map keeps the gate's invariant. -/
theorem inv_clientEnterMap (h : Inv s) {clientGuid role : UInt64} (found : Bool)
    (hfree : ∀ i, s.roleMap clientGuid = some i →
      RouteFree s i (((s.sessions i).map (·.roleGuid)).getD 0) role) :
    Inv (clientEnterMap s clientGuid role found) := by
  unfold clientEnterMap
  split
  · exact h
  · rename_i i hi
    split
    · rename_i info _
      have hroute := inv_modify (inv_changeClientRoute h (hfree i hi)) i
        (f := fun cs => { cs with lineNo := info.lineId, roleLocation := makeMapGuid info.mapId })
        (fun _ => rfl) (fun _ => rfl) fun _ => rfl
      simp only
      split
      · exact inv_modify (inv_send hroute _) i (fun _ => rfl) (fun _ => rfl) fun _ => rfl
      · split
        · rename_i i' _
          have hflag := inv_modify hroute i' (f := fun cs => { cs with notFoundGS := true })
            (fun _ => rfl) (fun _ => rfl) fun _ => rfl
          exact inv_putClientSession hflag i'
        · exact hroute
    · exact inv_putClientSession h i

/-- **An entry in one go** keeps the invariant of the role map. -/
theorem inv_handleEnterMap (h : Inv s) (guid role : UInt64) (found : Bool) :
    Inv (handleEnterMap s guid role found) := by
  unfold handleEnterMap
  split
  · exact h
  · split
    · exact inv_clientEnterMap (inv_cleanRoleAndLogoff h role) found
        fun i hi => enter_routeFree h hi
    · exact h

/-- Entering a map adds at most the new route. -/
theorem Keeps.clientEnterMap (h : Keeps new s s') {clientGuid role : UInt64} (found : Bool)
    (hnew : ∀ i, s'.roleMap clientGuid = some i →
      ((s'.sessions i).bind fun cs => cs.getAccountRoleInfo role).isSome = true → new role i) :
    Keeps new s (Wobble.clientEnterMap s' clientGuid role found) := by
  unfold Wobble.clientEnterMap
  split
  · exact h
  · rename_i i hi
    split
    · rename_i info hinfo
      have hroute : Keeps new s ((Gate.changeClientRoute s' i
          (((s'.sessions i).map (·.roleGuid)).getD 0) role).modify i fun cs =>
            { cs with lineNo := info.lineId, roleLocation := makeMapGuid info.mapId }) :=
        (h.changeClientRoute _ (hnew i hi (by rw [hinfo]; rfl))).modify i (by intro _ hflag; exact hflag)
      simp only
      split
      · exact (hroute.send _).modify i (by intro _ hflag; exact hflag)
      · split
        · exact (hroute.modify _ (by intro _ hflag; exact hflag)).putClientSession _
        · exact hroute
    · exact h.putClientSession i

/-- **Only the client that enters moves**, and only to its role. -/
theorem handleEnterMap_keeps (h : Inv s) (guid role : UInt64) (found : Bool) :
    Keeps (fun g i => g = role ∧ Enters s guid role i) s (handleEnterMap s guid role found) := by
  unfold handleEnterMap
  split
  · exact Keeps.refl s
  · rename_i cs hcs
    split
    · rename_i hcan
      refine ((Keeps.refl s).cleanRoleAndLogoff role).clientEnterMap found ?_
      intro i hi hinfo
      refine ⟨rfl, ?_⟩
      have hold : s.roleMap guid = some i :=
        Keeps.old ((Keeps.refl s).cleanRoleAndLogoff role) hi
      have hne : guid ≠ role := by
        intro he
        rw [he, cleanRoleAndLogoff_role h role] at hi
        cases hi
      rw [cleanRoleAndLogoff_sessions role fun hr => hne (h.single hold hr)] at hinfo
      rw [hold] at hcs
      replace hcs : s.sessions i = some cs := hcs
      rw [hcs] at hinfo
      exact ⟨hold, hne, cs, hcs, hcan, hinfo⟩
    · exact Keeps.refl s

end Steppingstone.Wobble
