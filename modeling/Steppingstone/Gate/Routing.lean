/-
  Steppingstone.Gate.Routing — the role map of the gate over whole runs.

  A session is in the map under its own guid and no other.  What can break this is the gap between
  the looks at the map: `changeClientRoute` writes the map for a session that it was given, without
  asking whether the session is still there, and where the role has been taken meanwhile it leaves
  the new session out.  Runs in which no handler or close falls into that gap keep all of it.
-/
import Steppingstone.Gate.Model
import Steppingstone.Lib.Lookup

namespace Steppingstone.Gate

/-! ## §1. The invariant. -/

/-- What holds between steps. -/
structure Inv (s : GateState) : Prop where
  /-- A session in the map has the guid it is under, and is not closed. -/
  mapped : ∀ g i, s.roleMap g = some i →
    ∃ cs, s.sessions i = some cs ∧ cs.roleGuid = g ∧ i ∉ s.cleaned
  last : ∀ g i, s.roleMap g = some i → s.lastEntered g = some i
  /-- The flag stands for a place in one of the cooler's lists. -/
  cooled : ∀ i cs, s.sessions i = some cs → cs.inCooler = true → i ∈ s.cooler ∨ i ∈ s.cleaned
  /-- A session whose role came online again has left the map. -/
  again : ∀ i cs, s.sessions i = some cs → cs.loginAgain = true → ∀ g, s.roleMap g ≠ some i
  displaced : ∀ g o, (g, o) ∈ s.displaced →
    (∀ g', s.roleMap g' ≠ some o) ∧ (o ∈ s.cooler ∨ o ∈ s.cleaned ∨ s.sessions o = none)
  /-- Numbers are not used twice. -/
  fresh : ∀ i, s.next ≤ i →
    s.sessions i = none ∧ i ∉ s.cooler ∧ i ∉ s.cleaned ∧ ∀ g, (g, i) ∉ s.displaced

theorem inv_init : Inv init where
  mapped _ _ h := by cases h
  last _ _ h := by cases h
  cooled _ _ h := by cases h
  again _ _ h := by cases h
  displaced _ _ h := absurd h List.not_mem_nil
  fresh _ _ := ⟨rfl, List.not_mem_nil, List.not_mem_nil, fun _ => List.not_mem_nil⟩

/-- A session is in the map once. -/
theorem Inv.single {s : GateState} (h : Inv s) {g g' : UInt64} {i : SessionId}
    (hg : s.roleMap g = some i) (hg' : s.roleMap g' = some i) : g = g' := by
  obtain ⟨cs, hcs, hguid, _⟩ := h.mapped g i hg
  obtain ⟨cs', hcs', hguid', _⟩ := h.mapped g' i hg'
  obtain rfl : cs = cs' := Option.some.inj (hcs.symm.trans hcs')
  exact hguid.symm.trans hguid'

/-! ## §2. The parts of a step. -/

/-- A session after a change of one. -/
theorem modify_sessions_some {s : GateState} {i j : SessionId} {f : ClientSession → ClientSession}
    {cs' : ClientSession} (h : (s.modify i f).sessions j = some cs') :
    ∃ cs, s.sessions j = some cs ∧ (cs' = cs ∨ (j = i ∧ cs' = f cs)) := by
  by_cases hj : j = i
  · subst hj
    replace h : Function.update s.sessions j ((s.sessions j).map f) j = some cs' := h
    rw [Function.update_self] at h
    obtain ⟨cs, hcs, hf⟩ := Option.map_eq_some_iff.mp h
    exact ⟨cs, hcs, Or.inr ⟨rfl, hf.symm⟩⟩
  · replace h : Function.update s.sessions i ((s.sessions i).map f) j = some cs' := h
    rw [Function.update_of_ne hj] at h
    exact ⟨cs', h, Or.inl rfl⟩

theorem modify_sessions_none {s : GateState} {i j : SessionId} {f : ClientSession → ClientSession} :
    (s.modify i f).sessions j = none ↔ s.sessions j = none := by
  show Function.update s.sessions i ((s.sessions i).map f) j = none ↔ _
  by_cases hj : j = i
  · subst hj
    rw [Function.update_self, Option.map_eq_none_iff]
  · rw [Function.update_of_ne hj]

theorem modify_sessions {s : GateState} {i : SessionId} {f : ClientSession → ClientSession}
    {cs : ClientSession} (h : s.sessions i = some cs) : (s.modify i f).sessions i = some (f cs) := by
  show Function.update s.sessions i ((s.sessions i).map f) i = _
  rw [Function.update_self, h]
  rfl

/-- A session can change what routing does not read, and more when it is off the map. -/
theorem inv_modify_of {s : GateState} (h : Inv s) {i : SessionId}
    {f : ClientSession → ClientSession}
    (hguid : ∀ g, s.roleMap g = some i → ∀ cs, (f cs).roleGuid = cs.roleGuid)
    (hcool : ∀ cs, (f cs).inCooler = cs.inCooler)
    (hagain : ∀ cs, (f cs).loginAgain = true →
      cs.loginAgain = true ∨ ∀ g, s.roleMap g ≠ some i) : Inv (s.modify i f) where
  mapped g j hj := by
    obtain ⟨cs, hcs, hg, hclean⟩ := h.mapped g j hj
    by_cases hji : j = i
    · subst hji
      exact ⟨f cs, modify_sessions hcs, (hguid g hj cs).trans hg, hclean⟩
    · refine ⟨cs, ?_, hg, hclean⟩
      show Function.update s.sessions i _ j = _
      rw [Function.update_of_ne hji, hcs]
  last := h.last
  cooled j cs' hj hflag := by
    obtain ⟨cs, hcs, rfl | ⟨_, rfl⟩⟩ := modify_sessions_some hj
    · exact h.cooled j cs' hcs hflag
    · exact h.cooled j cs hcs ((hcool cs).symm.trans hflag)
  again j cs' hj hflag := by
    obtain ⟨cs, hcs, rfl | ⟨rfl, rfl⟩⟩ := modify_sessions_some hj
    · exact h.again j cs' hcs hflag
    · obtain hold | hoff := hagain cs hflag
      · exact h.again j cs hcs hold
      · exact hoff
  displaced g o ho := by
    obtain ⟨hmap, hin⟩ := h.displaced g o ho
    exact ⟨hmap, hin.imp id fun h => h.imp id modify_sessions_none.mpr⟩
  fresh j hj := by
    obtain ⟨hnone, hrest⟩ := h.fresh j hj
    exact ⟨modify_sessions_none.mpr hnone, hrest⟩

/-- Data that routing does not read can change freely. -/
theorem inv_modify {s : GateState} (h : Inv s) (i : SessionId) {f : ClientSession → ClientSession}
    (hguid : ∀ cs, (f cs).roleGuid = cs.roleGuid) (hcool : ∀ cs, (f cs).inCooler = cs.inCooler)
    (hagain : ∀ cs, (f cs).loginAgain = cs.loginAgain) : Inv (s.modify i f) :=
  inv_modify_of h (fun _ _ => hguid) hcool fun cs hf => Or.inl ((hagain cs).symm.trans hf)

/-- Erasing a role keeps the invariant. -/
theorem inv_eraseRole {s : GateState} (h : Inv s) (g : UInt64) : Inv (s.eraseRole g) := by
  have hsub : ∀ g' i, (s.eraseRole g).roleMap g' = some i → s.roleMap g' = some i := by
    intro g' i hi
    exact (Lookup.update_none.mp hi).2
  exact {
    mapped := fun g' i hi => h.mapped g' i (hsub g' i hi)
    last := fun g' i hi => h.last g' i (hsub g' i hi)
    cooled := h.cooled
    again := fun i cs hcs hflag g' hg' => h.again i cs hcs hflag g' (hsub g' i hg')
    displaced := fun g' o ho =>
      ⟨fun g'' hg'' => (h.displaced g' o ho).1 g'' (hsub g'' o hg''), (h.displaced g' o ho).2⟩
    fresh := h.fresh }

/-- Erasing the guid of a session takes it off the map. -/
theorem eraseRole_unmapped {s : GateState} {g : UInt64} {i : SessionId}
    (hi : ∀ g', s.roleMap g' = some i → g' = g) : ∀ g', (s.eraseRole g).roleMap g' ≠ some i := by
  intro g' hg'
  obtain ⟨hg, hold⟩ := Lookup.update_none.mp hg'
  exact hg (hi g' hold)

/-- A session off the map can take another guid, or be marked. -/
theorem inv_modify_off {s : GateState} (h : Inv s) {i : SessionId}
    (hoff : ∀ g, s.roleMap g ≠ some i) {f : ClientSession → ClientSession}
    (hcool : ∀ cs, (f cs).inCooler = cs.inCooler) : Inv (s.modify i f) :=
  inv_modify_of h (fun g hg => absurd hg (hoff g)) hcool fun _ _ => Or.inr hoff

@[simp] theorem putClientSession_roleMap (s : GateState) (i : SessionId) :
    (s.putClientSession i).roleMap = s.roleMap := by
  unfold GateState.putClientSession
  split
  · rfl
  · split <;> rfl

@[simp] theorem putClientSession_cleaned (s : GateState) (i : SessionId) :
    (s.putClientSession i).cleaned = s.cleaned := by
  unfold GateState.putClientSession
  split
  · rfl
  · split <;> rfl

/-- So does putting a session into the cooler. -/
theorem inv_putClientSession {s : GateState} (h : Inv s) (i : SessionId) :
    Inv (s.putClientSession i) := by
  unfold GateState.putClientSession
  split
  · exact h
  · rename_i cs hcs
    split
    · exact h
    · have hmem : i ∈ (if i ∈ s.cooler then s.cooler else s.cooler ++ [i]) := by
        split
        · assumption
        · exact List.mem_append_right _ List.mem_cons_self
      have hsub : ∀ j, j ∈ s.cooler → j ∈ (if i ∈ s.cooler then s.cooler else s.cooler ++ [i]) := by
        intro j hj
        split
        · exact hj
        · exact List.mem_append_left _ hj
      have hlt : i < s.next := by
        by_contra hge
        rw [(h.fresh i (Nat.le_of_not_lt hge)).1] at hcs
        cases hcs
      exact {
        mapped := by
          intro g j hj
          obtain ⟨cs', hcs', hg, hclean⟩ := h.mapped g j hj
          by_cases hji : j = i
          · subst hji
            exact ⟨_, modify_sessions hcs', hg, hclean⟩
          · refine ⟨cs', ?_, hg, hclean⟩
            show Function.update s.sessions i _ j = _
            rw [Function.update_of_ne hji, hcs']
        last := h.last
        cooled := by
          intro j cs' hj hflag
          obtain ⟨cs'', hcs'', rfl | ⟨rfl, rfl⟩⟩ := modify_sessions_some hj
          · exact (h.cooled j cs' hcs'' hflag).imp (hsub j) id
          · exact Or.inl hmem
        again := by
          intro j cs' hj hflag
          obtain ⟨cs'', hcs'', rfl | ⟨_, rfl⟩⟩ := modify_sessions_some hj
          · exact h.again j cs' hcs'' hflag
          · exact h.again j cs'' hcs'' hflag
        displaced := by
          intro g o ho
          obtain ⟨hmap, hin⟩ := h.displaced g o ho
          exact ⟨hmap, hin.imp (hsub o) fun h => h.imp id modify_sessions_none.mpr⟩
        fresh := by
          intro j hj
          obtain ⟨hnone, hcooler, hrest⟩ := h.fresh j hj
          refine ⟨modify_sessions_none.mpr hnone, ?_, hrest⟩
          show j ∉ (if i ∈ s.cooler then s.cooler else s.cooler ++ [i])
          split
          · exact hcooler
          · intro hm
            obtain hm | hm := List.mem_append.mp hm
            · exact hcooler hm
            · obtain rfl := List.mem_singleton.mp hm
              exact absurd hlt (Nat.not_lt.mpr hj) }

/-- A session that was put there is in the cooler, or has been through it. -/
theorem mem_putClientSession {s : GateState} (h : Inv s) {i : SessionId} {cs : ClientSession}
    (hcs : s.sessions i = some cs) :
    i ∈ (s.putClientSession i).cooler ∨ i ∈ (s.putClientSession i).cleaned := by
  unfold GateState.putClientSession
  rw [hcs]
  show i ∈ (if cs.inCooler = true then s else _).cooler ∨ _
  by_cases hflag : cs.inCooler = true
  · simp only [if_pos hflag]
    exact h.cooled i cs hcs hflag
  · simp only [if_neg hflag]
    left
    show i ∈ (if i ∈ s.cooler then s.cooler else s.cooler ++ [i])
    split
    · assumption
    · exact List.mem_append_right _ List.mem_cons_self

/-- Recording a session that is off the map and in the cooler. -/
theorem inv_displace {s : GateState} (h : Inv s) {g : UInt64} {o : SessionId}
    (hmap : ∀ g', s.roleMap g' ≠ some o) (hin : o ∈ s.cooler ∨ o ∈ s.cleaned) :
    Inv (s.displace g o) where
  mapped := h.mapped
  last := h.last
  cooled := h.cooled
  again := h.again
  displaced g' o' ho' := by
    obtain ho' | ho' := List.mem_append.mp ho'
    · exact h.displaced g' o' ho'
    · obtain ⟨rfl, rfl⟩ := Prod.mk.inj (List.mem_singleton.mp ho')
      exact ⟨hmap, hin.imp id Or.inl⟩
  fresh j hj := by
    obtain ⟨hnone, hcooler, hclean, hdis⟩ := h.fresh j hj
    refine ⟨hnone, hcooler, hclean, fun g' hm => ?_⟩
    obtain hm | hm := List.mem_append.mp hm
    · exact hdis g' hm
    · obtain ⟨_, rfl⟩ := Prod.mk.inj (List.mem_singleton.mp hm)
      exact hin.elim hcooler hclean

/-- A session comes to a guid that nobody is at. -/
theorem inv_enter {s : GateState} (h : Inv s) {g : UInt64} {i : SessionId} {cs : ClientSession}
    (hcs : s.sessions i = some cs) (hguid : cs.roleGuid = g) (hclean : i ∉ s.cleaned)
    (hagain : cs.loginAgain = false) (hdis : ∀ g', (g', i) ∉ s.displaced) :
    Inv { s with
      roleMap := Function.update s.roleMap g (some i)
      lastEntered := Function.update s.lastEntered g (some i) } where
  mapped g' j hj := by
    obtain ⟨rfl, rfl⟩ | ⟨-, hj⟩ := Lookup.update_some.mp hj
    · exact ⟨cs, hcs, hguid, hclean⟩
    · exact h.mapped g' j hj
  last g' j hj := by
    replace hj : Function.update s.roleMap g (some i) g' = some j := hj
    show Function.update s.lastEntered g (some i) g' = some j
    by_cases hg : g' = g
    · subst hg
      rw [Function.update_self] at hj ⊢
      exact hj
    · rw [Function.update_of_ne hg] at hj ⊢
      exact h.last g' j hj
  cooled := h.cooled
  again j cs' hj hflag g' hg' := by
    obtain ⟨-, rfl⟩ | ⟨-, hg'⟩ := Lookup.update_some.mp hg'
    · obtain rfl : cs = cs' := Option.some.inj (hcs.symm.trans hj)
      rw [hagain] at hflag
      cases hflag
    · exact h.again j cs' hj hflag g' hg'
  displaced g' o ho := by
    obtain ⟨hmap, hin⟩ := h.displaced g' o ho
    refine ⟨fun g'' hg'' => ?_, hin⟩
    obtain ⟨-, rfl⟩ | ⟨-, hg''⟩ := Lookup.update_some.mp hg''
    · exact hdis g' ho
    · exact hmap g'' hg''
  fresh := h.fresh

/-! ## §3. The functions that write the map. -/

theorem inv_send {s : GateState} (h : Inv s) (p : GsPacket) : Inv (s.send p) :=
  ⟨h.mapped, h.last, h.cooled, h.again, h.displaced, h.fresh⟩

theorem inv_removeRole {s : GateState} (h : Inv s) (g : UInt64) (i : SessionId) :
    Inv (removeRoleClientSession s g i) := by
  unfold removeRoleClientSession
  split
  · exact inv_eraseRole h g
  · exact h

/-- Logging a session off takes it off the map and puts it into the cooler. -/
theorem logoff_spec {s : GateState} (h : Inv s) {g : UInt64} {i : SessionId}
    (hi : s.roleMap g = some i) :
    Inv (logoff s g i) ∧ (∀ g', (logoff s g i).roleMap g' ≠ some i) ∧
      (i ∈ (logoff s g i).cooler ∨ i ∈ (logoff s g i).cleaned) := by
  obtain ⟨cs, hcs, _⟩ := h.mapped g i hi
  have hmid : Inv (((s.eraseRole g).send
      (.leaveMap g (((s.sessions i).map (·.roleLocation)).getD 0) 0)).modify i
        fun cs => { cs with leftGame := true }) :=
    inv_modify (inv_send (inv_eraseRole h g) _) i (fun _ => rfl) (fun _ => rfl) fun _ => rfl
  refine ⟨inv_putClientSession hmid i, ?_, mem_putClientSession hmid (modify_sessions hcs)⟩
  intro g' hg'
  unfold logoff at hg'
  rw [putClientSession_roleMap] at hg'
  exact eraseRole_unmapped (fun g'' hg'' => h.single hg'' hi) g' hg'

theorem inv_cleanRoleInfo {s : GateState} (h : Inv s) (g : UInt64) : Inv (cleanRoleInfo s g) := by
  unfold cleanRoleInfo
  split
  · rename_i i hi
    exact (logoff_spec h hi).1
  · exact h

theorem inv_cleanRoleAndLogoff {s : GateState} (h : Inv s) (g : UInt64) :
    Inv (cleanRoleAndLogoff s g) := by
  unfold cleanRoleAndLogoff
  split
  · rename_i i hi
    obtain ⟨hinv, hmap, hin⟩ := logoff_spec h hi
    exact inv_displace hinv hmap hin
  · exact h

/-- The condition on a change of route: the session is still in the map under the guid it had, and
    nobody else is under the role. -/
def RouteFree (s : GateState) (i : SessionId) (temp role : UInt64) : Prop :=
  s.roleMap temp = some i ∧ (role = temp ∨ s.roleMap role = none)

instance (s : GateState) (i : SessionId) (temp role : UInt64) :
    Decidable (RouteFree s i temp role) :=
  inferInstanceAs (Decidable (_ ∧ _))

theorem eraseRole_role {s : GateState} {i : SessionId} {temp role : UInt64}
    (hfree : RouteFree s i temp role) : Function.update s.roleMap temp none role = none := by
  by_cases hr : role = temp
  · rw [hr, Function.update_self]
  · rw [Function.update_of_ne hr]
    exact hfree.2.resolve_left hr

/-- A change of route keeps it if the role is free. -/
theorem inv_changeClientRoute {s : GateState} (h : Inv s) {i : SessionId} {temp role : UInt64}
    (hfree : RouteFree s i temp role) : Inv (changeClientRoute s i temp role) := by
  obtain ⟨cs, hcs, hguid, hclean⟩ := h.mapped temp i hfree.1
  have hagain : cs.loginAgain = false := by
    by_contra hflag
    exact h.again i cs hcs (by simpa using hflag) temp hfree.1
  have hdis : ∀ g', (g', i) ∉ s.displaced := fun g' hm => (h.displaced g' i hm).1 temp hfree.1
  -- off the map the session may change its guid
  have hoff := eraseRole_unmapped (g := temp) fun g' hg' => h.single hg' hfree.1
  have hinv : Inv ((s.modify i fun cs => { cs with roleGuid := role }).eraseRole temp) :=
    inv_modify_off (inv_eraseRole h temp) hoff fun _ => rfl
  have henter := inv_enter hinv (g := role) (i := i) (modify_sessions (s := s) hcs) rfl hclean hagain
    hdis
  unfold changeClientRoute
  simp only
  split
  · rename_i o ho
    replace ho : Function.update s.roleMap temp none role = some o := ho
    rw [eraseRole_role hfree] at ho
    cases ho
  · exact henter

/-- **A role that was taken meanwhile** stays with the session that took it, although the other came
    last; that one is left without a place in the map. -/
theorem changeClientRoute_taken {s : GateState} (h : Inv s) {i o : SessionId} {temp role : UInt64}
    (hi : s.roleMap temp = some i) (hne : role ≠ temp) (ho : s.roleMap role = some o) :
    (changeClientRoute s i temp role).roleMap role = some o ∧
      (changeClientRoute s i temp role).lastEntered role = some i ∧
      ∀ g, (changeClientRoute s i temp role).roleMap g ≠ some i := by
  have hoff := eraseRole_unmapped (s := s) (g := temp) fun g' hg' => h.single hg' hi
  have hrole : Function.update s.roleMap temp none role = some o := by
    rw [Function.update_of_ne hne, ho]
  have hroute : (changeClientRoute s i temp role).roleMap = Function.update s.roleMap temp none ∧
      (changeClientRoute s i temp role).lastEntered =
        Function.update s.lastEntered role (some i) := by
    unfold changeClientRoute
    simp only
    split
    · refine ⟨putClientSession_roleMap _ _, ?_⟩
      unfold GateState.putClientSession GateState.displace
      simp only
      split
      · rfl
      · split <;> rfl
    · rename_i hnone
      replace hnone : Function.update s.roleMap temp none role = none := hnone
      rw [hrole] at hnone
      cases hnone
  rw [hroute.1, hroute.2, Function.update_self]
  exact ⟨hrole, rfl, hoff⟩

/-- A new session takes its temporary guid; a session from an earlier round of the counter goes. -/
theorem inv_collect {s : GateState} (h : Inv s) {i : SessionId} {cs : ClientSession} {g : UInt64}
    (hcs : s.sessions i = some cs) (hguid : cs.roleGuid = g) (hclean : i ∉ s.cleaned)
    (hagain : cs.loginAgain = false) (hdis : ∀ g', (g', i) ∉ s.displaced)
    (hmap : ∀ g', s.roleMap g' ≠ some i) : Inv (collectRoleClientSession s g i) := by
  have hset : s.modify i (fun cs => { cs with roleGuid := g }) = s := by
    have hsame : Function.update s.sessions i
        ((s.sessions i).map fun cs => { cs with roleGuid := g }) = s.sessions := by
      rw [hcs]
      show Function.update s.sessions i (some { cs with roleGuid := g }) = _
      rw [← hguid, ← hcs]
      exact Function.update_eq_self i s.sessions
    unfold GateState.modify
    rw [hsame]
  unfold collectRoleClientSession
  rw [hset]
  simp only
  split
  · rename_i o ho
    have hne : i ≠ o := by
      intro he
      subst he
      exact hmap g ho
    obtain ⟨cso, hcso, hguido, hcleano⟩ := h.mapped g o ho
    -- the old session leaves the map before its flag is read again
    have hoff := eraseRole_unmapped (g := g) fun g' hg' => h.single hg' ho
    have hflag : Inv ((s.eraseRole g).modify o fun cs => { cs with loginAgain := true }) :=
      inv_modify_off (inv_eraseRole h g) hoff fun _ => rfl
    have hput := inv_putClientSession hflag o
    have hcomm : ((s.modify o fun cs => { cs with loginAgain := true }).putClientSession o).eraseRole
        g = ((s.eraseRole g).modify o fun cs => { cs with loginAgain := true }).putClientSession o := by
      unfold GateState.putClientSession
      have hsess : ((s.eraseRole g).modify o fun cs => { cs with loginAgain := true }).sessions =
          (s.modify o fun cs => { cs with loginAgain := true }).sessions := rfl
      rw [hsess]
      split
      · rfl
      · split <;> rfl
    rw [hcomm]
    have hdisp := inv_displace (g := g) (o := o) hput
      (by rw [putClientSession_roleMap]; exact hoff)
      (mem_putClientSession hflag (modify_sessions hcso))
    have hcs' : (((s.eraseRole g).modify o fun cs =>
        { cs with loginAgain := true }).putClientSession o).sessions i = some cs := by
      have hone : ((s.eraseRole g).modify o fun cs =>
          { cs with loginAgain := true }).sessions i = some cs := by
        show Function.update s.sessions o _ i = _
        rw [Function.update_of_ne hne, hcs]
      unfold GateState.putClientSession
      split
      · exact hone
      · split
        · exact hone
        · show Function.update _ o _ i = _
          rw [Function.update_of_ne hne, hone]
    refine inv_enter hdisp hcs' hguid ?_ hagain ?_
    · show i ∉ (GateState.putClientSession _ o).cleaned
      rw [putClientSession_cleaned]
      exact hclean
    · intro g' hm
      obtain hm | hm := List.mem_append.mp hm
      · refine hdis g' ?_
        have hsame : (((s.eraseRole g).modify o fun cs =>
            { cs with loginAgain := true }).putClientSession o).displaced = s.displaced := by
          unfold GateState.putClientSession
          split
          · rfl
          · split <;> rfl
        rw [← hsame]
        exact hm
      · exact hne (Prod.mk.inj (List.mem_singleton.mp hm)).2
  · exact inv_enter h hcs hguid hclean hagain hdis

/-! ## §4. Steps and runs. -/

theorem inv_handleClose {s : GateState} (h : Inv s) (i : SessionId) (cs : ClientSession) :
    Inv (handleClose s i cs) := by
  unfold handleClose
  split
  · simp only
    split
    · exact inv_removeRole (inv_send h _) _ i
    · exact inv_removeRole h _ i
  · split
    · exact inv_removeRole h _ i
    · exact h

/-- A role is removed only from the session that has it. -/
theorem removeRole_roleMap (s : GateState) (g : UInt64) (i : SessionId) :
    (removeRoleClientSession s g i).roleMap =
      if s.roleMap g = some i then Function.update s.roleMap g none else s.roleMap := by
  unfold removeRoleClientSession
  split <;> rfl

/-- What a close does to the map. -/
theorem handleClose_roleMap (s : GateState) (i : SessionId) (cs : ClientSession) :
    (handleClose s i cs).roleMap =
      if ¬ cs.loginAgain = true ∨ cs.roleGuid < 0xFFFFFFFF then
        if s.roleMap cs.roleGuid = some i then Function.update s.roleMap cs.roleGuid none
        else s.roleMap
      else s.roleMap := by
  unfold handleClose
  by_cases hagain : cs.loginAgain = true
  · rw [if_neg (fun h => h hagain)]
    by_cases hlow : cs.roleGuid < 0xFFFFFFFF
    · rw [if_pos hlow, if_pos (Or.inr hlow), removeRole_roleMap]
    · rw [if_neg hlow, if_neg (fun h => h.elim (fun h => h hagain) hlow)]
  · rw [if_pos hagain, if_pos (Or.inl hagain)]
    simp only
    split
    · exact removeRole_roleMap (s.send _) cs.roleGuid i
    · exact removeRole_roleMap s cs.roleGuid i

/-- A close that goes through the cooler leaves the session off the map. -/
theorem handleClose_unmapped {s : GateState} (h : Inv s) {i : SessionId} {cs : ClientSession}
    (hcs : s.sessions i = some cs) : ∀ g, (handleClose s i cs).roleMap g ≠ some i := by
  -- the session is under its own guid, and that is the one that is erased
  have hown : ∀ g, s.roleMap g = some i → g = cs.roleGuid := by
    intro g hg
    obtain ⟨cs', hcs', hguid, _⟩ := h.mapped g i hg
    obtain rfl : cs = cs' := Option.some.inj (hcs.symm.trans hcs')
    exact hguid.symm
  intro g hg
  rw [handleClose_roleMap] at hg
  split at hg
  · split at hg
    · exact eraseRole_unmapped (s := s) hown g hg
    · rename_i hne
      exact hne (hown g hg ▸ hg)
  · rename_i hkeep
    exact h.again i cs hcs (by simpa using fun h => hkeep (Or.inl h)) g hg

/-- The condition on a step: a change of route finds what it was given. -/
def Free (s : GateState) : Act → Prop
  | .advance j _ =>
      match s.jobs[j]? with
      | some ⟨_, role, .route i temp _⟩ => RouteFree s i temp role
      | _ => True
  | _ => True

instance (s : GateState) (a : Act) : Decidable (Free s a) := by
  unfold Free
  split
  · split <;> infer_instance
  · infer_instance

/-- The invariant does not speak of jobs. -/
theorem inv_jobs {s : GateState} (h : Inv s) (jobs : List EnterJob) :
    Inv { s with jobs := jobs } :=
  ⟨h.mapped, h.last, h.cooled, h.again, h.displaced, h.fresh⟩

theorem inv_advance {s : GateState} (h : Inv s) {job : EnterJob} (found : Bool)
    (hfree : ∀ i temp info, job.stage = .route i temp info → RouteFree s i temp job.roleGuid) :
    Inv (advance s job found).1 := by
  unfold advance
  cases hstage : job.stage with
  | clean => exact inv_cleanRoleAndLogoff h _
  | find =>
      simp only
      split
      · exact h
      · split
        · exact h
        · exact inv_putClientSession h _
  | route i temp info =>
      exact inv_modify (inv_changeClientRoute h (hfree i temp info hstage)) i (fun _ => rfl)
        (fun _ => rfl) fun _ => rfl
  | enter i info =>
      simp only
      split
      · exact inv_modify (inv_send h _) i (fun _ => rfl) (fun _ => rfl) fun _ => rfl
      · split
        · rename_i i' _
          have hflag := inv_modify h i' (f := fun cs => { cs with notFoundGS := true })
            (fun _ => rfl) (fun _ => rfl) fun _ => rfl
          exact inv_putClientSession hflag i'
        · exact h

theorem inv_connect {s s' : GateState} (h : Inv s) (hs : step s .connect = some s') : Inv s' := by
  obtain rfl := Option.some.inj hs
  obtain ⟨hnone, hcooler, hclean, hdis⟩ := h.fresh s.next (Nat.le_refl _)
  have hmap : ∀ g, s.roleMap g ≠ some s.next := by
    intro g hg
    obtain ⟨cs, hcs, _⟩ := h.mapped g s.next hg
    rw [hnone] at hcs
    cases hcs
  let temp := (s.tempGuid + 1) % 0xFFFFFFF
  let cs : ClientSession := { roleGuid := temp.toUInt64 }
  -- the address of the new session is not in use
  have hne : ∀ {i : SessionId} {cs' : ClientSession}, s.sessions i = some cs' → i ≠ s.next := by
    intro i cs' hi he
    rw [he, hnone] at hi
    cases hi
  have hinv : Inv { s with
      sessions := Function.update s.sessions s.next (some cs)
      next := s.next + 1
      tempGuid := temp } := {
    mapped := by
      intro g i hi
      obtain ⟨cs', hcs', hg, hc⟩ := h.mapped g i hi
      refine ⟨cs', ?_, hg, hc⟩
      show Function.update s.sessions s.next _ i = _
      rw [Function.update_of_ne (hne hcs'), hcs']
    last := h.last
    cooled := by
      intro i cs' hi hflag
      obtain ⟨-, rfl⟩ | ⟨-, hi⟩ := Lookup.update_some.mp hi
      · cases hflag
      · exact h.cooled i cs' hi hflag
    again := by
      intro i cs' hi hflag
      obtain ⟨-, rfl⟩ | ⟨-, hi⟩ := Lookup.update_some.mp hi
      · cases hflag
      · exact h.again i cs' hi hflag
    displaced := by
      intro g o ho
      obtain ⟨hm, hin⟩ := h.displaced g o ho
      refine ⟨hm, hin.imp id fun hin => hin.imp id fun hgone => ?_⟩
      have he : o ≠ s.next := fun he => hdis g (he ▸ ho)
      show Function.update s.sessions s.next _ o = none
      rw [Function.update_of_ne he, hgone]
    fresh := by
      intro i hi
      have hlt : s.next < i := hi
      obtain ⟨hn, hrest⟩ := h.fresh i (Nat.le_of_lt hlt)
      refine ⟨?_, hrest⟩
      show Function.update s.sessions s.next _ i = none
      rw [Function.update_of_ne (Nat.ne_of_gt hlt), hn] }
  have hnew : Function.update s.sessions s.next (some cs) s.next = some cs := Function.update_self ..
  exact inv_collect hinv hnew rfl hclean rfl hdis hmap

/-- A close keeps the invariant. -/
theorem inv_close {s s' : GateState} (h : Inv s) {i : SessionId}
    (hs : step s (.close i) = some s') : Inv s' := by
  replace hs : (if i ∈ s.cooler then _ else none) = some s' := hs
  split at hs
  case isFalse => cases hs
  obtain ⟨cs, hcs, rfl⟩ := Option.map_eq_some_iff.mp hs
  have hleft : ∀ j, j ∈ s.cooler → j ≠ i → j ∈ s.cooler.filter (· ≠ i) := fun j hj hne =>
    List.mem_filter.mpr ⟨hj, by simpa using hne⟩
  have hfresh : ∀ j, s.next ≤ j → j ∉ s.cooler.filter (· ≠ i) := fun j hj hm =>
    (h.fresh j hj).2.1 (List.mem_filter.mp hm).1
  simp only
  split
  · rename_i hclean
    -- closed before: it only leaves the cooler
    exact {
      mapped := h.mapped
      last := h.last
      cooled := by
        intro j cs' hj hflag
        by_cases hji : j = i
        · exact Or.inr (hji ▸ hclean)
        · exact (h.cooled j cs' hj hflag).imp (fun hm => hleft j hm hji) id
      again := h.again
      displaced := by
        intro g o ho
        obtain ⟨hm, hin⟩ := h.displaced g o ho
        refine ⟨hm, ?_⟩
        by_cases hoi : o = i
        · exact Or.inr (Or.inl (hoi ▸ hclean))
        · exact hin.imp (fun hm => hleft o hm hoi) id
      fresh := by
        intro j hj
        obtain ⟨hn, _, hrest⟩ := h.fresh j hj
        exact ⟨hn, hfresh j hj, hrest⟩ }
  · -- the map is put right first: the invariant wants closed sessions off it
    have hinv := inv_handleClose h i cs
    have hoff := handleClose_unmapped h hcs
    -- `handleClose` reads the map and the session only, so it may be done first
    have hother : ∀ t : GateState,
        (handleClose t i cs).sessions = t.sessions ∧ (handleClose t i cs).cooler = t.cooler ∧
        (handleClose t i cs).cleaned = t.cleaned ∧ (handleClose t i cs).displaced = t.displaced ∧
        (handleClose t i cs).next = t.next ∧ (handleClose t i cs).lastEntered = t.lastEntered := by
      intro t
      unfold handleClose removeRoleClientSession
      simp only
      repeat' split
      all_goals exact ⟨rfl, rfl, rfl, rfl, rfl, rfl⟩
    have hmap : ∀ t : GateState, t.roleMap = s.roleMap →
        (handleClose t i cs).roleMap = (handleClose s i cs).roleMap := by
      intro t ht
      rw [handleClose_roleMap, handleClose_roleMap, ht]
    obtain ⟨hsess, hcool, hcl, hdisp, hnext, hlast⟩ := hother { s with
      cooler := s.cooler.filter (· ≠ i), cleaned := s.cleaned ++ [i] }
    obtain ⟨hsess₀, hcool₀, hcl₀, hdisp₀, hnext₀, hlast₀⟩ := hother s
    have hmap' := hmap { s with
      cooler := s.cooler.filter (· ≠ i), cleaned := s.cleaned ++ [i] } rfl
    constructor
    · intro g j hj
      rw [hmap'] at hj
      obtain ⟨cs', hcs', hg, hc⟩ := hinv.mapped g j hj
      rw [hsess₀] at hcs'
      rw [hcl₀] at hc
      refine ⟨cs', by rw [hsess]; exact hcs', hg, ?_⟩
      rw [hcl]
      intro hm
      obtain hm | hm := List.mem_append.mp hm
      · exact hc hm
      · obtain rfl := List.mem_singleton.mp hm
        exact hoff g hj
    · intro g j hj
      rw [hmap'] at hj
      rw [hlast, ← hlast₀]
      exact hinv.last g j hj
    · intro j cs' hj hflag
      rw [hsess] at hj
      rw [hcool, hcl]
      by_cases hji : j = i
      · exact Or.inr (List.mem_append_right _ (by simp [hji]))
      · exact (h.cooled j cs' hj hflag).imp (fun hm => hleft j hm hji) (List.mem_append_left _)
    · intro j cs' hj hflag
      rw [hsess] at hj
      rw [hmap']
      exact hinv.again j cs' (by rw [hsess₀]; exact hj) hflag
    · intro g o ho
      rw [hdisp] at ho
      rw [hmap', hcool, hcl, hsess]
      refine ⟨(hinv.displaced g o (by rw [hdisp₀]; exact ho)).1, ?_⟩
      by_cases hoi : o = i
      · exact Or.inr (Or.inl (List.mem_append_right _ (by simp [hoi])))
      · exact (h.displaced g o ho).2.imp (fun hm => hleft o hm hoi)
          fun hin => hin.imp (List.mem_append_left _) id
    · intro j hj
      rw [hnext] at hj
      obtain ⟨hn, hc, hcl', hd⟩ := h.fresh j hj
      rw [hsess, hcool, hcl, hdisp]
      refine ⟨hn, hfresh j hj, ?_, hd⟩
      intro hm
      obtain hm | hm := List.mem_append.mp hm
      · exact hcl' hm
      · obtain rfl := List.mem_singleton.mp hm
        replace hn : s.sessions j = none := hn
        rw [hcs] at hn
        cases hn

theorem inv_expire {s s' : GateState} (h : Inv s) {i : SessionId}
    (hs : step s (.expire i) = some s') : Inv s' := by
  replace hs : (if i ∈ s.cleaned then _ else none) = some s' := hs
  split at hs
  case isFalse => cases hs
  rename_i hclean
  obtain rfl := Option.some.inj hs
  have hgone : Function.update s.sessions i none i = none := Function.update_self ..
  have hsome : ∀ {j : SessionId} {cs : ClientSession},
      Function.update s.sessions i none j = some cs → j ≠ i ∧ s.sessions j = some cs := by
    intro j cs hj
    by_cases hji : j = i
    · rw [hji, hgone] at hj
      cases hj
    · rw [Function.update_of_ne hji] at hj
      exact ⟨hji, hj⟩
  exact {
    mapped := by
      intro g j hj
      obtain ⟨cs, hcs, hg, hc⟩ := h.mapped g j hj
      have hji : j ≠ i := fun he => hc (he ▸ hclean)
      refine ⟨cs, ?_, hg, fun hm => hc (List.mem_filter.mp hm).1⟩
      show Function.update s.sessions i none j = _
      rw [Function.update_of_ne hji, hcs]
    last := h.last
    cooled := by
      intro j cs hj hflag
      obtain ⟨hji, hj⟩ := hsome hj
      exact (h.cooled j cs hj hflag).imp id fun hm => List.mem_filter.mpr ⟨hm, by simpa using hji⟩
    again := fun j cs hj hflag => h.again j cs (hsome hj).2 hflag
    displaced := by
      intro g o ho
      obtain ⟨hm, hin⟩ := h.displaced g o ho
      refine ⟨hm, ?_⟩
      by_cases hoi : o = i
      · exact Or.inr (Or.inr (hoi ▸ hgone))
      · refine hin.imp id fun hin => hin.imp ?_ ?_
        · exact fun hm => List.mem_filter.mpr ⟨hm, by simpa using hoi⟩
        · intro hn
          show Function.update s.sessions i none o = none
          rw [Function.update_of_ne hoi, hn]
    fresh := by
      intro j hj
      obtain ⟨hn, hc, hcl, hd⟩ := h.fresh j hj
      refine ⟨?_, hc, fun hm => hcl (List.mem_filter.mp hm).1, hd⟩
      show Function.update s.sessions i none j = none
      by_cases hji : j = i
      · rw [hji, hgone]
      · rw [Function.update_of_ne hji, hn] }

/-- **Every step that finds what it was given** keeps the invariant. -/
theorem step_inv {s s' : GateState} {a : Act} (h : Inv s) (hfree : Free s a)
    (hs : step s a = some s') : Inv s' := by
  cases a with
  | connect => exact inv_connect h hs
  | roleList guid info =>
      obtain ⟨i, _, rfl⟩ := Option.map_eq_some_iff.mp hs
      have hline : ∀ (cs : ClientSession) (info : AccountRoleInfo),
          (cs.playerLineInfo info).roleGuid = cs.roleGuid ∧
          (cs.playerLineInfo info).inCooler = cs.inCooler ∧
          (cs.playerLineInfo info).loginAgain = cs.loginAgain := by
        intro cs info
        unfold ClientSession.playerLineInfo
        split <;> exact ⟨rfl, rfl, rfl⟩
      cases info with
      | none => exact inv_modify h i (fun _ => rfl) (fun _ => rfl) fun _ => rfl
      | some info =>
          exact inv_modify h i (fun cs => (hline _ info).1) (fun cs => (hline _ info).2.1)
            fun cs => (hline _ info).2.2
  | enterMap guid role =>
      obtain ⟨cs, _, hs⟩ := Option.bind_eq_some_iff.mp hs
      split at hs
      · obtain rfl := Option.some.inj hs
        exact inv_jobs h _
      · obtain rfl := Option.some.inj hs
        exact h
  | advance j found =>
      obtain ⟨job, hjob, rfl⟩ := Option.map_eq_some_iff.mp hs
      have hroute : ∀ i temp info, job.stage = .route i temp info →
          RouteFree s i temp job.roleGuid := by
        intro i temp info hstage
        obtain ⟨client, role, stage⟩ := job
        subst hstage
        unfold Free at hfree
        simp only [hjob] at hfree
        exact hfree
      have hinv := inv_advance h found hroute
      match hadv : advance s job found with
      | (t, some stage) =>
          rw [hadv] at hinv
          exact inv_jobs hinv _
      | (t, none) =>
          rw [hadv] at hinv
          exact inv_jobs hinv _
  | jumpMap guid mapId found =>
      replace hs : (if found = true then _ else some s) = some s' := hs
      split at hs
      · split at hs
        · rename_i i _
          obtain rfl := Option.some.inj hs
          exact inv_modify (inv_send h _) i (fun _ => rfl) (fun _ => rfl) fun _ => rfl
        · obtain rfl := Option.some.inj hs
          exact inv_send (inv_send h _) _
      · obtain rfl := Option.some.inj hs
        exact h
  | drop guid notFound =>
      obtain ⟨i, _, rfl⟩ := Option.map_eq_some_iff.mp hs
      have hflag := inv_modify h i (f := fun cs => { cs with notFoundGS := cs.notFoundGS || notFound })
        (fun _ => rfl) (fun _ => rfl) fun _ => rfl
      exact inv_putClientSession hflag i
  | dropSession i =>
      obtain ⟨cs, _, rfl⟩ := Option.map_eq_some_iff.mp hs
      have hflag := inv_modify h i (f := fun cs => { cs with notFoundGS := true })
        (fun _ => rfl) (fun _ => rfl) fun _ => rfl
      exact inv_putClientSession hflag i
  | cleanPlayerInfo guid =>
      obtain rfl := Option.some.inj hs
      exact inv_cleanRoleInfo h guid
  | close i => exact inv_close h hs
  | expire i => exact inv_expire h hs

/-! ## §5. Routing. -/

/-- What the role map is for. -/
structure Routed (s : GateState) : Prop where
  /-- A session is in the map under one guid, its own. -/
  single : ∀ g g' i, s.roleMap g = some i → s.roleMap g' = some i → g = g'
  own : ∀ g i, s.roleMap g = some i → ∃ cs, s.sessions i = some cs ∧ cs.roleGuid = g
  /-- It is the one that came to the guid last. -/
  last : ∀ g i, s.roleMap g = some i → s.lastEntered g = some i
  /-- In the cooler it is at most waiting to be closed. -/
  waiting : ∀ g i cs, s.roleMap g = some i → s.sessions i = some cs → cs.inCooler = true →
    i ∈ s.cooler
  /-- The session before it is under no guid, and in the cooler, closed or deleted. -/
  previous : ∀ g o, (g, o) ∈ s.displaced →
    (∀ g', s.roleMap g' ≠ some o) ∧ (o ∈ s.cooler ∨ o ∈ s.cleaned ∨ s.sessions o = none)
  /-- A session that was closed or deleted is not reached. -/
  removed : ∀ i, i ∈ s.cleaned ∨ s.sessions i = none → ∀ g, s.roleMap g ≠ some i

theorem Inv.routed {s : GateState} (h : Inv s) : Routed s where
  single _ _ _ hg hg' := h.single hg hg'
  own g i hg := (h.mapped g i hg).imp fun _ hcs => ⟨hcs.1, hcs.2.1⟩
  last := h.last
  waiting g i cs hg hcs hflag := by
    obtain ⟨_, _, _, hclean⟩ := h.mapped g i hg
    exact (h.cooled i cs hcs hflag).resolve_right hclean
  previous := h.displaced
  removed i hi g hg := by
    obtain ⟨cs, hcs, _, hclean⟩ := h.mapped g i hg
    obtain hi | hi := hi
    · exact hclean hi
    · rw [hi] at hcs
      cases hcs

/-- **Role routing is single-valued** in every state that runs reach whose changes of route find
    the session still in the map and the role free. -/
theorem reachable_routed {s : GateState} (h : system.ReachableWhen Free s) : Routed s := by
  refine Inv.routed (TransSys.ReachableWhen.invariant h ?_ ?_)
  · intro s hs
    obtain rfl : s = init := hs
    exact inv_init
  · intro s a s' hinv hfree hst
    exact step_inv hinv hfree hst

/-- Two clients come with one role, one after the other; the first is closed. -/
def takeover : List Act :=
  let info : AccountRoleInfo := ⟨72057594037927941, 7, 1⟩
  [.connect, .roleList 1 (some info), .enterMap 1 info.guid, .advance 0 true, .advance 0 true,
    .advance 0 true, .advance 0 true, .connect, .roleList 2 (some info), .enterMap 2 info.guid,
    .advance 0 true, .advance 0 true, .advance 0 true, .advance 0 true, .close 0]

/-- A run in which a role is taken over. -/
theorem reachable_routed_takeover :
    ∃ s, system.run init takeover = some s ∧ s.roleMap 72057594037927941 = some 1 ∧ Routed s := by
  obtain ⟨s, hs⟩ : ∃ s, system.run init takeover = some s := ⟨_, rfl⟩
  refine ⟨s, hs, ?_, ?_⟩
  · obtain rfl := Option.some.inj hs
    rfl
  · exact reachable_routed (TransSys.reachableWhen_of_run rfl (by decide) hs)

/-- **In the cooler, and mapped.**  A session that logs off stays in the map until it is closed. -/
theorem dropped_stays_mapped :
    ¬ ∀ s : GateState, system.Reachable s → ∀ (g : UInt64) (i : SessionId) (cs : ClientSession),
      s.roleMap g = some i → s.sessions i = some cs → cs.inCooler = false := by
  intro h
  obtain ⟨s, hs⟩ : ∃ s, system.run init [.connect, .drop 1 false] = some s := ⟨_, rfl⟩
  have hr : system.Reachable s := TransSys.reachable_of_run rfl hs
  obtain rfl := Option.some.inj hs
  have := h _ hr 1 0 _ rfl rfl
  cases this

end Steppingstone.Gate
