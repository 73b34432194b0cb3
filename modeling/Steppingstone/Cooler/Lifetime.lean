/-
  Steppingstone.Cooler.Lifetime — no list of the gate has a pointer to a client
  session that was deleted.

  A session goes through the lists of the cooler one after the other, and never
  back.  The beat has two of its own, and no lock that the cooler would wait
  for: it is the time that the cooler lets pass, longer than the beat's passes
  are apart, that keeps a session alive until the beat has let go of it.
-/
import Mathlib.Data.List.Count
import Mathlib.Data.List.Nodup
import Mathlib.Data.List.Perm.Basic
import Steppingstone.Cooler.Model

namespace Steppingstone.Cooler

/-! ## §1. What the threads are asked for. -/

/-- **In turn**: no two threads are between `alreadyInCooler` and `putInCooler` of one session,
a session is not added to the beat once the beat has worked off its removal, and the beat's passes
are at most `pass` apart. -/
def InTurn (pass : Nat) (s : State) : Action → Prop
  | .check i => i ∉ s.checked
  | .addClient i => s.handleCloseTime i = none ∨ i ∈ s.beat.remove
  | .tick usec => s.now + usec ≤ s.beat.lastPass + pass
  | _ => True

instance (pass : Nat) (s : State) : (a : Action) → Decidable (InTurn pass s a)
  | .check i => inferInstanceAs (Decidable (i ∉ s.checked))
  | .addClient i =>
      inferInstanceAs (Decidable (s.handleCloseTime i = none ∨ i ∈ s.beat.remove))
  | .tick usec => inferInstanceAs (Decidable (s.now + usec ≤ s.beat.lastPass + pass))
  | .mark _ | .push _ | .collect | .clean | .checkCooler | .updateLastBeatTime _ | .beatPass =>
      .isTrue trivial

/-! ## §2. The invariant. -/

/-- The lists that a session goes through. -/
def State.stages (s : State) : List SessionId :=
  s.marked ++ s.list ++ s.shouldClean ++ s.cleaned ++ s.deleted

/-- A session is in one stage, from the call of `putInCooler` on. -/
structure State.Staged (s : State) : Prop where
  stages : s.stages.Nodup
  inCooler : ∀ i, s.inCooler i = true ↔ i ∈ s.stages
  checkedNodup : s.checked.Nodup
  checked : ∀ i ∈ s.checked, s.inCooler i = false
  idle : s.cleaning = false → s.shouldClean = []

/-- Closed sessions are in the last stages. -/
structure State.ClosedOnce (cfg : Config) (s : State) : Prop where
  closed : ∀ i, (s.handleCloseTime i).isSome = true ↔ i ∈ s.cleaned ++ s.deleted
  closings : ∀ i, i ∈ s.closings ↔ i ∈ s.cleaned ++ s.deleted
  nodup : s.closings.Nodup
  cooled : ∀ i ∈ s.deleted, ∃ t, s.handleCloseTime i = some t ∧ cfg.coolerTime < sec (s.now - t)

/-- The beat has a closed session only until its next pass. -/
structure State.Beating (pass : Nat) (s : State) : Prop where
  nodup : s.beat.list.Nodup
  known : ∀ i ∈ s.beat.list ++ s.beat.copy ++ s.beat.put,
    s.handleCloseTime i = none ∨ i ∈ s.beat.remove
  removing : ∀ i ∈ s.beat.remove, ∃ t, s.handleCloseTime i = some t ∧ s.beat.lastPass ≤ t
  past : s.beat.lastPass ≤ s.now
  inTime : s.now ≤ s.beat.lastPass + pass

/-- **The invariant.** -/
structure State.Sound (cfg : Config) (pass : Nat) (s : State) : Prop where
  staged : s.Staged
  closedOnce : s.ClosedOnce cfg
  beating : s.Beating pass

variable {cfg : Config} {pass : Nat} {s : State}

/-! ## §3. The stages. -/

/-- A move from stage to stage. -/
theorem State.Staged.of_perm (h : s.Staged) {t : State} (hperm : t.stages.Perm s.stages)
    (hcooler : t.inCooler = s.inCooler) (hchecked : t.checked = s.checked)
    (hidle : t.cleaning = false → t.shouldClean = []) : t.Staged where
  stages := hperm.nodup_iff.mpr h.stages
  inCooler := by
    intro i
    rw [hcooler, h.inCooler i]
    exact hperm.mem_iff.symm
  checkedNodup := hchecked ▸ h.checkedNodup
  checked := by
    rw [hchecked, hcooler]
    exact h.checked
  idle := hidle

theorem State.Staged.check (h : s.Staged) {i : SessionId} (hi : i ∉ s.checked) :
    (s.check i).Staged := by
  unfold State.check
  by_cases hin : s.inCooler i = true
  · rw [if_pos hin]
    exact h
  · rw [if_neg hin]
    refine ⟨h.stages, h.inCooler, List.nodup_cons.mpr ⟨hi, h.checkedNodup⟩, ?_, h.idle⟩
    exact List.forall_mem_cons.mpr ⟨Bool.eq_false_iff.mpr hin, h.checked⟩

theorem State.Staged.mark (h : s.Staged) {i : SessionId} (hi : i ∈ s.checked) :
    (s.mark i).Staged := by
  have hnot : i ∉ s.stages := by
    rw [← h.inCooler i, h.checked i hi]
    exact Bool.false_ne_true
  have hin : ∀ j, (s.mark i).inCooler j = true ↔ j = i ∨ s.inCooler j = true := by
    intro j
    show Function.update s.inCooler i true j = true ↔ _
    rw [Function.update_apply]
    split
    · next hj => exact ⟨fun _ => .inl hj, fun _ => rfl⟩
    · next hj => exact ⟨.inr, fun h => h.resolve_left hj⟩
  refine ⟨List.nodup_cons.mpr ⟨hnot, h.stages⟩, ?_, h.checkedNodup.erase i, ?_, h.idle⟩
  · intro j
    rw [hin j, h.inCooler j]
    exact List.mem_cons.symm
  · intro j hj
    obtain ⟨hne, hj⟩ := h.checkedNodup.mem_erase_iff.mp hj
    apply Bool.eq_false_iff.mpr
    rw [Ne, hin j, h.checked j hj]
    simpa using hne

/-- A marked session goes to the list of its thread. -/
theorem State.Staged.push (h : s.Staged) {i : SessionId} (hi : i ∈ s.marked) :
    (s.push i).Staged := by
  have hnot : i ∉ s.list := by
    intro hl
    have hcount := List.nodup_iff_count_le_one.mp h.stages i
    have hmarked := List.count_pos_iff.mpr hi
    have hlist := List.count_pos_iff.mpr hl
    simp only [State.stages, List.count_append] at hcount
    omega
  refine h.of_perm ?_ rfl rfl h.idle
  refine List.perm_iff_count.mpr fun j => ?_
  have hcount := (List.perm_cons_erase hi).count_eq j
  simp only [State.stages, State.push, if_neg hnot, List.count_append, List.count_cons,
    List.count_nil] at hcount ⊢
  omega

/-- What is in the list is not cleaned yet. -/
theorem State.Staged.filter_list (h : s.Staged) : s.list.filter (· ∉ s.cleaned) = s.list := by
  refine List.filter_eq_self.mpr fun i hi => decide_eq_true fun hc => ?_
  have hcount := List.nodup_iff_count_le_one.mp h.stages i
  have hlist := List.count_pos_iff.mpr hi
  have hcleaned := List.count_pos_iff.mpr hc
  simp only [State.stages, List.count_append] at hcount
  omega

/-- The cooler's thread takes the lists over. -/
theorem State.Staged.collect (h : s.Staged) (hidle : s.cleaning = false) : s.collect.Staged := by
  refine h.of_perm ?_ rfl rfl nofun
  show (s.marked ++ [] ++ s.list.filter _ ++ s.cleaned ++ s.deleted).Perm s.stages
  rw [h.filter_list, List.append_nil]
  unfold State.stages
  rw [h.idle hidle, List.append_nil]

/-- The next one to be cleaned has not been cleaned. -/
theorem State.Staged.next_not_mem (h : s.Staged) {i : SessionId} {rest : List SessionId}
    (hnext : s.shouldClean = i :: rest) : i ∉ s.cleaned ++ s.deleted := by
  intro hc
  have hcount := List.nodup_iff_count_le_one.mp h.stages i
  have hpos := List.count_pos_iff.mpr hc
  simp only [State.stages, hnext, List.count_append, List.count_cons_self] at hcount hpos
  omega

/-- It cleans a session. -/
theorem State.Staged.clean (h : s.Staged) {i : SessionId} {rest : List SessionId}
    (hcleaning : s.cleaning = true) (hnext : s.shouldClean = i :: rest) :
    ({ s.cleanClientSession i with shouldClean := rest } : State).Staged := by
  have hnot : i ∉ s.cleaned := fun hc => h.next_not_mem hnext (List.mem_append_left _ hc)
  unfold State.cleanClientSession
  rw [if_neg hnot]
  refine h.of_perm ?_ rfl rfl ?_
  · refine List.perm_iff_count.mpr fun j => ?_
    simp only [State.stages, hnext, List.count_append, List.count_cons, List.count_nil]
    omega
  · intro hidle
    rw [show s.cleaning = false from hidle] at hcleaning
    cases hcleaning

/-- The check deletes some of the cleaned sessions, all of them cooled. -/
theorem State.checkCooler_eq (cfg : Config) (s : State) : ∃ kept gone lastCheck,
    s.checkCooler cfg = { s with
      cleaning := false, lastCheck, cleaned := kept, deleted := s.deleted ++ gone } ∧
    (kept ++ gone).Perm s.cleaned ∧ ∀ i ∈ gone, s.isCooled cfg i = true := by
  unfold State.checkCooler
  dsimp only
  split
  · refine ⟨s.cleaned, [], s.lastCheck, ?_, ?_, nofun⟩
    · rw [List.append_nil]
    · rw [List.append_nil]
  · split
    · refine ⟨s.cleaned, [], s.lastCheck, ?_, ?_, nofun⟩
      · rw [List.append_nil]
      · rw [List.append_nil]
    · refine ⟨_, _, _, rfl, ?_, fun i hi => (List.mem_filter.mp hi).2⟩
      exact List.perm_append_comm.trans (List.filter_append_perm (s.isCooled cfg ·) s.cleaned)

theorem State.Staged.checkCooler (h : s.Staged) (hempty : s.shouldClean = []) :
    (s.checkCooler cfg).Staged := by
  obtain ⟨kept, gone, lastCheck, heq, hperm, -⟩ := s.checkCooler_eq cfg
  rw [heq]
  refine h.of_perm ?_ rfl rfl fun _ => hempty
  refine List.perm_iff_count.mpr fun j => ?_
  have hcount := hperm.count_eq j
  simp only [State.stages, List.count_append] at hcount ⊢
  omega

/-! ## §4. The closed sessions. -/

/-- Nothing is closed or deleted. -/
theorem State.ClosedOnce.of_eq (h : s.ClosedOnce cfg) {t : State}
    (htime : t.handleCloseTime = s.handleCloseTime) (hcleaned : t.cleaned = s.cleaned)
    (hdeleted : t.deleted = s.deleted) (hclosings : t.closings = s.closings)
    (hnow : s.now ≤ t.now) : t.ClosedOnce cfg where
  closed := by
    rw [htime, hcleaned, hdeleted]
    exact h.closed
  closings := by
    rw [hclosings, hcleaned, hdeleted]
    exact h.closings
  nodup := hclosings ▸ h.nodup
  cooled := by
    rw [hdeleted, htime]
    intro i hi
    obtain ⟨t', ht', hcool⟩ := h.cooled i hi
    refine ⟨t', ht', Nat.lt_of_lt_of_le hcool ?_⟩
    exact Nat.div_le_div_right (Nat.sub_le_sub_right hnow t')

/-- A session is cleaned once. -/
theorem State.ClosedOnce.clean (h : s.ClosedOnce cfg) {i : SessionId}
    (hi : i ∉ s.cleaned ++ s.deleted) (rest : List SessionId) :
    ({ s.cleanClientSession i with shouldClean := rest } : State).ClosedOnce cfg := by
  have hnot : i ∉ s.cleaned := fun hc => hi (List.mem_append_left _ hc)
  have hmem : ∀ j, j ∈ (s.cleaned ++ [i]) ++ s.deleted ↔ j = i ∨ j ∈ s.cleaned ++ s.deleted := by
    intro j
    simp only [List.mem_append, List.mem_singleton]
    tauto
  unfold State.cleanClientSession
  rw [if_neg hnot]
  refine ⟨?_, ?_, ?_, ?_⟩
  · intro j
    show (Function.update s.handleCloseTime i (some s.now) j).isSome = true ↔ _
    rw [hmem j, ← h.closed j, Function.update_apply]
    split
    · next hj => exact ⟨fun _ => .inl hj, fun _ => rfl⟩
    · next hj => exact ⟨.inr, fun h => h.resolve_left hj⟩
  · intro j
    show j ∈ s.closings ++ [i] ↔ _
    rw [hmem j, ← h.closings j, List.mem_append, List.mem_singleton, or_comm]
  · refine List.nodup_append.mpr ⟨h.nodup, List.nodup_singleton i, ?_⟩
    intro j hj k hk
    obtain rfl := List.mem_singleton.mp hk
    rintro rfl
    exact hi ((h.closings j).mp hj)
  · intro j hj
    have hne : j ≠ i := by
      rintro rfl
      exact hi (List.mem_append_right _ hj)
    show ∃ t, Function.update s.handleCloseTime i (some s.now) j = some t ∧ _
    rw [Function.update_of_ne hne]
    exact h.cooled j hj

theorem State.ClosedOnce.checkCooler (h : s.ClosedOnce cfg) :
    (s.checkCooler cfg).ClosedOnce cfg := by
  obtain ⟨kept, gone, lastCheck, heq, hperm, hcooled⟩ := s.checkCooler_eq cfg
  have hmem : ∀ i, i ∈ kept ++ (s.deleted ++ gone) ↔ i ∈ s.cleaned ++ s.deleted := by
    intro i
    have hi := hperm.mem_iff (a := i)
    simp only [List.mem_append] at hi ⊢
    tauto
  rw [heq]
  refine ⟨fun i => (h.closed i).trans (hmem i).symm, fun i => (h.closings i).trans (hmem i).symm,
    h.nodup, ?_⟩
  intro i hi
  obtain hi | hi := List.mem_append.mp hi
  · exact h.cooled i hi
  · have hcool := hcooled i hi
    unfold State.isCooled at hcool
    cases ht : s.handleCloseTime i with
    | none =>
        rw [ht] at hcool
        cases hcool
    | some t =>
        rw [ht] at hcool
        exact ⟨t, rfl, of_decide_eq_true hcool⟩

/-! ## §5. The beat. -/

theorem putAll_nodup (put : List SessionId) {list : List SessionId} (h : list.Nodup) :
    (putAll list put).Nodup := by
  induction put generalizing list with
  | nil => exact h
  | cons i put ih =>
      apply ih
      dsimp only
      split
      · exact h
      · next hi =>
          refine List.nodup_append.mpr ⟨h, List.nodup_singleton i, ?_⟩
          intro j hj k hk
          obtain rfl := List.mem_singleton.mp hk
          rintro rfl
          exact hi hj

theorem mem_putAll {list put : List SessionId} {i : SessionId} (h : i ∈ putAll list put) :
    i ∈ list ∨ i ∈ put := by
  induction put generalizing list with
  | nil => exact .inl h
  | cons j put ih =>
      obtain hi | hi := ih h
      · dsimp only at hi
        split at hi
        · exact .inl hi
        · obtain hi | hi := List.mem_append.mp hi
          · exact .inl hi
          · exact .inr (List.mem_singleton.mp hi ▸ List.mem_cons_self)
      · exact .inr (List.mem_cons_of_mem _ hi)

/-- Of a list without duplicates, what is to be removed is gone. -/
theorem removeAll_spec (remove : List SessionId) {list : List SessionId} (h : list.Nodup) :
    (removeAll list remove).Nodup ∧ ∀ i ∈ removeAll list remove, i ∈ list ∧ i ∉ remove := by
  induction remove generalizing list with
  | nil => exact ⟨h, fun i hi => ⟨hi, List.not_mem_nil⟩⟩
  | cons j remove ih =>
      obtain ⟨hnodup, hmem⟩ := ih (h.erase j)
      refine ⟨hnodup, fun i hi => ?_⟩
      obtain ⟨hlist, hremove⟩ := hmem i hi
      obtain ⟨hne, hlist⟩ := h.mem_erase_iff.mp hlist
      exact ⟨hlist, List.not_mem_cons_of_ne_of_not_mem hne hremove⟩

/-- A pass keeps open sessions only. -/
theorem State.Beating.beatPass (h : s.Beating pass) : (s.beatPass cfg).Beating pass := by
  obtain ⟨hnodup, hmem⟩ := removeAll_spec s.beat.remove (putAll_nodup s.beat.put h.nodup)
  have hopen : ∀ i ∈ (s.beatPass cfg).beat.list, s.handleCloseTime i = none := by
    intro i hi
    obtain ⟨hall, hremove⟩ := hmem i (List.mem_of_mem_filter hi)
    refine (h.known i ?_).resolve_right hremove
    obtain hi | hi := mem_putAll hall
    · exact List.mem_append_left _ (List.mem_append_left _ hi)
    · exact List.mem_append_right _ hi
  refine ⟨hnodup.filter _, ?_, nofun, Nat.le_refl _, Nat.le_add_right _ _⟩
  intro i hi
  left
  obtain hi | hi := List.mem_append.mp hi
  · obtain hi | hi := List.mem_append.mp hi
    · exact hopen i hi
    · exact hopen i hi
  · cases hi

/-- The end of a session comes to the list of the removals. -/
theorem State.Beating.clean (h : s.Beating pass) (i : SessionId) (rest : List SessionId) :
    ({ s.cleanClientSession i with shouldClean := rest } : State).Beating pass := by
  unfold State.cleanClientSession
  by_cases hi : i ∈ s.cleaned
  · rw [if_pos hi]
    exact ⟨h.nodup, h.known, h.removing, h.past, h.inTime⟩
  · rw [if_neg hi]
    have htime : ∀ j, j ≠ i →
        Function.update s.handleCloseTime i (some s.now) j = s.handleCloseTime j :=
      fun j hj => Function.update_of_ne hj ..
    refine ⟨h.nodup, ?_, ?_, h.past, h.inTime⟩
    · intro j hj
      by_cases hji : j = i
      · exact .inr (List.mem_append_right _ (List.mem_singleton.mpr hji))
      · obtain hnone | hremove := h.known j hj
        · exact .inl ((htime j hji).trans hnone)
        · exact .inr (List.mem_append_left _ hremove)
    · intro j hj
      by_cases hji : j = i
      · subst hji
        exact ⟨s.now, Function.update_self .., h.past⟩
      · obtain hj | hj := List.mem_append.mp hj
        · obtain ⟨t, ht, hle⟩ := h.removing j hj
          exact ⟨t, (htime j hji).trans ht, hle⟩
        · exact absurd (List.mem_singleton.mp hj) hji

/-! ## §6. Runs. -/

/-- One step keeps the invariant. -/
theorem State.Sound.step (h : s.Sound cfg pass) {a : Action} {s' : State} (ha : InTurn pass s a)
    (hst : Cooler.step cfg s a = some s') : s'.Sound cfg pass := by
  obtain ⟨hstaged, hclosed, hbeating⟩ := h
  have hbeat : ∀ {t : State}, t.beat = s.beat → t.handleCloseTime = s.handleCloseTime →
      t.now = s.now → t.Beating pass := by
    intro t hb ht hn
    refine ⟨?_, ?_, ?_, ?_, ?_⟩
    · rw [hb]; exact hbeating.nodup
    · rw [hb, ht]; exact hbeating.known
    · rw [hb, ht]; exact hbeating.removing
    · rw [hb, hn]; exact hbeating.past
    · rw [hb, hn]; exact hbeating.inTime
  cases a with
  | check i =>
      obtain rfl := Option.some.inj hst
      refine ⟨hstaged.check ha, ?_, ?_⟩
      · unfold State.check
        split
        · exact hclosed
        · exact hclosed.of_eq rfl rfl rfl rfl (Nat.le_refl _)
      · unfold State.check
        split
        · exact hbeating
        · exact hbeat rfl rfl rfl
  | mark i =>
      obtain ⟨hi, heq⟩ := Option.ite_none_right_eq_some.mp hst
      obtain rfl := Option.some.inj heq
      exact ⟨hstaged.mark hi, hclosed.of_eq rfl rfl rfl rfl (Nat.le_refl _), hbeat rfl rfl rfl⟩
  | push i =>
      obtain ⟨hi, heq⟩ := Option.ite_none_right_eq_some.mp hst
      obtain rfl := Option.some.inj heq
      exact ⟨hstaged.push hi, hclosed.of_eq rfl rfl rfl rfl (Nat.le_refl _), hbeat rfl rfl rfl⟩
  | collect =>
      obtain ⟨hidle, heq⟩ := Option.ite_none_left_eq_some.mp hst
      obtain rfl := Option.some.inj heq
      exact ⟨hstaged.collect (Bool.eq_false_iff.mpr hidle),
        hclosed.of_eq rfl rfl rfl rfl (Nat.le_refl _), hbeat rfl rfl rfl⟩
  | clean =>
      simp only [Cooler.step] at hst
      split at hst
      · next i rest hcleaning hnext =>
          obtain rfl := Option.some.inj hst
          exact ⟨hstaged.clean hcleaning hnext, hclosed.clean (hstaged.next_not_mem hnext) rest,
            hbeating.clean i rest⟩
      · cases hst
  | checkCooler =>
      obtain ⟨⟨-, hempty⟩, heq⟩ := Option.ite_none_right_eq_some.mp hst
      obtain rfl := Option.some.inj heq
      refine ⟨hstaged.checkCooler hempty, hclosed.checkCooler, ?_⟩
      obtain ⟨kept, gone, lastCheck, heq, -, -⟩ := s.checkCooler_eq cfg
      rw [heq]
      exact hbeat rfl rfl rfl
  | addClient i =>
      obtain rfl := Option.some.inj hst
      refine ⟨hstaged.of_perm (.refl _) rfl rfl hstaged.idle,
        hclosed.of_eq rfl rfl rfl rfl (Nat.le_refl _), hbeating.nodup, ?_, hbeating.removing,
        hbeating.past, hbeating.inTime⟩
      intro j hj
      rw [← List.append_assoc] at hj
      obtain hj | hj := List.mem_append.mp hj
      · exact hbeating.known j hj
      · obtain rfl := List.mem_singleton.mp hj
        exact ha
  | updateLastBeatTime i =>
      obtain rfl := Option.some.inj hst
      exact ⟨hstaged.of_perm (.refl _) rfl rfl hstaged.idle,
        hclosed.of_eq rfl rfl rfl rfl (Nat.le_refl _), hbeat rfl rfl rfl⟩
  | beatPass =>
      obtain rfl := Option.some.inj hst
      exact ⟨hstaged.of_perm (.refl _) rfl rfl hstaged.idle,
        hclosed.of_eq rfl rfl rfl rfl (Nat.le_refl _), hbeating.beatPass⟩
  | tick usec =>
      obtain rfl := Option.some.inj hst
      exact ⟨hstaged.of_perm (.refl _) rfl rfl hstaged.idle,
        hclosed.of_eq rfl rfl rfl rfl (Nat.le_add_right _ _), hbeating.nodup, hbeating.known,
        hbeating.removing, Nat.le_trans hbeating.past (Nat.le_add_right _ _), ha⟩

theorem sound_start (cfg : Config) (pass : Nat) : ({} : State).Sound cfg pass where
  staged := ⟨List.nodup_nil, fun _ => ⟨nofun, nofun⟩, List.nodup_nil, nofun, fun _ => rfl⟩
  closedOnce := ⟨fun _ => ⟨nofun, nofun⟩, fun _ => ⟨nofun, nofun⟩, List.nodup_nil, nofun⟩
  beating := ⟨List.nodup_nil, nofun, nofun, Nat.le_refl _, Nat.zero_le _⟩

/-- A deleted session was closed before the beat's last pass. -/
theorem State.Sound.not_removing (h : s.Sound cfg pass)
    (hpass : pass < (cfg.coolerTime + 1) * 1000000) {i : SessionId} (hi : i ∈ s.deleted) :
    i ∉ s.beat.remove := by
  intro hremove
  obtain ⟨t, ht, hcool⟩ := h.closedOnce.cooled i hi
  obtain ⟨t', ht', hle⟩ := h.beating.removing i hremove
  obtain rfl : t = t' := Option.some.inj (ht.symm.trans ht')
  have hin := h.beating.inTime
  have hlong : cfg.coolerTime + 1 ≤ (s.now - t) / 1000000 := hcool
  omega

/-- **No list has a deleted session**: while the beat's passes are less than the cooler's time
apart, every session is closed at most once; it is deleted at most once, more than the cooler's
time after it was closed; none of the lists of the cooler, of the beat, or of the threads that put
sessions into them has it then; and a session that was marked is in a stage of the cooler until it
is deleted. -/
theorem sessions_outlive_lists (hpass : pass < (cfg.coolerTime + 1) * 1000000)
    (hs : (system cfg).ReachableWhen (InTurn pass) s) :
    s.closings.Nodup ∧ s.deleted.Nodup ∧
      (∀ i ∈ s.deleted, ∃ t, s.handleCloseTime i = some t ∧ cfg.coolerTime < sec (s.now - t)) ∧
      (∀ i ∈ s.held, i ∉ s.deleted) ∧
      ∀ i, s.inCooler i = true →
        i ∈ s.marked ++ s.list ++ s.shouldClean ++ s.cleaned ∨ i ∈ s.deleted := by
  have h : s.Sound cfg pass := by
    refine hs.invariant ?_ (fun t a t' ht ha hst => ht.step ha hst)
    rintro t rfl
    exact sound_start cfg pass
  obtain ⟨hstages, hdeleted, hdisjoint⟩ := List.nodup_append.mp h.staged.stages
  refine ⟨h.closedOnce.nodup, hdeleted, h.closedOnce.cooled, ?_, ?_⟩
  · intro i hi hdel
    have hremove := h.not_removing hpass hdel
    have hclosed : s.handleCloseTime i ≠ none := by
      obtain ⟨t, ht, -⟩ := h.closedOnce.cooled i hdel
      rw [ht]
      exact Option.some_ne_none t
    have hbeat : i ∉ s.beat.list ++ s.beat.copy ++ s.beat.put := by
      intro hb
      exact (h.beating.known i hb).elim hclosed hremove
    have hstage : i ∉ s.marked ++ s.list ++ s.shouldClean ++ s.cleaned :=
      fun hst => hdisjoint i hst i hdel rfl
    have hchecked : i ∉ s.checked := by
      intro hc
      have hin := (h.staged.inCooler i).mpr (List.mem_append_right _ hdel)
      rw [h.staged.checked i hc] at hin
      cases hin
    simp only [State.held, List.mem_append] at hi hbeat hstage
    tauto
  · intro i hi
    exact List.mem_append.mp ((h.staged.inCooler i).mp hi)

/-- A session of the beat is closed, and deleted after a minute. -/
def coolerRun : List Action :=
  [.addClient 1, .beatPass, .check 1, .mark 1, .push 1, .collect, .clean, .tick 30000000, .beatPass,
    .checkCooler, .tick 30000000, .beatPass, .tick 1000000, .collect, .checkCooler]

theorem sessions_outlive_lists_minute :
    ∃ s, (system ⟨60, 360⟩).run {} coolerRun = some s ∧
      s.closings.Nodup ∧ s.deleted.Nodup ∧
      (∀ i ∈ s.deleted, ∃ t, s.handleCloseTime i = some t ∧ 60 < sec (s.now - t)) ∧
      (∀ i ∈ s.held, i ∉ s.deleted) ∧
      ∀ i, s.inCooler i = true →
        i ∈ s.marked ++ s.list ++ s.shouldClean ++ s.cleaned ∨ i ∈ s.deleted := by
  have hdeleted : ((system ⟨60, 360⟩).run {} coolerRun).map (·.deleted) = some [1] := by
    decide +kernel
  have hmeets : (system ⟨60, 360⟩).RunMeets (InTurn 30000000) {} coolerRun := by decide +kernel
  obtain ⟨s, hrun, -⟩ := Option.map_eq_some_iff.mp hdeleted
  exact ⟨s, hrun, sessions_outlive_lists (by decide)
    (TransSys.reachableWhen_of_run rfl hmeets hrun)⟩

/-- Two threads that find `alreadyInCooler` false at once: the slower one puts the session in the
cooler again after it was deleted. -/
example : ((system ⟨60, 360⟩).run {}
    [.check 1, .check 1, .mark 1, .push 1, .collect, .clean, .checkCooler, .tick 61000000,
      .collect, .checkCooler, .mark 1, .push 1, .collect, .clean]).map
        (fun s => (s.deleted, s.closings)) = some ([1], [1, 1]) := by
  decide +kernel

end Steppingstone.Cooler
