/-
  Steppingstone.Report.Distinct — no id of a battle report is issued twice.

  A line that starts again begins at the index of its file, so what was left of its lease is lost
  and nothing comes again, whenever it stopped: only a text that was written in part, an index that
  is no `int` and the end of the indexes can bring an id back.  But of a line's number only the
  third byte is in an id.
-/
import Steppingstone.Report.Ids

namespace Steppingstone.Report

open Dbc (Bytes digitsValue isDigit atoi)

variable {κ : Type} [DecidableEq κ] {cfg : κ → ServerCfg} {s s' : State κ}

/-! ## §1. The steps that keep the indexes. -/

/-- The number that the file begins with. -/
def savedNumber : Option Bytes → Nat
  | some content => digitsValue ((firstLine content).takeWhile isDigit)
  | none => 0

/-- The file holds an `int` when it is loaded, there are indexes left, and a text that was begun is
written to its end. -/
def Kept (s : State κ) : Action κ → Prop
  | .start k => savedNumber (s.file k) < 2 ^ 31
  | .getBattleReportId k =>
      ∀ m ∈ s.running k, m.Empty →
        m.reportAssignIndex.toNat + reportIdAssignInterval.toNat < reportMaxNumber.toNat
  | .stop _ => True
  | .dieStarting _ _ => True
  | .dieSaving k n =>
      ∀ m ∈ s.running k,
        m.reportAssignIndex.toNat + reportIdAssignInterval.toNat < reportMaxNumber.toNat ∧
          (lexicalCast m.assign.reportAssignIndex).length ≤ n

instance (s : State κ) (a : Action κ) : Decidable (Kept s a) := by
  cases a <;> simp only [Kept] <;> infer_instance

/-! ## §2. The indexes of one line. -/

/-- What the file says: `v`, or nothing yet. -/
def Says (file : Option Bytes) (v : UInt64) : Prop :=
  file = some (lexicalCast v) ∨ (v = 0 ∧ (file = none ∨ file = some []))

theorem Says.savedNumber {file : Option Bytes} {v : UInt64} (h : Says file v) :
    savedNumber file = v.toNat := by
  obtain rfl | ⟨rfl, rfl | rfl⟩ := h
  · show digitsValue _ = _
    rw [firstLine_lexicalCast, Dbc.takeWhile_digits (lexicalCast_digits v), Dbc.digitsValue_eq,
      lexicalCast_value]
  · rfl
  · rfl

/-- **Loading** what was saved. -/
theorem Says.load {file : Option Bytes} {v : UInt64} (h : Says file v) (hv : v.toNat < 2 ^ 31) :
    (loadReportId file).1 = ⟨v, v⟩ ∧ Says (some (loadReportId file).2) v := by
  obtain rfl | ⟨rfl, rfl | rfl⟩ := h
  · refine ⟨?_, .inl rfl⟩
    have hof : UInt64.ofInt (atoi (firstLine (lexicalCast v))) = v := by
      rw [firstLine_lexicalCast, atoi_lexicalCast hv]
      refine UInt64.toNat_inj.mp ?_
      show ((v.toNat : Int) % (2 : Int) ^ 64).toNat % 2 ^ 64 = v.toNat
      omega
    show ManageBattleReport.mk _ _ = _
    rw [hof]
  · exact ⟨rfl, .inl rfl⟩
  · exact ⟨rfl, .inr ⟨rfl, .inr rfl⟩⟩

/-- The index in an id. -/
def indexOf (id : UInt64) : Nat := id.toNat % 2 ^ 32

/-- The indexes of a line: those in memory, that of its file, and those in its ids. -/
def lineIndexes (running : Option ManageBattleReport) (mark : UInt64) (ids : List UInt64) :
    HighWater where
  index := (running.map (·.reportIndex.toNat)).getD mark.toNat
  limit := (running.map (·.reportAssignIndex.toNat)).getD mark.toNat
  mark := mark.toNat
  issued := ids.map indexOf

/-- The ids of a line so far. -/
def State.idsOf (s : State κ) (k : κ) : List UInt64 := (s.issued.filter (·.1 = k)).map (·.2)

/-- The file of a line says its mark, and its indexes increase up to it. -/
structure SoundLine (cfg : ServerCfg) (running : Option ManageBattleReport) (file : Option Bytes)
    (ids : List UInt64) : Prop where
  indexes : ∃ v, Says file v ∧ v.toNat < reportMaxNumber.toNat ∧
    (∀ m ∈ running, m.reportAssignIndex = v) ∧ (lineIndexes running v ids).Sound
  made : ∀ id ∈ ids, ∃ i, id = makeReportId cfg.platformId cfg.lineId i

variable {c : ServerCfg} {running : Option ManageBattleReport} {file : Option Bytes}
  {ids : List UInt64}

/-- Stopping is the first half of a restart. -/
theorem SoundLine.stop (h : SoundLine c running file ids) : SoundLine c none file ids := by
  obtain ⟨v, hsaved, hv, -, hs⟩ := h.indexes
  exact ⟨⟨v, hsaved, hv, fun m hm => absurd hm (Option.not_mem_none m), hs.restart⟩, h.made⟩

/-- Starting is the second. -/
theorem SoundLine.start (h : SoundLine c none file ids) (hint : savedNumber file < 2 ^ 31) :
    SoundLine c (some (loadReportId file).1) (some (loadReportId file).2) ids := by
  obtain ⟨v, hsaved, hv, -, hs⟩ := h.indexes
  obtain ⟨hload, hsaved'⟩ := hsaved.load (hsaved.savedNumber ▸ hint)
  rw [hload]
  refine ⟨⟨v, hsaved', hv, ?_, hs⟩, h.made⟩
  intro m hm
  obtain rfl := Option.mem_some_iff.mp hm
  rfl

/-- A line that was killed at its first start left an empty file, or 0 in it. -/
theorem SoundLine.dieStarting (h : SoundLine c none none ids) (n : Nat) :
    SoundLine c none (some ((lexicalCast 0).take n)) ids := by
  obtain ⟨v, hsaved, hv, hm, hs⟩ := h.indexes
  obtain he | ⟨rfl, -⟩ := hsaved
  · cases he
  · refine ⟨⟨0, ?_, hv, hm, hs⟩, h.made⟩
    cases n with
    | zero => exact .inr ⟨rfl, .inr rfl⟩
    | succ n =>
        refine .inl (congrArg some (List.take_of_length_le ?_))
        show 1 ≤ n + 1
        omega

theorem assign_eq {m : ManageBattleReport}
    (hroom : m.reportAssignIndex.toNat + reportIdAssignInterval.toNat < reportMaxNumber.toNat) :
    m.assign = { m with reportAssignIndex := m.reportAssignIndex + reportIdAssignInterval } ∧
      (m.reportAssignIndex + reportIdAssignInterval).toNat
        = m.reportAssignIndex.toNat + reportIdAssignInterval.toNat := by
  have hmax : reportMaxNumber.toNat = 4294967295 := rfl
  have hsum : (m.reportAssignIndex + reportIdAssignInterval).toNat
      = m.reportAssignIndex.toNat + reportIdAssignInterval.toNat := by
    rw [UInt64.toNat_add]
    exact Nat.mod_eq_of_lt (by omega)
  refine ⟨?_, hsum⟩
  unfold ManageBattleReport.assign
  rw [if_neg]
  intro hge
  have hle := UInt64.le_iff_toNat_le.mp hge
  omega

/-- **A lease**: the file is written before the indexes are handed out. -/
theorem SoundLine.assign {m : ManageBattleReport} (h : SoundLine c (some m) file ids)
    (hroom : m.reportAssignIndex.toNat + reportIdAssignInterval.toNat < reportMaxNumber.toNat) :
    SoundLine c (some m.assign) (some (lexicalCast m.assign.reportAssignIndex)) ids := by
  obtain ⟨v, hsaved, hv, hm, hs⟩ := h.indexes
  have hassign : m.reportAssignIndex = v := hm m rfl
  obtain ⟨heq, hsum⟩ := assign_eq hroom
  rw [heq]
  refine ⟨⟨_, .inl rfl, by rw [hsum]; exact hroom, ?_, ?_⟩, h.made⟩
  · intro m' hm'
    obtain rfl := Option.mem_some_iff.mp hm'
    rfl
  · have hlease := hs.lease reportIdAssignInterval.toNat
    unfold lineIndexes HighWater.lease at hlease
    unfold lineIndexes
    simpa only [Option.map_some, Option.getD_some, hsum] using hlease

/-- **An id**, when there is room in the lease. -/
theorem SoundLine.issue {m : ManageBattleReport} (h : SoundLine c (some m) file ids)
    (hroom : ¬ m.Empty) :
    SoundLine c (some { m with reportIndex := m.reportIndex + 1 }) file
      (ids ++ [makeReportId c.platformId c.lineId (m.reportIndex + 1)]) := by
  obtain ⟨v, hsaved, hv, hm, hs⟩ := h.indexes
  have hassign : m.reportAssignIndex = v := hm m rfl
  have hlt : m.reportIndex.toNat < m.reportAssignIndex.toNat := by
    unfold ManageBattleReport.Empty at hroom
    rw [UInt64.le_iff_toNat_le] at hroom
    omega
  have hmax : reportMaxNumber.toNat = 4294967295 := rfl
  have hnext : (m.reportIndex + 1).toNat = m.reportIndex.toNat + 1 := by
    rw [UInt64.toNat_add]
    exact Nat.mod_eq_of_lt (by
      show m.reportIndex.toNat + 1 < _
      rw [← hassign] at hv
      omega)
  have hindex : indexOf (makeReportId c.platformId c.lineId (m.reportIndex + 1))
      = m.reportIndex.toNat + 1 := by
    unfold indexOf
    rw [makeReportId_toNat, hnext]
    rw [← hassign] at hv
    omega
  refine ⟨⟨v, hsaved, hv, ?_, ?_⟩, ?_⟩
  · intro m' hm'
    obtain rfl := Option.mem_some_iff.mp hm'
    exact hassign
  · have hissue := hs.issue hlt
    unfold lineIndexes HighWater.issue at hissue
    unfold lineIndexes
    rw [List.map_append, List.map_singleton, hindex]
    simpa only [Option.map_some, Option.getD_some, hnext] using hissue
  · intro id hid
    obtain hid | hid := List.mem_append.mp hid
    · exact h.made id hid
    · exact ⟨_, List.mem_singleton.mp hid⟩

/-- **A call** of `getBattleReportId`. -/
theorem SoundLine.getBattleReportId {m : ManageBattleReport} (h : SoundLine c (some m) file ids)
    (hroom : m.Empty →
      m.reportAssignIndex.toNat + reportIdAssignInterval.toNat < reportMaxNumber.toNat) :
    SoundLine c (some (Report.getBattleReportId c.platformId c.lineId m file).1)
      (Report.getBattleReportId c.platformId c.lineId m file).2.1
      (ids ++ [(Report.getBattleReportId c.platformId c.lineId m file).2.2]) := by
  by_cases hempty : m.Empty
  · have hassign := h.assign (hroom hempty)
    have hleft : ¬ m.assign.Empty := by
      obtain ⟨v, -, -, -, hs⟩ := h.indexes
      obtain ⟨heq, hsum⟩ := assign_eq (hroom hempty)
      have hle : m.reportIndex.toNat ≤ m.reportAssignIndex.toNat := hs.index_le
      unfold ManageBattleReport.Empty
      rw [heq, UInt64.le_iff_toNat_le, hsum]
      show ¬ m.reportAssignIndex.toNat + 10000 ≤ m.reportIndex.toNat
      omega
    simp only [Report.getBattleReportId, if_pos hempty]
    exact hassign.issue hleft
  · simp only [Report.getBattleReportId, if_neg hempty]
    exact h.issue hempty

/-- A line that was killed after it wrote the file has lost its new lease. -/
theorem SoundLine.dieSaving {m : ManageBattleReport} (h : SoundLine c (some m) file ids) {n : Nat}
    (hroom : m.reportAssignIndex.toNat + reportIdAssignInterval.toNat < reportMaxNumber.toNat)
    (hn : (lexicalCast m.assign.reportAssignIndex).length ≤ n) :
    SoundLine c none (some ((lexicalCast m.assign.reportAssignIndex).take n)) ids := by
  rw [List.take_of_length_le hn]
  exact (h.assign hroom).stop

/-! ## §3. All lines. -/

/-- Every line is sound. -/
def Sound (cfg : κ → ServerCfg) (s : State κ) : Prop :=
  ∀ k, SoundLine (cfg k) (s.running k) (s.file k) (s.idsOf k)

theorem sound_init : Sound cfg {} := by
  intro k
  have hnone : (lineIndexes none 0 []).Sound :=
    ⟨Nat.le_refl _, Nat.le_refl _, fun n hn => absurd hn List.not_mem_nil, .nil⟩
  refine ⟨⟨0, .inr ⟨rfl, .inl rfl⟩, by decide, ?_, hnone⟩, ?_⟩
  · intro m hm
    exact absurd hm (Option.not_mem_none m)
  · intro id hid
    exact absurd hid List.not_mem_nil

/-- Only one line changes. -/
theorem Sound.update (h : Sound cfg s) {k : κ} {running : Option ManageBattleReport}
    {file : Option Bytes} (hk : SoundLine (cfg k) running file (s.idsOf k)) :
    Sound cfg
      { s with
        running := Function.update s.running k running
        file := Function.update s.file k file } := by
  intro j
  by_cases hj : j = k
  · subst hj
    show SoundLine (cfg j) (Function.update s.running j running j)
      (Function.update s.file j file j) (s.idsOf j)
    rw [Function.update_self, Function.update_self]
    exact hk
  · show SoundLine (cfg j) (Function.update s.running k running j)
      (Function.update s.file k file j) (s.idsOf j)
    rw [Function.update_of_ne hj, Function.update_of_ne hj]
    exact h j

theorem idsOf_append (s : State κ) (k j : κ) (id : UInt64) :
    ((s.issued ++ [(k, id)]).filter (·.1 = j)).map (·.2)
      = s.idsOf j ++ if k = j then [id] else [] := by
  unfold State.idsOf
  rw [List.filter_append, List.map_append]
  by_cases hj : k = j
  · rw [if_pos hj, List.filter_cons_of_pos (by simpa using hj)]
    rfl
  · rw [if_neg hj, List.filter_cons_of_neg (by simpa using hj)]
    rfl

/-- **A step** keeps every line sound. -/
theorem sound_step {a : Action κ} (h : Sound cfg s) (hc : Kept s a)
    (hst : step cfg s a = some s') : Sound cfg s' := by
  cases a with
  | start k =>
      simp only [step] at hst
      split at hst
      · cases hst
      · next hrun =>
          obtain rfl := Option.some.inj hst
          have hk := h k
          rw [hrun] at hk
          exact h.update (hk.start hc)
  | getBattleReportId k =>
      simp only [step] at hst
      split at hst
      · cases hst
      · next m hrun =>
          obtain rfl := Option.some.inj hst
          have hk := h k
          rw [hrun] at hk
          have hget := hk.getBattleReportId (hc m hrun)
          intro j
          unfold State.idsOf
          rw [idsOf_append]
          dsimp only
          by_cases hj : k = j
          · subst hj
            rw [Function.update_self, Function.update_self, if_pos rfl]
            exact hget
          · rw [Function.update_of_ne (Ne.symm hj), Function.update_of_ne (Ne.symm hj),
              if_neg hj, List.append_nil]
            exact h j
  | stop k =>
      obtain rfl := Option.some.inj hst
      have hstop := h.update (h k).stop
      rwa [Function.update_eq_self] at hstop
  | dieStarting k n =>
      simp only [step] at hst
      split at hst
      · next hrun hfile =>
          obtain rfl := Option.some.inj hst
          have hk := h k
          rw [hrun, hfile] at hk
          have hdie := h.update (hk.dieStarting n)
          rwa [← hrun, Function.update_eq_self] at hdie
      · cases hst
  | dieSaving k n =>
      simp only [step] at hst
      split at hst
      · cases hst
      · next m hrun =>
          split at hst
          · obtain rfl := Option.some.inj hst
            have hk := h k
            rw [hrun] at hk
            obtain ⟨hroom, hn⟩ := hc m hrun
            exact h.update (hk.dieSaving hroom hn)
          · cases hst

theorem reachable_sound (hr : (system cfg).ReachableWhen Kept s) : Sound cfg s := by
  refine hr.invariant ?_ ?_
  · rintro s rfl
    exact sound_init
  · intro s a s' h hc hst
    exact sound_step h hc hst

/-! ## §4. The ids. -/

/-- **The indexes of one line increase**, over all its restarts. -/
theorem ids_increase (h : Sound cfg s) :
    s.issued.Pairwise (fun a b => a.1 = b.1 → indexOf a.2 < indexOf b.2) := by
  refine (HighWater.pairwise_filter (R := fun i j => indexOf i < indexOf j)).mp fun k => ?_
  obtain ⟨v, -, -, -, hs⟩ := (h k).indexes
  exact List.pairwise_map.mp hs.increasing

theorem issued_made (h : Sound cfg s) {k : κ} {id : UInt64} (hid : (k, id) ∈ s.issued) :
    ∃ i, id = makeReportId (cfg k).platformId (cfg k).lineId i := by
  refine (h k).made id (List.mem_map.mpr ⟨(k, id), List.mem_filter.mpr ⟨hid, ?_⟩, rfl⟩)
  exact decide_eq_true rfl

/-- The first id of a line that starts with no file. -/
def firstId (c : ServerCfg) : UInt64 := makeReportId c.platformId c.lineId 1

/-- A line that has never run starts and issues its first id. -/
theorem first_issued (hr : (system cfg).ReachableWhen Kept s) {k : κ}
    (hrun : s.running k = none) (hfile : s.file k = none) :
    ∃ s', (system cfg).ReachableWhen Kept s' ∧ s'.issued = s.issued ++ [(k, firstId (cfg k))] ∧
      ∀ j, j ≠ k → s'.running j = s.running j ∧ s'.file j = s.file j := by
  let m : State κ :=
    { s with
      running := Function.update s.running k (some ⟨0, 0⟩)
      file := Function.update s.file k (some (lexicalCast 0)) }
  have hstart : step cfg s (.start k) = some m := by
    simp only [step, hrun, hfile]
    rfl
  have hm : (system cfg).ReachableWhen Kept m := by
    refine hr.next (a := .start k) ?_ hstart
    show savedNumber (s.file k) < 2 ^ 31
    rw [hfile]
    decide
  have hrunm : m.running k = some ⟨0, 0⟩ := Function.update_self ..
  have hget : step cfg m (.getBattleReportId k) = some
      { running := Function.update m.running k (some ⟨1, 10000⟩)
        file := Function.update m.file k (some (lexicalCast 10000))
        issued := s.issued ++ [(k, firstId (cfg k))] } := by
    simp only [step, hrunm]
    rfl
  refine ⟨_, hm.next (a := .getBattleReportId k) ?_ hget, rfl, ?_⟩
  · intro n hn _
    obtain rfl := Option.some.inj (hrunm.symm.trans hn)
    decide
  · intro j hj
    constructor
    · exact (Function.update_of_ne hj ..).trans (Function.update_of_ne hj ..)
    · exact (Function.update_of_ne hj ..).trans (Function.update_of_ne hj ..)

/-- **All ids are different**, over all lines and whenever they stop and start again, exactly when
no two lines agree in the second byte of the platform and the third of the line. -/
theorem ids_distinct_iff :
    (∀ s, (system cfg).ReachableWhen Kept s → (s.issued.map (·.2)).Nodup) ↔
      ∀ k k', (cfg k).slot = (cfg k').slot → k = k' := by
  constructor
  · intro hall k k' hslot
    by_contra hne
    -- both lines are new, and issue their first ids
    obtain ⟨m, hm, hissued, hothers⟩ :=
      first_issued (k := k) (.start rfl : (system cfg).ReachableWhen Kept {}) rfl rfl
    obtain ⟨hrun, hfile⟩ := hothers k' (Ne.symm hne)
    obtain ⟨s, hs, hissued', -⟩ := first_issued hm hrun hfile
    have hnodup := hall s hs
    have hsame : firstId (cfg k) = firstId (cfg k') := makeReportId_eq_iff.mpr ⟨hslot, rfl⟩
    rw [hissued', hissued] at hnodup
    exact (List.nodup_cons.mp hnodup).1 (List.mem_singleton.mpr hsame)
  · intro hslots s hr
    have hsound := reachable_sound hr
    refine List.pairwise_map.mpr ((ids_increase hsound).imp_of_mem ?_)
    rintro ⟨k, id⟩ ⟨k', id'⟩ hid hid' hlt rfl
    obtain ⟨i, hi⟩ := issued_made hsound hid
    obtain ⟨j, hj⟩ := issued_made hsound hid'
    have hk := hslots k k' (makeReportId_eq_iff.mp (hi.symm.trans hj)).1
    exact Nat.lt_irrefl _ (hlt hk)

end Steppingstone.Report
