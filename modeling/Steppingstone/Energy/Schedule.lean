/-
  Steppingstone.Energy.Schedule — the instants of the reward.

  A server that starts looks for the latest instant that has come.  The loop of
  `initProvideEnergyInfo` does not stop at it: between the first and the last entry of the day it
  takes the last entry but one, whether it has come or not.  The periodic check goes through the
  entries of its own day, so it finds what has come since midnight.
-/
import Mathlib.Data.List.Pairwise
import Mathlib.Tactic.Ring
import Steppingstone.Energy.Model

namespace Steppingstone.Energy

open Timetable (IsLatest Due dayStart)

/-! ## §1. The entries of a day. -/

theorem SystemResInfo.le_last (res : SystemResInfo) {t : Nat} (ht : t ∈ res.energyRewardTime) :
    t ≤ res.energyRewardTime.getLast res.ne_nil :=
  (res.increasing.imp Nat.le_of_lt).rel_getLast ht

theorem SystemResInfo.first_le (res : SystemResInfo) {t : Nat} (ht : t ∈ res.energyRewardTime) :
    res.energyRewardTime.head res.ne_nil ≤ t :=
  (res.increasing.imp Nat.le_of_lt).rel_head ht

/-- The pairs of neighbours end with the last two entries. -/
theorem zip_tail_append (xs : List Nat) (a b : Nat) :
    ∃ ys, (xs ++ [a, b]).zip (xs ++ [a, b]).tail = ys ++ [(a, b)] := by
  induction xs with
  | nil => exact ⟨[], rfl⟩
  | cons x xs ih =>
      obtain ⟨ys, hys⟩ := ih
      cases xs with
      | nil => exact ⟨[(x, a)], rfl⟩
      | cons y xs => exact ⟨(x, y) :: ys, congrArg ((x, y) :: ·) hys⟩

/-- The search ends with the last entry but one. -/
theorem searchLast_time {cfg : Config} {now a b : Nat} {xs : List Nat} (last : LastProvide)
    (htimes : cfg.energyRewardTime = xs ++ [a, b]) (hlt : now < cfg.dayBase now + b) :
    searchLast cfg now last = ⟨cfg.dayBase now + a, cfg.energyRewardValue⟩ := by
  obtain ⟨ys, hys⟩ := zip_tail_append xs a b
  -- each later pair overwrites what an earlier one has found
  unfold searchLast
  rw [htimes, hys, List.foldl_append]
  exact if_pos hlt

/-! ## §2. A start. -/

/-- Between the first entry and the last there are two entries at least. -/
theorem two_entries {cfg : Config} {now : Nat}
    (hfirst : cfg.energyRewardTime.head cfg.ne_nil + cfg.dayBase now ≤ now)
    (hlast : now < cfg.energyRewardTime.getLast cfg.ne_nil + cfg.dayBase now) :
    ∃ xs a b, cfg.energyRewardTime = xs ++ [a, b] ∧
      b = cfg.energyRewardTime.getLast cfg.ne_nil := by
  have hsplit := List.dropLast_append_getLast cfg.ne_nil
  have hne : cfg.energyRewardTime.dropLast ≠ [] := by
    intro hnil
    rw [hnil, List.nil_append] at hsplit
    have hhead : cfg.energyRewardTime.head cfg.ne_nil = cfg.energyRewardTime.getLast cfg.ne_nil := by
      obtain ⟨last, hl⟩ : ∃ last, cfg.energyRewardTime = [last] := ⟨_, hsplit.symm⟩
      simp only [hl, List.head_cons, List.getLast_singleton]
    omega
  refine ⟨cfg.energyRewardTime.dropLast.dropLast, cfg.energyRewardTime.dropLast.getLast hne, _, ?_,
    rfl⟩
  have hsplit' := List.dropLast_append_getLast hne
  calc cfg.energyRewardTime
      = cfg.energyRewardTime.dropLast ++ [cfg.energyRewardTime.getLast cfg.ne_nil] := hsplit.symm
    _ = (cfg.energyRewardTime.dropLast.dropLast ++ [cfg.energyRewardTime.dropLast.getLast hne])
          ++ [cfg.energyRewardTime.getLast cfg.ne_nil] := by rw [hsplit']
    _ = _ := List.append_assoc ..

/-- Is it the latest instant of the reward? -/
abbrev Config.IsLatest (cfg : Config) (now i : Nat) : Prop :=
  Timetable.IsLatest 1440 cfg.zone cfg.energyRewardTime now i

section Start

variable {cfg : Config} {now : Nat}

variable (cfg) in
theorem dayBase_le (hnow : 2880 ≤ now) :
    cfg.dayBase now ≤ now ∧ now < cfg.dayBase now + 1440 ∧ 1440 ≤ cfg.dayBase now := by
  obtain ⟨hle, hlt, -⟩ := Timetable.dayStart_le cfg.zone (show 0 < 1440 by omega)
    (show 1440 ≤ now by omega)
  unfold Config.dayBase
  exact ⟨hle, hlt, by omega⟩

/-- Before the first entry the last one of yesterday is taken. -/
theorem init_before (hfirst : now < cfg.energyRewardTime.head cfg.ne_nil + cfg.dayBase now) :
    initProvideEnergyInfo cfg now
      = ⟨cfg.dayBase now - (1440 - cfg.energyRewardTime.getLast cfg.ne_nil),
          cfg.energyRewardValue⟩ := by
  have hle := cfg.first_le (List.getLast_mem cfg.ne_nil)
  unfold initProvideEnergyInfo
  simp only [if_pos hfirst, if_neg (show ¬ cfg.energyRewardTime.getLast cfg.ne_nil
    + cfg.dayBase now ≤ now by omega), if_true]

/-- After the last entry that one is taken. -/
theorem init_after (hlast : cfg.energyRewardTime.getLast cfg.ne_nil + cfg.dayBase now ≤ now) :
    initProvideEnergyInfo cfg now
      = ⟨cfg.dayBase now + cfg.energyRewardTime.getLast cfg.ne_nil, cfg.energyRewardValue⟩ := by
  unfold initProvideEnergyInfo
  simp only [if_pos hlast, if_true]

/-- Between them the search takes the last entry but one. -/
theorem init_between {xs : List Nat} {a b : Nat}
    (htimes : cfg.energyRewardTime = xs ++ [a, b])
    (hfirst : cfg.energyRewardTime.head cfg.ne_nil + cfg.dayBase now ≤ now)
    (hlast : now < cfg.energyRewardTime.getLast cfg.ne_nil + cfg.dayBase now)
    (hb : b = cfg.energyRewardTime.getLast cfg.ne_nil) :
    initProvideEnergyInfo cfg now = ⟨cfg.dayBase now + a, cfg.energyRewardValue⟩ := by
  have hlt : now < cfg.dayBase now + b := by omega
  unfold initProvideEnergyInfo
  simp only [if_neg (Nat.not_lt.mpr hfirst), if_neg (Nat.not_le.mpr hlast), Bool.false_eq_true,
    if_false]
  exact searchLast_time _ htimes hlt

theorem init_value (cfg : Config) (now : Nat) :
    (initProvideEnergyInfo cfg now).value = cfg.energyRewardValue := by
  by_cases hfirst : now < cfg.energyRewardTime.head cfg.ne_nil + cfg.dayBase now
  · rw [init_before hfirst]
  by_cases hlast : cfg.energyRewardTime.getLast cfg.ne_nil + cfg.dayBase now ≤ now
  · rw [init_after hlast]
  · obtain ⟨xs, a, b, htimes, hb⟩ := two_entries (Nat.not_lt.mp hfirst) (Nat.not_le.mp hlast)
    rw [init_between htimes (Nat.not_lt.mp hfirst) (Nat.not_le.mp hlast) hb]

theorem isLatest_before (hnow : 2880 ≤ now)
    (hfirst : now < cfg.energyRewardTime.head cfg.ne_nil + cfg.dayBase now) :
    cfg.IsLatest now (cfg.dayBase now - (1440 - cfg.energyRewardTime.getLast cfg.ne_nil)) := by
  have hlast := List.getLast_mem cfg.ne_nil
  refine Timetable.IsLatest.yesterday (by omega) (by omega) hlast (cfg.in_day _ hlast)
    (dayBase_le cfg hnow).2.2 (fun t ht => ?_) fun t ht => cfg.le_last ht
  have hlow := cfg.first_le ht
  show now < cfg.dayBase now + t
  omega

theorem isLatest_after (hnow : 2880 ≤ now)
    (hlast : cfg.energyRewardTime.getLast cfg.ne_nil + cfg.dayBase now ≤ now) :
    cfg.IsLatest now (cfg.dayBase now + cfg.energyRewardTime.getLast cfg.ne_nil) := by
  have hmem := List.getLast_mem cfg.ne_nil
  refine Timetable.IsLatest.today (by omega) (by omega) hmem (cfg.in_day _ hmem) ?_
    fun t ht _ => cfg.le_last ht
  show cfg.dayBase now + _ ≤ now
  omega

/-- **A start takes the latest instant** exactly before the first entry of the day, or not before
    the last entry but one. -/
theorem init_isLatest_iff (cfg : Config) {now : Nat} (hnow : 2880 ≤ now) :
    cfg.IsLatest now (initProvideEnergyInfo cfg now).time ↔ StartsWell cfg now := by
  by_cases hfirst : now < cfg.energyRewardTime.head cfg.ne_nil + cfg.dayBase now
  · rw [init_before hfirst]
    exact iff_of_true (isLatest_before hnow hfirst) (.inl hfirst)
  by_cases hlast : cfg.energyRewardTime.getLast cfg.ne_nil + cfg.dayBase now ≤ now
  · rw [init_after hlast]
    refine iff_of_true (isLatest_after hnow hlast) (.inr fun t ht => ?_)
    have hle := cfg.le_last (List.mem_of_mem_dropLast ht)
    omega
  · obtain ⟨xs, a, b, htimes, hb⟩ := two_entries (Nat.not_lt.mp hfirst) (Nat.not_le.mp hlast)
    rw [init_between htimes (Nat.not_lt.mp hfirst) (Nat.not_le.mp hlast) hb]
    have hdrop : cfg.energyRewardTime.dropLast = xs ++ [a] := by
      rw [htimes, List.dropLast_append_of_ne_nil (List.cons_ne_nil a [b])]
      rfl
    have hlower : ∀ t ∈ xs ++ [a], t ≤ a := by
      intro t ht
      have hsorted := cfg.increasing
      rw [htimes, List.append_cons] at hsorted
      obtain hmem | hmem := List.mem_append.mp ht
      · have hpair := (List.pairwise_append.mp (List.pairwise_append.mp hsorted).1).2.2
        exact Nat.le_of_lt (hpair t hmem a (List.mem_singleton_self a))
      · exact Nat.le_of_eq (List.mem_singleton.mp hmem)
    -- the search took the last entry but one: right exactly if it has come
    constructor
    · intro h
      refine .inr fun t ht => ?_
      rw [hdrop] at ht
      have hcome : cfg.dayBase now + a ≤ now := h.le
      have hle := hlower t ht
      omega
    · intro h
      obtain h | h := h
      · exact absurd h hfirst
      have ha : cfg.dayBase now + a ≤ now := h a (by rw [hdrop]; simp)
      have hmem : a ∈ cfg.energyRewardTime := by rw [htimes]; simp
      refine Timetable.IsLatest.today (by omega) (by omega) hmem (cfg.in_day _ hmem) ha
        fun t ht htn => ?_
      have hcome : cfg.dayBase now + t ≤ now := htn
      rw [htimes, List.append_cons] at ht
      obtain hmem | hmem := List.mem_append.mp ht
      · exact hlower t hmem
      · -- the last entry has not come
        rw [List.mem_singleton.mp hmem, hb] at hcome
        omega

/-- A server has a latest instant after 1970 began. -/
theorem isLatest_pos {i : Nat} (hnow : 2880 ≤ now) (h : cfg.IsLatest now i) : 0 < i := by
  obtain ⟨hle, hlt, hlong⟩ := dayBase_le cfg hnow
  have hmem := List.head_mem cfg.ne_nil
  have hday := cfg.in_day _ hmem
  -- the first entry of yesterday has come
  have hdue : Timetable.Due 1440 cfg.zone cfg.energyRewardTime
      (cfg.dayBase now + cfg.energyRewardTime.head cfg.ne_nil - 1440) := by
    have hback : cfg.dayBase now + cfg.energyRewardTime.head cfg.ne_nil - 1440 + 1440
        - cfg.dayBase now = cfg.energyRewardTime.head cfg.ne_nil := by omega
    refine (Timetable.due_yesterday (show 0 < 1440 by omega) (show 1440 ≤ now by omega)
      (show cfg.dayBase now ≤ _ by omega) (show _ < cfg.dayBase now by omega)).mpr ?_
    show _ + 1440 - cfg.dayBase now ∈ _
    rw [hback]
    exact hmem
  have hcome := h.latest _ hdue (by omega)
  omega

end Start

/-! ## §3. The periodic check. -/

/-- The body of the loop of `checkEnergyReward`. -/
def checkEntry (cfg : Config) (now : Nat) (s : State) (t : Nat) : State :=
  if cfg.dayBase now + t ≤ now then
    if s.last.time < cfg.dayBase now + t then
      provideEnergy { s with last := { s.last with time := cfg.dayBase now + t } } s.onlinePlayer
        cfg.energyRewardValue now
    else s
  else s

/-- What the check makes of a state, for the entries that it goes through. -/
structure Checked (cfg : Config) (now : Nat) (times : List Nat) (s s' : State) : Prop where
  minute : s'.minute = s.minute
  value : s'.last.value = s.last.value
  onlinePlayer : s'.onlinePlayer = s.onlinePlayer
  le : s.last.time ≤ s'.last.time
  time : s'.last.time = s.last.time ∨ ∃ t ∈ times, s'.last.time = cfg.dayBase now + t ∧
    cfg.dayBase now + t ≤ now
  latest : ∀ t ∈ times, cfg.dayBase now + t ≤ now → cfg.dayBase now + t ≤ s'.last.time
  record : ∀ p, (s'.players p).lastEnergyRewardTime = if p ∈ s.onlinePlayer ∧
    s.last.time < s'.last.time then now else (s.players p).lastEnergyRewardTime
  provided : ∀ p i, s'.provided p i = s.provided p i + if p ∈ s.onlinePlayer ∧
    s.last.time < i ∧ i ≤ now ∧ ∃ t ∈ times, i = cfg.dayBase now + t then 1 else 0

section Check

variable {cfg : Config} {now : Nat} {t : Nat} {times : List Nat} {s s' : State}

/-- An entry that has not come, or that was provided before. -/
theorem checkEntry_idle (h : now < cfg.dayBase now + t ∨ cfg.dayBase now + t ≤ s.last.time) :
    checkEntry cfg now s t = s := by
  unfold checkEntry
  split
  · split
    · omega
    · rfl
  · rfl

theorem checkEntry_due (hcome : cfg.dayBase now + t ≤ now)
    (hnew : s.last.time < cfg.dayBase now + t) :
    checkEntry cfg now s t
      = provideEnergy { s with last := { s.last with time := cfg.dayBase now + t } } s.onlinePlayer
          cfg.energyRewardValue now := by
  unfold checkEntry
  rw [if_pos hcome, if_pos hnew]

/-- One more entry before the others: it does nothing. -/
theorem Checked.cons_idle (h : now < cfg.dayBase now + t ∨ cfg.dayBase now + t ≤ s.last.time)
    (hrest : Checked cfg now times s s') : Checked cfg now (t :: times) s s' where
  minute := hrest.minute
  value := hrest.value
  onlinePlayer := hrest.onlinePlayer
  le := hrest.le
  time := hrest.time.imp_right fun ⟨t', ht', heq⟩ => ⟨t', List.mem_cons_of_mem _ ht', heq⟩
  latest t' ht' hcome := by
    obtain rfl | hmem := List.mem_cons.mp ht'
    · have hle := hrest.le
      omega
    · exact hrest.latest t' hmem hcome
  record := hrest.record
  provided p i := by
    rw [hrest.provided p i]
    congr 1
    refine if_congr (and_congr_right fun _ => and_congr_right fun hnew => and_congr_right
      fun hi => ?_) rfl rfl
    rw [List.exists_mem_cons_iff]
    refine (or_iff_right fun heq => ?_).symm
    omega

/-- One more entry before the others: its reward is given to everyone online. -/
theorem Checked.cons_due (hcome : cfg.dayBase now + t ≤ now)
    (hnew : s.last.time < cfg.dayBase now + t) (hlater : ∀ t' ∈ times, t < t')
    (hrest : Checked cfg now times (checkEntry cfg now s t) s') :
    Checked cfg now (t :: times) s s' := by
  rw [checkEntry_due hcome hnew] at hrest
  obtain ⟨hminute, hvalue, honline, hle, htime, hlatest, hrecord, hprovided⟩ := hrest
  replace hle : cfg.dayBase now + t ≤ s'.last.time := hle
  refine ⟨hminute, hvalue, honline, by omega, ?_, ?_, fun p => ?_, fun p i => ?_⟩
  · right
    obtain heq | ⟨t', ht', heq⟩ := htime
    · exact ⟨t, List.mem_cons_self, heq, hcome⟩
    · exact ⟨t', List.mem_cons_of_mem _ ht', heq⟩
  · intro t' ht' hcome'
    obtain rfl | hmem := List.mem_cons.mp ht'
    · exact hle
    · exact hlatest t' hmem hcome'
  · rw [hrecord p]
    unfold provideEnergy
    by_cases hp : p ∈ s.onlinePlayer
    · simp only [hp, true_and, if_true, ite_self]
      rw [if_pos (by omega)]
    · simp only [hp, false_and, if_false]
  · rw [hprovided p i]
    unfold provideEnergy
    by_cases hp : p ∈ s.onlinePlayer
    · simp only [hp, true_and, List.exists_mem_cons_iff]
      by_cases hi : i = cfg.dayBase now + t
      · -- the entry itself: no later one is the same instant
        have hfirst : s.last.time < i ∧ i ≤ now ∧
            (i = cfg.dayBase now + t ∨ ∃ t' ∈ times, i = cfg.dayBase now + t') :=
          ⟨by omega, by omega, .inl hi⟩
        have hnot : ¬ (cfg.dayBase now + t < i ∧ i ≤ now ∧
            ∃ t' ∈ times, i = cfg.dayBase now + t') := by
          rintro ⟨hlt, -⟩
          omega
        rw [if_pos hi, if_pos hfirst, if_neg hnot]
      · rw [if_neg hi]
        congr 1
        refine if_congr ?_ rfl rfl
        constructor
        · rintro ⟨hlt, hin, hex⟩
          exact ⟨by omega, hin, .inr hex⟩
        · rintro ⟨-, hin, hex⟩
          obtain heq | ⟨t', ht', heq⟩ := hex
          · exact absurd heq hi
          · have hlt := hlater t' ht'
            exact ⟨by omega, hin, t', ht', heq⟩
    · simp only [hp, false_and, if_false]

theorem foldl_checkEntry (htimes : times.Pairwise (· < ·)) (s : State) :
    Checked cfg now times s (times.foldl (checkEntry cfg now) s) := by
  induction times generalizing s with
  | nil =>
      refine ⟨rfl, rfl, rfl, Nat.le_refl _, .inl rfl, fun t ht => (List.not_mem_nil ht).elim,
        fun p => (if_neg ?_).symm, fun p i => ?_⟩
      · rintro ⟨-, hlt⟩
        exact Nat.lt_irrefl _ hlt
      · rw [if_neg]
        · rfl
        · rintro ⟨-, -, -, t, ht, -⟩
          exact List.not_mem_nil ht
  | cons t ts ih =>
      obtain ⟨hlater, hts⟩ := List.pairwise_cons.mp htimes
      rw [List.foldl_cons]
      have hrest := ih hts (checkEntry cfg now s t)
      by_cases hidle : now < cfg.dayBase now + t ∨ cfg.dayBase now + t ≤ s.last.time
      · rw [checkEntry_idle hidle] at hrest ⊢
        exact hrest.cons_idle hidle
      · obtain ⟨hcome, hnew⟩ := not_or.mp hidle
        exact hrest.cons_due (by omega) (by omega) hlater

/-- **The periodic check** gives the reward of every instant of its day that has come since the last
    one, to everyone online. -/
theorem check_spec (cfg : Config) (now : Nat) (s : State) :
    Checked cfg now cfg.energyRewardTime s (checkEnergyReward cfg now s) :=
  foldl_checkEntry cfg.increasing s

end Check

end Steppingstone.Energy
