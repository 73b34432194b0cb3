/-
  Steppingstone.Lib.Timetable — instants that come back in every period.

  Periods of one length follow each other from some offset on; a timetable names the same instants
  of each of them by the distance from its start.
-/
import Mathlib.Data.List.Basic
import Mathlib.Data.Nat.Basic
import Mathlib.Tactic.Common

namespace Timetable

/-- The start of the period that an instant falls in. -/
def dayStart (period offset now : Nat) : Nat :=
  now - (now + offset) % period

/-- Is it an instant of the timetable? -/
def Due (period offset : Nat) (times : List Nat) (i : Nat) : Prop :=
  (i + offset) % period ∈ times

/-- The latest instant of the timetable that is not after now. -/
structure IsLatest (period offset : Nat) (times : List Nat) (now i : Nat) : Prop where
  due : Due period offset times i
  le : i ≤ now
  latest : ∀ j, Due period offset times j → j ≤ now → j ≤ i

section Instants

variable {period offset : Nat} {times : List Nat} {now i j t : Nat}

theorem IsLatest.unique (h : IsLatest period offset times now i)
    (h' : IsLatest period offset times now j) : i = j :=
  Nat.le_antisymm (h'.latest i h.due h.le) (h.latest j h'.due h'.le)

/-- What is the latest instant later on, if no instant has come since. -/
theorem IsLatest.later {later : Nat} (h : IsLatest period offset times now i) (hle : now ≤ later)
    (hnone : ∀ j, Due period offset times j → j ≤ later → j ≤ now) :
    IsLatest period offset times later i :=
  ⟨h.due, Nat.le_trans h.le hle, fun j hj hjl => h.latest j hj (hnone j hj hjl)⟩

variable (hperiod : 0 < period) (hnow : period ≤ now)

include hperiod hnow

variable (offset) in
theorem dayStart_le : dayStart period offset now ≤ now ∧ now < dayStart period offset now + period ∧
    (dayStart period offset now + offset) % period = 0 := by
  have hlt := Nat.mod_lt (now + offset) hperiod
  have hdiv := Nat.div_add_mod (now + offset) period
  have hstart : dayStart period offset now + offset = period * ((now + offset) / period) := by
    unfold dayStart
    omega
  refine ⟨Nat.sub_le .., ?_, ?_⟩
  · unfold dayStart
    omega
  · rw [hstart, Nat.mul_mod_right]

/-- The instants of the period. -/
theorem due_today (hle : dayStart period offset now ≤ i)
    (hlt : i < dayStart period offset now + period) :
    Due period offset times i ↔ i - dayStart period offset now ∈ times := by
  obtain ⟨-, -, hmod⟩ := dayStart_le offset hperiod hnow
  have hsplit : i + offset = dayStart period offset now + offset + (i - dayStart period offset now) := by
    omega
  have hsmall : i - dayStart period offset now < period := by omega
  unfold Due
  rw [hsplit, Nat.add_mod, hmod, Nat.zero_add, Nat.mod_mod, Nat.mod_eq_of_lt hsmall]

/-- The instants of the period before. -/
theorem due_yesterday (hle : dayStart period offset now ≤ i + period)
    (hlt : i < dayStart period offset now) :
    Due period offset times i ↔ i + period - dayStart period offset now ∈ times := by
  rw [← due_today hperiod hnow hle (by omega)]
  unfold Due
  rw [Nat.add_right_comm, Nat.add_mod_right]

/-- **The latest instant of this period** that has come. -/
theorem IsLatest.today (ht : t ∈ times) (htp : t < period)
    (hle : dayStart period offset now + t ≤ now)
    (hlast : ∀ t' ∈ times, dayStart period offset now + t' ≤ now → t' ≤ t) :
    IsLatest period offset times now (dayStart period offset now + t) := by
  refine ⟨?_, hle, fun j hj hjn => ?_⟩
  · rw [due_today hperiod hnow (Nat.le_add_right ..) (by omega), Nat.add_sub_cancel_left]
    exact ht
  · obtain ⟨-, hend, -⟩ := dayStart_le offset hperiod hnow
    by_cases hbefore : j < dayStart period offset now
    · omega
    · have hmem := (due_today hperiod hnow (by omega) (by omega)).mp hj
      have hbound := hlast _ hmem (by omega)
      omega

/-- **The last instant of the period before**, if none of this period has come. -/
theorem IsLatest.yesterday (ht : t ∈ times) (htp : t < period)
    (hstart : period ≤ dayStart period offset now)
    (hnone : ∀ t' ∈ times, now < dayStart period offset now + t')
    (hlast : ∀ t' ∈ times, t' ≤ t) :
    IsLatest period offset times now (dayStart period offset now - (period - t)) := by
  obtain ⟨hle, hend, -⟩ := dayStart_le offset hperiod hnow
  refine ⟨?_, by omega, fun j hj hjn => ?_⟩
  · have hback : dayStart period offset now - (period - t) + period - dayStart period offset now = t := by
      omega
    rw [due_yesterday hperiod hnow (by omega) (by omega), hback]
    exact ht
  · by_cases htoday : dayStart period offset now ≤ j
    · have hmem := (due_today hperiod hnow htoday (by omega)).mp hj
      have hfuture := hnone _ hmem
      omega
    · by_cases hyesterday : dayStart period offset now ≤ j + period
      · have hmem := (due_yesterday hperiod hnow hyesterday (by omega)).mp hj
        have hbound := hlast _ hmem
        omega
      · omega

end Instants

end Timetable
