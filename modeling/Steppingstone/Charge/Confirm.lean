/-
  Steppingstone.Charge.Confirm — what a confirmation leaves of the other recharges.

  The entries that are not confirmed are copied out as pairs and written back, and a pair has no
  place for the time.  The scene counts the day of a recharge from the launch of the server by that
  time, so one that is sent again after a confirmation of another is one of the launch day.
-/
import Steppingstone.Charge.Model
import Steppingstone.Lib.Timetable

namespace Steppingstone.Charge

/-! ## §1. The day of a recharge. -/

/-- `getTimeDifferentDay`, where `zone` says where the local midnight lies. -/
def getTimeDifferentDay (zone : Nat) (bigTimeSec smallTimeSec : UInt64) : UInt32 :=
  if bigTimeSec ≤ smallTimeSec then 0
  else
    let smallZeroTime := UInt64.ofNat (Timetable.dayStart (3600 * 24) zone smallTimeSec.toNat)
    ((bigTimeSec - smallZeroTime) / (3600 * 24)).toUInt32

/-- The `charge_date` of `nmsg_player_charge`: the launch is the first day. -/
def chargeDate (zone : Nat) (firstLunchTime : UInt64) (m : PlayerCharge) : UInt32 :=
  getTimeDifferentDay zone m.chargeTime firstLunchTime + 1

/-! ## §2. The others. -/

/-- The entries that a confirmation does not name, in their order. -/
def otherEntries (m : PlayerChargeConfirm) (playerBi : PlayerBriefInfo) : List ShortChargeInfo :=
  playerBi.chargeInfo.filter fun c => c.requestIndex.toUInt64 ≠ m.requestIndex

/-- The others are left as they are: what is pending, what is sent again, and the days of it. -/
structure Untouched (m : PlayerChargeConfirm) (playerBi : PlayerBriefInfo) : Prop where
  pending : (lmsgPlayerChargeConfirm m playerBi).chargeInfo = otherEntries m playerBi
  sent : playerCharge (lmsgPlayerChargeConfirm m playerBi)
    = playerCharge { playerBi with chargeInfo := otherEntries m playerBi }
  dates : ∀ zone firstLunchTime,
    (playerCharge (lmsgPlayerChargeConfirm m playerBi)).map (chargeDate zone firstLunchTime)
      = (playerCharge { playerBi with chargeInfo := otherEntries m playerBi }).map
          (chargeDate zone firstLunchTime)

/-- The copy of an entry. -/
theorem confirm_chargeInfo (m : PlayerChargeConfirm) (playerBi : PlayerBriefInfo) :
    (lmsgPlayerChargeConfirm m playerBi).chargeInfo
      = (otherEntries m playerBi).map fun c => ⟨c.requestIndex, c.chargeValue, 0⟩ :=
  rfl

/-- The rest follows from what is pending. -/
theorem untouched_of_pending {m : PlayerChargeConfirm} {playerBi : PlayerBriefInfo}
    (h : (lmsgPlayerChargeConfirm m playerBi).chargeInfo = otherEntries m playerBi) :
    Untouched m playerBi := by
  have hsame : lmsgPlayerChargeConfirm m playerBi
      = { playerBi with chargeInfo := otherEntries m playerBi } := by
    rw [← h]
    rfl
  exact ⟨h, by rw [hsame], fun _ _ => by rw [hsame]⟩

/-- **A confirmation leaves the others untouched** exactly when none of them had a time. -/
theorem confirm_untouched_iff (m : PlayerChargeConfirm) (playerBi : PlayerBriefInfo) :
    Untouched m playerBi ↔
      ∀ c ∈ playerBi.chargeInfo, c.requestIndex.toUInt64 ≠ m.requestIndex → c.chargeTime = 0 := by
  constructor
  -- a copy that equals its entry has the same time, and that of the copy is 0
  · intro h c hc hother
    have hmap := h.pending
    rw [confirm_chargeInfo] at hmap
    have hmem : c ∈ otherEntries m playerBi := List.mem_filter.mpr ⟨hc, by simpa using hother⟩
    have hcopy := List.map_inj_left.mp (hmap.trans (List.map_id _).symm) c hmem
    exact (congrArg ShortChargeInfo.chargeTime hcopy).symm
  · intro h
    apply untouched_of_pending
    rw [confirm_chargeInfo]
    conv_rhs => rw [← List.map_id (otherEntries m playerBi)]
    apply List.map_congr_left
    intro c hc
    obtain ⟨hmem, hother⟩ := List.mem_filter.mp hc
    have htime := h c hmem (by simpa using hother)
    obtain ⟨requestIndex, chargeValue, chargeTime⟩ := c
    obtain rfl : chargeTime = 0 := htime
    rfl

/-- **A recharge loses its day.**  The server was launched on the first day at noon, two recharges
    come in on the eleventh, and one is confirmed; the other is sent again as one of the first day. -/
theorem confirm_loses_day :
    let launch : UInt64 := 1000 * 86400 + 43200
    let pending : PlayerBriefInfo := ⟨true, 7, [⟨1, 100, launch + 864000⟩, ⟨2, 50, launch + 864005⟩]⟩
    let after := lmsgPlayerChargeConfirm ⟨1, 100, 1⟩ pending
    after.chargeInfo = [⟨2, 50, 0⟩] ∧
      otherEntries ⟨1, 100, 1⟩ pending = [⟨2, 50, launch + 864005⟩] ∧
      (playerCharge pending).map (chargeDate 0 launch) = [11, 11] ∧
      (playerCharge after).map (chargeDate 0 launch) = [1] ∧
      ¬ Untouched ⟨1, 100, 1⟩ pending := by
  refine ⟨by decide, by decide, by decide, by decide, fun h => ?_⟩
  have hpending := h.pending
  revert hpending
  decide

end Steppingstone.Charge
