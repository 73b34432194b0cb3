/-
  Steppingstone.Energy.Spend — spending energy is not all or nothing.

  The reward that is left is taken before the player's own energy is looked at.  So a player with
  some reward left, but not enough of both, loses the reward and is answered that nothing was spent.
-/
import Steppingstone.Energy.Model
import Steppingstone.Lib.Words

namespace Steppingstone.Energy

/-- What a player has in both fields. -/
def Player.total (player : Player) : Nat :=
  player.energy.toNat + player.leftEnergyReward.toNat

/-- Success exactly when the total that is asked for covers the amount; then the total falls by the
    amount, of the reward first; failure changes nothing. -/
structure AllOrNothing (player : Player) (n : Int32) : Prop where
  result : (pmsgReduceEnergy player n).result = 1 ∨ (pmsgReduceEnergy player n).result = 2
  success_iff : (pmsgReduceEnergy player n).result = 1 ↔
    n.toInt ≤ (pmsgQueryEnergy player).toNat
  spent : (pmsgReduceEnergy player n).result = 1 →
    (pmsgReduceEnergy player n).player.total + n.toInt.toNat = player.total ∧
      (pmsgReduceEnergy player n).player.leftEnergyReward.toNat
        = player.leftEnergyReward.toNat - n.toInt.toNat
  kept : (pmsgReduceEnergy player n).result = 2 → (pmsgReduceEnergy player n).player = player

/-- The reward covers the amount, and so does the total as it is told; or both fields do, and what
    is left of them is an `int`; or there is no reward, and not enough energy. -/
def Clear (energy reward n : Nat) : Prop :=
  (n ≤ reward ∧ n ≤ (energy + reward) % 2 ^ 32) ∨
    (reward < n ∧ n ≤ energy + reward ∧ energy + reward - n < 2 ^ 31) ∨
    (reward = 0 ∧ energy < n)

section Cases

variable {player : Player} {n : Int32}

theorem pos_toInt (hn : 0 < n) : 0 < n.toInt ∧ n.toInt < 2 ^ 31 :=
  ⟨Int32.lt_iff_toInt_lt.mp hn, n.toInt_lt⟩

theorem amount_toNat (hn : 0 < n) : n.toUInt32.toNat = n.toInt.toNat :=
  Words.toNat_toUInt32 (pos_toInt hn).1.le

/-- The reward covers the amount, and nothing else is touched. -/
theorem reduce_of_reward (hn : 0 < n) (h : n.toInt.toNat ≤ player.leftEnergyReward.toNat) :
    (pmsgReduceEnergy player n).result = 1 ∧
      (pmsgReduceEnergy player n).player
        = { player with leftEnergyReward := player.leftEnergyReward - n.toUInt32 } := by
  obtain ⟨hpos, -⟩ := pos_toInt hn
  have hsome : 0 < player.leftEnergyReward := by
    rw [UInt32.lt_iff_toNat_lt]
    show 0 < player.leftEnergyReward.toNat
    omega
  have hcovers : n.toUInt32 ≤ player.leftEnergyReward := by
    rw [UInt32.le_iff_toNat_le, amount_toNat hn]
    exact h
  have hreward : reduceReward player n
      = ({ player with leftEnergyReward := player.leftEnergyReward - n.toUInt32 }, 0, 1,
          some (player.leftEnergyReward - n.toUInt32)) := by
    unfold reduceReward
    rw [if_pos hsome, if_pos hcovers]
  unfold pmsgReduceEnergy
  rw [if_neg (Int32.not_le.mpr hn), hreward]
  exact ⟨rfl, rfl⟩

/-- A reward that does not cover the amount is gone, and the rest is asked of the energy. -/
theorem reduceReward_of_lt (hn : 0 < n) (h : player.leftEnergyReward.toNat < n.toInt.toNat) :
    ∃ tell, reduceReward player n
      = ({ player with leftEnergyReward := 0 },
          (n.toUInt32 - player.leftEnergyReward).toInt32, 2, tell) := by
  obtain ⟨energy, reward, time⟩ := player
  unfold reduceReward
  by_cases hsome : 0 < reward
  · have hcovers : ¬ n.toUInt32 ≤ reward := by
      rw [UInt32.le_iff_toNat_le, amount_toNat hn]
      exact Nat.not_le.mpr h
    rw [if_pos hsome, if_neg hcovers]
    exact ⟨_, rfl⟩
  · obtain rfl : reward = 0 := by
      rw [UInt32.lt_iff_toNat_lt] at hsome
      exact UInt32.toNat_inj.mp (Nat.eq_zero_of_not_pos hsome)
    rw [if_neg hsome, UInt32.sub_zero]
    exact ⟨_, rfl⟩

/-- What the reward does not cover. -/
theorem rest_toNat (hn : 0 < n) (h : player.leftEnergyReward.toNat < n.toInt.toNat) :
    (n.toUInt32 - player.leftEnergyReward).toNat
      = n.toInt.toNat - player.leftEnergyReward.toNat := by
  have hle : player.leftEnergyReward ≤ n.toUInt32 := by
    rw [UInt32.le_iff_toNat_le, amount_toNat hn]
    exact h.le
  rw [UInt32.toNat_sub_of_le _ _ hle, amount_toNat hn]

/-- Is there energy for what the reward does not cover, and does the rest of it fit? -/
def Covered (player : Player) (n : Nat) : Prop :=
  n ≤ player.total ∧ player.total - n < 2 ^ 31

/-- **The energy pays the rest, or it does not**; the reward is gone in both cases. -/
theorem reduce_of_rest (hn : 0 < n) (h : player.leftEnergyReward.toNat < n.toInt.toNat) :
    (Covered player n.toInt.toNat → (pmsgReduceEnergy player n).result = 1 ∧
        (pmsgReduceEnergy player n).player = { player with
          energy := player.energy - (n.toUInt32 - player.leftEnergyReward)
          leftEnergyReward := 0 }) ∧
      (¬ Covered player n.toInt.toNat → (pmsgReduceEnergy player n).result = 2 ∧
        (pmsgReduceEnergy player n).player = { player with leftEnergyReward := 0 }) := by
  obtain ⟨hpos, hlt⟩ := pos_toInt hn
  obtain ⟨tell, hreward⟩ := reduceReward_of_lt hn h
  have hrest := rest_toNat hn h
  have hasked : (n.toUInt32 - player.leftEnergyReward).toInt32 ≠ 0 := by
    intro hzero
    have hword : n.toUInt32 - player.leftEnergyReward = 0 := congrArg Int32.toUInt32 hzero
    rw [hword] at hrest
    have hnone : (0 : UInt32).toNat = 0 := rfl
    omega
  have hneg : (player.energy - (n.toUInt32 - player.leftEnergyReward)).toInt32 < 0 ↔
      ¬ Covered player n.toInt.toNat := by
    rw [Words.sub_toInt32_neg_iff (by omega), hrest]
    unfold Covered Player.total
    omega
  unfold pmsgReduceEnergy
  rw [if_neg (Int32.not_le.mpr hn), hreward]
  simp only [if_neg hasked, UInt32.toUInt32_toInt32]
  constructor
  · intro hcovered
    rw [if_neg fun hlow => hneg.mp hlow hcovered]
    exact ⟨rfl, rfl⟩
  · intro hnot
    rw [if_pos (hneg.mpr hnot)]
    exact ⟨rfl, rfl⟩

theorem query_toNat (player : Player) :
    (pmsgQueryEnergy player).toNat = player.total % 2 ^ 32 :=
  UInt32.toNat_add ..

/-- An amount that the reward covers is spent; what is told may be less, if it has wrapped. -/
theorem allOrNothing_of_reward (hn : 0 < n)
    (h : n.toInt.toNat ≤ player.leftEnergyReward.toNat) :
    AllOrNothing player n ↔ n.toInt.toNat ≤ player.total % 2 ^ 32 := by
  obtain ⟨hpos, -⟩ := pos_toInt hn
  obtain ⟨hresult, hplayer⟩ := reduce_of_reward hn h
  have hle : n.toUInt32 ≤ player.leftEnergyReward := by
    rw [UInt32.le_iff_toNat_le, amount_toNat hn]
    exact h
  have hleft : (player.leftEnergyReward - n.toUInt32).toNat
      = player.leftEnergyReward.toNat - n.toInt.toNat := by
    rw [UInt32.toNat_sub_of_le _ _ hle, amount_toNat hn]
  rw [← query_toNat]
  constructor
  · intro hall
    have hcovers := hall.success_iff.mp hresult
    omega
  · intro hcovers
    refine ⟨.inl hresult, iff_of_true hresult (by omega), fun _ => ?_, fun htwo => ?_⟩
    · rw [hplayer]
      refine ⟨?_, hleft⟩
      show player.energy.toNat + (player.leftEnergyReward - n.toUInt32).toNat + _ = player.total
      rw [hleft]
      unfold Player.total
      omega
    · rw [hresult] at htwo
      cases htwo

/-- An amount that both fields cover is spent, of the reward first. -/
theorem allOrNothing_of_covered (hn : 0 < n)
    (h : player.leftEnergyReward.toNat < n.toInt.toNat) (hcovered : Covered player n.toInt.toNat) :
    AllOrNothing player n := by
  obtain ⟨hpos, hlt⟩ := pos_toInt hn
  obtain ⟨hresult, hplayer⟩ := (reduce_of_rest hn h).1 hcovered
  obtain ⟨hle, hfits⟩ := hcovered
  have hrest := rest_toNat hn h
  have htold : (pmsgQueryEnergy player).toNat = player.total := by
    rw [query_toNat]
    exact Nat.mod_eq_of_lt (by omega)
  have henergy : (player.energy - (n.toUInt32 - player.leftEnergyReward)).toNat
      = player.energy.toNat - (n.toInt.toNat - player.leftEnergyReward.toNat) := by
    rw [UInt32.toNat_sub_of_le, hrest]
    rw [UInt32.le_iff_toNat_le, hrest]
    unfold Player.total at hle
    omega
  refine ⟨.inl hresult, iff_of_true hresult (by omega), fun _ => ?_, fun htwo => ?_⟩
  · rw [hplayer]
    constructor
    · show (player.energy - (n.toUInt32 - player.leftEnergyReward)).toNat + 0 + _ = player.total
      rw [henergy]
      unfold Player.total at hle ⊢
      omega
    · show 0 = player.leftEnergyReward.toNat - n.toInt.toNat
      omega
  · rw [hresult] at htwo
    cases htwo

/-- A failure is one that changes nothing and is told before, if there is no reward to lose. -/
theorem allOrNothing_of_not_covered (hn : 0 < n)
    (h : player.leftEnergyReward.toNat < n.toInt.toNat)
    (hnot : ¬ Covered player n.toInt.toNat) :
    AllOrNothing player n ↔
      player.leftEnergyReward.toNat = 0 ∧ player.energy.toNat < n.toInt.toNat := by
  obtain ⟨hpos, -⟩ := pos_toInt hn
  obtain ⟨hresult, hplayer⟩ := (reduce_of_rest hn h).2 hnot
  have henergy := player.energy.toNat_lt
  have hfail : (pmsgReduceEnergy player n).result ≠ 1 := by
    rw [hresult]
    decide
  constructor
  · intro hall
    have hkept : player.leftEnergyReward = 0 := by
      have hsame := hall.kept hresult
      rw [hplayer] at hsame
      exact (congrArg Player.leftEnergyReward hsame).symm
    have hzero : player.leftEnergyReward.toNat = 0 := congrArg UInt32.toNat hkept
    refine ⟨hzero, ?_⟩
    have htold : ¬ n.toInt ≤ (pmsgQueryEnergy player).toNat :=
      fun hle => hfail (hall.success_iff.mpr hle)
    rw [query_toNat] at htold
    unfold Player.total at htold
    omega
  · rintro ⟨hzero, hless⟩
    have hword : player.leftEnergyReward = 0 := UInt32.toNat_inj.mp hzero
    refine ⟨.inr hresult, iff_of_false hfail ?_, fun hone => absurd hone hfail, fun _ => ?_⟩
    · rw [query_toNat]
      unfold Player.total
      omega
    · rw [hplayer, ← hword]

end Cases

/-- **Spending energy is all or nothing** exactly when no reward is lost, and the numbers fit. -/
theorem reduceEnergy_iff (player : Player) {n : Int32} (hn : 0 < n) :
    AllOrNothing player n ↔
      Clear player.energy.toNat player.leftEnergyReward.toNat n.toInt.toNat := by
  have henergy := player.energy.toNat_lt
  obtain ⟨hpos, hlt⟩ := pos_toInt hn
  by_cases hreward : n.toInt.toNat ≤ player.leftEnergyReward.toNat
  · rw [allOrNothing_of_reward hn hreward]
    unfold Clear Player.total
    omega
  · have hless : player.leftEnergyReward.toNat < n.toInt.toNat := Nat.not_le.mp hreward
    by_cases hcovered : Covered player n.toInt.toNat
    · refine iff_of_true (allOrNothing_of_covered hn hless hcovered) (.inr (.inl ⟨hless, ?_⟩))
      exact hcovered
    · rw [allOrNothing_of_not_covered hn hless hcovered]
      unfold Covered Player.total at hcovered
      unfold Clear
      omega

/-- Energy 30 and a reward of 10 pay 25. -/
theorem reduce_energy_of_both : AllOrNothing ⟨30, 10, 0⟩ 25 :=
  (reduceEnergy_iff ⟨30, 10, 0⟩ (by decide)).mpr (.inr (.inl (by decide)))

/-- **A reward of 4 is lost** by a player with energy 3 that is asked for 10. -/
theorem reward_lost :
    (pmsgReduceEnergy ⟨3, 4, 0⟩ 10).result = 2 ∧
      (pmsgReduceEnergy ⟨3, 4, 0⟩ 10).player = ⟨3, 0, 0⟩ ∧ ¬ AllOrNothing ⟨3, 4, 0⟩ 10 := by
  refine ⟨by decide, by decide, fun hall => ?_⟩
  have hkept := hall.kept (by decide)
  revert hkept
  decide

end Steppingstone.Energy
