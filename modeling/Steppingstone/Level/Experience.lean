/-
  Steppingstone.Level.Experience — what experience becomes (`ManagePlayer::updateRoleExp`).

  Experience buys levels up to the cap, as points buy them on a ladder.  `calcUpdateLevel` looks for
  the row of a level before it looks at the cap, so a cap without a row keeps what is left;
  `updateRoleExp` returns before it if there is no gain, or if the role is at the cap.
-/
import Steppingstone.Level.Derived
import Steppingstone.Lib.Ladder

namespace Steppingstone.Level

open Charge (AddictionStatus getAddictionValue)
open Ladder (climb cost Lost)
open Words (toInt_toInt32 toNat_toUInt32)

/-! ## §1. The level table is a ladder. -/

/-- The experience that a level needs, as numbers. -/
def expPrice (res : Resources) (level : Nat) : Option Nat :=
  (res.levelExp (UInt32.ofNat level)).map UInt32.toNat

theorem expPrice_toUInt32 (res : Resources) {level : Int32} (h : 0 ≤ level.toInt) :
    expPrice res level.toInt.toNat = (res.levelExp level.toUInt32).map UInt32.toNat := by
  unfold expPrice
  rw [← toNat_toUInt32 h, UInt32.ofNat_toNat]

/-- **`calcUpdateLevel` climbs the ladder of the level table.** -/
theorem calcUpdateLevel_climb (res : Resources) (cap : Int32) (exp : UInt32) {level : Int32}
    (hlevel : 0 ≤ level.toInt) (hcap : level.toInt ≤ cap.toInt) :
    climb (expPrice res) cap.toInt.toNat exp.toNat level.toInt.toNat
      = ((calcUpdateLevel res cap exp level).1.toNat,
          (calcUpdateLevel res cap exp level).2.toInt.toNat) := by
  -- the exits of the source in their order: no row, the cap, enough experience, too little
  fun_induction calcUpdateLevel res cap exp level with
  | case1 exp level hnone =>
      have hprice : expPrice res level.toInt.toNat = none := by
        rw [expPrice_toUInt32 res hlevel, hnone]
        rfl
      exact Ladder.climb_of_none hprice
  | case2 exp level needed hrow htop =>
      have hprice : expPrice res level.toInt.toNat = some needed.toNat := by
        rw [expPrice_toUInt32 res hlevel, hrow]
        rfl
      have hle : cap.toInt ≤ level.toInt := Int32.le_iff_toInt_le.mp htop
      have heq : level.toInt.toNat = cap.toInt.toNat := by omega
      exact Ladder.climb_of_lost ⟨heq, by rw [← heq, hprice]; rfl⟩
  | case3 exp level needed hrow htop henough ih =>
      have hprice : expPrice res level.toInt.toNat = some needed.toNat := by
        rw [expPrice_toUInt32 res hlevel, hrow]
        rfl
      have hlt : level.toInt < cap.toInt := Int32.lt_iff_toInt_lt.mp (Int32.not_le.mp htop)
      have hnext := toInt_add_one htop
      have hle : needed.toNat ≤ exp.toNat := UInt32.le_iff_toNat_le.mp henough
      have hrest : (exp - needed).toNat = exp.toNat - needed.toNat := UInt32.toNat_sub_of_le _ _ henough
      have hup := ih (by omega) (by omega)
      have hnat : (level + 1).toInt.toNat = level.toInt.toNat + 1 := by omega
      rw [hrest, hnat] at hup
      rw [climb, hprice]
      simp only [if_neg (show ¬ cap.toInt.toNat ≤ level.toInt.toNat by omega), if_pos hle]
      exact hup
  | case4 exp level needed hrow htop hless =>
      have hprice : expPrice res level.toInt.toNat = some needed.toNat := by
        rw [expPrice_toUInt32 res hlevel, hrow]
        rfl
      have hlt : level.toInt < cap.toInt := Int32.lt_iff_toInt_lt.mp (Int32.not_le.mp htop)
      have hle : ¬ needed.toNat ≤ exp.toNat := fun h => hless (UInt32.le_iff_toNat_le.mpr h)
      rw [climb, hprice]
      simp only [if_neg (show ¬ cap.toInt.toNat ≤ level.toInt.toNat by omega), if_neg hle]

/-! ## §2. A gain. -/

/-- What a gain makes of the experience and the level. -/
def afterGain (res : Resources) (cap gain exp level : Nat) : Nat × Nat :=
  if gain = 0 ∨ cap ≤ level then (exp, level)
  else climb (expPrice res) cap (exp + gain) level

/-- Nothing is gained at the cap, or from nothing. -/
theorem afterGain_of_idle {gain : Nat} (res : Resources) (cap exp level : Nat)
    (h : gain = 0 ∨ cap ≤ level) : afterGain res cap gain exp level = (exp, level) :=
  if_pos h

theorem afterGain_of_gain {cap gain level : Nat} (res : Resources) (exp : Nat) (hgain : gain ≠ 0)
    (hlevel : level < cap) :
    afterGain res cap gain exp level = climb (expPrice res) cap (exp + gain) level :=
  if_neg fun h => h.elim hgain (by omega)

theorem afterGain_level {cap level : Nat} (res : Resources) (gain exp : Nat) (h : level ≤ cap) :
    level ≤ (afterGain res cap gain exp level).2 ∧ (afterGain res cap gain exp level).2 ≤ cap := by
  unfold afterGain
  split
  · exact ⟨Nat.le_refl _, h⟩
  · exact Ladder.climb_level _ _ h

/-- No experience comes from nowhere. -/
theorem afterGain_exp {cap level : Nat} (res : Resources) (gain exp : Nat) (h : level ≤ cap) :
    (afterGain res cap gain exp level).1 ≤ exp + gain := by
  unfold afterGain
  split
  · exact Nat.le_add_right ..
  · obtain ⟨hlost, hpaid⟩ := Ladder.climb_paid (expPrice res) (exp + gain) h
    by_cases hl : Lost (expPrice res) cap (climb (expPrice res) cap (exp + gain) level).2
    · rw [hlost hl]
      exact Nat.zero_le _
    · have hall := hpaid hl
      omega

/-- A first gain leads to a cap without a row. -/
def Unpriced (res : Resources) (cap first exp level : Nat) : Prop :=
  first ≠ 0 ∧ level < cap ∧ (afterGain res cap first exp level).2 = cap ∧ expPrice res cap = none

/-- **A gain in two parts**: the same as the whole, but at a cap without a row the second part is
    not added. -/
theorem afterGain_add {cap exp level : Nat} (res : Resources) (h : level ≤ cap)
    (first second : Nat) {points : Nat × Nat}
    (hpoints : afterGain res cap first exp level = points) :
    (afterGain res cap second points.1 points.2).2
        = (afterGain res cap (first + second) exp level).2 ∧
      (Unpriced res cap first exp level →
        (afterGain res cap second points.1 points.2).1 + second
          = (afterGain res cap (first + second) exp level).1) ∧
      (¬ Unpriced res cap first exp level →
        (afterGain res cap second points.1 points.2).1
          = (afterGain res cap (first + second) exp level).1) := by
  subst hpoints
  by_cases hidle : first = 0 ∨ cap ≤ level
  · -- the first part is none, or no part counts
    have hsame : afterGain res cap second exp level
        = afterGain res cap (first + second) exp level := by
      obtain rfl | htop := hidle
      · rw [Nat.zero_add]
      · rw [afterGain_of_idle res cap exp level (.inr htop),
          afterGain_of_idle res cap exp level (.inr htop)]
    rw [afterGain_of_idle res cap exp level hidle, hsame]
    refine ⟨rfl, fun hun => ?_, fun _ => rfl⟩
    obtain ⟨hfirst, hlt, -⟩ := hun
    exact absurd hidle (by omega)
  · obtain ⟨hfirst, hlt⟩ := not_or.mp hidle
    by_cases hsecond : second = 0
    · subst hsecond
      rw [afterGain_of_idle res cap _ _ (.inl rfl)]
      exact ⟨rfl, fun _ => rfl, fun _ => rfl⟩
    have hwhole : afterGain res cap (first + second) exp level
        = climb (expPrice res) cap (exp + first + second) level := by
      rw [afterGain_of_gain res exp (by omega) (by omega), Nat.add_assoc]
    have hpart := afterGain_of_gain res exp hfirst (show level < cap by omega)
    obtain ⟨-, hle⟩ := Ladder.climb_level (expPrice res) (exp + first) h
    have hpaid := Ladder.climb_paid (expPrice res) (exp + first) h
    unfold Unpriced
    rw [hwhole, Ladder.climb_add, hpart]
    generalize climb (expPrice res) cap (exp + first) level = points at *
    obtain ⟨rest, reached⟩ := points
    -- at the cap the second part is dropped; the row decides what of the first was left
    by_cases htop : reached = cap
    · subst htop
      rw [afterGain_of_idle res reached rest reached (.inr (Nat.le_refl _))]
      cases hprice : expPrice res reached with
      | none =>
          rw [Ladder.climb_of_none hprice]
          exact ⟨rfl, fun _ => rfl, fun hnot => absurd ⟨hfirst, by omega, rfl, rfl⟩ hnot⟩
      | some n =>
          have hlost : Lost (expPrice res) reached reached := ⟨rfl, by rw [hprice]; rfl⟩
          rw [Ladder.climb_of_lost hlost]
          refine ⟨rfl, fun hun => ?_, fun _ => hpaid.1 hlost⟩
          cases hun.2.2.2
    · have hlower : reached < cap := Nat.lt_of_le_of_ne hle htop
      rw [afterGain_of_gain res rest hsecond hlower]
      exact ⟨rfl, fun hun => absurd hun.2.2.1 htop, fun _ => rfl⟩

/-- The role is the one before with the given experience and level. -/
structure RoleAt (role : Role) (points : Nat × Nat) : Prop where
  exp : role.exp.toNat = points.1
  level : role.level.toNat = points.2

section Gain

variable {res : Resources} {s : State} {g : UInt64} {role : Role} {player : Player}

theorem updateRoleExp_of_idle (hrole : s.roles g = some role)
    (hplayer : s.players role.player = some player) {gain : Int32}
    (h : gain = 0 ∨ (levelCap res player).toUInt32 ≤ role.level) :
    updateRoleExp res s g gain .normal = s := by
  unfold updateRoleExp
  rw [hrole]
  simp only [hplayer]
  exact if_pos h

/-- The role with the experience and the level that are computed, before its attributes change. -/
def raised (role : Role) (updated : UInt32 × Int32) : Role :=
  { role with exp := updated.1, level := updated.2.toUInt32 }

/-- A gain in closed form. -/
theorem updateRoleExp_eq (hrole : s.roles g = some role)
    (hplayer : s.players role.player = some player) {gain : Int32}
    (h : ¬ (gain = 0 ∨ (levelCap res player).toUInt32 ≤ role.level)) {updated : UInt32 × Int32}
    (hupdated : calcUpdateLevel res (levelCap res player) (role.exp + gain.toUInt32)
      role.level.toInt32 = updated) :
    updateRoleExp res s g gain .normal =
      if role.level < updated.2.toUInt32 then
        let role' := levelUpgrade res s.scene (raised role updated) role.level.toInt32 updated.2
        notifyRoleLevelUp (s.setRole g role') role'.player player g role'
      else s.setRole g (raised role updated) := by
  subst hupdated
  unfold updateRoleExp
  rw [hrole]
  simp only [hplayer]
  exact if_neg h

/-- Below the cap the role gets the experience and the level. -/
theorem updateRoleExp_of_gain (hrole : s.roles g = some role)
    (hplayer : s.players role.player = some player) {gain : Int32}
    (h : ¬ (gain = 0 ∨ (levelCap res player).toUInt32 ≤ role.level)) :
    ∃ role' player', (updateRoleExp res s g gain .normal).roles g = some role' ∧
      (updateRoleExp res s g gain .normal).players role'.player = some player' ∧
      player'.levelLimit = player.levelLimit ∧
      role'.exp = (calcUpdateLevel res (levelCap res player) (role.exp + gain.toUInt32)
        role.level.toInt32).1 ∧
      role'.level = (calcUpdateLevel res (levelCap res player) (role.exp + gain.toUInt32)
        role.level.toInt32).2.toUInt32 := by
  generalize hupdated : calcUpdateLevel res (levelCap res player) (role.exp + gain.toUInt32)
    role.level.toInt32 = updated
  rw [updateRoleExp_eq hrole hplayer h hupdated]
  by_cases hup : role.level < updated.2.toUInt32
  · -- the attributes change too
    have hrest := levelUpgrade_rest res s.scene (raised role updated) role.level.toInt32 updated.2
    rw [if_pos hup]
    generalize levelUpgrade res s.scene (raised role updated) role.level.toInt32 updated.2
      = role' at hrest ⊢
    have hexp : role'.rest.exp = updated.1 := by rw [hrest]; rfl
    obtain ⟨howner, -, hlevel⟩ := eq_of_rest hrest
    refine ⟨role', ?_⟩
    unfold notifyRoleLevelUp
    by_cases hfirst : player.roles.head? = some g
    · simp only [if_pos hfirst]
      exact ⟨{ player with level := role'.level }, Function.update_self .., Function.update_self ..,
        rfl, hexp, hlevel⟩
    · simp only [if_neg hfirst]
      refine ⟨player, Function.update_self .., ?_, rfl, hexp, hlevel⟩
      rw [howner]
      exact hplayer
  · rw [if_neg hup]
    exact ⟨raised role updated, player, Function.update_self .., hplayer, rfl, rfl, rfl⟩

theorem toNat_add_gain {exp : UInt32} {gain : Int32} (hgain : 0 ≤ gain.toInt)
    (hfit : exp.toNat + gain.toInt.toNat < 2 ^ 32) :
    (exp + gain.toUInt32).toNat = exp.toNat + gain.toInt.toNat := by
  rw [UInt32.toNat_add, toNat_toUInt32 hgain, Nat.mod_eq_of_lt hfit]

/-- **`updateRoleExp` adds a gain to the role**, and the player keeps its cap. -/
theorem updateRoleExp_gained (hrole : s.roles g = some role)
    (hplayer : s.players role.player = some player)
    (hlevel : (role.level.toNat : Int) ≤ (levelCap res player).toInt) {gain : Int32}
    (hgain : 0 ≤ gain.toInt) (hfit : role.exp.toNat + gain.toInt.toNat < 2 ^ 32) :
    ∃ role' player', (updateRoleExp res s g gain .normal).roles g = some role' ∧
      (updateRoleExp res s g gain .normal).players role'.player = some player' ∧
      player'.levelLimit = player.levelLimit ∧
      RoleAt role' (afterGain res (levelCap res player).toInt.toNat gain.toInt.toNat
        role.exp.toNat role.level.toNat) := by
  have hcapNat := toNat_toUInt32 (show 0 ≤ (levelCap res player).toInt by omega)
  -- both early returns of the source, in numbers
  have hstop : (gain = 0 ∨ (levelCap res player).toUInt32 ≤ role.level) ↔
      (gain.toInt.toNat = 0 ∨ (levelCap res player).toInt.toNat ≤ role.level.toNat) := by
    rw [UInt32.le_iff_toNat_le, hcapNat]
    refine or_congr_left ?_
    rw [← Int32.toInt_inj]
    show gain.toInt = 0 ↔ _
    omega
  unfold afterGain
  by_cases hidle : gain = 0 ∨ (levelCap res player).toUInt32 ≤ role.level
  · rw [if_pos (hstop.mp hidle), updateRoleExp_of_idle hrole hplayer hidle]
    exact ⟨role, player, hrole, hplayer, rfl, rfl, rfl⟩
  · obtain ⟨role', player', hrole', hplayer', hlimit, hexp, hnew⟩ :=
      updateRoleExp_of_gain hrole hplayer hidle
    -- the level of the role has no sign below the cap
    have hsigned : role.level.toInt32.toInt = role.level.toNat := by
      have hcapLt : (levelCap res player).toInt < 2 ^ 31 := (levelCap res player).toInt_lt
      have hsign := toInt_toInt32 role.level
      rw [if_pos (by omega)] at hsign
      exact hsign
    have hclimb := calcUpdateLevel_climb res (levelCap res player) (role.exp + gain.toUInt32)
      (show 0 ≤ role.level.toInt32.toInt by omega) (by omega)
    obtain ⟨hup, -⟩ := calcUpdateLevel_level res (levelCap res player) (role.exp + gain.toUInt32)
      role.level.toInt32
    rw [toNat_add_gain hgain hfit, hsigned, Int.toNat_natCast] at hclimb
    rw [if_neg fun h => hidle (hstop.mpr h), hclimb]
    refine ⟨role', player', hrole', hplayer', hlimit, ?_, ?_⟩
    · rw [hexp]
    · rw [hnew]
      exact toNat_toUInt32 (by omega)

/-! ## §3. Conservation and grouping. -/

/-- What a gain makes of a role below or at its cap. -/
structure Gained (res : Resources) (cap gain : Nat) (role role' : Role) : Prop where
  idle : gain = 0 ∨ role.level.toNat = cap → role'.level = role.level ∧ role'.exp = role.exp
  rises : role.level.toNat ≤ role'.level.toNat ∧ role'.level.toNat ≤ cap
  lost : gain ≠ 0 → role.level.toNat < cap → Lost (expPrice res) cap role'.level.toNat →
    role'.exp.toNat = 0
  paid : gain ≠ 0 → role.level.toNat < cap → ¬ Lost (expPrice res) cap role'.level.toNat →
    cost (expPrice res) role.level.toNat role'.level.toNat + role'.exp.toNat
      = role.exp.toNat + gain
  below : gain ≠ 0 → ∀ needed, role'.level.toNat < cap → res.levelExp role'.level = some needed →
    role'.exp < needed

theorem RoleAt.gained {role' : Role} {cap gain : Nat} (h : role.level.toNat ≤ cap)
    (hat : RoleAt role' (afterGain res cap gain role.exp.toNat role.level.toNat)) :
    Gained res cap gain role role' := by
  obtain ⟨hexp, hlevel⟩ := hat
  have hclimb : gain ≠ 0 → role.level.toNat < cap →
      (role'.exp.toNat, role'.level.toNat)
        = climb (expPrice res) cap (role.exp.toNat + gain) role.level.toNat := by
    intro hgain hlt
    rw [hexp, hlevel, afterGain_of_gain res _ hgain hlt]
  have hrises := afterGain_level res gain role.exp.toNat h
  rw [← hlevel] at hrises
  refine ⟨fun hidle => ?_, hrises, fun hgain hlt hlost => ?_, fun hgain hlt hnot => ?_,
    fun hgain needed hlt hrow => ?_⟩
  · rw [afterGain_of_idle res cap _ _ (hidle.imp_right fun h => Nat.le_of_eq h.symm)] at hexp hlevel
    exact ⟨UInt32.toNat_inj.mp hlevel, UInt32.toNat_inj.mp hexp⟩
  · have hpaid := Ladder.climb_paid (expPrice res) (role.exp.toNat + gain) h
    rw [← hclimb hgain hlt] at hpaid
    exact hpaid.1 hlost
  · have hpaid := Ladder.climb_paid (expPrice res) (role.exp.toNat + gain) h
    rw [← hclimb hgain hlt] at hpaid
    exact hpaid.2 hnot
  · have hprice : expPrice res role'.level.toNat = some needed.toNat := by
      unfold expPrice
      rw [UInt32.ofNat_toNat, hrow]
      rfl
    have hbelow := @Ladder.climb_below (expPrice res) cap (role.exp.toNat + gain) role.level.toNat
      needed.toNat
    rw [← hclimb hgain (by omega)] at hbelow
    exact UInt32.lt_iff_toNat_lt.mpr (hbelow hlt hprice)

/-- **Experience is conserved, and its grouping does not matter**, but for a cap that the table has
    no row for. -/
theorem exp_conserved (hrole : s.roles g = some role)
    (hplayer : s.players role.player = some player)
    (hlevel : (role.level.toNat : Int) ≤ (levelCap res player).toInt) {a b : Int32}
    (ha : 0 ≤ a.toInt) (hb : 0 ≤ b.toInt) (hsum : a.toInt + b.toInt < 2 ^ 31)
    (hfit : role.exp.toNat + a.toInt.toNat + b.toInt.toNat < 2 ^ 32) :
    ∃ first second whole, (updateRoleExp res s g a .normal).roles g = some first ∧
      (updateRoleExp res (updateRoleExp res s g a .normal) g b .normal).roles g = some second ∧
      (updateRoleExp res s g (a + b) .normal).roles g = some whole ∧
      Gained res (levelCap res player).toInt.toNat a.toInt.toNat role first ∧
      second.level = whole.level ∧
      (Unpriced res (levelCap res player).toInt.toNat a.toInt.toNat role.exp.toNat
        role.level.toNat → second.exp.toNat + b.toInt.toNat = whole.exp.toNat) ∧
      (¬ Unpriced res (levelCap res player).toInt.toNat a.toInt.toNat role.exp.toNat
        role.level.toNat → second.exp = whole.exp) := by
  -- the two gains together still fit
  have hab : (a + b).toInt = a.toInt + b.toInt := by
    rw [Int32.toInt_add]
    exact Int.bmod_eq_of_le (by simp; omega) (by simp; omega)
  have hnat : (a + b).toInt.toNat = a.toInt.toNat + b.toInt.toNat := by omega
  obtain ⟨first, player', hfirst, hplayer', hlimit, hat⟩ :=
    updateRoleExp_gained hrole hplayer hlevel ha (by omega)
  have hcap : levelCap res player' = levelCap res player := by
    unfold levelCap
    rw [hlimit]
  have hle : role.level.toNat ≤ (levelCap res player).toInt.toNat := by omega
  have hgained := hat.gained hle
  have hsmall : first.exp.toNat + b.toInt.toNat < 2 ^ 32 := by
    have hkept := afterGain_exp res a.toInt.toNat role.exp.toNat hle
    rw [← hat.exp] at hkept
    omega
  -- the second gain starts from what the first has left
  obtain ⟨second, -, hsecond, -, -, hat'⟩ :=
    updateRoleExp_gained hfirst hplayer' (show (first.level.toNat : Int) ≤ _ by
      rw [hcap]
      have hup := hgained.rises.2
      omega) hb hsmall
  obtain ⟨whole, -, hwhole, -, -, hat''⟩ :=
    updateRoleExp_gained hrole hplayer hlevel (show 0 ≤ (a + b).toInt by omega) (by omega)
  obtain ⟨hlevels, hun, hnot⟩ := afterGain_add res hle a.toInt.toNat b.toInt.toNat
    (show afterGain res _ _ role.exp.toNat _ = (first.exp.toNat, first.level.toNat) by
      rw [hat.exp, hat.level])
  rw [hcap] at hat'
  rw [hnat] at hat''
  rw [← hat'.level, ← hat''.level] at hlevels
  rw [← hat'.exp, ← hat''.exp] at hun hnot
  exact ⟨first, second, whole, hfirst, hsecond, hwhole, hgained, UInt32.toNat_inj.mp hlevels, hun,
    fun h => UInt32.toNat_inj.mp (hnot h)⟩

end Gain

/-- A player of level limit 50 whose only role has a level and experience. -/
def oneRole (level exp : UInt32) : State where
  scene := onePlayer.scene
  players := onePlayer.players
  roles guid := if guid = 7 then
    some { zeroRole with player := 1, roleId := 1, level := level, exp := exp } else none

/-- The level and the experience of the role. -/
def State.roleExp (s : State) : Option (UInt32 × UInt32) :=
  (s.roles 7).map fun role => (role.level, role.exp)

/-- A table of levels below 50, each of 10. -/
def shortTable : Resources :=
  { smallRes with levelExp := fun level => if level < 50 then some 10 else none }

/-- From level 47 by 25 and by 9: two levels, then the cap. -/
theorem exp_conserved_to_cap : ∃ first second whole,
    (updateRoleExp smallRes (oneRole 47 4) 7 25 .normal).roles 7 = some first ∧
      (updateRoleExp smallRes (updateRoleExp smallRes (oneRole 47 4) 7 25 .normal) 7 9
        .normal).roles 7 = some second ∧
      (updateRoleExp smallRes (oneRole 47 4) 7 34 .normal).roles 7 = some whole ∧
      Gained smallRes 50 25 { zeroRole with player := 1, roleId := 1, level := 47, exp := 4 } first ∧
      second.level = whole.level ∧ second.exp = whole.exp := by
  obtain ⟨first, second, whole, hfirst, hsecond, hwhole, hgained, hlevel, -, hexp⟩ :=
    @exp_conserved smallRes (oneRole 47 4) 7
      { zeroRole with player := 1, roleId := 1, level := 47, exp := 4 } ⟨1, 50, [7], [], 5⟩ rfl rfl
      (by decide) 25 9 (by decide) (by decide) (by decide) (by decide)
  refine ⟨first, second, whole, hfirst, hsecond, hwhole, hgained, hlevel, hexp ?_⟩
  rintro ⟨-, -, -, hnone⟩
  cases hnone

/-- **What is not conserved.**  At the cap the experience stays, and the gain is gone; without a gain
    a role does not rise; at a cap without a row experience is left, and a later gain is not added. -/
theorem exp_not_conserved :
    (updateRoleExp smallRes (oneRole 50 5) 7 3 .normal).roleExp = some (50, 5) ∧
      (updateRoleExp smallRes (oneRole 1 30) 7 0 .normal).roleExp = some (1, 30) ∧
      (updateRoleExp shortTable (oneRole 49 9) 7 5 .normal).roleExp = some (50, 4) ∧
      (updateRoleExp shortTable (updateRoleExp shortTable (oneRole 49 9) 7 5 .normal) 7 7
        .normal).roleExp = some (50, 4) ∧
      (updateRoleExp shortTable (oneRole 49 9) 7 12 .normal).roleExp = some (50, 11) := by
  decide +kernel

end Steppingstone.Level
