/-
  Steppingstone.Level.Attributes — the attributes of a role (`SceneImp::modifyRoleAttr`).

  An attribute is only ever changed by an amount.  A change of some attributes makes changes of
  others first (strength makes attack, a rank makes a rate, every kind of initiative makes the
  total), and a change of a base or of its percentage computes the attribute that comes of both.

  Integers wrap, as `int32` and `uint32`.  `TEN_THOUSAND_PERCENT_BASE` is the double 10000: every
  operation on a base and its percentage is rounded to a double before the result is truncated.  A
  quotient of an integer by 10000 is truncated as the exact one is.
-/
import Mathlib.Data.List.Basic
import Mathlib.Logic.Function.Basic
import Mathlib.Tactic.Common
import Steppingstone.Lib.Rounding

namespace Steppingstone.Level

/-! ## §1. Attributes and resources. -/

/-- `RoleAttrType`, from `RAT_BEGIN` to `RAT_ENDING`. -/
inductive RoleAttrType
  | hp | currHp | str | agi | int
  | strAttBase | strAttPercent | strAttack
  | agiAttBase | agiAttPercent | agiAttack
  | intAttBase | intAttPercent | intAttack
  | strDefBase | strDefPercent | strDefense
  | agiDefBase | agiDefPercent | agiDefense
  | intDefBase | intDefPercent | intDefense
  | critical | criticalMultiple | block | blockDefenceMultiple | blockDamageMultiple
  | dodge | hit | forceValue | enrage | strikeBack
  | hpBase | hpPercent | fightPower
  | attackBack | attackTransfer | attackRatMiss
  | hurtIncWarrior | hurtIncSwordman | hurtIncJtJebe | hurtIncHercules | hurtIncMusician
  | hurtReduceWarrior | hurtReduceSwordman | hurtReduceJtJebe | hurtReduceHercules
  | hurtReduceMusician
  | hurtIncStr | hurtIncAgi | hurtIncInt | hurtReduceStr | hurtReduceAgi | hurtReduceInt
  | cureAbsolute | curePercent | beCureAbsolute | beCurePercent | beSuckHp | suckHp
  | multiHit | unionHit | multiHitAddi | unionHitAddi | multiHitReduce | unionHitReduce
  | criticalRank | criticalMultipleRank | blockRank | blockDefenceMultipleRank | strikeBackRank
  | hitRank | dodgeRank | multiHitRank | unionHitRank | multiHitAddiRank | unionHitAddiRank
  | initiativeAll | initiativeSthen | initiativeColor | initiativeLaw | initiativeEducate
  | initiativeDodge | initiativeChakre | initiativeTraining | initiativeLevel
  | uncriticalRank | unblockRank | uncritical | unblock
  deriving DecidableEq

/-- The fields of `WarInitResInfo` that make attack and defence of strength, agility and
    intelligence, in ten-thousandths. -/
structure WarInitResInfo where
  strAtt : Int32
  strDef : Int32
  agiAtt : Int32
  agiDef : Int32
  intAtt : Int32
  intDef : Int32

/-- The fields of `SystemResInfo` that levels and attributes read. -/
structure SystemResInfo where
  levelCap : Int32
  rankParam : UInt32
  levelFirstStrike : UInt32
  sanweiFirstStrike1 : UInt32
  sanweiFirstStrike2 : UInt32
  sanweiFirstStrike3 : UInt32

/-- The resources of a scene that `modifyRoleAttr` reads. -/
structure SceneRes where
  war : WarInitResInfo
  system : SystemResInfo

/-- The fields of a `Role` that levels and attributes read or write. -/
structure Role where
  player : UInt64
  roleId : UInt32
  level : UInt32
  exp : UInt32
  charAbility : UInt32
  attributes : RoleAttrType → Int32
  updateFightPower : UInt64
  inheritFrom : UInt32
  inheritTo : UInt32

/-- `Role::set_attributes` -/
def Role.setAttributes (role : Role) (attr : RoleAttrType) (value : Int32) : Role :=
  { role with attributes := Function.update role.attributes attr value }

/-- The levels of the players that a scene finds: those online in it (`m_online_player`) and those
    the line has a short of (`getPlayerBriefInfo`). -/
structure SceneImp where
  onlinePlayer : UInt64 → Option UInt32
  briefInfo : UInt64 → Option UInt32

/-- The level `modifyRoleAttr` finds for a player, if it finds the player. -/
def SceneImp.playerLevel (scene : SceneImp) (player : UInt64) : Option UInt32 :=
  match scene.onlinePlayer player with
  | some level => some level
  | none => scene.briefInfo player

/-! ## §2. `modifyRoleAttr`. -/

/-- `value * ratio / TEN_THOUSAND_PERCENT_BASE`; the product is one of two `int`s. -/
def tenThousandths (value ratio : Int32) : Int32 :=
  Int32.ofInt ((value * ratio).toInt.tdiv 10000)

/-- The nearest `double`, of 53 binary digits; nothing here overflows or is subnormal. -/
def double (q : ℚ) : ℚ :=
  Rounding.rounded 53 q

/-- `base * (percent / TEN_THOUSAND_PERCENT_BASE + 1)` -/
def scaled (base percent : Int32) : Int32 :=
  Int32.ofInt (Rounding.truncate
    (double (base.toInt * double (double (percent.toInt / 10000) + 1))))

/-- `CONVERT_RANK`; the product is one of two `int`s. -/
def convertRank (res : SceneRes) (playerLevel : UInt32) (value : Int32) : Int32 :=
  Int32.ofInt
    ((value * res.system.rankParam.toInt32).toInt.tdiv playerLevel.toInt32.toInt)

/-- The calls of itself in the switch of `modifyRoleAttr`. -/
def innerCalls (res : SceneRes) (playerLevel : UInt32) (attr : RoleAttrType) (value : Int32) :
    List (RoleAttrType × Int32) :=
  match attr with
  | .str => [(.strAttBase, tenThousandths value res.war.strAtt),
      (.strDefBase, tenThousandths value res.war.strDef),
      (.initiativeEducate, value * res.system.sanweiFirstStrike1.toInt32)]
  | .agi => [(.agiAttBase, tenThousandths value res.war.agiAtt),
      (.agiDefBase, tenThousandths value res.war.agiDef),
      (.initiativeEducate, value * res.system.sanweiFirstStrike2.toInt32)]
  | .int => [(.intAttBase, tenThousandths value res.war.intAtt),
      (.intDefBase, tenThousandths value res.war.intDef),
      (.initiativeEducate, value * res.system.sanweiFirstStrike3.toInt32)]
  | .criticalRank => [(.critical, convertRank res playerLevel value)]
  | .criticalMultipleRank => [(.criticalMultiple, convertRank res playerLevel value)]
  | .blockRank => [(.block, convertRank res playerLevel value)]
  | .blockDefenceMultipleRank => [(.blockDefenceMultiple, convertRank res playerLevel value)]
  | .strikeBackRank => [(.strikeBack, convertRank res playerLevel value)]
  | .hitRank => [(.hit, convertRank res playerLevel value)]
  | .dodgeRank => [(.dodge, convertRank res playerLevel value)]
  | .multiHitRank => [(.multiHit, convertRank res playerLevel value)]
  | .unionHitRank => [(.unionHit, convertRank res playerLevel value)]
  | .multiHitAddiRank => [(.multiHitAddi, convertRank res playerLevel value)]
  | .unionHitAddiRank => [(.unionHitAddi, convertRank res playerLevel value)]
  | .initiativeSthen => [(.initiativeAll, value)]
  | .initiativeColor => [(.initiativeAll, value)]
  | .initiativeLaw => [(.initiativeAll, value)]
  | .initiativeEducate => [(.initiativeAll, value)]
  | .initiativeDodge => [(.initiativeAll, value)]
  | .initiativeChakre => [(.initiativeAll, value)]
  | .initiativeTraining => [(.initiativeAll, value)]
  | .initiativeLevel => [(.initiativeAll, value)]
  | .uncriticalRank => [(.uncritical, convertRank res playerLevel value)]
  | .unblockRank => [(.unblock, convertRank res playerLevel value)]
  | _ => []

/-- The attributes that the switch computes when `attr` is going to be `value`. -/
def Role.compute (role : Role) (attr : RoleAttrType) (value : Int32) : Role :=
  match attr with
  | .strAttBase => role.setAttributes .strAttack (scaled value (role.attributes .strAttPercent))
  | .strAttPercent => role.setAttributes .strAttack (scaled (role.attributes .strAttBase) value)
  | .strDefBase => role.setAttributes .strDefense (scaled value (role.attributes .strDefPercent))
  | .strDefPercent => role.setAttributes .strDefense (scaled (role.attributes .strDefBase) value)
  | .agiAttBase => role.setAttributes .agiAttack (scaled value (role.attributes .agiAttPercent))
  | .agiAttPercent => role.setAttributes .agiAttack (scaled (role.attributes .agiAttBase) value)
  | .agiDefBase => role.setAttributes .agiDefense (scaled value (role.attributes .agiDefPercent))
  | .agiDefPercent => role.setAttributes .agiDefense (scaled (role.attributes .agiDefBase) value)
  | .intAttBase => role.setAttributes .intAttack (scaled value (role.attributes .intAttPercent))
  | .intAttPercent => role.setAttributes .intAttack (scaled (role.attributes .intAttBase) value)
  | .intDefBase => role.setAttributes .intDefense (scaled value (role.attributes .intDefPercent))
  | .intDefPercent => role.setAttributes .intDefense (scaled (role.attributes .intDefBase) value)
  | .hpBase =>
      let role := role.setAttributes .hp (scaled value (role.attributes .hpPercent))
      role.setAttributes .currHp (scaled value (role.attributes .hpPercent))
  | .hpPercent =>
      let role := role.setAttributes .hp (scaled (role.attributes .hpBase) value)
      role.setAttributes .currHp (scaled (role.attributes .hpBase) value)
  | _ => role

/-- `modifyRoleAttr` with at most `depth` calls inside each other, for the player's level that it
    finds. -/
def modifyWithin (res : SceneRes) (playerLevel : Option UInt32) :
    (depth : Nat) → Role → RoleAttrType → Int32 → Role
  | 0, role, _, _ => role
  | depth + 1, role, attr, value =>
      if value = 0 then role
      else
        match playerLevel with
        | none => role
        | some level =>
            let newAttrValue := role.attributes attr + value
            let role := (innerCalls res level attr value).foldl
              (fun role (call : RoleAttrType × Int32) =>
                modifyWithin res playerLevel depth role call.1 call.2) role
            let role := (role.compute attr newAttrValue).setAttributes attr newAttrValue
            { role with updateFightPower := 0 }

/-- `SceneImp::modifyRoleAttr`; strength calls initiative, initiative its total. -/
def modifyRoleAttr (res : SceneRes) (scene : SceneImp) (role : Role) (attr : RoleAttrType)
    (value : Int32) : Role :=
  modifyWithin res (scene.playerLevel role.player) 3 role attr value

/-! ## §3. The calls end. -/

/-- How many calls an attribute makes inside each other. -/
def RoleAttrType.calls : RoleAttrType → Nat
  | .str | .agi | .int => 2
  | .criticalRank | .criticalMultipleRank | .blockRank | .blockDefenceMultipleRank
  | .strikeBackRank | .hitRank | .dodgeRank | .multiHitRank | .unionHitRank | .multiHitAddiRank
  | .unionHitAddiRank | .uncriticalRank | .unblockRank => 1
  | .initiativeSthen | .initiativeColor | .initiativeLaw | .initiativeEducate | .initiativeDodge
  | .initiativeChakre | .initiativeTraining | .initiativeLevel => 1
  | _ => 0

/-- The calls inside a call are nested less deep. -/
theorem calls_lt_of_mem {res : SceneRes} {level : UInt32} {attr : RoleAttrType} {value : Int32}
    {call : RoleAttrType × Int32} (h : call ∈ innerCalls res level attr value) :
    call.1.calls < attr.calls := by
  unfold innerCalls at h
  split at h
  -- the last case of the switch calls nothing
  case h_25 => cases h
  -- the first three call three times, the others once
  case h_1 | h_2 | h_3 =>
    obtain rfl | rfl | rfl : _ ∨ _ ∨ _ := by simpa using h
    all_goals simp [RoleAttrType.calls]
  all_goals
    obtain rfl := List.mem_singleton.mp h
    show (0 : Nat) < 1
    exact Nat.one_pos

/-- No call nests deeper than three. -/
theorem calls_lt (attr : RoleAttrType) : attr.calls < 3 := by
  unfold RoleAttrType.calls
  split <;> omega

/-- One level of the recursion. -/
theorem modifyWithin_succ (res : SceneRes) (playerLevel : Option UInt32) (depth : Nat)
    (role : Role) (attr : RoleAttrType) (value : Int32) :
    modifyWithin res playerLevel (depth + 1) role attr value =
      if value = 0 then role
      else
        match playerLevel with
        | none => role
        | some level =>
            { (((innerCalls res level attr value).foldl
                (fun role call => modifyWithin res playerLevel depth role call.1 call.2)
                role).compute attr (role.attributes attr + value)).setAttributes attr
                  (role.attributes attr + value) with updateFightPower := 0 } := by
  rfl

/-- More room for calls than are made changes nothing. -/
theorem modifyWithin_congr (res : SceneRes) (playerLevel : Option UInt32) {m n : Nat}
    {attr : RoleAttrType} (hm : attr.calls < m) (hn : attr.calls < n) (role : Role)
    (value : Int32) :
    modifyWithin res playerLevel m role attr value
      = modifyWithin res playerLevel n role attr value := by
  induction m generalizing n role attr value with
  | zero => omega
  | succ m ih =>
      obtain ⟨n, rfl⟩ : ∃ k, n = k + 1 := ⟨n - 1, by omega⟩
      unfold modifyWithin
      match playerLevel with
      | none => rfl
      | some level =>
          have hcalls : (innerCalls res level attr value).foldl
                (fun role call => modifyWithin res (some level) m role call.1 call.2) role
              = (innerCalls res level attr value).foldl
                (fun role call => modifyWithin res (some level) n role call.1 call.2) role := by
            apply List.foldl_ext
            intro role call hmem
            have hlt := calls_lt_of_mem hmem
            exact ih (by omega) (by omega) role call.2
          simp only [hcalls]

/-- The fields that no change of an attribute touches. -/
def Role.rest (role : Role) : Role :=
  { role with attributes := fun _ => 0, updateFightPower := 0 }

/-- What no change of an attribute touches. -/
theorem eq_of_rest {role role' : Role} (h : role'.rest = role.rest) :
    role'.player = role.player ∧ role'.roleId = role.roleId ∧ role'.level = role.level := by
  have hplayer : role'.rest.player = role.rest.player := by rw [h]
  have hid : role'.rest.roleId = role.rest.roleId := by rw [h]
  have hlevel : role'.rest.level = role.rest.level := by rw [h]
  exact ⟨hplayer, hid, hlevel⟩

/-- Computing an attribute leaves the rest. -/
theorem compute_rest (role : Role) (attr : RoleAttrType) (value : Int32) :
    (role.compute attr value).rest = role.rest := by
  unfold Role.compute
  split <;> rfl

theorem foldl_modify_rest {change : Role → RoleAttrType → Int32 → Role}
    (hchange : ∀ role attr value, (change role attr value).rest = role.rest)
    (calls : List (RoleAttrType × Int32)) (role : Role) :
    (calls.foldl (fun role call => change role call.1 call.2) role).rest = role.rest := by
  induction calls generalizing role with
  | nil => rfl
  | cons call calls ih => rw [List.foldl_cons, ih, hchange]

/-- Changing an attribute leaves the rest. -/
theorem modifyWithin_rest (res : SceneRes) (playerLevel : Option UInt32) (depth : Nat)
    (role : Role) (attr : RoleAttrType) (value : Int32) :
    (modifyWithin res playerLevel depth role attr value).rest = role.rest := by
  induction depth generalizing role attr value with
  | zero => rfl
  | succ depth ih =>
      unfold modifyWithin
      split
      · rfl
      · split
        · rfl
        · exact (compute_rest ..).trans (foldl_modify_rest ih _ role)

theorem modifyWithin_player (res : SceneRes) (playerLevel : Option UInt32) (depth : Nat)
    (role : Role) (attr : RoleAttrType) (value : Int32) :
    (modifyWithin res playerLevel depth role attr value).player = role.player :=
  (eq_of_rest (modifyWithin_rest res playerLevel depth role attr value)).1

/-- **`modifyRoleAttr` calls itself**: the bound on its depth is never met. -/
theorem modifyRoleAttr_eq (res : SceneRes) (scene : SceneImp) (role : Role) (attr : RoleAttrType)
    (value : Int32) :
    modifyRoleAttr res scene role attr value =
      if value = 0 then role
      else
        match scene.playerLevel role.player with
        | none => role
        | some level =>
            let newAttrValue := role.attributes attr + value
            let role := (innerCalls res level attr value).foldl
              (fun role call => modifyRoleAttr res scene role call.1 call.2) role
            let role := (role.compute attr newAttrValue).setAttributes attr newAttrValue
            { role with updateFightPower := 0 } := by
  -- an inner call goes less deep than the call that makes it
  have hfold : ∀ calls : List (RoleAttrType × Int32), (∀ call ∈ calls, call.1.calls < 2) →
      ∀ r : Role, r.player = role.player →
        calls.foldl (fun r call => modifyRoleAttr res scene r call.1 call.2) r =
          calls.foldl (fun r call =>
            modifyWithin res (scene.playerLevel role.player) 2 r call.1 call.2) r := by
    intro calls hcalls
    induction calls with
    | nil => intro r _; rw [List.foldl_nil, List.foldl_nil]
    | cons call calls ih =>
        intro r hr
        have hstep : modifyRoleAttr res scene r call.1 call.2
            = modifyWithin res (scene.playerLevel role.player) 2 r call.1 call.2 := by
          unfold modifyRoleAttr
          rw [hr]
          exact modifyWithin_congr res _ (calls_lt _) (hcalls call List.mem_cons_self) r call.2
        rw [List.foldl_cons, List.foldl_cons, hstep]
        exact ih (fun c hc => hcalls c (List.mem_cons_of_mem _ hc)) _
          ((modifyWithin_player ..).trans hr)
  have hthree : (3 : Nat) = 2 + 1 := rfl
  show modifyWithin res (scene.playerLevel role.player) 3 role attr value = _
  rw [hthree, modifyWithin_succ]
  cases hlevel : scene.playerLevel role.player with
  | none => rfl
  | some level =>
      rw [hlevel] at hfold
      have hcalls := hfold (innerCalls res level attr value) (fun call hmem => by
        have hlt := calls_lt_of_mem hmem
        have hattr := calls_lt attr
        omega) role rfl
      simp only [hcalls]

end Steppingstone.Level
