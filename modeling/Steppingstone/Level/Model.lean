/-
  Steppingstone.Level.Model — what sets the attributes of a role by its level.

  `initRole` computes them from nothing when the player is loaded; `levelUpgrade` and `levelReduce`
  change them by the difference when the level changes.  The level changes by experience, by a
  command of a game master, by an inheritance between two roles, and for a new player once.

  The plugins that a notification goes to, and those that attach the ability of a character, change
  no attribute; whether an inheritance is allowed by them and paid is part of the action.
-/
import Steppingstone.Charge.Model
import Steppingstone.Lib.TransSys
import Steppingstone.Level.Attributes

namespace Steppingstone.Level

open Charge (AddictionStatus getAddictionValue)

/-! ## §1. Resources. -/

/-- The fields of `RoleResInfo` that a role starts from. -/
structure RoleResInfo where
  level : Int32
  charAbility : Int32
  str : Int32
  agi : Int32
  intValue : Int32
  phyAtt : Int32
  phyDef : Int32
  agiAtt : Int32
  agiDef : Int32
  intAtt : Int32
  intDef : Int32
  hp : Int32
  hpGrowth : Int32
  critical : Int32
  criticalDamage : Int32
  block : Int32
  blockDefence : Int32
  blockDamage : Int32
  hit : Int32
  dodge : Int32
  strikeBack : Int32
  combo : Int32
  joint : Int32
  comboUp : Int32
  jointUp : Int32
  comboDown : Int32
  jointDown : Int32
  enarge : Int32
  phyAttGrowth : Int32
  phyDefGrowth : Int32
  agiAttGrowth : Int32
  agiDefGrowth : Int32
  intAttGrowth : Int32
  intDefGrowth : Int32
  hpPercent : Int32
  phyAttPercent : Int32
  phyDefPercent : Int32
  agiAttPercent : Int32
  agiDefPercent : Int32
  intAttPercent : Int32
  intDefPercent : Int32

/-- The level and the experience a new player starts with (`InitializationCfg`). -/
structure InitializationCfg where
  level : Int32
  exp : Int32

/-- The resources of `ManagePlayer`. -/
structure Resources extends SceneRes where
  /-- `getRoleResInfo` -/
  role : UInt32 → Option RoleResInfo
  /-- The experience that a level needs (`m_level_exp_res_info`). -/
  levelExp : UInt32 → Option UInt32
  initialization : InitializationCfg

/-! ## §2. `initRole`, `levelUpgrade`, `levelReduce`. -/

/-- The calls of `modifyRoleAttr` in `initRole`. -/
def initCalls (res : Resources) (level : UInt32) (r : RoleResInfo) : List (RoleAttrType × Int32) :=
  let growth := (level - 1).toInt32
  [(.hpBase, r.hp + r.hpGrowth * growth),
    (.strAttBase, r.phyAttGrowth * growth),
    (.strDefBase, r.phyDefGrowth * growth),
    (.agiAttBase, r.agiAttGrowth * growth),
    (.agiDefBase, r.agiDefGrowth * growth),
    (.intAttBase, r.intAttGrowth * growth),
    (.intDefBase, r.intDefGrowth * growth),
    (.str, r.str),
    (.agi, r.agi),
    (.int, r.intValue),
    (.strAttBase, r.phyAtt),
    (.agiAttBase, r.agiAtt),
    (.intAttBase, r.intAtt),
    (.strDefBase, r.phyDef),
    (.agiDefBase, r.agiDef),
    (.intDefBase, r.intDef),
    (.hpPercent, r.hpPercent),
    (.strAttPercent, r.phyAttPercent),
    (.strDefPercent, r.phyDefPercent),
    (.agiAttPercent, r.agiAttPercent),
    (.agiDefPercent, r.agiDefPercent),
    (.intAttPercent, r.intAttPercent),
    (.intDefPercent, r.intDefPercent),
    (.critical, r.critical),
    (.criticalMultiple, r.criticalDamage),
    (.block, r.block),
    (.blockDefenceMultiple, r.blockDefence),
    (.blockDamageMultiple, r.blockDamage),
    (.dodge, r.dodge),
    (.hit, r.hit),
    (.strikeBack, r.strikeBack),
    (.enrage, r.enarge),
    (.multiHit, r.combo),
    (.unionHit, r.joint),
    (.multiHitAddi, r.comboUp),
    (.unionHitAddi, r.jointUp),
    (.multiHitReduce, r.comboDown),
    (.unionHitReduce, r.jointDown),
    (.initiativeLevel, (level * res.system.levelFirstStrike).toInt32)]

/-- A list of calls of `modifyRoleAttr`, one after the other. -/
def modifyAll (res : SceneRes) (scene : SceneImp) (role : Role)
    (calls : List (RoleAttrType × Int32)) : Role :=
  calls.foldl (fun role call => modifyRoleAttr res scene role call.1 call.2) role

/-- `ManagePlayer::attachRoleCharAbility` -/
def attachRoleCharAbility (role : Role) (charAbility : UInt32) : Role :=
  { role with charAbility := charAbility }

/-- `ManagePlayer::initRole` -/
def initRole (res : Resources) (scene : SceneImp) (role : Role) (r : RoleResInfo) : Role :=
  let role := { role with attributes := fun _ => 0 }
  let role := modifyAll res.toSceneRes scene role (initCalls res role.level r)
  let charAbility := role.charAbility
  attachRoleCharAbility { role with charAbility := 0 } charAbility

/-- `ManagePlayer::levelUpgrade` -/
def levelUpgrade (res : Resources) (scene : SceneImp) (role : Role)
    (fromLevel updateLevel : Int32) : Role :=
  match res.role role.roleId with
  | none => role
  | some r =>
      modifyAll res.toSceneRes scene role
        [(.hpBase, (updateLevel - fromLevel) * r.hpGrowth),
          (.strAttBase, (updateLevel - fromLevel) * r.phyAttGrowth),
          (.strDefBase, (updateLevel - fromLevel) * r.phyDefGrowth),
          (.agiAttBase, (updateLevel - fromLevel) * r.agiAttGrowth),
          (.agiDefBase, (updateLevel - fromLevel) * r.agiDefGrowth),
          (.intAttBase, (updateLevel - fromLevel) * r.intAttGrowth),
          (.intDefBase, (updateLevel - fromLevel) * r.intDefGrowth),
          (.initiativeLevel, (updateLevel - fromLevel) * res.system.levelFirstStrike.toInt32)]

/-- `ManagePlayer::levelReduce` -/
def levelReduce (res : Resources) (scene : SceneImp) (role : Role)
    (fromLevel reduceLevel : Int32) : Role :=
  match res.role role.roleId with
  | none => role
  | some r =>
      modifyAll res.toSceneRes scene role
        [(.hpBase, 0 - (fromLevel - reduceLevel) * r.hpGrowth),
          (.strAttBase, -(fromLevel - reduceLevel) * r.phyAttGrowth),
          (.strDefBase, -(fromLevel - reduceLevel) * r.phyDefGrowth),
          (.agiAttBase, -(fromLevel - reduceLevel) * r.agiAttGrowth),
          (.agiDefBase, -(fromLevel - reduceLevel) * r.agiDefGrowth),
          (.intAttBase, -(fromLevel - reduceLevel) * r.intAttGrowth),
          (.intDefBase, -(fromLevel - reduceLevel) * r.intDefGrowth),
          (.initiativeLevel,
            0 - (fromLevel - reduceLevel) * res.system.levelFirstStrike.toInt32)]

/-! ## §3. The state. -/

/-- The fields of a `Player` that levels read or write. -/
structure Player where
  level : UInt32
  levelLimit : UInt32
  roles : List UInt64
  leaveTeamRoles : List UInt64
  announce : UInt64

/-- A scene with the players and the roles in its pool. -/
structure State where
  scene : SceneImp
  players : UInt64 → Option Player
  roles : UInt64 → Option Role

/-- The state with another role of a guid. -/
def State.setRole (s : State) (guid : UInt64) (role : Role) : State :=
  { s with roles := Function.update s.roles guid (some role) }

/-- The state with another player of a guid. -/
def State.setPlayer (s : State) (guid : UInt64) (player : Player) : State :=
  { s with players := Function.update s.players guid (some player) }

/-- `SceneImp::collectPlayerLevel` -/
def collectPlayerLevel (s : State) (player : UInt64) (level : UInt32) : State :=
  { s with scene := { s.scene with
      onlinePlayer := Function.update s.scene.onlinePlayer player (some level) } }

/-- `SceneImp::playerOffline` -/
def playerOffline (s : State) (player : UInt64) : State :=
  { s with scene := { s.scene with
      onlinePlayer := Function.update s.scene.onlinePlayer player none } }

/-- `ManagePlayer::notifyRoleLevelUp`: the player has the level of its first role. -/
def notifyRoleLevelUp (s : State) (playerGuid : UInt64) (player : Player) (roleGuid : UInt64)
    (role : Role) : State :=
  if player.roles.head? = some roleGuid then
    collectPlayerLevel (s.setPlayer playerGuid { player with level := role.level }) playerGuid
      role.level
  else s

/-! ## §4. The handlers. -/

/-- The level that no role of the player passes. -/
def levelCap (res : Resources) (player : Player) : Int32 :=
  min player.levelLimit.toInt32 res.system.levelCap

theorem toInt_add_one {a b : Int32} (h : ¬ b ≤ a) : (a + 1).toInt = a.toInt + 1 := by
  have hlt : a.toInt < b.toInt := Int32.lt_iff_toInt_lt.mp (Int32.not_le.mp h)
  have hb : b.toInt < 2 ^ 31 := b.toInt_lt
  have ha : -2 ^ 31 ≤ a.toInt := a.le_toInt
  rw [Int32.toInt_add]
  exact Int.bmod_eq_of_le (by simp; omega) (by simp; omega)

/-- `ManagePlayer::calcUpdateLevel` -/
def calcUpdateLevel (res : Resources) (levelCap : Int32) (exp : UInt32) (currLevel : Int32) :
    UInt32 × Int32 :=
  match res.levelExp currLevel.toUInt32 with
  | none => (exp, currLevel)
  | some needed =>
      if levelCap ≤ currLevel then (0, currLevel)
      else if needed ≤ exp then
        calcUpdateLevel res levelCap (exp - needed) (currLevel + 1)
      else (exp, currLevel)
termination_by (levelCap.toInt - currLevel.toInt).toNat
decreasing_by
  rename_i hcap _
  have hnext := toInt_add_one hcap
  have hlt : currLevel.toInt < levelCap.toInt := Int32.lt_iff_toInt_lt.mp (Int32.not_le.mp hcap)
  omega

/-- `ManagePlayer::updateRoleExp` -/
def updateRoleExp (res : Resources) (s : State) (roleGuid : UInt64) (increaseValue : Int32)
    (addictionStatus : AddictionStatus) : State :=
  match s.roles roleGuid with
  | none => s
  | some role =>
      match s.players role.player with
      | none => s
      | some player =>
          let increaseValue := getAddictionValue increaseValue addictionStatus
          let cap := levelCap res player
          if increaseValue = 0 ∨ cap.toUInt32 ≤ role.level then s
          else
            let (exp, updateLevel) := calcUpdateLevel res cap
              (role.exp + increaseValue.toUInt32) role.level.toInt32
            let roleCurrLevel := role.level
            let role := { role with exp := exp, level := updateLevel.toUInt32 }
            -- compared as `uint32`
            if roleCurrLevel < updateLevel.toUInt32 then
              let role := levelUpgrade res s.scene role roleCurrLevel.toInt32 updateLevel
              notifyRoleLevelUp (s.setRole roleGuid role) role.player player roleGuid role
            else s.setRole roleGuid role

/-- The role a command is about: the first, or the one whose number is given. -/
def targetRole (player : Player) (params : List Int32) : Option UInt64 :=
  match params with
  | _ :: roleIndex :: _ =>
      if 0 < roleIndex ∧ roleIndex.toInt ≤ player.roles.length then
        player.roles[(roleIndex.toInt - 1).toNat]?
      else player.roles.head?
  | _ => player.roles.head?

/-- `ManagePlayer::gmcmd_levelup`, of the numbers that its parameters are. -/
def gmcmdLevelup (res : Resources) (s : State) (playerGuid : UInt64) (params : List Int32) :
    State :=
  match s.players playerGuid, params.head? with
  | some player, some upLevel =>
      if upLevel ≤ 0 then s
      else
        match targetRole player params with
        | none => s
        | some roleGuid =>
            match s.roles roleGuid with
            | none => s
            | some role =>
                let cap := levelCap res player
                if cap.toUInt32 ≤ role.level then s
                else
                  let upLevel := if cap.toUInt32 < role.level + upLevel.toUInt32 then
                    (cap.toUInt32 - role.level).toInt32 else upLevel
                  let role := { role with level := role.level + upLevel.toUInt32 }
                  -- the level is set before: only the difference counts
                  let role := levelUpgrade res s.scene role role.level.toInt32
                    (role.level + upLevel.toUInt32).toInt32
                  notifyRoleLevelUp (s.setRole roleGuid role) playerGuid player roleGuid role
  | _, _ => s

/-- The level swap of `cmsg_inherit_role`. -/
def swapLevels (res : Resources) (scene : SceneImp) (fromRole toRole : Role) : Role × Role :=
  let fromRoleLevel := fromRole.level
  let toRoleLevel := toRole.level
  let fromRole := { fromRole with level := toRoleLevel }
  let toRole := { toRole with level := fromRoleLevel }
  if toRoleLevel < fromRoleLevel then
    (levelReduce res scene fromRole fromRoleLevel.toInt32 toRoleLevel.toInt32,
      levelUpgrade res scene toRole toRoleLevel.toInt32 fromRoleLevel.toInt32)
  else if fromRoleLevel < toRoleLevel then
    (levelUpgrade res scene fromRole fromRoleLevel.toInt32 toRoleLevel.toInt32,
      levelReduce res scene toRole toRoleLevel.toInt32 fromRoleLevel.toInt32)
  else (fromRole, toRole)

/-- `ManagePlayer::cmsg_inherit_role`; the plugins say if the equipment allows it, and if it is
    paid. -/
def cmsgInheritRole (res : Resources) (s : State) (playerGuid fromGuid toGuid : UInt64)
    (checked reduced : Bool) : State :=
  match s.players playerGuid, s.roles fromGuid, s.roles toGuid with
  | some player, some fromRole, some toRole =>
      if fromGuid ≠ toGuid ∧ fromRole.player = playerGuid ∧ toRole.player = playerGuid
          ∧ player.roles.head? ≠ some fromGuid ∧ player.roles.head? ≠ some toGuid
          ∧ checked ∧ reduced then
        let swapped := swapLevels res s.scene fromRole toRole
        let fromRole := { swapped.1 with
          exp := swapped.2.exp, inheritFrom := swapped.1.inheritFrom + 1 }
        let toRole := { swapped.2 with
          exp := swapped.1.exp, inheritTo := swapped.2.inheritTo + 1 }
        let s := (s.setRole fromGuid fromRole).setRole toGuid toRole
        let s := notifyRoleLevelUp s playerGuid player toGuid toRole
        notifyRoleLevelUp s playerGuid player fromGuid fromRole
      else s
  | _, _, _ => s

/-- `ManagePlayer::rmsg_role_add`; `roleGuid` is the guid that is made for the role. -/
def rmsgRoleAdd (res : Resources) (s : State) (playerGuid : UInt64) (roleId : UInt32)
    (roleGuid : UInt64) : State :=
  match s.players playerGuid, res.role roleId with
  | some player, some r =>
      let role : Role := {
        player := playerGuid
        roleId := roleId
        level := r.level.toUInt32
        exp := 0
        charAbility := r.charAbility.toUInt32
        attributes := fun _ => 0
        updateFightPower := 0
        inheritFrom := 0
        inheritTo := 0 }
      (s.setRole roleGuid (initRole res s.scene role r)).setPlayer playerGuid
        { player with roles := player.roles ++ [roleGuid] }
  | _, _ => s

/-! ## §5. Loading a player. -/

/-- The body of the loops of `initPlayerAttribute`. -/
def initRoleOf (res : Resources) (s : State) (roleGuid : UInt64) : State :=
  match s.roles roleGuid with
  | none => s
  | some role =>
      match res.role role.roleId with
      | none => s
      | some r => s.setRole roleGuid (initRole res s.scene role r)

/-- `ManagePlayer::initPlayerAttribute` -/
def initPlayerAttribute (res : Resources) (s : State) (player : Player) : State :=
  (player.roles ++ player.leaveTeamRoles).foldl (initRoleOf res) s

/-- `ManagePlayer::firstInitPlayer`, as far as the announce; `announce` is the guid that is made. -/
def firstInitPlayer (s : State) (player : Player) (announce : Option UInt64) : Player :=
  match player.roles.head?.bind s.roles, announce with
  | some _, some guid => { player with announce := guid }
  | _, _ => player

/-- `ManagePlayer::firstInitPlayerLevel` -/
def firstInitPlayerLevel (res : Resources) (s : State) (playerGuid : UInt64) (player : Player) :
    State :=
  match player.roles.head? with
  | none => s
  | some roleGuid =>
      match s.roles roleGuid with
      | none => s
      | some role =>
          let level := res.initialization.level
          let exp := res.initialization.exp
          let withExp (role : Role) : Role :=
            if 0 < exp then { role with exp := exp.toUInt32 } else role
          if 1 < level then
            let role := levelUpgrade res s.scene role role.level.toInt32 level
            let role := { role with level := level.toUInt32 }
            (s.setRole roleGuid (withExp role)).setPlayer playerGuid
              { player with level := role.level }
          else s.setRole roleGuid (withExp role)

/-- `ManagePlayer::playerDataLoadFinish`, for the levels and the attributes of an online player. -/
def playerDataLoadFinish (res : Resources) (s : State) (playerGuid : UInt64)
    (announce : Option UInt64) : State :=
  match s.players playerGuid with
  | none => s
  | some player =>
      let s := collectPlayerLevel s playerGuid player.level
      if player.announce = 0 then
        let player := firstInitPlayer s player announce
        let s := initPlayerAttribute res (s.setPlayer playerGuid player) player
        firstInitPlayerLevel res s playerGuid player
      else initPlayerAttribute res s player

/-! ## §6. Runs. -/

/-- What changes the levels and attributes of roles. -/
inductive Act
  | load (player : UInt64) (announce : Option UInt64)
  | updateRoleExp (role : UInt64) (increaseValue : Int32) (addictionStatus : AddictionStatus)
  | gmcmdLevelup (player : UInt64) (params : List Int32)
  | cmsgInheritRole (player fromRole toRole : UInt64) (checked reduced : Bool)
  | rmsgRoleAdd (player : UInt64) (roleId : UInt32) (roleGuid : UInt64)
  | playerOffline (player : UInt64)
  /-- The line gets or changes the short of a player. -/
  | briefInfo (player : UInt64) (level : UInt32)

/-- One step; the guid of a new role is new. -/
def step (res : Resources) (s : State) : Act → Option State
  | .load player announce => some (playerDataLoadFinish res s player announce)
  | .updateRoleExp role value addictionStatus => some (updateRoleExp res s role value addictionStatus)
  | .gmcmdLevelup player params => some (gmcmdLevelup res s player params)
  | .cmsgInheritRole player fromRole toRole checked reduced =>
      some (cmsgInheritRole res s player fromRole toRole checked reduced)
  | .rmsgRoleAdd player roleId roleGuid =>
      if s.roles roleGuid = none then some (rmsgRoleAdd res s player roleId roleGuid) else none
  | .playerOffline player => some (playerOffline s player)
  | .briefInfo player level =>
      some { s with scene := { s.scene with
        briefInfo := Function.update s.scene.briefInfo player (some level) } }

/-- The system, from any state: a player is loaded by a step. -/
def system (res : Resources) : TransSys State Act where
  init _ := True
  step := step res

end Steppingstone.Level
