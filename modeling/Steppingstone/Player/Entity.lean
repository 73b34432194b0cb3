/-
  Steppingstone.Player.Entity — the entities of a player and the fields that
  refer from one to another (`player.proto`, `task.proto`, `chakra.proto`,
  `wife.proto`; read by `PlayerAssistant::getPlayerEntityMap`), and the balances
  of the player and its coin.

  Of its other fields a message keeps the bytes, `data`.  An unset field has its default, 0 or
  empty.
-/
import Mathlib.Tactic.Common

namespace Steppingstone.Player

/-! ## §1. Messages. -/

/-- The message types the walk asks for, and the two that a player has besides. -/
inductive EntityKind
  | player | role | form | law | item | sect | stage | stheno | announce | task | tasksBrief
  | townStage | educate | educateTimes | specshop | chakra | chakre | worship | eggs | condor
  | boss | answer | addiction | gift | vip | achievement | practice | dailyPoints | tower
  | tavern | fish | dodge | wife | playerWife | activities | pellet | playerMaze | openActivity
  | openAct | trial | runes | shenghuolingSwitch | shenghuolingOwner | doubleexp | loginGift
  | superPower | goldCard | soul | soulpveScene | talent | horse | qqSpreadPlayer
  | coin | attach
  deriving Repr, DecidableEq

/-- `typed::entity::Player`. -/
structure PlayerEntity where
  money : UInt32 := 0
  coin : UInt32 := 0
  stage : UInt64 := 0
  form : UInt64 := 0
  roles : List UInt64 := []
  bag : List UInt64 := []
  storehouse : List UInt64 := []
  leaveTeamRoles : List UInt64 := []
  sect : UInt64 := 0
  law : UInt64 := 0
  sthenoIdleList : List UInt64 := []
  sthenoEquipList : List UInt64 := []
  announce : UInt64 := 0
  taskBrief : UInt64 := 0
  townStage : List UInt64 := []
  educate : UInt64 := 0
  attach : UInt64 := 0
  specshop : UInt64 := 0
  chakra : UInt64 := 0
  worship : UInt64 := 0
  eggs : UInt64 := 0
  condor : UInt64 := 0
  boss : UInt64 := 0
  answer : UInt64 := 0
  addiction : UInt64 := 0
  gift : UInt64 := 0
  vip : UInt64 := 0
  achievement : UInt64 := 0
  practice : UInt64 := 0
  dailyPoints : UInt64 := 0
  tower : UInt64 := 0
  tavern : UInt64 := 0
  fish : UInt64 := 0
  dodge : UInt64 := 0
  wifes : List UInt64 := []
  playerWife : UInt64 := 0
  playerActivies : UInt64 := 0
  maze : UInt64 := 0
  openActivity : UInt64 := 0
  openAct : UInt64 := 0
  coinGuid : UInt64 := 0
  trial : UInt64 := 0
  runes : UInt64 := 0
  shlSwitch : UInt64 := 0
  doubleexp : UInt64 := 0
  soulPveGuid : UInt64 := 0
  soul : UInt64 := 0
  loginGift : UInt64 := 0
  superPower : UInt64 := 0
  goldcard : UInt64 := 0
  talent : UInt64 := 0
  horse : UInt64 := 0
  qqspreadsen : UInt64 := 0
  deriving Repr, DecidableEq

/-- `typed::entity::Role`. -/
structure Role where
  equipments : List UInt64 := []
  educate : UInt64 := 0
  pellet : UInt64 := 0
  shlOwner : UInt64 := 0
  deriving Repr, DecidableEq

/-- `typed::entity::TasksBrief`. -/
structure TasksBrief where
  unfinished : List UInt64 := []
  finished : List UInt64 := []
  failed : List UInt64 := []
  deriving Repr, DecidableEq

/-- `typed::entity::Chakra`. -/
structure Chakra where
  storehouse : List UInt64 := []
  caches : List UInt64 := []
  deriving Repr, DecidableEq

/-- `typed::entity::Wife`; its equipments are 32-bit. -/
structure Wife where
  equipments : List UInt32 := []
  deriving Repr, DecidableEq

/-- `typed::entity::Coin`. -/
structure CoinEntity where
  player : UInt64
  coin : UInt32 := 0
  money : UInt32 := 0
  deriving Repr, DecidableEq

/-- A message by its type; `other` is for the types without fields of interest. -/
inductive Body
  | player (player : PlayerEntity)
  | coin (coin : CoinEntity)
  | role (role : Role)
  | tasksBrief (brief : TasksBrief)
  | chakra (chakra : Chakra)
  | wife (wife : Wife)
  | other (kind : EntityKind)
  deriving Repr, DecidableEq

/-- An entity in the pool. -/
structure Entity where
  guid : UInt64
  body : Body
  data : List UInt8 := []
  deriving Repr, DecidableEq

/-- The message type. -/
def Body.kind : Body → EntityKind
  | .player _ => .player
  | .coin _ => .coin
  | .role _ => .role
  | .tasksBrief _ => .tasksBrief
  | .chakra _ => .chakra
  | .wife _ => .wife
  | .other kind => kind

/-- `dynamic_cast<typed::entity::Player *>`. -/
def Entity.asPlayer (e : Entity) : Option PlayerEntity :=
  match e.body with
  | .player player => some player
  | _ => none

/-- `dynamic_cast<typed::entity::Coin *>`. -/
def Entity.asCoin (e : Entity) : Option CoinEntity :=
  match e.body with
  | .coin coin => some coin
  | _ => none

/-! ## §2. References. -/

/-- A field that refers to an entity: the type it is cast to, and whether the
entity is then recorded under its own guid or under the guid in the field. -/
structure Ref where
  kind : EntityKind
  guid : UInt64
  byOwnGuid : Bool
  deriving Repr, DecidableEq

/-- The guid the entity is recorded under. -/
def Ref.key (r : Ref) (e : Entity) : UInt64 :=
  if r.byOwnGuid then e.guid else r.guid

/-- Recorded under the guid in the field. -/
def field (kind : EntityKind) (guid : UInt64) : Ref := { kind, guid, byOwnGuid := false }

/-- Recorded under the entity's own guid. -/
def owned (kind : EntityKind) (guid : UInt64) : Ref := { kind, guid, byOwnGuid := true }

/-- `if (0 != guid)` around a reference. -/
def fieldIfSet (kind : EntityKind) (guid : UInt64) : List Ref :=
  if guid ≠ 0 then [field kind guid] else []

theorem forall_mem_fieldIfSet {kind : EntityKind} {guid : UInt64} {P : Ref → Prop} :
    (∀ r ∈ fieldIfSet kind guid, P r) ↔ (guid ≠ 0 → P (field kind guid)) := by
  unfold fieldIfSet
  split
  · next h => simp [h]
  · next h => simp [h]

/-- A list walked with `CHECK_ITEM_GUID`: 1 is skipped, 0 ends the loop. -/
def checkedItems (guids : List UInt64) : List UInt64 :=
  (guids.takeWhile (· ≠ 0)).filter (· ≠ 1)

/-- The references of a role. -/
def Role.refs (role : Role) : List Ref :=
  (role.equipments.filter (· > 1)).map (owned .item)
    ++ [owned .educate role.educate, owned .pellet role.pellet]
    ++ fieldIfSet .shenghuolingOwner role.shlOwner

/-- The references of a task brief. -/
def TasksBrief.refs (brief : TasksBrief) : List Ref :=
  (brief.unfinished ++ brief.finished ++ brief.failed).map (field .task)

/-- The references of a chakra. -/
def Chakra.refs (chakra : Chakra) : List Ref :=
  (chakra.storehouse.filter (· > 1)).map (owned .chakre) ++ chakra.caches.map (owned .chakre)

/-- The references of a wife. -/
def Wife.refs (wife : Wife) : List Ref :=
  ((wife.equipments.filter (· ≠ 0)).map (·.toUInt64)).map (owned .item)

/-- The references that are walked once an entity other than the player is taken. -/
def Entity.refs (e : Entity) : List Ref :=
  match e.body with
  | .role role => role.refs
  | .tasksBrief brief => brief.refs
  | .chakra chakra => chakra.refs
  | .wife wife => wife.refs
  | _ => []

/-- The references of the player, in the order of `getPlayerEntityMap`. -/
def PlayerEntity.refs (player : PlayerEntity) : List Ref :=
  [field .stage player.stage, owned .form player.form]
    ++ player.roles.map (owned .role)
    ++ player.leaveTeamRoles.map (owned .role)
    ++ (checkedItems player.bag).map (owned .item)
    ++ (checkedItems player.storehouse).map (owned .item)
    ++ [owned .law player.law, owned .sect player.sect]
    ++ (player.sthenoIdleList.filter (· > 1)).map (field .stheno)
    ++ (player.sthenoEquipList.filter (· > 1)).map (field .stheno)
    ++ [field .announce player.announce, field .tasksBrief player.taskBrief]
    ++ player.townStage.map (field .townStage)
    ++ [owned .educateTimes player.educate,
        field .specshop player.specshop,
        field .chakra player.chakra,
        field .worship player.worship,
        field .eggs player.eggs,
        field .condor player.condor,
        field .boss player.boss,
        field .answer player.answer,
        owned .addiction player.addiction,
        owned .gift player.gift,
        owned .vip player.vip,
        field .achievement player.achievement,
        field .practice player.practice,
        field .dailyPoints player.dailyPoints,
        field .tower player.tower,
        field .tavern player.tavern,
        field .fish player.fish,
        field .dodge player.dodge,
        field .playerWife player.playerWife]
    ++ (player.wifes.filter (· ≠ 0)).map (owned .wife)
    ++ fieldIfSet .activities player.playerActivies
    ++ fieldIfSet .playerMaze player.maze
    ++ fieldIfSet .openActivity player.openActivity
    ++ fieldIfSet .openAct player.openAct
    ++ fieldIfSet .trial player.trial
    ++ fieldIfSet .runes player.runes
    ++ fieldIfSet .shenghuolingSwitch player.shlSwitch
    ++ fieldIfSet .doubleexp player.doubleexp
    ++ fieldIfSet .loginGift player.loginGift
    ++ fieldIfSet .superPower player.superPower
    ++ fieldIfSet .goldCard player.goldcard
    ++ fieldIfSet .soul player.soul
    ++ fieldIfSet .soulpveScene player.soulPveGuid
    ++ fieldIfSet .talent player.talent
    ++ fieldIfSet .horse player.horse
    ++ fieldIfSet .qqSpreadPlayer player.qqspreadsen

/-- No walked field refers to a coin. -/
theorem PlayerEntity.refs_kind (player : PlayerEntity) : ∀ r ∈ player.refs, r.kind ≠ .coin := by
  unfold PlayerEntity.refs
  simp only [List.forall_mem_append, List.forall_mem_cons, List.forall_mem_map,
    forall_mem_fieldIfSet]
  simp [field, owned]

theorem Entity.refs_kind (e : Entity) : ∀ r ∈ e.refs, r.kind ≠ .coin := by
  unfold Entity.refs
  split
  · unfold Role.refs
    simp only [List.forall_mem_append, List.forall_mem_cons, List.forall_mem_map,
      forall_mem_fieldIfSet]
    simp [field, owned]
  · unfold TasksBrief.refs
    simp only [List.forall_mem_map]
    simp [field]
  · unfold Chakra.refs
    simp only [List.forall_mem_append, List.forall_mem_map]
    simp [owned]
  · unfold Wife.refs
    simp only [List.forall_mem_map]
    simp [owned]
  · simp

end Steppingstone.Player
