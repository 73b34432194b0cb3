/-
  Steppingstone.Grid.Model — `ManageGridOptimize` (`ManageGridOptimize.cpp`).

  The grid of one scene: at most `m_selected_player_num` of its players are
  selected, and only these are shown to the clients of the scene; the others
  wait.  The public calls read a player and queue an operation, the worker
  thread processes the operations in that order and sends messages.

  `define_unordered_map` and `define_unordered_set` are `std::map` and
  `std::set`, so the containers of guids are kept as ascending lists.  A
  `PlayerGridInfo` is owned by `m_player_grid_info_map`; `m_selected_player`
  points to the same objects and is modelled by its keys.
-/
import Mathlib.Data.List.Sort
import Mathlib.Tactic.Ring
import Mathlib.Logic.Function.Basic
import Steppingstone.Lib.Rounding

namespace Steppingstone.Grid

/-! ## §1. Players, messages, operations. -/

/-- The fields of the player entity that the grid reads. -/
structure Player where
  guid : UInt64
  roleId : UInt64 := 0
  level : UInt32 := 0
  sex : UInt32 := 0
  srcX : Int32 := 0
  srcY : Int32 := 0
  dstX : Int32 := 0
  dstY : Int32 := 0
  direction : Int32 := 0
  firstRole : UInt64 := 0
  flowerRank : UInt32 := 0
  name : String := ""
  guildName : String := ""
  guildIcon : UInt32 := 0
  followRoleId : UInt32 := 0
  currentTitle : List UInt32 := []
  specialRight : UInt32 := 0
  horseId : UInt32 := 0
  wifeFollow : UInt32 := 0
  yellowVipLevel : UInt32 := 0
  isYellowVip : UInt32 := 0
  isYellowYearVip : UInt32 := 0
  isYellowHighVip : UInt32 := 0
  deriving Repr, DecidableEq

/-- `struct PlayerGridInfo`; the defaults are those of its constructor. -/
structure PlayerGridInfo where
  guid : UInt64 := 0
  roleId : UInt32 := 0
  level : Int32 := 0
  sex : Int32 := 0
  srcX : Int32 := 0
  srcY : Int32 := 0
  dstX : Int32 := 0
  dstY : Int32 := 0
  direction : Int32 := 0
  firstRole : UInt64 := 0
  isSelected : Bool := false
  flowerRank : UInt32 := 0
  name : String := ""
  guildName : String := ""
  guildIcon : UInt32 := 0
  followRoleId : UInt32 := 0
  titleVec : List UInt32 := []
  specialRight : UInt32 := 0
  horseId : UInt32 := 0
  wifeFollow : UInt32 := 0
  yellowVipLevel : UInt32 := 0
  isYellowVip : UInt32 := 0
  isYellowYearVip : UInt32 := 0
  isYellowHighVip : UInt32 := 0
  deriving Repr, DecidableEq

/-- The `float` of an `int32`: 24 binary digits, the nearest, and the even one of two. -/
def floatOfInt32 (x : Int32) : ℚ := Rounding.rounded 24 x.toInt

/-- A coordinate below `2 ^ 24` is a float. -/
theorem floatOfInt32_of_lt {x : Int32} (h : x.toInt.natAbs < 2 ^ 24) :
    floatOfInt32 x = x.toInt :=
  Rounding.rounded_intCast h

/-- `smsg_create_other`; its coordinates are floats. -/
structure CreateOther where
  guid : UInt64
  roleId : UInt32
  name : String
  level : Int32
  sex : Int32
  srcX : ℚ
  srcY : ℚ
  dstX : ℚ
  dstY : ℚ
  direction : Int32
  firstRole : UInt64
  flowerRank : UInt32
  guildName : String
  guildIcon : UInt32
  followRoleId : UInt32
  currentTitle : List UInt32
  specialRight : UInt32
  horseId : UInt32
  wifeFollow : UInt32
  yellowVipLevel : UInt32
  isYellowVip : UInt32
  isYellowYearVip : UInt32
  isYellowHighVip : UInt32
  deriving Repr, DecidableEq

/-- `SMSG_CREATE_OTHER` and `SMSG_PLAYER_REMOVE` in `enum Opcodes`. -/
def smsgCreateOther : UInt32 := 1302
/-- `SMSG_PLAYER_REMOVE` -/
def smsgPlayerRemove : UInt32 := 1303

/-- A packet handed to `broadcastPacket`.  Its one caller,
`cmsg_special_action`, sends `SMSG_SPECIAL_ACTION`; a packet that imitates the
grid's own two messages is excluded by the last field. -/
structure BroadcastPacket where
  opcode : UInt32
  guid : UInt64
  body : List UInt8
  plain : opcode ≠ smsgCreateOther ∧ opcode ≠ smsgPlayerRemove
  deriving DecidableEq

/-- The messages the grid sends to a client. -/
inductive GridMessage where
  | createOther (other : CreateOther)
  | playerRemove (guid : UInt64)
  | playerMove (guid : UInt64) (srcX srcY dstX dstY : ℚ)
  | updateFlowerRank (guid : UInt64) (flowerRank : UInt32)
  | updateOtherGuildName (playerGuid : UInt64) (guildName : String) (guildIcon : UInt32)
  | updateFollowRole (playerGuid : UInt64) (followRoleId : UInt32)
  | updateCurrentTitle (player : UInt64) (currentTitle : List UInt32)
  | updateSpecialRight (player : UInt64) (specialRight : UInt32)
  | updateHorseId (player : UInt64) (horseId : UInt32)
  | wifeUpdateFollow (player : UInt64) (wifeFollow : UInt32)
  | updateYellowVipLevel (player : UInt64)
      (yellowVipLevel isYellowVip isYellowYearVip isYellowHighVip : UInt32)
  | broadcast (packet : BroadcastPacket)
  deriving DecidableEq

/-- Messages with the guid of the client they are sent to, in order. -/
abbrev Output := List (UInt64 × GridMessage)

/-- `PlayerGridOperation`: what a public call queues. -/
inductive PlayerGridOperation where
  | add (guid : UInt64) (info : PlayerGridInfo)
  | readd (guid : UInt64)
  | move (guid : UInt64) (srcX srcY dstX dstY : Int32)
  | remove (guid : UInt64)
  | levelup (guid : UInt64) (level : Int32)
  | broadcast (packet : BroadcastPacket)
  | flowerRank (guid : UInt64) (flowerRank : UInt32)
  | updateGuildName (guid : UInt64) (guildName : String) (guildIcon : UInt32)
  | updateFollowRoleId (guid : UInt64) (followRoleId : UInt32)
  | updateTitle (guid : UInt64) (titleVec : List UInt32)
  | updateSpecialRight (guid : UInt64) (specialRight : UInt32)
  | updateHorse (guid : UInt64) (horseId : UInt32)
  | updateWifeFollow (guid : UInt64) (wifeFollow : UInt32)
  | updateYellowVipLevel (guid : UInt64)
      (yellowVipLevel isYellowVip isYellowYearVip isYellowHighVip : UInt32)

/-! ## §2. The public calls. -/

/-- `fillPlayerGridInfo` on a new `PlayerGridInfo`; the guild icon is not filled in, the role id
is cut to 32 bits, and level and sex become signed. -/
def fillPlayerGridInfo (player : Player) : PlayerGridInfo where
  guid := player.guid
  roleId := player.roleId.toUInt32
  level := player.level.toInt32
  sex := player.sex.toInt32
  srcX := player.srcX
  srcY := player.srcY
  dstX := player.dstX
  dstY := player.dstY
  direction := player.direction
  firstRole := player.firstRole
  flowerRank := player.flowerRank
  name := player.name
  guildName := player.guildName
  followRoleId := player.followRoleId
  titleVec := player.currentTitle
  specialRight := player.specialRight
  horseId := player.horseId
  wifeFollow := player.wifeFollow
  yellowVipLevel := player.yellowVipLevel
  isYellowVip := player.isYellowVip
  isYellowYearVip := player.isYellowYearVip
  isYellowHighVip := player.isYellowHighVip

/-- The calls of the `ManageGrid` interface. -/
inductive GridCall where
  | add (player : Player)
  | readd (player : Player)
  | move (player : Player)
  | remove (player : Player)
  | levelup (player : Player)
  | flowerRank (player : Player)
  | updateGuildName (player : Player)
  | updateFollowRoleId (player : Player)
  | updateTitle (player : Player)
  | updateSpecialRight (player : Player)
  | updateHorse (player : Player)
  | updateWifeFollow (player : Player)
  | updateYellowVipLevel (player : Player)
  | broadcastPacket (packet : BroadcastPacket)

/-- The operation a call queues: the values are read when the call is made. -/
def GridCall.operation : GridCall → PlayerGridOperation
  | add p => .add p.guid (fillPlayerGridInfo p)
  | readd p => .readd p.guid
  | move p => .move p.guid p.srcX p.srcY p.dstX p.dstY
  | remove p => .remove p.guid
  | levelup p => .levelup p.guid p.level.toInt32
  | flowerRank p => .flowerRank p.guid p.flowerRank
  | updateGuildName p => .updateGuildName p.guid p.guildName p.guildIcon
  | updateFollowRoleId p => .updateFollowRoleId p.guid p.followRoleId
  | updateTitle p => .updateTitle p.guid p.currentTitle
  | updateSpecialRight p => .updateSpecialRight p.guid p.specialRight
  | updateHorse p => .updateHorse p.guid p.horseId
  | updateWifeFollow p => .updateWifeFollow p.guid p.wifeFollow
  | updateYellowVipLevel p =>
      .updateYellowVipLevel p.guid p.yellowVipLevel p.isYellowVip p.isYellowYearVip
        p.isYellowHighVip
  | broadcastPacket packet => .broadcast packet

/-! ## §3. The grid's state and its helpers. -/

/-- The containers of `ManageGridOptimize`. -/
structure ManageGridOptimize where
  selectedPlayerNum : Int := 100
  playerGridInfoMap : UInt64 → Option PlayerGridInfo := fun _ => none
  selectedPlayer : List UInt64 := []
  notSelectedPlayer : List UInt64 := []

/-- Insertion into an ascending set. -/
def insertGuid (guid : UInt64) (set : List UInt64) : List UInt64 :=
  if guid ∈ set then set else set.orderedInsert (· ≤ ·) guid

@[simp] theorem mem_insertGuid {g guid : UInt64} {set : List UInt64} :
    g ∈ insertGuid guid set ↔ g = guid ∨ g ∈ set := by
  unfold insertGuid
  split
  next h =>
      constructor
      · exact .inr
      · rintro (rfl | h')
        · exact h
        · exact h'
  next => exact List.mem_orderedInsert _

namespace ManageGridOptimize

/-- `m_selected_player.size() < m_selected_player_num` compares a `size_t`
with an `int`, which is converted: a negative limit is a huge one. -/
def screenLimit (st : ManageGridOptimize) : Nat :=
  (st.selectedPlayerNum % 2 ^ 64).toNat

/-- `getPlayerGridInfo`. -/
def getPlayerGridInfo (st : ManageGridOptimize) (guid : UInt64) : Option PlayerGridInfo :=
  st.playerGridInfoMap guid

/-- The object of `guid` becomes `info`. -/
def setInfo (st : ManageGridOptimize) (guid : UInt64) (info : Option PlayerGridInfo) :
    ManageGridOptimize :=
  { st with playerGridInfoMap := Function.update st.playerGridInfoMap guid info }

/-- The recipients of the loops over both sets. -/
def everyone (st : ManageGridOptimize) : List UInt64 :=
  st.selectedPlayer ++ st.notSelectedPlayer

/-- `doBroadcastPacket`. -/
def doBroadcastPacket (st : ManageGridOptimize) (m : GridMessage) : Output :=
  st.everyone.map (fun p => (p, m))

/-- The same loops with one guid left out. -/
def broadcastExcept (st : ManageGridOptimize) (guid : UInt64) (m : GridMessage) : Output :=
  (st.everyone.filter (fun p => p ≠ guid)).map (fun p => (p, m))

/-- `fillSmsgCreateOther`: the source position shown is the destination. -/
def fillSmsgCreateOther (info : PlayerGridInfo) : CreateOther where
  guid := info.guid
  roleId := info.roleId
  name := info.name
  level := info.level
  sex := info.sex
  srcX := floatOfInt32 info.dstX
  srcY := floatOfInt32 info.dstY
  dstX := floatOfInt32 info.dstX
  dstY := floatOfInt32 info.dstY
  direction := info.direction
  firstRole := info.firstRole
  flowerRank := info.flowerRank
  guildName := info.guildName
  guildIcon := info.guildIcon
  followRoleId := info.followRoleId
  currentTitle := info.titleVec
  specialRight := info.specialRight
  horseId := info.horseId
  wifeFollow := info.wifeFollow
  yellowVipLevel := info.yellowVipLevel
  isYellowVip := info.isYellowVip
  isYellowYearVip := info.isYellowYearVip
  isYellowHighVip := info.isYellowHighVip

/-- `createOther`: the selected players are shown to `guid`. -/
def createOther (st : ManageGridOptimize) (guid : UInt64) : Output :=
  st.selectedPlayer.filterMap fun q =>
    match st.getPlayerGridInfo q with
    | none => none
    | some info =>
        if guid = info.guid then none
        else some (guid, .createOther (fillSmsgCreateOther info))

/-- `addSelectedPlayer`. -/
def addSelectedPlayer (st : ManageGridOptimize) (info : PlayerGridInfo) :
    ManageGridOptimize × Output :=
  let info := { info with isSelected := true }
  let st := { st.setInfo info.guid (some info) with
    selectedPlayer := insertGuid info.guid st.selectedPlayer }
  (st, st.broadcastExcept info.guid (.createOther (fillSmsgCreateOther info)))

/-- `syncSelectedPlayer`. -/
def syncSelectedPlayer (st : ManageGridOptimize) (info : PlayerGridInfo) :
    ManageGridOptimize × Output :=
  if st.selectedPlayer.length < st.screenLimit then st.addSelectedPlayer info
  else ({ st with notSelectedPlayer := insertGuid info.guid st.notSelectedPlayer }, [])

/-! ## §4. Processing. -/

/-- `processAdd`. -/
def processAdd (st : ManageGridOptimize) (guid : UInt64) (info : PlayerGridInfo) :
    ManageGridOptimize × Output :=
  match st.getPlayerGridInfo guid with
  | some _ => (st, [])
  | none =>
      let st := st.setInfo guid (some info)
      let (st', out) := st.syncSelectedPlayer info
      (st', st.createOther guid ++ out)

/-- `processReadd`. -/
def processReadd (st : ManageGridOptimize) (guid : UInt64) : ManageGridOptimize × Output :=
  match st.getPlayerGridInfo guid with
  | none => (st, [])
  | some _ => (st, st.createOther guid)

/-- The selected player `guid` leaves: everyone is told, and the first of the
waiting players takes the place. -/
def removeSelected (st : ManageGridOptimize) (guid : UInt64) : ManageGridOptimize × Output :=
  let told := st.broadcastExcept guid (.playerRemove guid)
  let st := { st with selectedPlayer := st.selectedPlayer.erase guid }
  match st.notSelectedPlayer with
  | [] => (st, told)
  | first :: rest =>
      match st.getPlayerGridInfo first with
      | none => (st, told)
      | some info =>
          let (st', out) := { st with notSelectedPlayer := rest }.addSelectedPlayer info
          (st', told ++ out)

/-- `processRemove`. -/
def processRemove (st : ManageGridOptimize) (guid : UInt64) : ManageGridOptimize × Output :=
  match st.getPlayerGridInfo guid with
  | none => (st, [])
  | some info =>
      if info.isSelected then
        let (st', out) := st.removeSelected guid
        (st'.setInfo guid none, out)
      else
        ({ st with notSelectedPlayer := st.notSelectedPlayer.erase guid }.setInfo guid none, [])

/-- The common body of the attribute operations: the object takes the new
values, and when the player is selected everyone is told. -/
def updateInfo (st : ManageGridOptimize) (guid : UInt64)
    (set : PlayerGridInfo → PlayerGridInfo) (message : PlayerGridInfo → GridMessage) :
    ManageGridOptimize × Output :=
  match st.getPlayerGridInfo guid with
  | none => (st, [])
  | some info =>
      let info := set info
      let st := st.setInfo guid (some info)
      (st, if info.isSelected then st.doBroadcastPacket (message info) else [])

/-- `processMove`; `playerMove` sends to the same two loops. -/
def processMove (st : ManageGridOptimize) (guid : UInt64) (srcX srcY dstX dstY : Int32) :
    ManageGridOptimize × Output :=
  st.updateInfo guid
    (fun info => { info with srcX := srcX, srcY := srcY, dstX := dstX, dstY := dstY })
    (fun info => .playerMove info.guid (floatOfInt32 info.srcX) (floatOfInt32 info.srcY)
      (floatOfInt32 info.dstX) (floatOfInt32 info.dstY))

/-- `processLevelup`: nobody is told. -/
def processLevelup (st : ManageGridOptimize) (guid : UInt64) (level : Int32) :
    ManageGridOptimize × Output :=
  match st.getPlayerGridInfo guid with
  | none => (st, [])
  | some info => (st.setInfo guid (some { info with level := level }), [])

/-- `processFlowerRank`: a player that is not selected is offered a place. -/
def processFlowerRank (st : ManageGridOptimize) (guid : UInt64) (flowerRank : UInt32) :
    ManageGridOptimize × Output :=
  match st.getPlayerGridInfo guid with
  | none => (st, [])
  | some info =>
      let info := { info with flowerRank := flowerRank }
      let st := st.setInfo guid (some info)
      if !info.isSelected then st.syncSelectedPlayer info
      else (st, st.doBroadcastPacket (.updateFlowerRank info.guid info.flowerRank))

/-- `processUpdateGuildName`. -/
def processUpdateGuildName (st : ManageGridOptimize) (guid : UInt64) (guildName : String)
    (guildIcon : UInt32) : ManageGridOptimize × Output :=
  st.updateInfo guid
    (fun info => { info with guildName := guildName, guildIcon := guildIcon })
    (fun info => .updateOtherGuildName info.guid info.guildName info.guildIcon)

/-- `processFollowRoleID`. -/
def processFollowRoleId (st : ManageGridOptimize) (guid : UInt64) (followRoleId : UInt32) :
    ManageGridOptimize × Output :=
  st.updateInfo guid (fun info => { info with followRoleId := followRoleId })
    (fun info => .updateFollowRole info.guid info.followRoleId)

/-- `processUpdateTitle`. -/
def processUpdateTitle (st : ManageGridOptimize) (guid : UInt64) (titleVec : List UInt32) :
    ManageGridOptimize × Output :=
  st.updateInfo guid (fun info => { info with titleVec := titleVec })
    (fun info => .updateCurrentTitle info.guid titleVec)

/-- `processSpecialRight`. -/
def processSpecialRight (st : ManageGridOptimize) (guid : UInt64) (specialRight : UInt32) :
    ManageGridOptimize × Output :=
  st.updateInfo guid (fun info => { info with specialRight := specialRight })
    (fun info => .updateSpecialRight info.guid specialRight)

/-- `processHorse`. -/
def processHorse (st : ManageGridOptimize) (guid : UInt64) (horseId : UInt32) :
    ManageGridOptimize × Output :=
  st.updateInfo guid (fun info => { info with horseId := horseId })
    (fun info => .updateHorseId info.guid horseId)

/-- `processWifeFollow`. -/
def processWifeFollow (st : ManageGridOptimize) (guid : UInt64) (wifeFollow : UInt32) :
    ManageGridOptimize × Output :=
  st.updateInfo guid (fun info => { info with wifeFollow := wifeFollow })
    (fun info => .wifeUpdateFollow info.guid wifeFollow)

/-- `processYellowVipLevel`. -/
def processYellowVipLevel (st : ManageGridOptimize) (guid : UInt64)
    (yellowVipLevel isYellowVip isYellowYearVip isYellowHighVip : UInt32) :
    ManageGridOptimize × Output :=
  st.updateInfo guid
    (fun info => { info with
      yellowVipLevel := yellowVipLevel
      isYellowVip := isYellowVip
      isYellowYearVip := isYellowYearVip
      isYellowHighVip := isYellowHighVip })
    (fun info => .updateYellowVipLevel info.guid yellowVipLevel isYellowVip isYellowYearVip
      isYellowHighVip)

/-- `processBroadcast`: a waiting player's packet is dropped, an unknown
sender's is not. -/
def processBroadcast (st : ManageGridOptimize) (packet : BroadcastPacket) :
    ManageGridOptimize × Output :=
  match st.getPlayerGridInfo packet.guid with
  | none => (st, st.doBroadcastPacket (.broadcast packet))
  | some info => (st, if info.isSelected then st.doBroadcastPacket (.broadcast packet) else [])

/-- `process`. -/
def process (st : ManageGridOptimize) : PlayerGridOperation → ManageGridOptimize × Output
  | .add guid info => st.processAdd guid info
  | .readd guid => st.processReadd guid
  | .move guid srcX srcY dstX dstY => st.processMove guid srcX srcY dstX dstY
  | .remove guid => st.processRemove guid
  | .levelup guid level => st.processLevelup guid level
  | .broadcast packet => st.processBroadcast packet
  | .flowerRank guid flowerRank => st.processFlowerRank guid flowerRank
  | .updateGuildName guid guildName guildIcon =>
      st.processUpdateGuildName guid guildName guildIcon
  | .updateFollowRoleId guid followRoleId => st.processFollowRoleId guid followRoleId
  | .updateTitle guid titleVec => st.processUpdateTitle guid titleVec
  | .updateSpecialRight guid specialRight => st.processSpecialRight guid specialRight
  | .updateHorse guid horseId => st.processHorse guid horseId
  | .updateWifeFollow guid wifeFollow => st.processWifeFollow guid wifeFollow
  | .updateYellowVipLevel guid yellowVipLevel isYellowVip isYellowYearVip isYellowHighVip =>
      st.processYellowVipLevel guid yellowVipLevel isYellowVip isYellowYearVip isYellowHighVip

end ManageGridOptimize

end Steppingstone.Grid
