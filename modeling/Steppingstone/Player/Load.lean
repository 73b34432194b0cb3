/-
  Steppingstone.Player.Load — loading a player: the stages that request its entities
  (`PlayerAssistant::load_player`, `load_player_role`, `load_player_role_equipment`).

  The player is requested first.  Its fields give the second list of requests; the roles, the task
  brief and the chakra that come back give the third.  A stage whose requests are not all answered
  ends the load.
-/
import Steppingstone.Pool.Model
import Steppingstone.Player.Entity

namespace Steppingstone.Player

open Std (TreeMap)
open Steppingstone.Pool (guidType)

/-! ## §1. The database. -/

/-- The message types by the type in a guid (`EntityType`, `extractEntity`), for those that a
    player has. -/
def entityTypes : List (UInt64 × EntityKind) :=
  [(1, .player), (2, .role), (3, .attach), (4, .form), (8, .item), (9, .task), (11, .law),
    (12, .sect), (13, .stheno), (14, .stage), (15, .announce), (16, .tasksBrief),
    (17, .townStage), (18, .educate), (19, .educateTimes), (22, .specshop), (25, .chakra),
    (26, .chakre), (27, .worship), (32, .eggs), (33, .condor), (34, .boss), (35, .vip),
    (36, .answer), (37, .addiction), (39, .gift), (43, .achievement), (44, .practice),
    (45, .dailyPoints), (47, .tower), (50, .tavern), (52, .fish), (53, .dodge), (55, .wife),
    (56, .playerWife), (57, .activities), (63, .pellet), (64, .playerMaze), (67, .openActivity),
    (68, .coin), (69, .openAct), (81, .trial), (82, .runes), (85, .shenghuolingSwitch),
    (86, .shenghuolingOwner), (87, .doubleexp), (88, .soulpveScene), (89, .loginGift),
    (90, .soul), (91, .superPower), (92, .goldCard), (99, .talent), (102, .horse),
    (104, .qqSpreadPlayer)]

/-- The message type that goes with a guid. -/
def entityType (guid : UInt64) : Option EntityKind := entityTypes.lookup (guidType guid)

/-- The field refers to nothing, or its guid is of the field's type. -/
def Ref.WellTyped (r : Ref) : Prop := ∀ kind, entityType r.guid = some kind → kind = r.kind

/-- The fields of an entity that the loads and the flushes follow. -/
def Entity.fields (e : Entity) : List Ref :=
  match e.asPlayer with
  | some player => player.refs
  | none => e.refs

/-- An entity under its guid: the guid tells its type, and its fields are well typed. -/
structure Entity.WellTyped (guid : UInt64) (e : Entity) : Prop where
  self : e.guid = guid
  kind : entityType guid = some e.body.kind
  fields : ∀ r ∈ e.fields, r.WellTyped

/-- The entities in the database. -/
structure Database where
  get : UInt64 → Option Entity
  wellTyped : ∀ guid e, get guid = some e → e.WellTyped guid

instance (r : Ref) : Decidable r.WellTyped :=
  decidable_of_iff (∀ kind ∈ (entityType r.guid).toList, kind = r.kind) (by
    unfold Ref.WellTyped
    simp)

instance (guid : UInt64) (e : Entity) : Decidable (e.WellTyped guid) :=
  decidable_of_iff
    (e.guid = guid ∧ entityType guid = some e.body.kind ∧ ∀ r ∈ e.fields, r.WellTyped)
    ⟨fun h => ⟨h.1, h.2.1, h.2.2⟩, fun h => ⟨h.self, h.kind, h.fields⟩⟩

/-- The database with the given entities. -/
def Database.ofList (es : List Entity) (h : ∀ e ∈ es, e.WellTyped e.guid) : Database where
  get guid := es.find? (·.guid == guid)
  wellTyped guid e he := by
    have hguid := List.find?_some (p := fun e : Entity => e.guid == guid) he
    rw [← eq_of_beq hguid]
    exact h e (List.mem_of_find?_eq_some he)

/-- The message of an answered request: `extractEntity` has no case for an attach. -/
def Database.extractEntity (db : Database) (guid : UInt64) : Option Entity :=
  (db.get guid).filter (·.body.kind ≠ .attach)

/-! ## §2. The requests of the stages. -/

/-- `if (guid != 0) LOAD_REQUEST(guid)` -/
def requestIfSet (guid : UInt64) : List UInt64 := if guid ≠ 0 then [guid] else []

/-- The requests of `load_player`. -/
def loadPlayer (player : PlayerEntity) : List UInt64 :=
  requestIfSet player.stage ++ requestIfSet player.form
    ++ player.roles
    ++ player.leaveTeamRoles
    ++ checkedItems player.bag
    ++ checkedItems player.storehouse
    ++ requestIfSet player.law ++ requestIfSet player.sect
    ++ player.sthenoIdleList.filter (· > 1)
    ++ player.sthenoEquipList.filter (· > 1)
    ++ requestIfSet player.announce ++ requestIfSet player.taskBrief
    ++ player.townStage
    ++ requestIfSet player.educate
    ++ requestIfSet player.specshop
    ++ requestIfSet player.chakra
    ++ requestIfSet player.worship
    ++ requestIfSet player.eggs
    ++ requestIfSet player.condor
    ++ requestIfSet player.boss
    ++ requestIfSet player.answer
    ++ requestIfSet player.addiction
    ++ requestIfSet player.gift
    ++ requestIfSet player.vip
    ++ requestIfSet player.achievement
    ++ requestIfSet player.practice
    ++ requestIfSet player.dailyPoints
    ++ requestIfSet player.tower
    ++ requestIfSet player.tavern
    ++ requestIfSet player.fish
    ++ requestIfSet player.dodge
    ++ requestIfSet player.playerWife
    ++ player.wifes.filter (· > 0)
    ++ requestIfSet player.playerActivies
    ++ requestIfSet player.maze
    ++ requestIfSet player.openActivity
    ++ requestIfSet player.openAct
    ++ requestIfSet player.runes
    ++ requestIfSet player.trial
    ++ requestIfSet player.shlSwitch
    ++ requestIfSet player.doubleexp
    ++ requestIfSet player.loginGift
    ++ requestIfSet player.superPower
    ++ requestIfSet player.goldcard
    ++ requestIfSet player.soul
    ++ requestIfSet player.soulPveGuid
    ++ requestIfSet player.talent
    ++ requestIfSet player.horse
    ++ requestIfSet player.qqspreadsen

/-- The requests for a role, in the team or not. -/
def loadRole (role : Role) : List UInt64 :=
  role.equipments.filter (· > 1)
    ++ requestIfSet role.educate ++ requestIfSet role.pellet ++ requestIfSet role.shlOwner

/-- The requests for a task brief. -/
def loadTasksBrief (brief : TasksBrief) : List UInt64 :=
  brief.unfinished ++ brief.finished ++ brief.failed

/-- The requests for a chakra. -/
def loadChakra (chakra : Chakra) : List UInt64 :=
  chakra.storehouse.filter (· > 1) ++ chakra.caches.filter (· > 1)

/-- The entities of a `PlayerLoadingData`: those that have come. -/
abbrev LoadingEntities := TreeMap UInt64 Entity

/-- `GET_PLAYER_FROM_PLD` -/
def LoadingEntities.player (pld : LoadingEntities) (guid : UInt64) : Option PlayerEntity :=
  pld[guid]?.bind Entity.asPlayer

/-- `GET_ROLE_FROM_PLD` -/
def LoadingEntities.role (pld : LoadingEntities) (guid : UInt64) : Option Role :=
  match pld[guid]?.map Entity.body with
  | some (.role role) => some role
  | _ => none

/-- `GET_TASKBRIEF_FROM_PLD` -/
def LoadingEntities.tasksBrief (pld : LoadingEntities) (guid : UInt64) : Option TasksBrief :=
  match pld[guid]?.map Entity.body with
  | some (.tasksBrief brief) => some brief
  | _ => none

/-- `GET_CHAKRA_FROM_PLD` -/
def LoadingEntities.chakra (pld : LoadingEntities) (guid : UInt64) : Option Chakra :=
  match pld[guid]?.map Entity.body with
  | some (.chakra chakra) => some chakra
  | _ => none

/-- The requests of `load_player_role`; those for the equipments of the wives are commented out. -/
def loadPlayerRole (pld : LoadingEntities) (player : PlayerEntity) : List UInt64 :=
  player.roles.flatMap (fun guid => ((pld.role guid).map loadRole).getD [])
    ++ player.leaveTeamRoles.flatMap (fun guid => ((pld.role guid).map loadRole).getD [])
    ++ ((pld.tasksBrief player.taskBrief).map loadTasksBrief).getD []
    ++ ((pld.chakra player.chakra).map loadChakra).getD []

/-! ## §3. The stages. -/

/-- `PlayerLoadingData::addEntity` for the answers to a list of requests, if all of them succeed. -/
def addAnswers (db : Database) (pld : LoadingEntities) (guids : List UInt64) :
    Option LoadingEntities :=
  if guids.all fun guid => (db.get guid).isSome then
    some (guids.foldl (fun pld guid =>
      match db.extractEntity guid with
      | some e => pld.insertIfNew guid e
      | none => pld) pld)
  else none

/-- What a load asked for, and what it has when it ends. -/
structure Loaded where
  requested : List UInt64
  entities : LoadingEntities

/-- A load from the request for the player to `playerLoadSuccess`. -/
def load (db : Database) (playerGuid : UInt64) : Option Loaded := do
  let player ← db.extractEntity playerGuid
  let first := loadPlayer (← player.asPlayer)
  let pld : LoadingEntities := ({} : LoadingEntities).insertIfNew playerGuid player
  if first.isEmpty then
    some { requested := [playerGuid], entities := pld }
  else
    -- `load_player_role`
    let pld ← addAnswers db pld first
    let second := loadPlayerRole pld (← pld.player playerGuid)
    -- `load_player_role_equipment`, unless nothing is requested
    let pld ← addAnswers db pld second
    some { requested := playerGuid :: (first ++ second), entities := pld }

end Steppingstone.Player
