/-
  Steppingstone.DayChange.Model — how the line and its maps pass on a new day
  and a new week (`ManageShort.cpp`, `ManagePlayer.cpp`, `LineScene.cpp`).

  The line scene compares the clock with the day it used last and broadcasts a
  new one.  A map takes it over when it comes to the message, and tells it to
  the players that are online on it; the others are checked when they come
  online.  The day and the week are handled alike and have one parameter,
  `Period`, except that a new week is looked for on a new day only and that the
  first login sets the day alone.
-/
import Mathlib.Logic.Function.Basic
import Steppingstone.Lib.Catchup
import Steppingstone.Lib.TransSys

namespace Steppingstone.DayChange

open Catchup

/-! ## §1. Players. -/

/-- What is counted: days or weeks. -/
inductive Period
  | day
  | week
  deriving DecidableEq, Repr

/-- What the plugins are notified of: `NMSG_DAY_CHANGE` or `NMSG_WEEK_CHANGE`, with the times that
the player had and has as its last clean time. -/
structure Change extends Move UInt64 where
  onlineStatus : Nat
  deriving DecidableEq, Repr

/-- `day_interval` of `NMSG_DAY_CHANGE`, a `uint32`. -/
def Change.dayInterval (c : Change) : UInt32 :=
  ((c.after - c.before) / (24 * 60 * 60)).toUInt32

/-- The `Player` entity, which goes with the player from map to map and through the database;
`place` is the map whose pool has it in `m_online_player`. -/
structure Player (μ : Type) where
  /-- `last_clean_day_relational_time`, `last_clean_week_relational_time`. -/
  lastClean : Period → UInt64
  /-- `announce` is not 0. -/
  announce : Bool
  place : Option μ
  /-- The notices, newest first. -/
  changes : Period → List Change

variable {μ ρ : Type}

/-- Notice and stored time of a change. -/
def Player.change (p : Player μ) (k : Period) (current : UInt64) (onlineStatus : Nat) :
    Player μ :=
  { p with
    lastClean := Function.update p.lastClean k current
    changes := Function.update p.changes k
      (⟨⟨p.lastClean k, current⟩, onlineStatus⟩ :: p.changes k) }

@[simp] theorem Player.change_lastClean (p : Player μ) (k k' : Period) (current : UInt64)
    (onlineStatus : Nat) : (p.change k current onlineStatus).lastClean k' =
      if k' = k then current else p.lastClean k' :=
  Function.update_apply ..

@[simp] theorem Player.change_changes (p : Player μ) (k k' : Period) (current : UInt64)
    (onlineStatus : Nat) : (p.change k current onlineStatus).changes k' =
      if k' = k then ⟨⟨p.lastClean k, current⟩, onlineStatus⟩ :: p.changes k else p.changes k' :=
  Function.update_apply ..

/-- `ManagePlayer::playerDayChange` -/
def Player.playerDayChange (p : Player μ) (currentDay : UInt64) (onlineStatus : Nat) : Player μ :=
  p.change .day currentDay onlineStatus

/-- `ManagePlayer::playerWeekChange`; the status of its notice is fixed. -/
def Player.playerWeekChange (p : Player μ) (currentWeek : UInt64) : Player μ :=
  p.change .week currentWeek 2

/-- `ManagePlayer::checkPlayerCleanDay`, when a player comes online. -/
def Player.checkPlayerCleanDay (p : Player μ) (currentDay : UInt64) : Player μ :=
  if p.lastClean .day < currentDay then p.playerDayChange currentDay 2 else p

/-- `ManagePlayer::checkPlayerCleanWeek`, when a player comes online. -/
def Player.checkPlayerCleanWeek (p : Player μ) (currentWeek : UInt64) : Player μ :=
  if p.lastClean .week < currentWeek then p.playerWeekChange currentWeek else p

/-- `firstInitPlayer` as far as the times are concerned: `role` if the first role is in the pool,
`guid` if there is one for the announcement, `day` what `getCurrentDay` returns. -/
def Player.firstInitPlayer (p : Player μ) (day : UInt64) (role guid : Bool) : Player μ :=
  if role then
    { p with lastClean := Function.update p.lastClean .day day, announce := p.announce || guid }
  else p

/-- The part of `playerDataLoadFinish` before the checks. -/
def Player.loaded (p : Player μ) (day : UInt64) (role guid : Bool) : Player μ :=
  if p.announce then p else p.firstInitPlayer day role guid

/-! ## §2. Scenes. -/

/-- The scene of a map: `m_current_day` and `m_current_week` of its `ManagePlayer`, and of its input
the day and week messages. -/
structure Scene where
  current : Period → UInt64
  input : List (Period × UInt64)

/-- `line` has `m_current_day` and `m_current_week` of the line's `ManageShort`. -/
structure State (μ ρ : Type) where
  line : Period → UInt64
  map : μ → Scene
  player : ρ → Player μ

/-- `broadCastSceneMsg` of `LMSG_DAY_CHANGE` or `LMSG_WEEK_CHANGE` with the new time. -/
def State.publish (s : State μ ρ) (k : Period) (new : UInt64) : State μ ρ :=
  { s with
    line := Function.update s.line k new
    map := fun m => { s.map m with input := (s.map m).input ++ [(k, new)] } }

/-- `ManageShort::checkWeekChange` -/
def State.checkWeekChange (s : State μ ρ) (currWeek : UInt64) : State μ ρ :=
  if s.line .week < currWeek then s.publish .week currWeek else s

/-- `ManageShort::update` of the line scene; the clock shows `currDay` and `currWeek`. -/
def State.update (s : State μ ρ) (currDay currWeek : UInt64) : State μ ρ :=
  if s.line .day < currDay then (s.publish .day currDay).checkWeekChange currWeek else s

variable [DecidableEq μ] [DecidableEq ρ]

/-- `lmsg_day_change` with `notifyDayChange`, or `lmsg_week_change` with `notifyWeekChange`: every
player that is online on the map is told. -/
def State.lmsgChange (s : State μ ρ) (m : μ) (k : Period) (new : UInt64)
    (rest : List (Period × UInt64)) : State μ ρ :=
  { s with
    map := Function.update s.map m
      { current := Function.update (s.map m).current k new, input := rest }
    player := fun g =>
      if (s.player g).place = some m then (s.player g).change k new 1 else s.player g }

/-- Online on the map, with the checks of the day and the week. -/
def State.online (s : State μ ρ) (m : μ) (g : ρ) (p : Player μ) : State μ ρ :=
  { s with
    player := Function.update s.player g
      { (p.checkPlayerCleanDay ((s.map m).current .day)).checkPlayerCleanWeek
          ((s.map m).current .week) with place := some m } }

/-! ## §3. The system. -/

/-- What the line, the maps and the players do. -/
inductive Action (μ ρ : Type)
  /-- The timer of the line scene. -/
  | update (currDay currWeek : UInt64)
  /-- The map comes to its next day or week message. -/
  | sceneInput (m : μ)
  /-- The player has been loaded. -/
  | playerDataLoadFinish (m : μ) (g : ρ) (day : UInt64) (role guid : Bool)
  /-- `cmsg_jump_map_ready` of a player that comes from another map. -/
  | jumpMapReady (m : μ) (g : ρ)
  /-- `cmsg_leave_world` or `playerJumpMap`. -/
  | playerIsOffline (g : ρ)
  deriving DecidableEq, Repr

/-- One step of the line, a map or a player, where it can be taken. -/
def step (s : State μ ρ) : Action μ ρ → Option (State μ ρ)
  | .update currDay currWeek => some (s.update currDay currWeek)
  | .sceneInput m =>
      match (s.map m).input with
      | [] => none
      | (k, new) :: rest => some (s.lmsgChange m k new rest)
  | .playerDataLoadFinish m g day role guid =>
      if (s.player g).place = none then
        some (s.online m g ((s.player g).loaded day role guid))
      else none
  | .jumpMapReady m g =>
      if (s.player g).place = none then some (s.online m g (s.player g)) else none
  | .playerIsOffline g =>
      some { s with
        player := Function.update s.player g { s.player g with place := none } }

/-- **All scenes are started on one day**, with the players elsewhere. -/
structure Started (s : State μ ρ) : Prop where
  map : ∀ m, (s.map m).current = s.line ∧ (s.map m).input = []
  player : ∀ g, (s.player g).place = none ∧ ∀ k, (s.player g).changes k = []

/-- A day begins `midnight` seconds after a multiple of its length, and is one of the first
`2 ^ 32`. -/
def IsDay (midnight : Nat) (t : UInt64) : Prop :=
  t.toNat % (24 * 60 * 60) = midnight ∧ t.toNat / (24 * 60 * 60) < 2 ^ 32

instance (midnight : Nat) (t : UInt64) : Decidable (IsDay midnight t) :=
  inferInstanceAs (Decidable (_ ∧ _))

/-- The stored times of the players that have been online are days. -/
def system (midnight : Nat) : TransSys (State μ ρ) (Action μ ρ) where
  init s := Started s ∧ IsDay midnight (s.line .day) ∧
    ∀ g, (s.player g).announce = true → IsDay midnight ((s.player g).lastClean .day)
  step := step

end Steppingstone.DayChange
