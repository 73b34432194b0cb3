/-
  Steppingstone.Energy.Model — the energy of a player, and the energy that is given at set minutes
  of the day (`ManagePlayer`).

  Energy is spent of two fields: the reward that is left, then the player's own.  The reward is
  given by a periodic check to the players that are online, and to a player that arrives after it.
  Minutes are counted from 1970; they come of microseconds in 64 bits, so sums of them do not wrap.
-/
import Mathlib.Data.Finset.Basic
import Mathlib.Logic.Function.Basic
import Mathlib.Tactic.Common
import Steppingstone.Lib.Timetable

namespace Steppingstone.Energy

/-! ## §1. Spending. -/

/-- The fields of a `Player` that are about energy. -/
structure Player where
  energy : UInt32
  leftEnergyReward : UInt32
  lastEnergyRewardTime : Nat
  deriving DecidableEq

/-- What `pmsg_reduce_energy` makes of the player, what it answers, and what the client is told. -/
structure Reduced where
  player : Player
  /-- 1 for success, 2 for failure -/
  result : UInt32
  /-- `SE_EPLUGIN_CODE` -/
  failed : Bool
  /-- `notifyClientProvideEnergy` -/
  tellReward : Option UInt32
  /-- `notifyPlayerUpdateEnergy`, with the record and the update of the pool -/
  tellEnergy : Bool
  deriving DecidableEq

/-- The part of `pmsg_reduce_energy` that takes of the reward: the player, the energy that is still
    asked for, the result so far, and what the client is told. -/
def reduceReward (player : Player) (reduceEnergy : Int32) :
    Player × Int32 × UInt32 × Option UInt32 :=
  if 0 < player.leftEnergyReward then
    if reduceEnergy.toUInt32 ≤ player.leftEnergyReward then
      let left := player.leftEnergyReward - reduceEnergy.toUInt32
      ({ player with leftEnergyReward := left }, 0, 1, some left)
    else
      -- the reward is spent before the energy is checked
      ({ player with leftEnergyReward := 0 },
        (reduceEnergy.toUInt32 - player.leftEnergyReward).toInt32, 2, some 0)
  else (player, reduceEnergy, 2, none)

/-- `ManagePlayer::pmsg_reduce_energy`, of a player that is in the pool. -/
def pmsgReduceEnergy (player : Player) (reduceEnergy : Int32) : Reduced :=
  if reduceEnergy ≤ 0 then ⟨player, 1, false, none, false⟩
  else
    let (player, energy, result, tellReward) := reduceReward player reduceEnergy
    if energy = 0 then ⟨player, result, false, tellReward, false⟩
    else
      -- `uint32` minus `int`, assigned to an `int`
      let energy := (player.energy - energy.toUInt32).toInt32
      if energy < 0 then ⟨player, result, true, tellReward, false⟩
      else ⟨{ player with energy := energy.toUInt32 }, 1, false, tellReward, true⟩

/-- `ManagePlayer::pmsg_query_energy` -/
def pmsgQueryEnergy (player : Player) : UInt32 :=
  player.energy + player.leftEnergyReward

/-! ## §2. The reward at set minutes of the day. -/

/-- The fields of `SystemResInfo` about the reward: minutes of the day, in order, and its value. -/
structure SystemResInfo where
  energyRewardTime : List Nat
  energyRewardValue : UInt32
  ne_nil : energyRewardTime ≠ []
  increasing : energyRewardTime.Pairwise (· < ·)
  in_day : ∀ t ∈ energyRewardTime, t < 1440

/-- The resources, and where the local midnight lies. -/
structure Config extends SystemResInfo where
  zone : Nat

/-- `getCurrentDay() / 60`: the local midnight before. -/
def Config.dayBase (cfg : Config) (now : Nat) : Nat :=
  Timetable.dayStart 1440 cfg.zone now

/-- The fields of `ManagePlayer` about the reward. -/
@[ext]
structure LastProvide where
  /-- `m_last_provide_energy_time` -/
  time : Nat
  /-- `m_last_provide_energy_value` -/
  value : UInt32

/-- The loop of `initProvideEnergyInfo`: it goes on when it has found the time. -/
def searchLast (cfg : Config) (now : Nat) (last : LastProvide) : LastProvide :=
  (cfg.energyRewardTime.zip cfg.energyRewardTime.tail).foldl
    (fun (last : LastProvide) (pair : Nat × Nat) =>
      if now < cfg.dayBase now + pair.2 then
        ⟨cfg.dayBase now + pair.1, cfg.energyRewardValue⟩
      else last)
    last

/-- `ManagePlayer::initProvideEnergyInfo`, after the constructor. -/
def initProvideEnergyInfo (cfg : Config) (now : Nat) : LastProvide :=
  let day := cfg.dayBase now
  let firstTime := cfg.energyRewardTime.head cfg.ne_nil
  let lastTime := cfg.energyRewardTime.getLast cfg.ne_nil
  let last : LastProvide := ⟨0, 0⟩
  let isProcessed := false
  let (last, isProcessed) := if now < firstTime + day then
    -- yesterday's last entry
    (⟨day - (24 * 60 - lastTime), cfg.energyRewardValue⟩, true) else (last, isProcessed)
  let (last, isProcessed) := if lastTime + day ≤ now then
    (⟨day + lastTime, cfg.energyRewardValue⟩, true) else (last, isProcessed)
  if isProcessed then last else searchLast cfg now last

/-- A start before the first entry of the day, or not before the last entry but one. -/
def StartsWell (cfg : Config) (now : Nat) : Prop :=
  now < cfg.energyRewardTime.head cfg.ne_nil + cfg.dayBase now ∨
    ∀ t ∈ cfg.energyRewardTime.dropLast, cfg.dayBase now + t ≤ now

instance startsWellDecidable (cfg : Config) (now : Nat) : Decidable (StartsWell cfg now) :=
  inferInstanceAs (Decidable (_ ∨ _))

/-- The server: the players in the pool or stored, and those online. -/
structure State where
  /-- the time of the last step -/
  minute : Nat
  last : LastProvide
  onlinePlayer : Finset UInt64
  players : UInt64 → Player
  /-- how often a player was given the reward of an instant; nothing reads it -/
  provided : UInt64 → Nat → Nat

/-- `provideEnergy`, for some players; the reward is that of the last instant. -/
def provideEnergy (s : State) (guids : Finset UInt64) (energyValue : UInt32) (provideTime : Nat) :
    State :=
  { s with
    players := fun guid =>
      if guid ∈ guids then
        { s.players guid with lastEnergyRewardTime := provideTime, leftEnergyReward := energyValue }
      else s.players guid
    provided := fun guid i =>
      if guid ∈ guids ∧ i = s.last.time then s.provided guid i + 1 else s.provided guid i }

/-- `ManagePlayer::checkEnergyReward` -/
def checkEnergyReward (cfg : Config) (now : Nat) (s : State) : State :=
  cfg.energyRewardTime.foldl
    (fun s t =>
      let rewardTime := cfg.dayBase now + t
      if rewardTime ≤ now then
        if s.last.time < rewardTime then
          provideEnergy { s with last := { s.last with time := rewardTime } } s.onlinePlayer
            cfg.energyRewardValue now
        else s
      else s)
    s

/-- `ManagePlayer::checkPlayerProvideEnergy` -/
def checkPlayerProvideEnergy (s : State) (guid : UInt64) : State :=
  if (s.players guid).lastEnergyRewardTime = 0 then
    -- the first arrival ever: the time is noted, nothing is given
    let player := { s.players guid with lastEnergyRewardTime := s.last.time }
    { s with players := Function.update s.players guid player }
  else if (s.players guid).lastEnergyRewardTime < s.last.time then
    provideEnergy s {guid} s.last.value s.last.time
  else s

/-! ## §3. The steps. -/

/-- What happens, with the minute. -/
inductive Act
  /-- `update` -/
  | update (now : Nat)
  /-- a player arrives (`nmsg_player_enter_map`, `nmsg_player_online_dispatch_msg`) -/
  | enter (now : Nat) (guid : UInt64)
  | leave (now : Nat) (guid : UInt64)
  /-- the server stops and starts -/
  | restart (now : Nat)

/-- The minute of an act. -/
def Act.now : Act → Nat
  | .update now | .enter now _ | .leave now _ | .restart now => now

/-- A server that starts: the players are stored, and nobody is online. -/
def start (cfg : Config) (now : Nat) (players : UInt64 → Player) (provided : UInt64 → Nat → Nat) :
    State where
  minute := now
  last := initProvideEnergyInfo cfg now
  onlinePlayer := ∅
  players := players
  provided := provided

/-- What a step does at its minute. -/
def State.act (cfg : Config) (s : State) : Act → State
  | .update now => checkEnergyReward cfg now s
  | .enter _ guid =>
      checkPlayerProvideEnergy { s with onlinePlayer := insert guid s.onlinePlayer } guid
  | .leave _ guid => { s with onlinePlayer := s.onlinePlayer.erase guid }
  | .restart now => start cfg now s.players s.provided

/-- One step; time does not go back. -/
def State.step (cfg : Config) (s : State) (a : Act) : Option State :=
  if s.minute ≤ a.now then some (State.act cfg { s with minute := a.now } a) else none

end Steppingstone.Energy
