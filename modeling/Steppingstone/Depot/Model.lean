/-
  Steppingstone.Depot.Model — the scenes of a game server and the thread that hands out packets
  (`SceneDepotImp.cpp`).

  Packets from the gate wait in one queue, and those from the cache in another.  The thread takes
  what is there, keeps a map from players to scenes up to date, and gives each packet to a scene.

  Scenes are of any type; what is given to them is put down in order.  Whether a message can be
  parsed comes with the packet.
-/
import Mathlib.Tactic.Common

namespace Steppingstone.Depot

open Std (TreeMap)

/-! ## §1. Packets. -/

/-- `MAKE_GUID`. -/
def makeGuid (type seed id : UInt64) : UInt64 :=
  ((type <<< (56 : UInt64)) &&& (0xFF00000000000000 : UInt64)) |||
    ((seed <<< (48 : UInt64)) &&& (0x00FF000000000000 : UInt64)) |||
    (id &&& (0x0000FFFFFFFFFFFF : UInt64))

/-- `MAKE_MAP_GUID`: 24 bits are left of a map's id. -/
def makeMapGuid (lineNo repduplicateIndex templateId : UInt64) : UInt64 :=
  makeGuid 0xC 15 ((lineNo <<< (40 : UInt64)) ||| (repduplicateIndex <<< (24 : UInt64)) |||
    ((0xFFFFFF : UInt64) &&& templateId))

/-- The fields of `cmsg_player_enter_map` and `gmsg_player_jump_map` that are read. -/
structure MapLine where
  mapId : UInt32
  lineId : UInt32
  deriving DecidableEq

/-- The opcodes that the thread looks at, with the message, if it can be parsed. -/
inductive Body
  | playerEnterMap (message : Option MapLine)
  | playerJumpMap (message : Option MapLine)
  | playerLeaveMap
  | lostGateConnection
  | receiveSigusr1
  | other (opcode : Nat)
  deriving DecidableEq

/-- A packet, with what is parsed of its body. -/
structure Packet where
  guid : UInt64
  body : Body
  deriving DecidableEq

/-- A reply of the cache, with the map and the list of its request. -/
structure CachePackInfo where
  requestId : UInt64
  mapId : UInt64
  packet : Packet
  deriving DecidableEq

/-! ## §2. The depot. -/

/-- `SceneDepotImp`: the scenes, the routes of the players, and the state of the start-up. -/
structure SceneDepotImp (σ : Type) where
  gateType : Nat
  sceneMap : TreeMap UInt64 σ
  playerRouteMap : TreeMap UInt64 σ := {}
  lostGate : Bool := false
  successStartupNotify : Bool := false
  recvSigusr1 : Bool := false
  notifyAllScenes : Bool := false
  inputPacketVec : List Packet := []
  cacheInputPacketVec : List CachePackInfo := []
  /-- What `input` of the scenes was given. -/
  inputs : List (σ × Packet) := []
  /-- What `cacheInput` of the scenes was given. -/
  cacheInputs : List (σ × CachePackInfo) := []

namespace SceneDepotImp

variable {σ : Type}

/-- The first scene of the map. -/
def firstScene (d : SceneDepotImp σ) : Option σ := d.sceneMap.toList.head?.map Prod.snd

/-- `getSceneByMap`. -/
def getSceneByMap (d : SceneDepotImp σ) (mapId : UInt64) : Option σ :=
  match d.sceneMap[mapId]? with
  | some scene => some scene
  | none => if d.gateType = 0 then d.firstScene else none

/-- `getSceneByPalyer`: a packet without a player is from the member system. -/
def getSceneByPalyer (d : SceneDepotImp σ) (playerGuid : UInt64) : Option σ :=
  if playerGuid = 0 then d.firstScene else d.playerRouteMap[playerGuid]?

/-- `addRoute`. -/
def addRoute (d : SceneDepotImp σ) (playerGuid : UInt64) (mapId : UInt32) : SceneDepotImp σ :=
  match d.getSceneByMap (makeMapGuid 0 0 mapId.toUInt64) with
  | some scene => { d with playerRouteMap := d.playerRouteMap.insert playerGuid scene }
  | none => d

/-- `modifyRoute`. -/
def modifyRoute (d : SceneDepotImp σ) (playerGuid : UInt64) (mapId : UInt32) : SceneDepotImp σ :=
  match d.getSceneByMap (makeMapGuid 0 0 mapId.toUInt64) with
  | some scene => { d with playerRouteMap := d.playerRouteMap.insert playerGuid scene }
  | none => d

/-- `removeRoute`. -/
def removeRoute (d : SceneDepotImp σ) (playerGuid : UInt64) : SceneDepotImp σ :=
  { d with playerRouteMap := d.playerRouteMap.erase playerGuid }

/-- `notifyAllScenesToFlushPlayerData`. -/
def notifyAllScenesToFlushPlayerData (d : SceneDepotImp σ) : SceneDepotImp σ :=
  if d.notifyAllScenes then d
  else
    { d with
      notifyAllScenes := true
      inputs := d.inputs ++ d.sceneMap.toList.map fun e => (e.2, ⟨0, .lostGateConnection⟩) }

/-- `lostGateConnection`. -/
def lostGateConnection (d : SceneDepotImp σ) : SceneDepotImp σ :=
  if d.lostGate then d else { d with lostGate := true }.notifyAllScenesToFlushPlayerData

/-- `recvSingleUsr1`. -/
def recvSingleUsr1 (d : SceneDepotImp σ) : SceneDepotImp σ :=
  if d.recvSigusr1 then d else { d with recvSigusr1 := true }.notifyAllScenesToFlushPlayerData

/-- `dispatchTerminalPacket`. -/
def dispatchTerminalPacket (d : SceneDepotImp σ) (packet : Packet) : SceneDepotImp σ :=
  match d.getSceneByPalyer packet.guid with
  | some scene => { d with inputs := d.inputs ++ [(scene, packet)] }
  | none => d

/-- `dispatchCachePacket`. -/
def dispatchCachePacket (d : SceneDepotImp σ) (info : CachePackInfo) : SceneDepotImp σ :=
  match d.getSceneByMap info.mapId with
  | some scene => { d with cacheInputs := d.cacheInputs ++ [(scene, info)] }
  | none => d

/-! ## §3. The thread. -/

/-- `input`. -/
def input (d : SceneDepotImp σ) (packet : Packet) : SceneDepotImp σ :=
  { d with inputPacketVec := d.inputPacketVec ++ [packet] }

/-- `cacheInput`. -/
def cacheInput (d : SceneDepotImp σ) (info : CachePackInfo) : SceneDepotImp σ :=
  { d with cacheInputPacketVec := d.cacheInputPacketVec ++ [info] }

/-- The part of `svc` before a packet is dispatched. -/
def prepare (d : SceneDepotImp σ) (packet : Packet) : SceneDepotImp σ :=
  match packet.body with
  | .playerEnterMap (some message) => d.addRoute packet.guid message.mapId
  | .playerJumpMap (some message) => d.modifyRoute packet.guid message.mapId
  | .lostGateConnection => d.lostGateConnection
  | .receiveSigusr1 => d.recvSingleUsr1
  | _ => d

/-- `remove_route_guid`, which is 0 when no route is to be removed. -/
def removeRouteGuid (packet : Packet) : UInt64 :=
  match packet.body with
  | .playerLeaveMap => packet.guid
  | _ => 0

/-- The body of the loop over `input_packet_vec`. -/
def handlePacket (d : SceneDepotImp σ) (packet : Packet) : SceneDepotImp σ :=
  let d := (d.prepare packet).dispatchTerminalPacket packet
  if removeRouteGuid packet = 0 then d else d.removeRoute (removeRouteGuid packet)

/-- The loop of `svc`, once: `started` says that the depot is initialized and all its scenes have
    started.  Packets from the gate wait until then. -/
def svc (d : SceneDepotImp σ) (started : Bool) : SceneDepotImp σ :=
  let d := { d with successStartupNotify := d.successStartupNotify || started }
  let d := { d.cacheInputPacketVec.foldl dispatchCachePacket d with cacheInputPacketVec := [] }
  if d.successStartupNotify then
    { d.inputPacketVec.foldl handlePacket d with inputPacketVec := [] }
  else d

end SceneDepotImp

end Steppingstone.Depot
