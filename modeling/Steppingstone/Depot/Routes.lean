/-
  Steppingstone.Depot.Routes — which scene a player's packets reach.

  The map of routes is a summary of what the packets of a player have said: an enter or a jump names
  a map, and a leave ends the stay.  An enter or a jump to a map without a scene changes nothing.
-/
import Steppingstone.Depot.Model
import Steppingstone.Lib.LastEvent
import Steppingstone.Lib.Lookup

namespace Steppingstone.Depot

open Std (TreeMap)
open SceneDepotImp

variable {σ : Type}

/-! ## §1. What packets say. -/

/-- The map that an enter or a jump names. -/
def Packet.mapId (p : Packet) : Option UInt32 :=
  match p.body with
  | .playerEnterMap message => message.map MapLine.mapId
  | .playerJumpMap message => message.map MapLine.mapId
  | _ => none

/-- The packet takes its player off the map. -/
def Packet.isLeave (p : Packet) : Bool := p.body = .playerLeaveMap

/-- The scene of the map that an enter or a jump names. -/
def Packet.scene (sceneMap : TreeMap UInt64 σ) (p : Packet) : Option σ :=
  p.mapId.bind fun mapId => sceneMap[makeMapGuid 0 0 mapId.toUInt64]?

/-- What a packet names, or else what the latest packet of its player before it named, when there
    was no leave since. -/
def Destination {α : Type} (names : Packet → Option α) (before : List Packet) (p : Packet) (a : α) :
    Prop :=
  names p = some a ∨
    (names p = none ∧
      LastEvent.Holds names (·.isLeave = true) (before.filter (·.guid = p.guid)) a)

/-- The scene of the map that was named last; there may be none. -/
def AsNamed (sceneMap : TreeMap UInt64 σ) (before : List Packet) (p : Packet) (scene : σ) : Prop :=
  ∃ mapId, Destination Packet.mapId before p mapId ∧
    sceneMap[makeMapGuid 0 0 mapId.toUInt64]? = some scene

/-- The scene that was named last, by packets whose map has one. -/
def AsRouted (sceneMap : TreeMap UInt64 σ) (before : List Packet) (p : Packet) (scene : σ) : Prop :=
  Destination (Packet.scene sceneMap) before p scene

/-- The packets of players, in order of arrival, and what the scenes are given of them: each goes to
    its destination, and nowhere when it has none. -/
inductive Routed (dest : List Packet → Packet → σ → Prop) : List Packet → List (σ × Packet) → Prop
  | nil : Routed dest [] []
  | sent {ps out p scene} : Routed dest ps out → p.guid ≠ 0 → dest ps p scene →
      Routed dest (ps ++ [p]) (out ++ [(scene, p)])
  | dropped {ps out p} : Routed dest ps out → p.guid ≠ 0 → (∀ scene, ¬ dest ps p scene) →
      Routed dest (ps ++ [p]) out
  | noPlayer {ps out p} : Routed dest ps out → p.guid = 0 → Routed dest (ps ++ [p]) out

/-- What a scene is given is destined for it. -/
theorem Routed.destined {dest : List Packet → Packet → σ → Prop} {ps : List Packet}
    {out : List (σ × Packet)} (h : Routed dest ps out) {e : σ × Packet} (he : e ∈ out) :
    ∃ before rest, ps = before ++ e.2 :: rest ∧ dest before e.2 e.1 := by
  induction h with
  | nil => cases he
  | sent _ hp hdest ih =>
      obtain he | he := List.mem_append.mp he
      · obtain ⟨before, rest, heq, hd⟩ := ih he
        exact ⟨before, rest ++ [_], by rw [heq, List.append_assoc, List.cons_append], hd⟩
      · obtain rfl := List.mem_singleton.mp he
        exact ⟨_, [], rfl, hdest⟩
  | dropped _ _ _ ih =>
      obtain ⟨before, rest, heq, hd⟩ := ih he
      exact ⟨before, rest ++ [_], by rw [heq, List.append_assoc, List.cons_append], hd⟩
  | noPlayer _ _ ih =>
      obtain ⟨before, rest, heq, hd⟩ := ih he
      exact ⟨before, rest ++ [_], by rw [heq, List.append_assoc, List.cons_append], hd⟩

/-! ## §2. Runs. -/

/-- What happens to the depot. -/
inductive Action
  | input (packet : Packet)
  | cacheInput (info : CachePackInfo)
  | svc (started : Bool)

/-- One call of the depot. -/
def SceneDepotImp.act (d : SceneDepotImp σ) : Action → SceneDepotImp σ
  | .input packet => d.input packet
  | .cacheInput info => d.cacheInput info
  | .svc started => d.svc started

/-- The depot after a run. -/
def after (gateType : Nat) (sceneMap : TreeMap UInt64 σ) (actions : List Action) : SceneDepotImp σ :=
  actions.foldl SceneDepotImp.act { gateType := gateType, sceneMap := sceneMap }

/-- The packets from the gate. -/
def arrived (actions : List Action) : List Packet :=
  actions.filterMap fun
    | .input packet => some packet
    | _ => none

/-- What the scenes are given of the packets of players. -/
def SceneDepotImp.playerInputs (d : SceneDepotImp σ) : List (σ × Packet) :=
  d.inputs.filter fun e => e.2.guid ≠ 0

/-- The packets that are not in the queue any more are routed, and the thread empties the queue. -/
def Dispatched (dest : List Packet → Packet → σ → Prop) (d : SceneDepotImp σ)
    (packets : List Packet) : Prop :=
  (∃ handled, packets = handled ++ d.inputPacketVec ∧ Routed dest handled d.playerInputs) ∧
    (d.svc true).inputPacketVec = []

/-! ## §3. One packet. -/

/-- The map of routes after the packets that are handled. -/
structure Follows (gateType : Nat) (sceneMap : TreeMap UInt64 σ) (d : SceneDepotImp σ)
    (handled : List Packet) : Prop where
  gate : d.gateType = gateType
  scenes : d.sceneMap = sceneMap
  routes : ∀ g : UInt64, g ≠ 0 → ∀ scene, d.playerRouteMap[g]? = some scene ↔
    LastEvent.Holds (Packet.scene sceneMap) (·.isLeave = true) (handled.filter (·.guid = g)) scene
  routed : Routed (AsRouted sceneMap) handled d.playerInputs

variable {gateType : Nat} {sceneMap : TreeMap UInt64 σ} {d : SceneDepotImp σ}
  {handled : List Packet} {p : Packet}

/-- With gates, a map without a scene has no scene. -/
theorem getSceneByMap_eq (h : Follows gateType sceneMap d handled) (hgate : gateType ≠ 0)
    (mapGuid : UInt64) : d.getSceneByMap mapGuid = sceneMap[mapGuid]? := by
  unfold SceneDepotImp.getSceneByMap
  rw [h.scenes, h.gate, if_neg hgate]
  cases sceneMap[mapGuid]? <;> rfl

theorem playerInputs_notifyAll (d : SceneDepotImp σ) :
    d.notifyAllScenesToFlushPlayerData.playerInputs = d.playerInputs ∧
    d.notifyAllScenesToFlushPlayerData.playerRouteMap = d.playerRouteMap ∧
    d.notifyAllScenesToFlushPlayerData.sceneMap = d.sceneMap ∧
    d.notifyAllScenesToFlushPlayerData.gateType = d.gateType := by
  unfold SceneDepotImp.notifyAllScenesToFlushPlayerData
  split
  · exact ⟨rfl, rfl, rfl, rfl⟩
  · refine ⟨?_, rfl, rfl, rfl⟩
    -- the scenes are told by packets without a player
    show List.filter _ (d.inputs ++ _) = _
    rw [List.filter_append]
    refine (congrArg _ (List.filter_eq_nil_iff.mpr ?_)).trans (List.append_nil _)
    intro e he
    obtain ⟨x, -, rfl⟩ := List.mem_map.mp he
    simp

/-- What the thread does before it dispatches a packet. -/
theorem prepare_spec (h : Follows gateType sceneMap d handled) (hgate : gateType ≠ 0) (p : Packet) :
    (d.prepare p).gateType = gateType ∧ (d.prepare p).sceneMap = sceneMap ∧
    (d.prepare p).playerInputs = d.playerInputs ∧
    ∀ g : UInt64, (d.prepare p).playerRouteMap[g]? =
      if g = p.guid then (p.scene sceneMap).or d.playerRouteMap[g]? else d.playerRouteMap[g]? := by
  -- a map without a scene leaves the route as it was
  have hroute : ∀ mapId : UInt32, ∀ g : UInt64, (d.addRoute p.guid mapId).playerRouteMap[g]? =
      if g = p.guid then (sceneMap[makeMapGuid 0 0 mapId.toUInt64]?).or d.playerRouteMap[g]?
      else d.playerRouteMap[g]? := by
    intro mapId g
    unfold SceneDepotImp.addRoute
    rw [getSceneByMap_eq h hgate]
    cases sceneMap[makeMapGuid 0 0 mapId.toUInt64]? with
    | none =>
        rw [Option.none_or, ite_self]
    | some scene =>
        show (d.playerRouteMap.insert p.guid scene)[g]? = _
        rw [Lookup.getElem?_insert]
        rfl
  have hframe : ∀ mapId : UInt32, (d.addRoute p.guid mapId).gateType = d.gateType ∧
      (d.addRoute p.guid mapId).sceneMap = d.sceneMap ∧
      (d.addRoute p.guid mapId).playerInputs = d.playerInputs := by
    intro mapId
    unfold SceneDepotImp.addRoute
    split <;> exact ⟨rfl, rfl, rfl⟩
  have hsame : p.scene sceneMap = none → ∀ d' : SceneDepotImp σ,
      d'.playerInputs = d.playerInputs ∧ d'.playerRouteMap = d.playerRouteMap ∧
      d'.sceneMap = d.sceneMap ∧ d'.gateType = d.gateType →
      d'.gateType = gateType ∧ d'.sceneMap = sceneMap ∧ d'.playerInputs = d.playerInputs ∧
      ∀ g : UInt64, d'.playerRouteMap[g]? =
        if g = p.guid then (p.scene sceneMap).or d.playerRouteMap[g]?
        else d.playerRouteMap[g]? := by
    intro hnone d' hd'
    obtain ⟨hin, hr, hs, hg⟩ := hd'
    refine ⟨hg.trans h.gate, hs.trans h.scenes, hin, ?_⟩
    intro g
    rw [hr, hnone, Option.none_or, ite_self]
  -- only the enter and jump packets with a message prepare a route
  obtain ⟨guid, body⟩ := p
  cases body with
  | playerEnterMap message =>
      cases message with
      | none => exact hsame rfl d ⟨rfl, rfl, rfl, rfl⟩
      | some message =>
          obtain ⟨hg, hs, hin⟩ := hframe message.mapId
          exact ⟨hg.trans h.gate, hs.trans h.scenes, hin, hroute message.mapId⟩
  | playerJumpMap message =>
      cases message with
      | none => exact hsame rfl d ⟨rfl, rfl, rfl, rfl⟩
      | some message =>
          obtain ⟨hg, hs, hin⟩ := hframe message.mapId
          exact ⟨hg.trans h.gate, hs.trans h.scenes, hin, hroute message.mapId⟩
  | playerLeaveMap => exact hsame rfl d ⟨rfl, rfl, rfl, rfl⟩
  | lostGateConnection =>
      refine hsame rfl _ ?_
      show (d.lostGateConnection).playerInputs = _ ∧ (d.lostGateConnection).playerRouteMap = _ ∧
        (d.lostGateConnection).sceneMap = _ ∧ (d.lostGateConnection).gateType = _
      unfold SceneDepotImp.lostGateConnection
      split
      · exact ⟨rfl, rfl, rfl, rfl⟩
      · exact playerInputs_notifyAll _
  | receiveSigusr1 =>
      refine hsame rfl _ ?_
      show (d.recvSingleUsr1).playerInputs = _ ∧ (d.recvSingleUsr1).playerRouteMap = _ ∧
        (d.recvSingleUsr1).sceneMap = _ ∧ (d.recvSingleUsr1).gateType = _
      unfold SceneDepotImp.recvSingleUsr1
      split
      · exact ⟨rfl, rfl, rfl, rfl⟩
      · exact playerInputs_notifyAll _
  | other opcode => exact hsame rfl d ⟨rfl, rfl, rfl, rfl⟩

/-- The route after `prepare` is the destination. -/
theorem route_iff (h : Follows gateType sceneMap d handled) (hp : p.guid ≠ 0) (scene : σ) :
    (p.scene sceneMap).or d.playerRouteMap[p.guid]? = some scene ↔
      AsRouted sceneMap handled p scene := by
  unfold AsRouted Destination
  rw [Option.or_eq_some_iff, h.routes p.guid hp]

/-- A leave names no scene. -/
theorem scene_of_isLeave (hleave : p.isLeave = true) : p.scene sceneMap = none := by
  have hbody : p.body = .playerLeaveMap := of_decide_eq_true hleave
  rw [Packet.scene, Packet.mapId, hbody]
  rfl

theorem removeRouteGuid_eq (p : Packet) : removeRouteGuid p = if p.isLeave then p.guid else 0 := by
  obtain ⟨guid, body⟩ := p
  cases body <;> rfl

/-- The frame of `dispatchTerminalPacket`. -/
theorem dispatchTerminalPacket_frame (d : SceneDepotImp σ) (p : Packet) :
    (d.dispatchTerminalPacket p).gateType = d.gateType ∧
    (d.dispatchTerminalPacket p).sceneMap = d.sceneMap ∧
    (d.dispatchTerminalPacket p).playerRouteMap = d.playerRouteMap := by
  unfold SceneDepotImp.dispatchTerminalPacket
  split <;> exact ⟨rfl, rfl, rfl⟩

theorem playerInputs_dispatch (d : SceneDepotImp σ) (p : Packet) :
    (d.dispatchTerminalPacket p).playerInputs = d.playerInputs ++
      if p.guid = 0 then [] else (d.playerRouteMap[p.guid]?.map fun scene => (scene, p)).toList := by
  unfold SceneDepotImp.dispatchTerminalPacket SceneDepotImp.getSceneByPalyer
  by_cases hp : p.guid = 0
  · rw [if_pos hp, if_pos hp, List.append_nil]
    cases d.firstScene with
    | none => rfl
    | some scene =>
        show List.filter _ (d.inputs ++ [(scene, p)]) = _
        rw [List.filter_append, List.filter_cons_of_neg (by simp [hp])]
        exact List.append_nil _
  · rw [if_neg hp, if_neg hp]
    cases d.playerRouteMap[p.guid]? with
    | none => exact (List.append_nil _).symm
    | some scene =>
        show List.filter _ (d.inputs ++ [(scene, p)]) = _
        rw [List.filter_append, List.filter_cons_of_pos (by simp [hp])]
        rfl

/-- **One packet**: it goes to its destination, and the routes follow what it says. -/
theorem Follows.handlePacket (h : Follows gateType sceneMap d handled) (hgate : gateType ≠ 0)
    (p : Packet) : Follows gateType sceneMap (d.handlePacket p) (handled ++ [p]) := by
  obtain ⟨hg, hs, hin, hroutes⟩ := prepare_spec h hgate p
  obtain ⟨hg', hs', hr'⟩ := dispatchTerminalPacket_frame (d.prepare p) p
  have hinputs := playerInputs_dispatch (d.prepare p) p
  -- the packet goes by the route that has just been prepared
  have hrouted : Routed (AsRouted sceneMap) (handled ++ [p])
      ((d.prepare p).dispatchTerminalPacket p).playerInputs := by
    rw [hinputs, hin]
    by_cases hp : p.guid = 0
    · rw [if_pos hp, List.append_nil]
      exact h.routed.noPlayer hp
    · have hown := hroutes p.guid
      rw [if_pos rfl] at hown
      rw [if_neg hp]
      cases hscene : (d.prepare p).playerRouteMap[p.guid]? with
      | none =>
          rw [Option.map_none, Option.toList_none, List.append_nil]
          refine h.routed.dropped hp ?_
          intro scene hdest
          have hsome := (route_iff h hp scene).mpr hdest
          rw [← hown, hscene] at hsome
          cases hsome
      | some scene =>
          exact h.routed.sent hp ((route_iff h hp scene).mp (hown.symm.trans hscene))
  -- and a leave takes the route away behind itself
  have hafter : ∀ g : UInt64, g ≠ 0 → (d.handlePacket p).playerRouteMap[g]? =
      if g = p.guid then
        if p.isLeave then none else (p.scene sceneMap).or d.playerRouteMap[g]?
      else d.playerRouteMap[g]? := by
    intro g hg0
    unfold SceneDepotImp.handlePacket
    rw [removeRouteGuid_eq]
    by_cases hleave : p.isLeave = true
    · rw [if_pos hleave]
      by_cases hp : p.guid = 0
      · rw [if_pos hp, hr', hroutes, if_neg (by rw [hp]; exact hg0), if_neg (by rw [hp]; exact hg0)]
      · rw [if_neg hp]
        show (((d.prepare p).dispatchTerminalPacket p).playerRouteMap.erase p.guid)[g]? = _
        rw [Lookup.getElem?_erase, hr', hroutes]
        by_cases hgp : g = p.guid
        · rw [if_pos hgp, if_pos hgp, if_pos hleave]
        · rw [if_neg hgp, if_neg hgp, if_neg hgp]
    · rw [if_neg hleave, if_pos rfl, hr', hroutes, if_neg hleave]
  have hframe : (d.handlePacket p).gateType = gateType ∧ (d.handlePacket p).sceneMap = sceneMap ∧
      (d.handlePacket p).playerInputs =
        ((d.prepare p).dispatchTerminalPacket p).playerInputs := by
    unfold SceneDepotImp.handlePacket
    split
    · exact ⟨hg'.trans hg, hs'.trans hs, rfl⟩
    · exact ⟨hg'.trans hg, hs'.trans hs, rfl⟩
  refine ⟨hframe.1, hframe.2.1, ?_, hframe.2.2 ▸ hrouted⟩
  intro g hg0 scene
  rw [hafter g hg0, List.filter_append]
  by_cases hgp : g = p.guid
  · rw [if_pos hgp, List.filter_cons_of_pos (p := fun x : Packet => decide (x.guid = g))
      (decide_eq_true hgp.symm), List.filter_nil,
      LastEvent.holds_snoc]
    by_cases hleave : p.isLeave = true
    · rw [if_pos hleave, scene_of_isLeave hleave]
      simp [hleave]
    · rw [if_neg hleave, Option.or_eq_some_iff, h.routes g hg0]
      simp [hleave]
  · rw [if_neg hgp, List.filter_cons_of_neg (p := fun x : Packet => decide (x.guid = g))
      (by simpa using fun he => hgp he.symm), List.filter_nil,
      List.append_nil]
    exact h.routes g hg0 scene

/-! ## §4. Every run. -/

/-- The queue, one packet after the other. -/
theorem Follows.handlePackets (hgate : gateType ≠ 0) (packets : List Packet) :
    ∀ {d : SceneDepotImp σ} {handled : List Packet}, Follows gateType sceneMap d handled →
      Follows gateType sceneMap (packets.foldl SceneDepotImp.handlePacket d)
        (handled ++ packets) := by
  induction packets with
  | nil =>
      intro d handled h
      rw [List.append_nil]
      exact h
  | cons p packets ih =>
      intro d handled h
      have hnext := ih (h.handlePacket hgate p)
      rw [List.append_assoc] at hnext
      exact hnext

theorem dispatchCachePackets_frame (infos : List CachePackInfo) (d : SceneDepotImp σ) :
    ∃ cacheInputs, infos.foldl SceneDepotImp.dispatchCachePacket d =
      { d with cacheInputs := cacheInputs } := by
  induction infos generalizing d with
  | nil => exact ⟨d.cacheInputs, rfl⟩
  | cons info infos ih =>
      rw [List.foldl_cons]
      obtain ⟨cacheInputs, heq⟩ := ih (d.dispatchCachePacket info)
      refine ⟨cacheInputs, heq.trans ?_⟩
      unfold SceneDepotImp.dispatchCachePacket
      split <;> rfl

/-- An iteration of the thread, with what the cache packets come to. -/
theorem svc_eq (d : SceneDepotImp σ) (started : Bool) :
    ∃ t : SceneDepotImp σ, t.gateType = d.gateType ∧ t.sceneMap = d.sceneMap ∧
      t.playerRouteMap = d.playerRouteMap ∧ t.inputs = d.inputs ∧
      t.inputPacketVec = d.inputPacketVec ∧
      d.svc started = if d.successStartupNotify || started then
        { d.inputPacketVec.foldl SceneDepotImp.handlePacket t with inputPacketVec := [] } else t := by
  obtain ⟨cacheInputs, hcache⟩ := dispatchCachePackets_frame d.cacheInputPacketVec
    { d with successStartupNotify := d.successStartupNotify || started }
  refine ⟨{ d with
    successStartupNotify := d.successStartupNotify || started
    cacheInputs := cacheInputs
    cacheInputPacketVec := [] }, rfl, rfl, rfl, rfl, rfl, ?_⟩
  simp only [SceneDepotImp.svc, hcache]

/-- One iteration of the thread: all packets that wait are handled, or none is. -/
theorem Follows.svc (h : Follows gateType sceneMap d handled) (hgate : gateType ≠ 0)
    (started : Bool) :
    ∃ handled', handled ++ d.inputPacketVec = handled' ++ (d.svc started).inputPacketVec ∧
      Follows gateType sceneMap (d.svc started) handled' := by
  obtain ⟨t, hg, hs, hr, hi, hq, hsvc⟩ := svc_eq d started
  have ht : Follows gateType sceneMap t handled := by
    refine ⟨hg.trans h.gate, hs.trans h.scenes, ?_, ?_⟩
    · rw [hr]
      exact h.routes
    · rw [SceneDepotImp.playerInputs, hi]
      exact h.routed
  rw [hsvc]
  by_cases hstart : (d.successStartupNotify || started) = true
  · rw [if_pos hstart]
    have hall := ht.handlePackets hgate d.inputPacketVec
    exact ⟨handled ++ d.inputPacketVec, (List.append_nil _).symm,
      hall.gate, hall.scenes, hall.routes, hall.routed⟩
  · rw [if_neg hstart, hq]
    exact ⟨handled, rfl, ht⟩

/-- Once the scenes have started, nothing waits after an iteration. -/
theorem svc_true (d : SceneDepotImp σ) : (d.svc true).inputPacketVec = [] := by
  obtain ⟨t, -, -, -, -, -, hsvc⟩ := svc_eq d true
  rw [hsvc, Bool.or_true]
  rfl

/-- After every run, the packets in the queue are those that are not handled. -/
theorem after_follows (hgate : gateType ≠ 0) (sceneMap : TreeMap UInt64 σ) (actions : List Action) :
    ∃ handled, arrived actions = handled ++ (after gateType sceneMap actions).inputPacketVec ∧
      Follows gateType sceneMap (after gateType sceneMap actions) handled := by
  induction actions using List.reverseRecOn with
  | nil =>
      refine ⟨[], rfl, rfl, rfl, ?_, Routed.nil⟩
      intro g _ scene
      refine iff_of_false ?_ LastEvent.not_holds_nil
      show (∅ : TreeMap UInt64 σ)[g]? ≠ _
      simp
  | append_singleton actions a ih =>
      obtain ⟨handled, hqueue, hfollows⟩ := ih
      have hnext : after gateType sceneMap (actions ++ [a]) =
          (after gateType sceneMap actions).act a := by
        unfold after
        rw [List.foldl_append]
        rfl
      have harrived : arrived (actions ++ [a]) = arrived actions ++ arrived [a] :=
        List.filterMap_append
      rw [hnext, harrived, hqueue]
      cases a with
      | input packet =>
          refine ⟨handled, ?_, hfollows.gate, hfollows.scenes, hfollows.routes, hfollows.routed⟩
          rw [List.append_assoc]
          rfl
      | cacheInput info =>
          refine ⟨handled, ?_, hfollows.gate, hfollows.scenes, hfollows.routes, hfollows.routed⟩
          exact List.append_nil _
      | svc started =>
          obtain ⟨handled', heq, hfollows'⟩ := hfollows.svc hgate started
          refine ⟨handled', ?_, hfollows'⟩
          exact (List.append_nil _).trans heq

/-- **Packets of players reach the scene that was named last**, by an enter or a jump to a map that
    has one. -/
theorem run_dispatched (gateType : Nat) (hgate : gateType ≠ 0) (sceneMap : TreeMap UInt64 σ)
    (actions : List Action) :
    Dispatched (AsRouted sceneMap) (after gateType sceneMap actions) (arrived actions) := by
  obtain ⟨handled, hqueue, hfollows⟩ := after_follows hgate sceneMap actions
  exact ⟨⟨handled, hqueue, hfollows.routed⟩, svc_true _⟩

/-! ## §5. Two maps. -/

/-- The scenes of the maps 1 and 2. -/
def twoScenes : TreeMap UInt64 Nat :=
  (({} : TreeMap UInt64 Nat).insert (makeMapGuid 0 0 1) 1).insert (makeMapGuid 0 0 2) 2

/-- A packet with which the player enters a map. -/
def enter (guid : UInt64) (mapId : UInt32) : Action :=
  .input ⟨guid, .playerEnterMap (some ⟨mapId, 1⟩)⟩

/-- A packet with which the player jumps to a map. -/
def jump (guid : UInt64) (mapId : UInt32) : Action :=
  .input ⟨guid, .playerJumpMap (some ⟨mapId, 1⟩)⟩

/-- A player jumps from one map to the other and leaves. -/
def jumpAndLeave : List Action :=
  [enter 7 1, .svc true, jump 7 2, .input ⟨7, .playerLeaveMap⟩, .input ⟨7, .other 5⟩, .svc true]

theorem jumpAndLeave_dispatched :
    (after 1 twoScenes jumpAndLeave).playerInputs.map Prod.fst = [1, 2, 2] ∧
    Dispatched (AsRouted twoScenes) (after 1 twoScenes jumpAndLeave) (arrived jumpAndLeave) :=
  ⟨by decide +kernel, run_dispatched 1 (by decide) twoScenes jumpAndLeave⟩

/-- A player jumps to a map without a scene. -/
def jumpAway : List Action := [enter 7 1, jump 7 9, .svc true]

/-- **The jump goes to the old scene**: it names a map that has none. -/
theorem unknown_map_dispatched :
    ¬ Dispatched (AsNamed twoScenes) (after 1 twoScenes jumpAway) (arrived jumpAway) := by
  intro h
  obtain ⟨⟨handled, -, hrouted⟩, -⟩ := h
  have hgiven : ((1 : Nat), (⟨7, .playerJumpMap (some ⟨9, 1⟩)⟩ : Packet)) ∈
      (after 1 twoScenes jumpAway).playerInputs := by decide +kernel
  have hmap : (twoScenes[makeMapGuid 0 0 (9 : UInt32).toUInt64]?) = none := by decide +kernel
  obtain ⟨before, rest, -, mapId, hdest, hscene⟩ := hrouted.destined hgiven
  -- the jump itself names the map 9
  have hnine : mapId = 9 := by
    cases hdest with
    | inl hnamed => exact (Option.some.inj hnamed).symm
    | inr hbefore => cases hbefore.1
  rw [hnine, hmap] at hscene
  cases hscene

end Steppingstone.Depot
