/-
  Steppingstone.Line.Names — the players of a line, by guid and by name (`LineScene`).

  Two maps lead to the same entries.  A player that comes is put into both; on a cross server a
  player that is known gets a new short info, and the map by name stays as it was.
-/
import Steppingstone.Lib.Lookup
import Steppingstone.Lib.SecondaryIndex
import Steppingstone.Lib.TransSys

namespace Steppingstone.Line

open Std (TreeMap)

/-- A name, as its bytes. -/
abbrev Name := List UInt8

/-! ## §1. The maps. -/

/-- `typed::entity::Short`: what is read of it here. -/
structure Short where
  name : Name
  deriving DecidableEq, Repr

/-- What the line knows of a player. -/
structure PlayerBriefInfo where
  player : UInt64
  isOnline : Bool
  sceneId : UInt32
  isJumpmap : Bool := false
  shortInfo : Short
  deriving DecidableEq, Repr

/-- `LineScene`.  An entry is made once for each guid and never deleted, so a pointer to one is the
guid that it was made for. -/
structure LineScene where
  /-- `cross_server_cfg.server_type` -/
  serverType : UInt32
  playerBriefInfoMap : TreeMap UInt64 PlayerBriefInfo := {}
  playerBriefInfoMapByname : TreeMap Name UInt64 := {}

namespace LineScene

variable (s : LineScene)

/-- Every server type but the first is a cross server's. -/
def isCrossServer : Bool := s.serverType ≠ 1

/-- `getPlayerBriefInfoByName` -/
def getPlayerBriefInfoByName (playerName : Name) : Option PlayerBriefInfo :=
  (s.playerBriefInfoMapByname[playerName]?).bind fun player => s.playerBriefInfoMap[player]?

/-- A new entry; `insert` of an `unordered_map` leaves a key that is there. -/
def insertBoth (player : UInt64) (info : PlayerBriefInfo) : LineScene :=
  { s with
    playerBriefInfoMap := s.playerBriefInfoMap.insert player info
    playerBriefInfoMapByname :=
      if info.shortInfo.name ∈ s.playerBriefInfoMapByname then s.playerBriefInfoMapByname
      else s.playerBriefInfoMapByname.insert info.shortInfo.name player }

/-- `addPlayerShortInfo` -/
def addPlayerShortInfo (player : UInt64) (shortInfo : Short) (mapId : UInt32) (isOnline : Bool) :
    LineScene :=
  match s.playerBriefInfoMap[player]? with
  | none => s.insertBoth player { player, isOnline, sceneId := mapId, shortInfo }
  | some _ => s

/-- `updatePlayerShortInfo` -/
def updatePlayerShortInfo (player : UInt64) (shortInfo : Short) : LineScene :=
  if ¬ s.isCrossServer then s
  else
    match s.playerBriefInfoMap[player]? with
    | none => s.insertBoth player { player, isOnline := false, sceneId := 0, shortInfo }
    | some info =>
        { s with playerBriefInfoMap := s.playerBriefInfoMap.insert player { info with shortInfo } }

/-- The names of different players are distinct. -/
def DistinctNames : Prop :=
  ∀ e ∈ s.playerBriefInfoMap.toList, ∀ e' ∈ s.playerBriefInfoMap.toList,
    e.2.shortInfo.name = e'.2.shortInfo.name → e.1 = e'.1

instance : Decidable s.DistinctNames := by
  unfold DistinctNames
  infer_instance

end LineScene

/-- The calls that change a name. -/
inductive NameCall where
  | addPlayerShortInfo (player : UInt64) (shortInfo : Short) (mapId : UInt32) (isOnline : Bool)
  | updatePlayerShortInfo (player : UInt64) (shortInfo : Short)
  deriving DecidableEq, Repr

/-- One call. -/
def LineScene.call (s : LineScene) : NameCall → LineScene
  | .addPlayerShortInfo player shortInfo mapId isOnline =>
      s.addPlayerShortInfo player shortInfo mapId isOnline
  | .updatePlayerShortInfo player shortInfo => s.updatePlayerShortInfo player shortInfo

/-- The calls leave the names of different players distinct. -/
def lineSystem (serverType : UInt32) : TransSys LineScene NameCall where
  init s := s = { serverType }
  step s c := if (s.call c).DistinctNames then some (s.call c) else none

/-- **The indexes agree**: a name finds a player exactly if it is that player's name. -/
def LineScene.NameAgrees (s : LineScene) : Prop :=
  ∀ name info, s.getPlayerBriefInfoByName name = some info ↔
    ∃ player : UInt64, s.playerBriefInfoMap[player]? = some info ∧ info.shortInfo.name = name

/-- The condition on a call: it changes no name of a player that is known. -/
def KeepsName (s : LineScene) : NameCall → Prop
  | .addPlayerShortInfo _ _ _ _ => True
  | .updatePlayerShortInfo player shortInfo => s.isCrossServer = true →
      ∀ info, s.playerBriefInfoMap[player]? = some info → shortInfo.name = info.shortInfo.name

instance (s : LineScene) : (c : NameCall) → Decidable (KeepsName s c)
  | .addPlayerShortInfo _ _ _ _ => .isTrue trivial
  | .updatePlayerShortInfo player shortInfo =>
      inferInstanceAs (Decidable (s.isCrossServer = true →
        ∀ info ∈ s.playerBriefInfoMap[player]?, shortInfo.name = info.shortInfo.name))

/-! ## §2. The map by name as an index. -/

namespace LineScene

variable {s : LineScene}

/-- The entries, as a function. -/
def infos (s : LineScene) (player : UInt64) : Option PlayerBriefInfo := s.playerBriefInfoMap[player]?

/-- The player that the index finds under a name. -/
def byname (s : LineScene) (name : Name) : Option UInt64 := s.playerBriefInfoMapByname[name]?

/-- The name of a player. -/
def nameOf (info : PlayerBriefInfo) : Name := info.shortInfo.name

/-- Names lead to entries, and entries know their guid. -/
structure Linked (s : LineScene) : Prop where
  target : ∀ name player, s.byname name = some player → (s.infos player).isSome = true
  player : ∀ player info, s.infos player = some info → info.player = player

/-- **Finding by name** is right exactly if the map by name is an index of the names. -/
theorem agrees_iff (h : s.Linked) :
    s.NameAgrees ↔ SecondaryIndex.Agrees nameOf s.infos s.byname := by
  constructor
  · intro hagrees name player
    constructor
    · intro hname
      obtain ⟨info, hinfo⟩ := Option.isSome_iff_exists.mp (h.target name player hname)
      have hfound : s.getPlayerBriefInfoByName name = some info :=
        Option.bind_eq_some_iff.mpr ⟨player, hname, hinfo⟩
      obtain ⟨-, -, hsame⟩ := (hagrees name info).mp hfound
      exact ⟨info, hinfo, hsame⟩
    · intro hentry
      obtain ⟨info, hinfo, hname⟩ := hentry
      obtain ⟨player', hname', hinfo'⟩ :=
        Option.bind_eq_some_iff.mp ((hagrees name info).mpr ⟨player, hinfo, hname⟩)
      -- an entry is under its own guid only
      rw [← h.player player info hinfo, h.player player' info hinfo']
      exact hname'
  · intro hagrees name info
    constructor
    · intro hfound
      obtain ⟨player, hname, hinfo⟩ := Option.bind_eq_some_iff.mp hfound
      obtain ⟨info', hinfo', hsame⟩ := (hagrees name player).mp hname
      rw [show s.infos player = some info from hinfo] at hinfo'
      rw [← Option.some.inj hinfo'] at hsame
      exact ⟨player, hinfo, hsame⟩
    · intro hentry
      obtain ⟨player, hinfo, hname⟩ := hentry
      exact Option.bind_eq_some_iff.mpr ⟨player, (hagrees name player).mpr ⟨info, hinfo, hname⟩, hinfo⟩

theorem distinct_of_distinctNames (h : s.DistinctNames) :
    SecondaryIndex.Distinct nameOf s.infos := by
  intro player player' info info' hinfo hinfo' hname
  exact h (player, info) ((Lookup.mem_toList ..).mpr hinfo) (player', info')
    ((Lookup.mem_toList ..).mpr hinfo') hname

/-! ## §3. A new entry. -/

theorem infos_insertBoth (player : UInt64) (info : PlayerBriefInfo) :
    (s.insertBoth player info).infos = Function.update s.infos player (some info) := by
  funext player'
  show (s.playerBriefInfoMap.insert player info)[player']? = _
  rw [Lookup.getElem?_insert, Function.update_apply]
  rfl

/-- A name that is there keeps its player. -/
theorem byname_insertBoth (player : UInt64) (info : PlayerBriefInfo) :
    (s.insertBoth player info).byname =
      if s.byname (nameOf info) = none then
        Function.update s.byname (nameOf info) (some player) else s.byname := by
  have hmem : info.shortInfo.name ∈ s.playerBriefInfoMapByname ↔
      ¬ s.byname (nameOf info) = none := by
    rw [← TreeMap.isSome_getElem?_iff_mem, Option.isSome_iff_ne_none]
    rfl
  funext name
  show (if info.shortInfo.name ∈ s.playerBriefInfoMapByname then s.playerBriefInfoMapByname
    else s.playerBriefInfoMapByname.insert info.shortInfo.name player)[name]? = _
  by_cases hnone : s.byname (nameOf info) = none
  · rw [if_neg (fun h => hmem.mp h hnone), if_pos hnone, Lookup.getElem?_insert,
      Function.update_apply]
    rfl
  · rw [if_pos (hmem.mpr hnone), if_neg hnone]
    rfl

theorem Linked.insertBoth (h : s.Linked) {player : UInt64} {info : PlayerBriefInfo}
    (hplayer : info.player = player) : (s.insertBoth player info).Linked := by
  have hkeep : ∀ p, (s.infos p).isSome = true →
      ((s.insertBoth player info).infos p).isSome = true := by
    intro p hp
    rw [infos_insertBoth]
    by_cases he : p = player
    · rw [he, Function.update_self]
      rfl
    · rw [Function.update_of_ne he]
      exact hp
  refine ⟨fun name p hname => ?_, fun p i hi => ?_⟩
  · -- a name leads to the new player, or where it led before
    rw [byname_insertBoth] at hname
    split at hname
    · match Lookup.update_some.mp hname with
      | Or.inl ⟨_, hp⟩ =>
          rw [hp, infos_insertBoth, Function.update_self]
          rfl
      | Or.inr ⟨_, hold⟩ => exact hkeep p (h.target name p hold)
    · exact hkeep p (h.target name p hname)
  · rw [infos_insertBoth] at hi
    match Lookup.update_some.mp hi with
    | Or.inl ⟨hp, hsame⟩ => rw [hp, hsame, hplayer]
    | Or.inr ⟨_, hold⟩ => exact h.player p i hold

/-- **A new player** with a name that nobody has is found by it. -/
theorem agrees_insertBoth (h : SecondaryIndex.Agrees nameOf s.infos s.byname) {player : UInt64}
    {info : PlayerBriefInfo} (hnew : s.infos player = none)
    (hdistinct : (s.insertBoth player info).DistinctNames) :
    SecondaryIndex.Agrees nameOf (s.insertBoth player info).infos
      (s.insertBoth player info).byname := by
  have hd := distinct_of_distinctNames hdistinct
  rw [infos_insertBoth] at hd
  have hfree : s.byname (nameOf info) = none := h.eq_none hnew hd
  rw [infos_insertBoth, byname_insertBoth, if_pos hfree]
  exact h.add hnew hfree

/-! ## §4. A changed entry. -/

/-- What `updatePlayerShortInfo` does to a player that is known. -/
theorem infos_change (player : UInt64) (info : PlayerBriefInfo) :
    ({ s with playerBriefInfoMap := s.playerBriefInfoMap.insert player info } : LineScene).infos
      = Function.update s.infos player (some info) := by
  funext player'
  show (s.playerBriefInfoMap.insert player info)[player']? = _
  rw [Lookup.getElem?_insert, Function.update_apply]
  rfl

theorem Linked.change (h : s.Linked) {player : UInt64} {info : PlayerBriefInfo}
    (hplayer : info.player = player) :
    ({ s with playerBriefInfoMap := s.playerBriefInfoMap.insert player info } :
      LineScene).Linked := by
  refine ⟨fun name p hname => ?_, fun p i hi => ?_⟩
  · rw [infos_change]
    by_cases he : p = player
    · rw [he, Function.update_self]
      rfl
    · rw [Function.update_of_ne he]
      exact h.target name p hname
  · rw [infos_change] at hi
    match Lookup.update_some.mp hi with
    | Or.inl ⟨hp, hsame⟩ => rw [hp, hsame, hplayer]
    | Or.inr ⟨_, hold⟩ => exact h.player p i hold

/-! ## §5. Calls. -/

/-- **Every call** keeps names leading to entries. -/
theorem Linked.call (h : s.Linked) (c : NameCall) : (s.call c).Linked := by
  cases c with
  | addPlayerShortInfo player shortInfo mapId isOnline =>
      show (s.addPlayerShortInfo player shortInfo mapId isOnline).Linked
      unfold addPlayerShortInfo
      split
      · exact h.insertBoth rfl
      · exact h
  | updatePlayerShortInfo player shortInfo =>
      show (s.updatePlayerShortInfo player shortInfo).Linked
      unfold updatePlayerShortInfo
      split
      · exact h
      · split
        · exact h.insertBoth rfl
        · next info hinfo => exact h.change (h.player player info hinfo)

theorem Linked.init (serverType : UInt32) : Linked { serverType } where
  target _ _ h := by cases h
  player _ _ h := by cases h

/-- **A call** keeps the index exactly if it changes no name. -/
theorem agrees_call (h : SecondaryIndex.Agrees nameOf s.infos s.byname) {c : NameCall}
    (hdistinct : (s.call c).DistinctNames) :
    SecondaryIndex.Agrees nameOf (s.call c).infos (s.call c).byname ↔ KeepsName s c := by
  cases c with
  | addPlayerShortInfo player shortInfo mapId isOnline =>
      refine iff_of_true ?_ trivial
      have hcall : s.call (.addPlayerShortInfo player shortInfo mapId isOnline)
          = s.addPlayerShortInfo player shortInfo mapId isOnline := rfl
      rw [hcall] at hdistinct ⊢
      unfold addPlayerShortInfo at hdistinct ⊢
      split at hdistinct
      · next hnew => exact agrees_insertBoth h hnew hdistinct
      · exact h
  | updatePlayerShortInfo player shortInfo =>
      have hcall : s.call (.updatePlayerShortInfo player shortInfo)
          = s.updatePlayerShortInfo player shortInfo := rfl
      rw [hcall] at hdistinct ⊢
      unfold updatePlayerShortInfo at hdistinct ⊢
      by_cases hcross : s.isCrossServer = true
      · rw [if_neg (not_not_intro hcross)] at hdistinct ⊢
        match hinfo : s.playerBriefInfoMap[player]? with
        | none =>
            rw [hinfo] at hdistinct
            refine iff_of_true (agrees_insertBoth h hinfo hdistinct) ?_
            intro _ info hsome
            rw [hinfo] at hsome
            cases hsome
        | some info =>
            -- the entry changes, and the map by name does not
            show SecondaryIndex.Agrees nameOf (LineScene.infos { s with
              playerBriefInfoMap := s.playerBriefInfoMap.insert player { info with shortInfo } })
              s.byname ↔ _
            rw [infos_change, h.change_iff hinfo]
            constructor
            · intro hsame _ info' hinfo'
              rw [hinfo] at hinfo'
              rw [← Option.some.inj hinfo']
              exact hsame
            · intro hkeeps
              exact hkeeps hcross info hinfo
      · rw [if_pos hcross]
        exact iff_of_true h fun hc => absurd hc hcross

end LineScene

/-! ## §6. Every run. -/

open LineScene

variable {serverType : UInt32}

/-- A step is a call after which the names are distinct. -/
theorem lineSystem_step {s s' : LineScene} {c : NameCall} :
    (lineSystem serverType).step s c = some s' ↔ (s.call c).DistinctNames ∧ s.call c = s' := by
  show (if _ then some _ else none) = some s' ↔ _
  split
  · next hdistinct => rw [Option.some.injEq, and_iff_right hdistinct]
  · next hsame => exact iff_of_false (by simp) fun h => hsame h.1

/-- **A run** keeps the two maps linked. -/
theorem linked_run {s s' : LineScene} {calls : List NameCall} (h : s.Linked)
    (hrun : (lineSystem serverType).run s calls = some s') : s'.Linked := by
  refine TransSys.run_invariant ?_ h hrun
  intro s c s' h hst
  rw [← (lineSystem_step.mp hst).2]
  exact h.call c

/-- **A call** keeps the names right exactly if it changes no name of a player that is known. -/
theorem nameAgrees_step {s s' : LineScene} {c : NameCall} (hlinked : s.Linked)
    (h : s.NameAgrees) (hst : (lineSystem serverType).step s c = some s') :
    s'.NameAgrees ↔ KeepsName s c := by
  obtain ⟨hdistinct, hcall⟩ := lineSystem_step.mp hst
  rw [← hcall, agrees_iff (hlinked.call c)]
  exact agrees_call ((agrees_iff hlinked).mp h) hdistinct

/-- **The indexes agree** after each call, if and only if no call changes the name of a player that
is known. -/
theorem name_index_agrees_iff {calls : List NameCall} {s : LineScene}
    (hrun : (lineSystem serverType).run { serverType } calls = some s) :
    (∀ done t, done <+: calls → (lineSystem serverType).run { serverType } done = some t →
      t.NameAgrees) ↔ (lineSystem serverType).RunMeets KeepsName { serverType } calls := by
  -- nobody is there at first, and no name leads anywhere
  have hinit : LineScene.NameAgrees { serverType } := by
    rw [agrees_iff (Linked.init serverType)]
    intro name player
    refine iff_of_false (fun h => by cases h) (fun h => ?_)
    obtain ⟨info, hinfo, -⟩ := h
    cases hinfo
  have hiff := TransSys.always_iff_runMeets (M := lineSystem serverType)
    (P := fun s => s.Linked ∧ s.NameAgrees) (C := KeepsName) ?_ ⟨Linked.init serverType, hinit⟩ hrun
  · rw [← hiff]
    -- the two maps are linked in any run
    constructor
    · intro hall done t hdone ht
      exact ⟨linked_run (Linked.init serverType) ht, hall done t hdone ht⟩
    · intro hall done t hdone ht
      exact (hall done t hdone ht).2
  · intro s c s' h hst
    rw [← nameAgrees_step h.1 h.2 hst, and_iff_right]
    rw [← (lineSystem_step.mp hst).2]
    exact h.1.call c

/-- Two players come, and one of them gets a short info with the same name. -/
def twoPlayers : List NameCall :=
  [.addPlayerShortInfo 1 ⟨[97]⟩ 10 true, .updatePlayerShortInfo 2 ⟨[98]⟩,
    .updatePlayerShortInfo 1 ⟨[97]⟩]

/-- A run with two players. -/
theorem name_index_agrees_twoPlayers :
    ∃ s, (lineSystem 2).run { serverType := 2 } twoPlayers = some s ∧ s.NameAgrees := by
  obtain ⟨s, hs⟩ : ∃ s, (lineSystem 2).run { serverType := 2 } twoPlayers = some s := ⟨_, rfl⟩
  have hmeets : (lineSystem 2).RunMeets KeepsName { serverType := 2 } twoPlayers := by
    decide
  exact ⟨s, hs, (name_index_agrees_iff hs).mpr hmeets _ _ (List.prefix_refl _) hs⟩

/-- **The defect**: a player is found under the name that it gave up, and not under its own. -/
theorem renamed_not_found :
    ¬ ∀ calls s, (lineSystem 2).run { serverType := 2 } calls = some s → s.NameAgrees := by
  intro hall
  have hrename : ((lineSystem 2).run { serverType := 2 }
      [.addPlayerShortInfo 1 ⟨[97]⟩ 10 true, .updatePlayerShortInfo 1 ⟨[98]⟩]).map
        (fun s => (s.getPlayerBriefInfoByName [98], s.playerBriefInfoMap[(1 : UInt64)]?))
          = some (none, some ⟨1, true, 10, false, ⟨[98]⟩⟩) := by decide
  obtain ⟨s, hrun, hs⟩ := Option.map_eq_some_iff.mp hrename
  obtain ⟨hnone, hinfo⟩ := Prod.mk.inj hs
  have hfound := (hall _ s hrun [98] _).mpr ⟨1, hinfo, rfl⟩
  rw [hnone] at hfound
  cases hfound

end Steppingstone.Line
