/-
  Steppingstone.Player.Flush — flushing a player: the walk over its entities
  and the request list it commits (`PlayerAssistant::getPlayerEntityMap`,
  `PlayerAssistant::request_flush_player`).

  The flush clears what is pending for the player and rebuilds it from the walk.
  What the walk reaches is a property of the references alone: an entity is
  taken by the first reference to it, if that reference asks for its type.
-/
import Steppingstone.Pool.Model
import Steppingstone.Player.Entity

namespace Steppingstone.Player

open Std (TreeMap TreeSet)
open Steppingstone.Pool

/-! ## §1. The walk. -/

/-- `EntityGuidMap_t`: entities by guid. -/
abbrev EntityGuidMap := TreeMap UInt64 Entity

/-- `GET_ENTITY_FROM_POOL_WHILE_FLUSH`, before the cast. -/
def getEntity (isFlush : Bool) (s : PoolImp Entity) (guid : UInt64) :
    PoolImp Entity × Option Entity :=
  if isFlush then s.getWhileFlush guid else (s, s.get guid)

/-- Take the entity of one reference: its type is checked by the cast, and
`std::map::insert` keeps what is recorded under the guid already. -/
def take (isFlush : Bool) (w : PoolImp Entity × EntityGuidMap) (r : Ref) :
    (PoolImp Entity × EntityGuidMap) × Option Entity :=
  let (s, msg) := getEntity isFlush w.1 r.guid
  match msg with
  | none => ((s, w.2), none)
  | some e =>
      if e.body.kind = r.kind then ((s, w.2.insertIfNew (r.key e) e), some e)
      else ((s, w.2), none)

/-- A reference of the player, and the references of the entity it takes. -/
def walk (isFlush : Bool) (w : PoolImp Entity × EntityGuidMap) (r : Ref) :
    PoolImp Entity × EntityGuidMap :=
  match take isFlush w r with
  | (w, none) => w
  | (w, some e) => e.refs.foldl (fun w r => (take isFlush w r).1) w

/-- `getPlayerEntityMap`. -/
def getPlayerEntityMap (s : PoolImp Entity) (playerGuid : UInt64) (isFlush : Bool) :
    PoolImp Entity × EntityGuidMap :=
  let (s, msg) := getEntity isFlush s playerGuid
  match msg.bind Entity.asPlayer with
  | none => (s, {})
  | some player => player.refs.foldl (walk isFlush) (s, {})

/-! ## §2. The flush. -/

/-- One turn of the loop over `insert_entity_set`. -/
def insertRequest (isUpdating : Bool) (playerGuid : UInt64)
    (acc : List (Request Entity) × EntityGuidMap) (guid : UInt64) :
    List (Request Entity) × EntityGuidMap :=
  match acc.2[guid]? with
  | none => acc
  | some e =>
      (acc.1 ++ [{ requestType := if isUpdating then .add else .addWithFlush, guid,
                   message := some e, ownerGuid := playerGuid }],
        acc.2.erase guid)

/-- `REMOVE_REQUEST`. -/
def removeRequest (playerGuid guid : UInt64) : Request Entity :=
  { requestType := .delete, guid, message := none, ownerGuid := playerGuid }

/-- The request for an entity the walk collected and nothing inserts. -/
def writeRequest (isUpdating : Bool) (playerGuid : UInt64) (e : UInt64 × Entity) :
    Request Entity :=
  { requestType := if isUpdating then .update else .flush, guid := e.1, message := some e.2,
    ownerGuid := playerGuid }

/-- The requests of a flush, from what was pending and what was collected. -/
def flushRequests (isUpdating : Bool) (playerGuid : UInt64) (player : Entity)
    (insertSet removeSet : TreeSet UInt64) (entityGuidMap : EntityGuidMap) :
    List (Request Entity) :=
  let inserted := insertSet.toList.foldl (insertRequest isUpdating playerGuid)
    ([], entityGuidMap)
  inserted.1
    ++ removeSet.toList.map (removeRequest playerGuid)
    ++ inserted.2.toList.map (writeRequest isUpdating playerGuid)
    ++ [{ requestType := .update, guid := playerGuid, message := some player,
          ownerGuid := playerGuid }]

/-- `request_flush_player`. -/
def requestFlushPlayer (s : PoolImp Entity) (playerGuid : UInt64) (isUpdating : Bool) :
    PoolImp Entity :=
  match s.get playerGuid with
  | none => s
  | some player =>
      if player.asPlayer.isNone then s
      else
        let s := { s with requestId := s.requestId + 1 }
        let (s, insertEntities, removeEntities) := s.clearUpdateEntity playerGuid
        let (s, entityGuidMap) := getPlayerEntityMap s playerGuid true
        s.commit
          { requestId := s.requestId
            requestVec := flushRequests isUpdating playerGuid player
              (TreeSet.ofList insertEntities) (TreeSet.ofList removeEntities) entityGuidMap }
          .plugin

/-! ## §3. What the references reach. -/

/-- What a reference takes when the guids `seen` have been asked for before. -/
def opens (s : PoolImp Entity) (seen : List UInt64) (r : Ref) : Option Entity :=
  if r.guid ∈ seen then none else (s.get r.guid).filter (·.body.kind = r.kind)

/-- The references of the player `p`, each followed by those of the entity it
takes. -/
def references (s : PoolImp Entity) (p : UInt64) (player : PlayerEntity) : List Ref :=
  player.refs.foldl
    (fun before r =>
      before ++ r :: ((opens s (p :: before.map (·.guid)) r).map Entity.refs).getD []) []

/-- After the references `before`, the reference `r` takes `e` under `g`. -/
def Gives (s : PoolImp Entity) (p : UInt64) (before : List Ref) (r : Ref) (g : UInt64)
    (e : Entity) : Prop :=
  opens s (p :: before.map (·.guid)) r = some e ∧ r.key e = g

/-- Some reference of the list takes an entity under `g`. -/
def Reached (s : PoolImp Entity) (p : UInt64) (refs : List Ref) (g : UInt64) : Prop :=
  ∃ before r after e, refs = before ++ r :: after ∧ Gives s p before r g e

/-- The first reference of the list that takes an entity under `g` takes `e`. -/
def ReachedAs (s : PoolImp Entity) (p : UInt64) (refs : List Ref) (g : UInt64)
    (e : Entity) : Prop :=
  ∃ before r after, refs = before ++ r :: after ∧ Gives s p before r g e ∧
    ¬ Reached s p before g

/-! ## §4. The walk follows the references. -/

private theorem snoc_eq_split {α : Type} {l before after : List α} {x y : α}
    (h : l ++ [x] = before ++ y :: after) :
    (∃ tail, l = before ++ y :: tail) ∨ (before = l ∧ y = x) := by
  rcases List.eq_nil_or_concat after with rfl | ⟨tail, z, rfl⟩
  · right
    have := List.append_inj' h rfl
    exact ⟨this.1.symm, by simpa using this.2.symm⟩
  · left
    have h' : l ++ [x] = (before ++ y :: tail) ++ [z] := by simpa using h
    exact ⟨tail, (List.append_inj' h' rfl).1⟩

variable {s : PoolImp Entity} {p g : UInt64} {L : List Ref} {r : Ref} {e : Entity}

theorem reached_snoc :
    Reached s p (L ++ [r]) g ↔ Reached s p L g ∨ ∃ e, Gives s p L r g e := by
  refine ⟨?_, ?_⟩
  · intro h
    obtain ⟨before, r', after, e, hsplit, hgives⟩ := h
    rcases snoc_eq_split hsplit with ⟨tail, hL⟩ | ⟨rfl, rfl⟩
    · exact Or.inl ⟨before, r', tail, e, hL, hgives⟩
    · exact Or.inr ⟨e, hgives⟩
  · intro h
    rcases h with ⟨before, r', after, e, hL, hgives⟩ | ⟨e, hgives⟩
    · exact ⟨before, r', after ++ [r], e, by simp [hL], hgives⟩
    · exact ⟨L, r, [], e, rfl, hgives⟩

theorem reachedAs_snoc :
    ReachedAs s p (L ++ [r]) g e ↔
      ReachedAs s p L g e ∨ (¬ Reached s p L g ∧ Gives s p L r g e) := by
  refine ⟨?_, ?_⟩
  · intro h
    obtain ⟨before, r', after, hsplit, hgives, hfirst⟩ := h
    rcases snoc_eq_split hsplit with ⟨tail, hL⟩ | ⟨rfl, rfl⟩
    · exact Or.inl ⟨before, r', tail, hL, hgives, hfirst⟩
    · exact Or.inr ⟨hfirst, hgives⟩
  · intro h
    rcases h with ⟨before, r', after, hL, hgives, hfirst⟩ | ⟨hfirst, hgives⟩
    · exact ⟨before, r', after ++ [r], by simp [hL], hgives, hfirst⟩
    · exact ⟨L, r, [], rfl, hgives, hfirst⟩

theorem not_reached_nil : ¬ Reached s p [] g := by
  intro h
  obtain ⟨before, r, after, e, hsplit, -⟩ := h
  simp at hsplit

theorem not_reachedAs_nil : ¬ ReachedAs s p [] g e := by
  intro h
  obtain ⟨before, r, after, hsplit, -⟩ := h
  simp at hsplit

/-- The entries of the pool after the guids `seen` were marked. -/
def marked (seen : List UInt64) (g : UInt64) (info : EntityInfo Entity) : EntityInfo Entity :=
  if g ∈ seen then { info with isFlushing := true } else info

/-- **The state of the walk** that has gone through the references `L`. -/
structure Walked (s : PoolImp Entity) (p : UInt64) (L : List Ref)
    (w : PoolImp Entity × EntityGuidMap) : Prop where
  frame : w.1 = { s with entityMap := w.1.entityMap }
  entry : ∀ g, w.1.entityMap[g]? = (s.entityMap[g]?).map (marked (p :: L.map (·.guid)) g)
  reached : ∀ g, g ∈ w.2 ↔ Reached s p L g
  reachedAs : ∀ g e, w.2[g]? = some e ↔ ReachedAs s p L g e

theorem getWhileFlush_entry (s : PoolImp Entity) (k g : UInt64) :
    (s.getWhileFlush k).1.entityMap[g]? = (s.entityMap[g]?).map (marked [k] g) := by
  unfold PoolImp.getWhileFlush
  rcases hk : s.entityMap[k]? with _ | info
  · -- nothing is marked
    by_cases hg : g = k
    · subst hg
      simp [hk]
    · have hid : marked [k] g = id := by
        funext info
        simp [marked, hg]
      simp [hid]
  · by_cases hg : g = k
    · subst hg
      by_cases hfl : info.isFlushing
      · have hsame : { info with isFlushing := true } = info := by
          rw [← hfl]
        simp [hk, hfl, marked, hsame]
      · simp [hk, hfl, marked]
    · have hid : marked [k] g = id := by
        funext info
        simp [marked, hg]
      have hne : ¬ k = g := fun h => hg h.symm
      by_cases hfl : info.isFlushing
      · simp [hfl, hid]
      · simp [hfl, hid, TreeMap.getElem?_insert, hne]

theorem getWhileFlush_message (s : PoolImp Entity) (k : UInt64) :
    (s.getWhileFlush k).2 = s.get k := by
  unfold PoolImp.getWhileFlush PoolImp.get
  rcases s.entityMap[k]? with _ | info
  · rfl
  · by_cases hfl : info.isFlushing <;> simp [hfl]

private theorem getWhileFlush_frame (s : PoolImp Entity) (k : UInt64) :
    (s.getWhileFlush k).1 = { s with entityMap := (s.getWhileFlush k).1.entityMap } := by
  unfold PoolImp.getWhileFlush
  split
  · split <;> rfl
  · rfl

private theorem marked_marked (k : UInt64) (seen : List UInt64) (g : UInt64)
    (info : EntityInfo Entity) :
    marked [k] g (marked seen g info) = marked (k :: seen) g info := by
  by_cases hk : g = k
  · subst hk
    by_cases hs : g ∈ seen <;> simp [marked, hs]
  · simp [marked, hk]

private theorem marked_perm {seen seen' : List UInt64} (h : ∀ g, g ∈ seen ↔ g ∈ seen')
    (g : UInt64) : (marked seen g : EntityInfo Entity → EntityInfo Entity) = marked seen' g := by
  funext info
  simp [marked, h g]

namespace Walked

variable {w : PoolImp Entity × EntityGuidMap}

/-- What the pool returns for a guid in the middle of the walk. -/
theorem get (h : Walked s p L w) (k : UInt64) :
    w.1.get k = if k ∈ p :: L.map (·.guid) then none else s.get k := by
  unfold PoolImp.get
  rw [h.entry k]
  rcases s.entityMap[k]? with _ | info
  · simp
  · by_cases hk : k ∈ p :: L.map (·.guid)
    · rw [if_pos hk]
      simp only [Option.map_some, marked, if_pos hk, if_true]
    · rw [if_neg hk]
      simp only [Option.map_some, marked, if_neg hk]

/-- What the walk takes is what the reference opens. -/
theorem take_snd (h : Walked s p L w) (r : Ref) :
    (take true w r).2 = opens s (p :: L.map (·.guid)) r := by
  have hmsg : (getEntity true w.1 r.guid).2
      = if r.guid ∈ p :: L.map (·.guid) then none else s.get r.guid := by
    rw [← h.get]
    exact getWhileFlush_message w.1 r.guid
  unfold take opens
  simp only [hmsg]
  by_cases hseen : r.guid ∈ p :: L.map (·.guid)
  · simp only [hseen, if_true]
  · simp only [hseen, if_false]
    rcases s.get r.guid with _ | e
    · rfl
    · by_cases hkind : e.body.kind = r.kind <;> simp [hkind, Option.filter_some]

/-- The pool after one reference, whether or not it takes anything. -/
private theorem take_pool (w : PoolImp Entity × EntityGuidMap) (r : Ref) :
    (take true w r).1.1 = (w.1.getWhileFlush r.guid).1 := by
  unfold take getEntity
  simp only [if_true]
  split
  · rfl
  · split <;> rfl

/-- The map after one reference. -/
private theorem take_map (w : PoolImp Entity × EntityGuidMap) (r : Ref) :
    (take true w r).1.2 = match (take true w r).2 with
      | none => w.2
      | some e => w.2.insertIfNew (r.key e) e := by
  unfold take
  rcases getEntity true w.1 r.guid with ⟨s', _ | e⟩
  · rfl
  · by_cases hkind : e.body.kind = r.kind <;> simp [hkind]

/-- **One reference** of the walk. -/
theorem take_snoc (h : Walked s p L w) (r : Ref) : Walked s p (L ++ [r]) (take true w r).1 where
  frame := by
    rw [take_pool, getWhileFlush_frame, h.frame]
  entry := by
    intro g
    rw [take_pool, getWhileFlush_entry, h.entry, Option.map_map]
    congr 1
    funext info
    rw [Function.comp_apply, marked_marked]
    refine congrFun (marked_perm ?_ g) info
    intro g'
    simp only [List.map_append, List.map_cons, List.map_nil, List.mem_cons, List.mem_append]
    tauto
  reached := by
    intro g
    rw [reached_snoc, ← h.reached, take_map, h.take_snd]
    unfold Gives
    rcases ho : opens s (p :: L.map (·.guid)) r with _ | e
    · simp [ho]
    · simp only [ho, TreeMap.mem_insertIfNew, Std.LawfulEqCmp.compare_eq_iff_eq, Option.some.injEq]
      refine ⟨?_, ?_⟩
      · intro h'
        rcases h' with hkey | hmem
        · exact Or.inr ⟨e, rfl, hkey⟩
        · exact Or.inl hmem
      · intro h'
        rcases h' with hmem | ⟨e', rfl, hkey⟩
        · exact Or.inr hmem
        · exact Or.inl hkey
  reachedAs := by
    intro g e'
    rw [reachedAs_snoc, ← h.reachedAs, ← h.reached, take_map, h.take_snd]
    unfold Gives
    rcases ho : opens s (p :: L.map (·.guid)) r with _ | e
    · simp [ho]
    · simp only [ho, TreeMap.getElem?_insertIfNew, Std.LawfulEqCmp.compare_eq_iff_eq,
        Option.some.injEq]
      by_cases hnew : r.key e = g ∧ r.key e ∉ w.2
      · obtain ⟨hkey, hnot⟩ := hnew
        rw [hkey] at hnot
        have hnone : w.2[g]? = none := by simpa using hnot
        simp only [hkey, hnot, not_false_eq_true, and_self, if_true, hnone, true_and, reduceCtorEq,
          false_or, Option.some.injEq]
        refine ⟨fun h' => ⟨h', h' ▸ hkey⟩, fun h' => h'.1⟩
      · rw [if_neg hnew]
        refine ⟨Or.inl, ?_⟩
        intro h'
        rcases h' with hold | ⟨hnot, rfl, hkey⟩
        · exact hold
        · rw [← hkey] at hnot
          exact absurd ⟨hkey, hnot⟩ hnew

/-- The references of one entity. -/
theorem take_all (h : Walked s p L w) (refs : List Ref) :
    Walked s p (L ++ refs) (refs.foldl (fun w r => (take true w r).1) w) := by
  induction refs generalizing L w with
  | nil => simpa using h
  | cons r rs ih =>
      have hstep := ih (h.take_snoc r)
      simpa using hstep

/-- A reference of the player with what follows it. -/
theorem walk_snoc (h : Walked s p L w) (r : Ref) :
    Walked s p (L ++ r :: ((opens s (p :: L.map (·.guid)) r).map Entity.refs).getD [])
      (walk true w r) := by
  have hone := h.take_snoc r
  have hmsg := h.take_snd r
  unfold walk
  rcases ht : take true w r with ⟨w', _ | e⟩
  · rw [ht] at hone hmsg
    rw [← hmsg]
    exact hone
  · rw [ht] at hone hmsg
    rw [← hmsg]
    have hall := hone.take_all e.refs
    simpa using hall

theorem walk_all (h : Walked s p L w) (refs : List Ref) :
    Walked s p
      (refs.foldl (fun before r =>
        before ++ r :: ((opens s (p :: before.map (·.guid)) r).map Entity.refs).getD []) L)
      (refs.foldl (walk true) w) := by
  induction refs generalizing L w with
  | nil => exact h
  | cons r rs ih => exact ih (h.walk_snoc r)

/-- Before the first reference only the player itself is marked. -/
theorem start (s : PoolImp Entity) (p : UInt64) : Walked s p [] ((s.getWhileFlush p).1, {}) where
  frame := getWhileFlush_frame s p
  entry := getWhileFlush_entry s p
  reached g := by
    refine ⟨fun h => absurd h (by simp), fun h => absurd h not_reached_nil⟩
  reachedAs g e := by
    refine ⟨fun h => absurd h (by simp), fun h => absurd h not_reachedAs_nil⟩

end Walked

/-- **The walk over a player** goes through its references. -/
theorem getPlayerEntityMap_walked {player : Entity} {fields : PlayerEntity}
    (hget : s.get p = some player) (hplayer : player.asPlayer = some fields) :
    Walked s p (references s p fields) (getPlayerEntityMap s p true) := by
  have hmsg := getWhileFlush_message s p
  have hstart := Walked.start s p
  unfold getPlayerEntityMap getEntity
  simp only [if_true, hmsg, hget, Option.bind_some, hplayer]
  exact hstart.walk_all fields.refs

/-! ## §5. The requests of a flush. -/

variable {isUpdating : Bool} {acc : List (Request Entity) × EntityGuidMap} {req : Request Entity}

/-- The request made for an entity that is to be inserted. -/
def addRequest (isUpdating : Bool) (playerGuid guid : UInt64) (e : Entity) : Request Entity :=
  { requestType := if isUpdating then .add else .addWithFlush, guid, message := some e,
    ownerGuid := playerGuid }

/-- The loop over `insert_entity_set` takes each guid out of the map. -/
theorem insertRequests_map (guids : List UInt64) :
    (guids.foldl (insertRequest isUpdating p) acc).2[g]?
      = if g ∈ guids then none else acc.2[g]? := by
  induction guids generalizing acc with
  | nil => simp
  | cons k ks ih =>
      rw [List.foldl_cons, ih]
      unfold insertRequest
      rcases hk : acc.2[k]? with _ | e
      · by_cases hg : g = k
        · subst hg
          simp [hk]
        · simp [hg]
      · by_cases hg : g = k
        · subst hg
          simp
        · have hne : ¬ k = g := fun h => hg h.symm
          simp [hg, TreeMap.getElem?_erase, hne]

/-- The requests of the loop over `insert_entity_set`. -/
theorem mem_insertRequests (guids : List UInt64) :
    req ∈ (guids.foldl (insertRequest isUpdating p) acc).1 ↔
      req ∈ acc.1 ∨ ∃ g ∈ guids, ∃ e, acc.2[g]? = some e ∧ req = addRequest isUpdating p g e := by
  induction guids generalizing acc with
  | nil => simp
  | cons k ks ih =>
      rw [List.foldl_cons, ih]
      unfold insertRequest
      rcases hk : acc.2[k]? with _ | e
      · simp [hk]
      · refine ⟨?_, ?_⟩
        · intro h
          rcases h with hacc | ⟨g, hg, e', he', rfl⟩
          · rcases List.mem_append.mp hacc with hold | hnew
            · exact Or.inl hold
            · refine Or.inr ⟨k, by simp, e, hk, ?_⟩
              simpa [addRequest] using hnew
          · refine Or.inr ⟨g, by simp [hg], e', ?_, rfl⟩
            rw [TreeMap.getElem?_erase] at he'
            split at he'
            · exact absurd he' (by simp)
            · exact he'
        · intro h
          rcases h with hold | ⟨g, hg, e', he', rfl⟩
          · exact Or.inl (List.mem_append_left _ hold)
          · by_cases hgk : g = k
            · subst hgk
              rw [hk] at he'
              obtain rfl := Option.some.inj he'
              exact Or.inl (List.mem_append_right _ (by simp [addRequest]))
            · have hne : ¬ k = g := fun h => hgk h.symm
              refine Or.inr ⟨g, (List.mem_cons.mp hg).resolve_left hgk, e', ?_, rfl⟩
              simpa [TreeMap.getElem?_erase, hne] using he'

/-- **The requests of a flush.** -/
theorem mem_flushRequests {player : Entity} {insertSet removeSet : TreeSet UInt64}
    {entityGuidMap : EntityGuidMap} :
    req ∈ flushRequests isUpdating p player insertSet removeSet entityGuidMap ↔
      (∃ g ∈ insertSet, ∃ e, entityGuidMap[g]? = some e ∧ req = addRequest isUpdating p g e) ∨
      (∃ g ∈ removeSet, req = removeRequest p g) ∨
      (∃ g e, g ∉ insertSet ∧ entityGuidMap[g]? = some e ∧
        req = writeRequest isUpdating p (g, e)) ∨
      req = { requestType := .update, guid := p, message := some player, ownerGuid := p } := by
  unfold flushRequests
  simp only [List.mem_append, mem_insertRequests, List.mem_map, List.mem_singleton,
    List.not_mem_nil, false_or, TreeSet.mem_toList, or_assoc]
  refine or_congr Iff.rfl (or_congr ?_ (or_congr ?_ Iff.rfl))
  · refine exists_congr fun g => and_congr Iff.rfl ⟨Eq.symm, Eq.symm⟩
  · refine ⟨?_, ?_⟩
    · intro h
      obtain ⟨⟨g, e⟩, hmem, rfl⟩ := h
      rw [TreeMap.mem_toList_iff_getElem?_eq_some, insertRequests_map] at hmem
      split at hmem
      · exact absurd hmem (by simp)
      · rename_i hg
        exact ⟨g, e, by simpa using hg, hmem, rfl⟩
    · intro h
      obtain ⟨g, e, hg, he, rfl⟩ := h
      refine ⟨(g, e), ?_, rfl⟩
      rw [TreeMap.mem_toList_iff_getElem?_eq_some, insertRequests_map]
      simpa [hg] using he

/-! ## §6. What is handed over. -/

/-- The operations that are pending for an owner. -/
def pendingOf (s : PoolImp Entity) (owner : UInt64) : List DbEntityInfo :=
  ((s.dbEntityMap[owner]?).map (fun dbEntityMap => dbEntityMap.toList.map (·.2))).getD []

/-- The message of an entity that is in the pool under the owner. -/
def messageOf (s : PoolImp Entity) (owner guid : UInt64) : Option Entity :=
  (s.entityMap[guid]?).bind (fun info => if info.ownerGuid = owner then info.message else none)

/-- The requests that write a new entity. -/
def isAdd (rt : RequestType) : Bool :=
  rt = .add ∨ rt = .addWithFlush

/-- The requests that write the entity's message. -/
def isWrite (rt : RequestType) : Bool :=
  isAdd rt ∨ rt = .update ∨ rt = .flush

/-- **Every pending change is handed over**: a request list has an add-type
request for every pending ADD, a request with the current message for every
pending UPDATE, and a delete request for every pending REMOVE. -/
structure HandsOver (s : PoolImp Entity) (p : UInt64) (requests : List (Request Entity)) :
    Prop where
  add : ∀ info ∈ pendingOf s p, info.opType = .add → (messageOf s p info.guid).isSome →
    ∃ r ∈ requests, r.guid = info.guid ∧ isAdd r.requestType
  update : ∀ info ∈ pendingOf s p, info.opType = .update →
    ∀ m, messageOf s p info.guid = some m →
      ∃ r ∈ requests, r.guid = info.guid ∧ isWrite r.requestType ∧ r.message = some m
  remove : ∀ info ∈ pendingOf s p, info.opType = .remove →
    ∃ r ∈ requests, r.guid = info.guid ∧ r.requestType = .delete

/-- **The references reach what is pending**: every entity with a pending ADD,
and every entity but the player itself with a pending UPDATE, is taken by the
first reference to it. -/
structure PendingReached (s : PoolImp Entity) (p : UInt64) (player : PlayerEntity) : Prop where
  add : ∀ info ∈ pendingOf s p, info.opType = .add → (messageOf s p info.guid).isSome →
    Reached s p (references s p player) info.guid
  update : ∀ info ∈ pendingOf s p, info.opType = .update →
    ∀ m, messageOf s p info.guid = some m →
      info.guid = p ∨ ReachedAs s p (references s p player) info.guid m

/-- What `clearUpdateEntity` returns. -/
private theorem clearUpdateEntity_sets (s : PoolImp Entity) (p : UInt64) :
    (s.clearUpdateEntity p).2.1 = ((pendingOf s p).filter (·.opType == .add)).map (·.guid) ∧
    (s.clearUpdateEntity p).2.2 = ((pendingOf s p).filter (·.opType == .remove)).map (·.guid) := by
  unfold PoolImp.clearUpdateEntity pendingOf
  rcases s.dbEntityMap[p]? with _ | m
  · exact ⟨rfl, rfl⟩
  · exact ⟨rfl, rfl⟩

theorem clearUpdateEntity_entityMap (s : PoolImp Entity) (p : UInt64) :
    (s.clearUpdateEntity p).1.entityMap = s.entityMap ∧
    (s.clearUpdateEntity p).1.requestInfoVec = s.requestInfoVec := by
  unfold PoolImp.clearUpdateEntity
  split <;> exact ⟨rfl, rfl⟩

theorem mem_pendingSet {l : List DbEntityInfo} {t : EntityOpType} :
    g ∈ TreeSet.ofList ((l.filter (·.opType == t)).map (·.guid)) ↔
      ∃ info ∈ l, info.opType = t ∧ info.guid = g := by
  rw [TreeSet.mem_ofList, List.contains_iff_mem, List.mem_map]
  refine exists_congr fun info => ?_
  simp [List.mem_filter, and_assoc]

/-- The references depend on the entities in the pool only. -/
theorem references_congr {s₁ s₂ : PoolImp Entity} (h : s₁.entityMap = s₂.entityMap)
    (fields : PlayerEntity) : references s₁ p fields = references s₂ p fields ∧
      ∀ L g, (Reached s₁ p L g ↔ Reached s₂ p L g) ∧
        ∀ e, ReachedAs s₁ p L g e ↔ ReachedAs s₂ p L g e := by
  have hopens : opens s₁ = opens s₂ := by
    funext seen r
    unfold opens PoolImp.get
    rw [h]
  refine ⟨?_, ?_⟩
  · unfold references
    rw [hopens]
  · intro L g
    unfold ReachedAs Reached Gives
    rw [hopens]
    exact ⟨Iff.rfl, fun e => Iff.rfl⟩

/-- The pool when the walk starts, with what was pending. -/
def cleared (s : PoolImp Entity) (p : UInt64) : PoolImp Entity × List UInt64 × List UInt64 :=
  PoolImp.clearUpdateEntity { s with requestId := s.requestId + 1 } p

/-- The vector of requests that a flush commits. -/
def flushVec (s : PoolImp Entity) (p : UInt64) (isUpdating : Bool) (player : Entity) :
    List (Request Entity) :=
  flushRequests isUpdating p player (TreeSet.ofList (cleared s p).2.1)
    (TreeSet.ofList (cleared s p).2.2) (getPlayerEntityMap (cleared s p).1 p true).2

theorem requestFlushPlayer_eq {player : Entity} {fields : PlayerEntity}
    (hget : s.get p = some player) (hplayer : player.asPlayer = some fields) :
    requestFlushPlayer s p isUpdating =
      (getPlayerEntityMap (cleared s p).1 p true).1.commit
        { requestId := (getPlayerEntityMap (cleared s p).1 p true).1.requestId
          requestVec := flushVec s p isUpdating player } .plugin := by
  have hsome : player.asPlayer.isNone = false := by
    simp [hplayer]
  unfold requestFlushPlayer
  simp only [hget, hsome]
  rfl

/-- What the walk of a flush collects. -/
theorem cleared_walked {player : Entity} {fields : PlayerEntity}
    (hget : s.get p = some player) (hplayer : player.asPlayer = some fields) :
    (getPlayerEntityMap (cleared s p).1 p true).1.requestInfoVec = s.requestInfoVec ∧
    (∀ g, g ∈ (getPlayerEntityMap (cleared s p).1 p true).2 ↔
      Reached s p (references s p fields) g) ∧
    ∀ g e, (getPlayerEntityMap (cleared s p).1 p true).2[g]? = some e ↔
      ReachedAs s p (references s p fields) g e := by
  have hmap := clearUpdateEntity_entityMap { s with requestId := s.requestId + 1 } p
  have hem : (cleared s p).1.entityMap = s.entityMap := hmap.1
  have hrefs := references_congr (p := p) hem fields
  have hget' : (cleared s p).1.get p = some player := by
    unfold PoolImp.get at hget ⊢
    rw [hem]
    exact hget
  have hwalk := getPlayerEntityMap_walked hget' hplayer
  refine ⟨?_, ?_, ?_⟩
  · rw [hwalk.frame]
    exact hmap.2
  · intro g
    rw [hwalk.reached g, hrefs.1]
    exact (hrefs.2 _ g).1
  · intro g e
    rw [hwalk.reachedAs g e, hrefs.1]
    exact (hrefs.2 _ g).2 e

/-- **The list a flush commits**, in terms of the references. -/
theorem mem_flushVec {player : Entity} {fields : PlayerEntity}
    (hget : s.get p = some player) (hplayer : player.asPlayer = some fields) :
    req ∈ flushVec s p isUpdating player ↔
      (∃ info ∈ pendingOf s p, info.opType = .add ∧
        ∃ e, ReachedAs s p (references s p fields) info.guid e ∧
          req = addRequest isUpdating p info.guid e) ∨
      (∃ info ∈ pendingOf s p, info.opType = .remove ∧ req = removeRequest p info.guid) ∨
      (∃ g e, (∀ info ∈ pendingOf s p, info.opType = .add → info.guid ≠ g) ∧
        ReachedAs s p (references s p fields) g e ∧ req = writeRequest isUpdating p (g, e)) ∨
      req = { requestType := .update, guid := p, message := some player, ownerGuid := p } := by
  have hsets := clearUpdateEntity_sets { s with requestId := s.requestId + 1 } p
  have hlookup := (cleared_walked hget hplayer).2.2
  have hins : ∀ g, g ∈ TreeSet.ofList (cleared s p).2.1 ↔
      ∃ info ∈ pendingOf s p, info.opType = .add ∧ info.guid = g := by
    intro g
    rw [cleared, hsets.1, mem_pendingSet]
    rfl
  have hrem : ∀ g, g ∈ TreeSet.ofList (cleared s p).2.2 ↔
      ∃ info ∈ pendingOf s p, info.opType = .remove ∧ info.guid = g := by
    intro g
    rw [cleared, hsets.2, mem_pendingSet]
    rfl
  unfold flushVec
  rw [mem_flushRequests]
  refine or_congr ?_ (or_congr ?_ (or_congr ?_ Iff.rfl))
  · simp only [hins, hlookup]
    refine ⟨?_, ?_⟩
    · intro h
      obtain ⟨g, ⟨info, hinfo, hop, rfl⟩, e, he, rfl⟩ := h
      exact ⟨info, hinfo, hop, e, he, rfl⟩
    · intro h
      obtain ⟨info, hinfo, hop, e, he, rfl⟩ := h
      exact ⟨info.guid, ⟨info, hinfo, hop, rfl⟩, e, he, rfl⟩
  · simp only [hrem]
    refine ⟨?_, ?_⟩
    · intro h
      obtain ⟨g, ⟨info, hinfo, hop, rfl⟩, rfl⟩ := h
      exact ⟨info, hinfo, hop, rfl⟩
    · intro h
      obtain ⟨info, hinfo, hop, rfl⟩ := h
      exact ⟨info.guid, ⟨info, hinfo, hop, rfl⟩, rfl⟩
  · refine exists_congr fun g => exists_congr fun e => ?_
    rw [hins, hlookup]
    simp only [not_exists, not_and, ne_eq]

/-! ## §7. Pending changes survive a flush exactly if the walk reaches them. -/

theorem reached_of_reachedAs (h : ReachedAs s p L g e) : Reached s p L g := by
  obtain ⟨before, r, after, hL, hgives, -⟩ := h
  exact ⟨before, r, after, e, hL, hgives⟩

/-- The player's own message is the current one. -/
private theorem messageOf_self {player m : Entity} (hget : s.get p = some player)
    (hm : messageOf s p p = some m) : player = m := by
  unfold PoolImp.get at hget
  unfold messageOf at hm
  rcases hp : s.entityMap[p]? with _ | info
  · simp [hp] at hget
  · simp only [hp, Option.bind_some] at hget hm
    split at hget
    · exact absurd hget (by simp)
    · split at hm
      · rw [hget] at hm
        exact Option.some.inj hm
      · exact absurd hm (by simp)

/-- An entity that is reached is collected under its guid. -/
private theorem exists_reachedAs {player : Entity} {fields : PlayerEntity}
    (hget : s.get p = some player) (hplayer : player.asPlayer = some fields)
    (h : Reached s p (references s p fields) g) :
    ∃ e, ReachedAs s p (references s p fields) g e := by
  have hwalk := cleared_walked hget hplayer
  have hmem := (hwalk.2.1 g).mpr h
  refine ⟨(getPlayerEntityMap (cleared s p).1 p true).2[g], ?_⟩
  exact (hwalk.2.2 g _).mp (TreeMap.getElem?_eq_some_getElem hmem)

/-- If the references reach what is pending, the list hands it over. -/
private theorem handsOver_of_reached {player : Entity} {fields : PlayerEntity}
    (hget : s.get p = some player) (hplayer : player.asPlayer = some fields)
    (h : PendingReached s p fields) : HandsOver s p (flushVec s p isUpdating player) where
  add := by
    intro info hinfo hop hm
    obtain ⟨e, he⟩ := exists_reachedAs hget hplayer (h.add info hinfo hop hm)
    refine ⟨addRequest isUpdating p info.guid e, ?_, rfl, ?_⟩
    · rw [mem_flushVec hget hplayer]
      exact Or.inl ⟨info, hinfo, hop, e, he, rfl⟩
    · cases isUpdating <;> rfl
  update := by
    intro info hinfo hop m hm
    rcases h.update info hinfo hop m hm with hself | hreached
    · -- the player's own request carries its message
      rw [hself] at hm
      obtain rfl := messageOf_self hget hm
      refine ⟨_, (mem_flushVec hget hplayer).mpr (Or.inr (Or.inr (Or.inr rfl))), hself.symm,
        rfl, rfl⟩
    · by_cases hins : ∃ info' ∈ pendingOf s p, info'.opType = .add ∧ info'.guid = info.guid
      · obtain ⟨info', hinfo', hadd, hguid⟩ := hins
        refine ⟨addRequest isUpdating p info'.guid m, ?_, hguid, ?_, rfl⟩
        · rw [mem_flushVec hget hplayer]
          rw [← hguid] at hreached
          exact Or.inl ⟨info', hinfo', hadd, m, hreached, rfl⟩
        · cases isUpdating <;> rfl
      · refine ⟨writeRequest isUpdating p (info.guid, m), ?_, rfl, ?_, rfl⟩
        · rw [mem_flushVec hget hplayer]
          refine Or.inr (Or.inr (Or.inl ⟨info.guid, m, ?_, hreached, rfl⟩))
          intro info' hinfo' hadd hguid
          exact hins ⟨info', hinfo', hadd, hguid⟩
        · cases isUpdating <;> rfl
  remove := by
    intro info hinfo hop
    refine ⟨removeRequest p info.guid, ?_, rfl, rfl⟩
    rw [mem_flushVec hget hplayer]
    exact Or.inr (Or.inl ⟨info, hinfo, hop, rfl⟩)

/-- Every request of a flush that writes comes from a reference or is the
player's own. -/
private theorem reached_of_mem {player : Entity} {fields : PlayerEntity}
    (hget : s.get p = some player) (hplayer : player.asPlayer = some fields)
    (hreq : req ∈ flushVec s p isUpdating player) (hwrite : isWrite req.requestType) :
    (∃ e, req.message = some e ∧ ReachedAs s p (references s p fields) req.guid e) ∨
    (req.guid = p ∧ ¬ isAdd req.requestType) := by
  rw [mem_flushVec hget hplayer] at hreq
  rcases hreq with ⟨info, -, -, e, he, rfl⟩ | ⟨info, -, -, rfl⟩ | ⟨g, e, -, he, rfl⟩ | rfl
  · exact Or.inl ⟨e, rfl, he⟩
  · exact absurd hwrite (by simp [removeRequest, isWrite, isAdd])
  · exact Or.inl ⟨e, rfl, he⟩
  · exact Or.inr ⟨rfl, by simp [isAdd]⟩

/-- If the list hands over what is pending, the references reach it. -/
private theorem reached_of_handsOver {player : Entity} {fields : PlayerEntity}
    (hget : s.get p = some player) (hplayer : player.asPlayer = some fields)
    (h : HandsOver s p (flushVec s p isUpdating player)) : PendingReached s p fields where
  add := by
    intro info hinfo hop hm
    obtain ⟨r, hr, hguid, hadd⟩ := h.add info hinfo hop hm
    have hwrite : isWrite r.requestType := by
      simp [isWrite, hadd]
    rcases reached_of_mem hget hplayer hr hwrite with ⟨e, -, he⟩ | ⟨-, hnot⟩
    · rw [hguid] at he
      exact reached_of_reachedAs he
    · exact absurd hadd hnot
  update := by
    intro info hinfo hop m hm
    obtain ⟨r, hr, hguid, hwrite, hmsg⟩ := h.update info hinfo hop m hm
    rcases reached_of_mem hget hplayer hr hwrite with ⟨e, he, hreached⟩ | ⟨hself, -⟩
    · rw [hmsg] at he
      obtain rfl := Option.some.inj he
      rw [hguid] at hreached
      exact Or.inr hreached
    · exact Or.inl (hguid.symm.trans hself)

/-- **A flush hands over every pending change** of a loaded player exactly if
its references reach every entity with a pending ADD or UPDATE. -/
theorem requestFlushPlayer_handsOver_iff (s : PoolImp Entity) (p : UInt64) (isUpdating : Bool)
    (player : Entity) (fields : PlayerEntity) (hget : s.get p = some player)
    (hplayer : player.asPlayer = some fields) :
    (∃ ri, (requestFlushPlayer s p isUpdating).requestInfoVec = s.requestInfoVec ++ [ri] ∧
      HandsOver s p ri.requestList.requestVec) ↔ PendingReached s p fields := by
  have hvec : (requestFlushPlayer s p isUpdating).requestInfoVec = s.requestInfoVec ++
      [{ requestList :=
          { requestId := (getPlayerEntityMap (cleared s p).1 p true).1.requestId
            requestVec := flushVec s p isUpdating player }
         callBack := .plugin }] := by
    rw [requestFlushPlayer_eq hget hplayer, ← (cleared_walked hget hplayer).1]
    rfl
  refine ⟨?_, ?_⟩
  · intro h
    obtain ⟨ri, hri, hover⟩ := h
    rw [hvec] at hri
    have heq := List.append_cancel_left hri
    obtain rfl := (List.cons.inj heq).1
    exact reached_of_handsOver hget hplayer hover
  · intro h
    exact ⟨_, hvec, handsOver_of_reached hget hplayer h⟩

/-- A player with a form and a coin. -/
def samplePlayer : Entity :=
  { guid := 0x0100000000000001
    body := .player { form := 0x0300000000000001, coinGuid := 0x4400000000000001 } }

/-- An entity of the player of the runs. -/
def sampleForm : Entity := { guid := 0x0300000000000001, body := .other .form, data := [7] }

/-- The `Coin` of the player of the runs. -/
def sampleCoin : Entity :=
  { guid := 0x4400000000000001, body := .coin { player := samplePlayer.guid, coin := 100 } }

/-- Player, form and coin are in the pool; `guid` is then marked for update. -/
def samplePool (guid : UInt64) : PoolImp Entity :=
  let p := samplePlayer.guid
  let s : PoolImp Entity := { cfg := { lineId := 1, isLineScene := false } }
  let s := (s.add p (some samplePlayer) false p).1
  let s := (s.add sampleForm.guid (some sampleForm) false p).1
  let s := (s.add sampleCoin.guid (some sampleCoin) false p).1
  (s.updateGuid guid).1

/-- A changed form is handed over by the flush. -/
theorem requestFlushPlayer_handsOver_form :
    ∃ ri, (requestFlushPlayer (samplePool sampleForm.guid) samplePlayer.guid
        false).requestInfoVec = (samplePool sampleForm.guid).requestInfoVec ++ [ri] ∧
      HandsOver (samplePool sampleForm.guid) samplePlayer.guid ri.requestList.requestVec := by
  refine (requestFlushPlayer_handsOver_iff _ _ _ samplePlayer
    { form := sampleForm.guid, coinGuid := sampleCoin.guid } (by decide +kernel) rfl).mpr ?_
  have hpending : ∀ info ∈ pendingOf (samplePool sampleForm.guid) samplePlayer.guid,
      info.opType = .update ∧ info.guid = sampleForm.guid := by
    decide +kernel
  refine ⟨?_, ?_⟩
  · intro info hinfo hop
    rw [(hpending info hinfo).1] at hop
    exact absurd hop (by decide)
  · intro info hinfo _ m hm
    rw [(hpending info hinfo).2] at hm ⊢
    have hform : messageOf (samplePool sampleForm.guid) samplePlayer.guid sampleForm.guid
        = some sampleForm := by
      decide +kernel
    rw [hform] at hm
    obtain rfl := Option.some.inj hm
    right
    -- the form is the second field the walk reads
    refine ⟨[field .stage 0], owned .form sampleForm.guid,
      List.drop 2 (references (samplePool sampleForm.guid) samplePlayer.guid
        { form := sampleForm.guid, coinGuid := sampleCoin.guid }), ?_, ?_, ?_⟩
    · decide +kernel
    · exact ⟨by decide +kernel, by decide⟩
    · intro hreached
      rw [show [field .stage 0] = [] ++ [field .stage 0] from rfl, reached_snoc] at hreached
      rcases hreached with hnil | ⟨e, hgives⟩
      · exact not_reached_nil hnil
      · have hnone : opens (samplePool sampleForm.guid) [samplePlayer.guid] (field .stage 0)
            = none := by
          decide +kernel
        have hsome := hgives.1
        rw [show samplePlayer.guid :: ([] : List Ref).map (·.guid) = [samplePlayer.guid] from rfl,
          hnone] at hsome
        exact absurd hsome (by simp)

/-- **A changed coin is not**: no field that the walk reads refers to it. -/
theorem requestFlushPlayer_drops_coin :
    (samplePool sampleCoin.guid).get samplePlayer.guid = some samplePlayer ∧
    ¬ ∃ ri, (requestFlushPlayer (samplePool sampleCoin.guid) samplePlayer.guid
        false).requestInfoVec = (samplePool sampleCoin.guid).requestInfoVec ++ [ri] ∧
      HandsOver (samplePool sampleCoin.guid) samplePlayer.guid ri.requestList.requestVec := by
  refine ⟨by decide +kernel, ?_⟩
  intro h
  obtain ⟨ri, hri, hover⟩ := h
  have hnot : ∀ ri ∈ (requestFlushPlayer (samplePool sampleCoin.guid) samplePlayer.guid
      false).requestInfoVec, ∀ r ∈ ri.requestList.requestVec, r.guid ≠ sampleCoin.guid := by
    decide +kernel
  have hpending : ∃ info ∈ pendingOf (samplePool sampleCoin.guid) samplePlayer.guid,
      info.opType = .update ∧ info.guid = sampleCoin.guid ∧
      messageOf (samplePool sampleCoin.guid) samplePlayer.guid info.guid = some sampleCoin := by
    decide +kernel
  obtain ⟨info, hinfo, hop, hguid, hm⟩ := hpending
  obtain ⟨r, hr, hrguid, -⟩ := hover.update info hinfo hop sampleCoin hm
  refine hnot ri ?_ r hr (hrguid.trans hguid)
  rw [hri]
  exact List.mem_append_right _ (by simp)

end Steppingstone.Player
