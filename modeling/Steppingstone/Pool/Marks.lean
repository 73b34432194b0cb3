/-
  Steppingstone.Pool.Marks — which entities are in the pool, which of them are marked as removed,
  and under which owner.

  `remove` takes an entity out, or marks it while its ADD is pending; the marked one leaves with a
  reply to a request for it.  Apart from `add` and `remove` no step brings an entity, changes its
  owner or marks it, and only marked ones go.
-/
import Steppingstone.Lib.Lookup
import Steppingstone.Pool.Batch

namespace Steppingstone.Pool

open Std (TreeMap TreeSet)
open NestedMap

variable {μ : Type}

/-! ## §1. Marks. -/

/-- An entity whose removal waits for its ADD. -/
def EntityInfo.marked (info : EntityInfo μ) (msg : Bool) : EntityInfo μ :=
  { info with message := if msg then info.message else none, isRemoveFromMemory := true }

namespace PoolImp

variable (s : PoolImp μ)

/-- Is there an entity under the guid, and is it marked as removed? -/
def mark (g : UInt64) : Option Bool :=
  (s.entityMap[g]?).map (·.isRemoveFromMemory)

/-- No mark, no entity. -/
theorem mark_eq_none {g : UInt64} : s.mark g = none ↔ s.entityMap[g]? = none := by
  unfold mark
  exact Option.map_eq_none_iff

/-- An entity that is not there is not got. -/
theorem get_of_mark {g : UInt64} (h : s.mark g = none) : s.get g = none := by
  unfold get
  rw [(s.mark_eq_none).mp h]

/-- The pool with the player taken off the online players, as `remove` does first. -/
def offline (g : UInt64) : PoolImp μ :=
  if guidType g = etPlayer then { s with onlinePlayer := s.onlinePlayer.erase g } else s

@[simp] theorem offline_entityMap (g : UInt64) : (s.offline g).entityMap = s.entityMap := by
  unfold offline
  split <;> rfl

@[simp] theorem offline_guidOwnerguidMap (g : UInt64) :
    (s.offline g).guidOwnerguidMap = s.guidOwnerguidMap := by
  unfold offline
  split <;> rfl

@[simp] theorem offline_dbEntityMap (g : UInt64) : (s.offline g).dbEntityMap = s.dbEntityMap := by
  unfold offline
  split <;> rfl

/-- Does `remove` only mark the entity, because its ADD is pending under its owner? -/
def Defers (g : UInt64) (removeFromDb : Bool) : Prop :=
  removeFromDb = false ∧ ∃ o ∈ s.guidOwnerguidMap[g]?, s.isUpdating o g = true

/-! ## §2. `remove`. -/

/-- Removing an entity without an owner fails. -/
theorem remove_of_no_owner {g : UInt64} (fromDb msg : Bool) (h : s.guidOwnerguidMap[g]? = none) :
    s.remove g fromDb msg = (s.offline g, false) := by
  have h' : (s.offline g).guidOwnerguidMap[g]? = none := by
    rw [offline_guidOwnerguidMap]
    exact h
  unfold remove
  generalize ht : (if guidType g = etPlayer then
    { s with onlinePlayer := s.onlinePlayer.erase g } else s) = t
  obtain rfl : t = s.offline g := ht.symm
  simp only [h']

/-- Removing an entity that is not there only forgets its owner. -/
theorem remove_of_no_entity {g o : UInt64} (fromDb msg : Bool)
    (ho : s.guidOwnerguidMap[g]? = some o) (h : s.entityMap[g]? = none) :
    s.remove g fromDb msg =
      ({ s.offline g with guidOwnerguidMap := s.guidOwnerguidMap.erase g }, false) := by
  have h' : (s.offline g).entityMap[g]? = none := by
    rw [offline_entityMap]
    exact h
  unfold remove
  generalize ht : (if guidType g = etPlayer then
    { s with onlinePlayer := s.onlinePlayer.erase g } else s) = t
  obtain rfl : t = s.offline g := ht.symm
  simp only [offline_guidOwnerguidMap, ho, h']

/-- The pool when `remove` has taken the owner out and recorded its REMOVE. -/
def disowned (g o : UInt64) (fromDb : Bool) : PoolImp μ :=
  let s := { s.offline g with guidOwnerguidMap := s.guidOwnerguidMap.erase g }
  if fromDb then s.updateToDb o g .remove else s

theorem disowned_entityMap (g o : UInt64) (fromDb : Bool) :
    (s.disowned g o fromDb).entityMap = s.entityMap := by
  unfold disowned
  split
  · rw [updateToDb_entityMap]
    exact s.offline_entityMap g
  · exact s.offline_entityMap g

theorem disowned_guidOwnerguidMap (g o : UInt64) (fromDb : Bool) :
    (s.disowned g o fromDb).guidOwnerguidMap = s.guidOwnerguidMap.erase g := by
  unfold disowned
  split
  · rw [updateToDb_eq]
  · rfl

/-- **What `remove` does to an entity of the pool.** -/
theorem remove_of_some {g o : UInt64} {info : EntityInfo μ} (fromDb msg : Bool)
    (ho : s.guidOwnerguidMap[g]? = some o) (h : s.entityMap[g]? = some info) :
    s.remove g fromDb msg =
      (if (!fromDb && s.isUpdating o g) = true then
        { s.disowned g o fromDb with entityMap := s.entityMap.insert g (info.marked msg) }
      else { s.disowned g o fromDb with entityMap := s.entityMap.erase g }, true) := by
  have h' : (s.offline g).entityMap[g]? = some info := by
    rw [offline_entityMap]
    exact h
  have hup : PoolImp.isUpdating
      { s.offline g with guidOwnerguidMap := s.guidOwnerguidMap.erase g } o g
        = s.isUpdating o g := by
    unfold isUpdating
    rw [offline_dbEntityMap]
  have hem := s.disowned_entityMap g o fromDb
  unfold remove
  generalize ht : (if guidType g = etPlayer then
    { s with onlinePlayer := s.onlinePlayer.erase g } else s) = t
  obtain rfl : t = s.offline g := ht.symm
  simp only [offline_guidOwnerguidMap, ho, h', hup]
  unfold disowned at hem ⊢
  dsimp only at hem ⊢
  rw [hem]
  split <;> rfl

/-- `remove` answers whether it finds the owner and the entity. -/
theorem remove_snd (g : UInt64) (fromDb msg : Bool) :
    (s.remove g fromDb msg).2 = ((s.guidOwnerguidMap[g]?).isSome && (s.mark g).isSome) := by
  match ho : s.guidOwnerguidMap[g]? with
  | none => rw [s.remove_of_no_owner fromDb msg ho]; rfl
  | some o =>
      match h : s.entityMap[g]? with
      | none => rw [s.remove_of_no_entity fromDb msg ho h]; simp [mark, h]
      | some info => rw [s.remove_of_some fromDb msg ho h]; simp [mark, h]

/-- A removed entity has no owner. -/
theorem remove_owner (g : UInt64) (fromDb msg : Bool) (k : UInt64) :
    (s.remove g fromDb msg).1.guidOwnerguidMap[k]? =
      if k = g then none else s.guidOwnerguidMap[k]? := by
  have herase : (s.guidOwnerguidMap.erase g)[k]? =
      if k = g then none else s.guidOwnerguidMap[k]? :=
    Lookup.getElem?_erase s.guidOwnerguidMap g k
  match ho : s.guidOwnerguidMap[g]? with
  | none =>
      rw [s.remove_of_no_owner fromDb msg ho, offline_guidOwnerguidMap]
      by_cases hk : k = g
      · rw [if_pos hk, hk, ho]
      · rw [if_neg hk]
  | some o =>
      match h : s.entityMap[g]? with
      | none => rw [s.remove_of_no_entity fromDb msg ho h]; exact herase
      | some info =>
          rw [s.remove_of_some fromDb msg ho h, ← herase,
            ← s.disowned_guidOwnerguidMap g o fromDb]
          dsimp only
          split <;> rfl

/-- **What `remove` leaves**: nothing, or the marked entity. -/
theorem remove_mark {g : UInt64} {fromDb msg : Bool} (h : (s.remove g fromDb msg).2 = true)
    (hno : ¬ s.Defers g fromDb) : (s.remove g fromDb msg).1.mark g = none := by
  rw [remove_snd, Bool.and_eq_true] at h
  obtain ⟨o, ho⟩ := Option.isSome_iff_exists.mp h.1
  obtain ⟨_, hm⟩ := Option.isSome_iff_exists.mp h.2
  obtain ⟨info, hg, -⟩ := Option.map_eq_some_iff.mp hm
  have hcond : ¬ (!fromDb && s.isUpdating o g) = true := by
    intro hc
    rw [Bool.and_eq_true, Bool.not_eq_true'] at hc
    exact hno ⟨hc.1, o, ho, hc.2⟩
  rw [s.remove_of_some fromDb msg ho hg, if_neg hcond, mark_eq_none]
  show (s.entityMap.erase g)[g]? = none
  simp

/-- A removal that is put off marks the entity. -/
theorem remove_mark_of_defers {g : UInt64} {fromDb msg : Bool}
    (h : (s.remove g fromDb msg).2 = true) (hdefer : s.Defers g fromDb) :
    (s.remove g fromDb msg).1.mark g = some true := by
  rw [remove_snd, Bool.and_eq_true] at h
  obtain ⟨hdb, o, ho, hup⟩ := hdefer
  obtain ⟨_, hm⟩ := Option.isSome_iff_exists.mp h.2
  obtain ⟨info, hg, -⟩ := Option.map_eq_some_iff.mp hm
  have hcond : (!fromDb && s.isUpdating o g) = true := by
    rw [hdb, hup]
    rfl
  rw [s.remove_of_some fromDb msg ho hg, if_pos hcond]
  show ((s.entityMap.insert g _)[g]?).map _ = _
  rw [TreeMap.getElem?_insert_self]
  rfl

/-- Removing what is not there leaves nothing there. -/
theorem remove_mark_of_none {g : UInt64} {fromDb msg : Bool} (h : s.mark g = none) :
    (s.remove g fromDb msg).1.mark g = none := by
  have hg := (s.mark_eq_none).mp h
  rw [mark_eq_none]
  match ho : s.guidOwnerguidMap[g]? with
  | none => rw [s.remove_of_no_owner fromDb msg ho, offline_entityMap]; exact hg
  | some o =>
      rw [s.remove_of_no_entity fromDb msg ho hg]
      show (s.offline g).entityMap[g]? = none
      rw [offline_entityMap]
      exact hg

/-- A removal leaves the other marks. -/
theorem remove_mark_of_ne {g k : UInt64} (hk : k ≠ g) (fromDb msg : Bool) :
    (s.remove g fromDb msg).1.mark k = s.mark k := by
  unfold mark
  match ho : s.guidOwnerguidMap[g]? with
  | none => rw [s.remove_of_no_owner fromDb msg ho, offline_entityMap]
  | some o =>
      match h : s.entityMap[g]? with
      | none =>
          rw [s.remove_of_no_entity fromDb msg ho h]
          show ((s.offline g).entityMap[k]?).map _ = _
          rw [offline_entityMap]
      | some info =>
          rw [s.remove_of_some fromDb msg ho h]
          dsimp only
          split
          · show ((s.entityMap.insert g _)[k]?).map _ = _
            rw [Lookup.getElem?_insert, if_neg hk]
          · show ((s.entityMap.erase g)[k]?).map _ = _
            rw [Lookup.getElem?_erase, if_neg hk]

/-! ## §3. `add`. -/

/-- `add` answers whether there is a message and no entity. -/
theorem add_snd (g : UInt64) (message : Option μ) (addToDb : Bool) (o : UInt64) :
    (s.add g message addToDb o).2 = (message.isSome && (s.mark g).isNone) := by
  unfold mark
  match message with
  | none => rfl
  | some m =>
      unfold add
      match h : s.entityMap[g]? with
      | some info => simp [h]
      | none =>
          simp only [h]
          split
          · split <;> rfl
          · rfl

/-- The marks after `add`: a new entity is not marked. -/
theorem add_mark (g : UInt64) (m : μ) (addToDb : Bool) (o k : UInt64) :
    (s.add g (some m) addToDb o).1.mark k =
      if k = g ∧ s.mark g = none then some false else s.mark k := by
  have hkey : (k = g ∧ s.mark g = none) ↔ (k = g ∧ s.entityMap[g]? = none) :=
    and_congr_right fun _ => s.mark_eq_none
  unfold mark at hkey ⊢
  rw [add_getElem?]
  by_cases h : k = g ∧ s.entityMap[g]? = none
  · rw [if_pos h, if_pos (hkey.mpr h)]
    rfl
  · rw [if_neg h, if_neg (fun hc => h (hkey.mp hc))]

/-- The owners after `add`, also when it fails. -/
theorem add_owner (g : UInt64) (m : μ) (addToDb : Bool) (o k : UInt64) :
    (s.add g (some m) addToDb o).1.guidOwnerguidMap[k]? =
      if k = g then some o else s.guidOwnerguidMap[k]? := by
  obtain ⟨-, -, howner, -⟩ := s.add_frame g m addToDb o
  rw [howner]
  exact Lookup.getElem?_insert s.guidOwnerguidMap g k o

/-! ## §4. The other steps. -/

/-- Nothing came for the guid, at most the marked entity went, and the owner is the same. -/
structure KeptAt (g : UInt64) (s s' : PoolImp μ) : Prop where
  mark : s'.mark g = s.mark g ∨ (s.mark g = some true ∧ s'.mark g = none)
  owner : s'.guidOwnerguidMap[g]? = s.guidOwnerguidMap[g]?

theorem KeptAt.refl (g : UInt64) : KeptAt g s s :=
  ⟨.inl rfl, rfl⟩

theorem KeptAt.trans {g : UInt64} {s t u : PoolImp μ} (h : KeptAt g s t) (h' : KeptAt g t u) :
    KeptAt g s u := by
  refine ⟨?_, h'.owner.trans h.owner⟩
  match h.mark, h'.mark with
  | .inl hst, .inl htu => exact .inl (htu.trans hst)
  | .inl hst, .inr htu => exact .inr ⟨hst ▸ htu.1, htu.2⟩
  | .inr hst, .inl htu => exact .inr ⟨hst.1, htu.trans hst.2⟩
  | .inr hst, .inr htu =>
      have hboth := hst.2.symm.trans htu.1
      cases hboth

/-- A step that leaves entities and owners alone. -/
theorem KeptAt.of_same {g : UInt64} {s s' : PoolImp μ} (hem : s'.entityMap = s.entityMap)
    (howner : s'.guidOwnerguidMap = s.guidOwnerguidMap) : KeptAt g s s' := by
  refine ⟨.inl ?_, by rw [howner]⟩
  unfold PoolImp.mark
  rw [hem]

/-- A step that changes an entity in place. -/
theorem KeptAt.of_insert {g k : UInt64} {s s' : PoolImp μ} {info : EntityInfo μ}
    (info' : EntityInfo μ) (hk : s.entityMap[k]? = some info)
    (hmark : info'.isRemoveFromMemory = info.isRemoveFromMemory)
    (hem : s'.entityMap = s.entityMap.insert k info')
    (howner : s'.guidOwnerguidMap = s.guidOwnerguidMap) : KeptAt g s s' := by
  refine ⟨.inl ?_, by rw [howner]⟩
  unfold PoolImp.mark
  rw [hem, TreeMap.getElem?_insert]
  by_cases hg : k = g
  · subst hg
    simp [hk, hmark]
  · simp [hg]

/-- Taking a marked entity out keeps the others. -/
theorem checkShouldRemovedEntity_keptAt (g k : UInt64) :
    KeptAt g s (s.checkShouldRemovedEntity k) := by
  unfold checkShouldRemovedEntity
  match hk : s.entityMap[k]? with
  | none => exact .refl s g
  | some info =>
      dsimp only
      by_cases hmark : info.isRemoveFromMemory = true
      · rw [if_pos hmark]
        refine ⟨?_, rfl⟩
        by_cases hg : k = g
        · subst hg
          refine .inr ⟨?_, ?_⟩
          · unfold PoolImp.mark
            rw [hk, Option.map_some, hmark]
          · rw [mark_eq_none]
            show (s.entityMap.erase k)[k]? = none
            simp
        · refine .inl ?_
          show ((s.entityMap.erase k)[g]?).map _ = (s.entityMap[g]?).map _
          simp [TreeMap.getElem?_erase, hg]
      · rw [if_neg hmark]
        exact .refl s g

/-- Writing back what is no flush keeps the entities. -/
theorem writtenBack_keptAt {info : DbEntityInfo} (h : info.opType ≠ .flush) (g : UInt64) :
    KeptAt g s (s.writtenBack info) := by
  unfold writtenBack
  split
  case h_4 hflush => exact absurd hflush h
  case h_5 => exact .refl s g
  all_goals exact s.checkShouldRemovedEntity_keptAt g info.guid

/-- Removing an entry keeps the entities. -/
theorem removeDbInfo_keptAt (h : s.NoFlushEntry) (o k : UInt64) (ok : Bool) (g : UInt64) :
    KeptAt g s (s.removeDbInfo o k ok) := by
  match ho : s.updatingDbEntityMap[o]? with
  | none =>
      have hsame : s.removeDbInfo o k ok = s := by
        unfold removeDbInfo
        rw [ho]
      rw [hsame]
      exact .refl s g
  | some m =>
      have htake : KeptAt g s (s.takeAnswer m k ok).1 := by
        unfold takeAnswer
        split
        · exact .refl s g
        · next info hinfo =>
            split
            · exact s.writtenBack_keptAt (h o k info (entry_eq_some.mpr ⟨m, ho, hinfo⟩)) g
            · split
              · exact .refl s g
              · exact .refl s g
      rw [s.removeDbInfo_eq ho]
      exact htake.trans (.of_same rfl rfl)

/-- Removing an entry adds no flush. -/
theorem removeDbInfo_noFlush (h : s.NoFlushEntry) (o k : UInt64) (ok : Bool) :
    (s.removeDbInfo o k ok).NoFlushEntry := by
  intro o' k' info he
  obtain ⟨old, hold, hop⟩ := s.removeDbInfo_opType he
  rw [← hop]
  exact h o' k' old hold

/-- The callback of a batch, by induction on its requests. -/
theorem foldl_removeDbInfo_keptAt (rs : List (Request μ)) (s : PoolImp μ) (h : s.NoFlushEntry)
    (g : UInt64) :
    KeptAt g s (rs.foldl (fun s r => s.removeDbInfo r.ownerGuid r.guid r.success) s) ∧
      (rs.foldl (fun s r => s.removeDbInfo r.ownerGuid r.guid r.success) s).NoFlushEntry := by
  induction rs generalizing s with
  | nil => exact ⟨.refl s g, h⟩
  | cons r rs ih =>
      obtain ⟨hkept, hflush⟩ := ih (s.removeDbInfo r.ownerGuid r.guid r.success)
        (s.removeDbInfo_noFlush h _ _ _)
      exact ⟨(s.removeDbInfo_keptAt h _ _ _ g).trans hkept, hflush⟩

/-- **A reply** takes out at most marked entities. -/
theorem handlePacket_keptAt (h : s.NoFlushEntry) (guid : UInt64) (requestId : Nat)
    (reply : CacheReply μ) (g : UInt64) :
    KeptAt g s (s.handlePacket guid requestId reply) ∧
      (s.handlePacket guid requestId reply).NoFlushEntry := by
  unfold handlePacket
  rw [logReply_eq]
  dsimp only
  match (handleVec guid requestId reply s.requestInfoVec).2 with
  | none => exact ⟨.of_same rfl rfl, h⟩
  | some ⟨rl, .plugin⟩ => exact ⟨.of_same rfl rfl, h⟩
  | some ⟨rl, .updateToDb⟩ =>
      show KeptAt g s (updateToDbCallback _ rl) ∧ (updateToDbCallback _ rl).NoFlushEntry
      unfold updateToDbCallback
      rw [updateToDbReplay_eq]
      obtain ⟨hkept, hflush⟩ := foldl_removeDbInfo_keptAt rl.requestVec
        { s with
          log := (s.logReply reply (answered guid requestId s.requestInfoVec)).log
          requestInfoVec := (handleVec guid requestId reply s.requestInfoVec).1
          updateToDbNum := s.updateToDbNum - 1 } h g
      refine ⟨?_, hflush⟩
      refine KeptAt.trans (t := { s with
          log := (s.logReply reply (answered guid requestId s.requestInfoVec)).log
          requestInfoVec := (handleVec guid requestId reply s.requestInfoVec).1
          updateToDbNum := s.updateToDbNum - 1 }) ?_ hkept
      exact .of_same rfl rfl

end PoolImp

/-! ## §5. Every step. -/

/-- The pool has no FLUSH entry: `updateToDb` records none. -/
structure Recorded (s : PoolImp μ) : Prop where
  pending : Pending s
  updating : s.NoFlushEntry

theorem recorded_new (cfg : PoolCfg) : Recorded ({ cfg } : PoolImp μ) where
  pending o g info h := by simp at h
  updating o g info h := by simp at h

/-- A batch has no flush in it. -/
theorem startBatch_noFlush {s : PoolImp μ} (h : Pending s) : s.startBatch.NoFlushEntry := by
  intro o g info he
  obtain ⟨m', hm', hi⟩ := entry_eq_some.mp he
  rw [PoolImp.startBatch_updating] at hm'
  obtain ⟨m, hm, hleft⟩ := Option.bind_eq_some_iff.mp hm'
  obtain ⟨old, hold, hop⟩ := PoolImp.ownerEntries_opType hleft hi
  have hpending := (h o g old (entry_eq_some.mpr ⟨m, hm, hold⟩)).opType
  rw [← hop]
  intro hflush
  rw [hflush] at hpending
  obtain hadd | hremove | hupdate := hpending
  · cases hadd
  · cases hremove
  · cases hupdate

/-- **Every step** keeps the record. -/
theorem Recorded.step {s s' : PoolImp μ} {a : Action μ} (h : Recorded s)
    (hst : step s a = some s') : Recorded s' := by
  obtain ⟨-, hcall⟩ | ⟨-, -, rfl⟩ | ⟨-, -, rfl⟩ | ⟨requests, -, rfl⟩ | ⟨i, p, reply, -, -, rfl⟩ :=
    step_cases hst
  · refine ⟨hcall.pending h.pending, ?_⟩
    unfold PoolImp.NoFlushEntry
    rw [hcall.updating]
    exact h.updating
  · exact ⟨h.pending, h.updating⟩
  · refine ⟨?_, startBatch_noFlush h.pending⟩
    obtain ⟨-, hdb, -, -⟩ := s.startBatch_spec
    intro o g info he
    rw [hdb] at he
    simp at he
  · exact ⟨h.pending, h.updating⟩
  · obtain ⟨-, hdb, -⟩ := PoolImp.handlePacket_books
      { s with inFlight := s.inFlight.eraseIdx i } p.guid p.requestId reply
    obtain ⟨-, hflush⟩ := PoolImp.handlePacket_keptAt
      { s with inFlight := s.inFlight.eraseIdx i } h.updating p.guid p.requestId reply 0
    refine ⟨?_, hflush⟩
    intro o g info he
    refine h.pending o g info ?_
    rw [← he]
    exact congrArg (fun m => entry m o g) hdb.symm

/-- **In every run** the record holds. -/
theorem reachable_recorded {cfg : PoolCfg} {s : PoolImp μ} (hs : (system cfg).Reachable s) :
    Recorded s := by
  apply hs.invariant
  · intro s hinit
    obtain rfl : s = { cfg } := hinit
    exact recorded_new cfg
  · intro s a s' h _ hst
    exact h.step hst

/-- Is the action an `add` of an entity under the guid? -/
def Action.Adds (g : UInt64) : Action μ → Prop
  | .add k message _ _ => k = g ∧ message.isSome = true
  | _ => False

/-- Is the action a `remove` of the guid? -/
def Action.Removes (g : UInt64) : Action μ → Prop
  | .remove k _ _ => k = g
  | _ => False

/-- **Every other step** brings nothing, and takes out at most a marked entity. -/
theorem step_keptAt {s s' : PoolImp μ} {a : Action μ} {g : UInt64} (h : Recorded s)
    (hst : step s a = some s') (hadd : ¬ a.Adds g) (hremove : ¬ a.Removes g) :
    PoolImp.KeptAt g s s' := by
  match a with
  | .add k none addToDb o =>
      obtain rfl := Option.some.inj hst
      exact .refl s g
  | .add k (some m) addToDb o =>
      obtain rfl := Option.some.inj hst
      have hk : g ≠ k := fun hg => hadd ⟨hg.symm, rfl⟩
      refine ⟨.inl ?_, ?_⟩
      · rw [s.add_mark, if_neg fun hc => hk hc.1]
      · rw [s.add_owner, if_neg hk]
  | .remove k fromDb msg =>
      obtain rfl := Option.some.inj hst
      have hk : g ≠ k := fun hg => hremove hg.symm
      refine ⟨.inl (s.remove_mark_of_ne hk fromDb msg), ?_⟩
      rw [s.remove_owner, if_neg hk]
  | .updateGuid k =>
      obtain rfl := Option.some.inj hst
      obtain heq | ⟨o, info, -, hk, heq⟩ := s.updateGuid_cases k
      · rw [heq]
        exact .refl s g
      · rw [heq]
        refine .of_insert { info with
          opType := info.opType ||| EntityOpType.update.value } hk rfl ?_ ?_
        · rw [PoolImp.updateToDb_entityMap]
        · rw [PoolImp.updateToDb_eq]
  | .update =>
      obtain rfl := Option.some.inj hst
      obtain ⟨hem, howner, -⟩ := s.update_frame
      exact .of_same hem howner
  | .reply i reply =>
      obtain ⟨p, -, rfl⟩ := Option.map_eq_some_iff.mp hst
      refine PoolImp.KeptAt.trans (t := { s with inFlight := s.inFlight.eraseIdx i }) ?_ ?_
      · exact .of_same rfl rfl
      · exact (PoolImp.handlePacket_keptAt { s with inFlight := s.inFlight.eraseIdx i }
          h.updating p.guid p.requestId reply g).1
  | .clearUpdateEntity o =>
      obtain rfl := Option.some.inj hst
      show PoolImp.KeptAt g s (s.clearUpdateEntity o).1
      unfold PoolImp.clearUpdateEntity
      split <;> exact .of_same rfl rfl
  | .getWhileFlush k =>
      obtain rfl := Option.some.inj hst
      show PoolImp.KeptAt g s (s.getWhileFlush k).1
      unfold PoolImp.getWhileFlush
      match hk : s.entityMap[k]? with
      | none => exact .refl s g
      | some info =>
          dsimp only
          split
          · exact .refl s g
          · exact .of_insert { info with isFlushing := true } hk rfl rfl rfl
  | .clearFlushState k =>
      obtain rfl := Option.some.inj hst
      show PoolImp.KeptAt g s (s.clearFlushState k)
      unfold PoolImp.clearFlushState
      match hk : s.entityMap[k]? with
      | none => exact .refl s g
      | some info => exact .of_insert { info with isFlushing := false } hk rfl rfl rfl
  | .write k m =>
      obtain rfl := Option.some.inj hst
      show PoolImp.KeptAt g s (s.write k m)
      unfold PoolImp.write
      match hk : s.entityMap[k]? with
      | none => exact .refl s g
      | some info => exact .of_insert { info with message := some m } hk rfl rfl rfl
  | .playerIsOnline k =>
      obtain rfl := Option.some.inj hst
      exact .of_same rfl rfl
  | .playerIsOffline k =>
      obtain rfl := Option.some.inj hst
      exact .of_same rfl rfl
  | .commit requests =>
      obtain rfl := Option.some.inj hst
      exact .of_same rfl rfl

end Steppingstone.Pool
