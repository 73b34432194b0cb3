/-
  Steppingstone.Pool.Entities — what each operation of the pool does to its
  entities, and what it leaves alone.

  `Pool.Spec` follows the recorded operations; the lemmas here follow the
  entities, the owners they were added under and the request lists.
-/
import Steppingstone.Pool.Spec

namespace Steppingstone.Pool

open Std (TreeMap)
open NestedMap

variable {μ : Type}

namespace PoolImp

variable (s : PoolImp μ)

/-! ## §1. Adding. -/

/-- The pool with the owner entered. -/
def withOwner (g o : UInt64) : PoolImp μ :=
  { s with guidOwnerguidMap := s.guidOwnerguidMap.insert g o }

/-- The pool with the owner and the entity entered. -/
def withEntity (g o : UInt64) (m : μ) : PoolImp μ :=
  { s with
    guidOwnerguidMap := s.guidOwnerguidMap.insert g o
    entityMap := s.entityMap.insert g
      { opType := EntityOpType.add.value, ownerGuid := o, message := some m } }

theorem add_of_some {g : UInt64} {info : EntityInfo μ} (h : s.entityMap[g]? = some info)
    (m : μ) (addToDb : Bool) (o : UInt64) :
    (s.add g (some m) addToDb o).1 = s.withOwner g o := by
  unfold add
  simp only [h]
  rfl

theorem add_of_none {g : UInt64} (h : s.entityMap[g]? = none) (m : μ) (addToDb : Bool)
    (o : UInt64) :
    (s.add g (some m) addToDb o).1 =
      if addToDb then
        if guidType g = etCoin then (s.withEntity g o m).directUpdateToDb m g o
        else (s.withEntity g o m).updateToDb o g .add
      else s.withEntity g o m := by
  unfold add
  simp only [h]
  cases addToDb with
  | false => rfl
  | true =>
      simp only [if_true]
      split <;> rfl

private theorem withEntity_getElem? (g o k : UInt64) (m : μ) :
    (s.withEntity g o m).entityMap[k]? =
      if k = g then some { opType := EntityOpType.add.value, ownerGuid := o, message := some m }
      else s.entityMap[k]? := by
  unfold withEntity
  rw [TreeMap.getElem?_insert]
  by_cases hk : k = g
  · simp [hk]
  · simp [hk, Ne.symm hk]

/-- **The entities after adding one.** -/
theorem add_getElem? (g : UInt64) (m : μ) (addToDb : Bool) (o k : UInt64) :
    (s.add g (some m) addToDb o).1.entityMap[k]? =
      if k = g ∧ s.entityMap[g]? = none then
        some { opType := EntityOpType.add.value, ownerGuid := o, message := some m }
      else s.entityMap[k]? := by
  rcases hg : s.entityMap[g]? with _ | info
  · rw [s.add_of_none hg]
    simp only [and_true]
    rw [← withEntity_getElem?]
    cases addToDb with
    | false => rfl
    | true =>
        simp only [if_true]
        split
        · rfl
        · rw [updateToDb_entityMap]
  · rw [s.add_of_some hg]
    simp [withOwner]

/-- **The records after adding an entity**: a pending ADD, but not for a coin. -/
theorem add_pending (g : UInt64) (m : μ) (addToDb : Bool) (o o' g' : UInt64) :
    entry (s.add g (some m) addToDb o).1.dbEntityMap o' g' =
      if addToDb ∧ s.entityMap[g]? = none ∧ guidType g ≠ etCoin ∧ o' = o ∧ g' = g then
        coalesce s.log.next .add o g (entry s.dbEntityMap o g)
      else entry s.dbEntityMap o' g' := by
  rcases hg : s.entityMap[g]? with _ | info
  · rw [s.add_of_none hg]
    cases addToDb with
    | false => simp [withEntity]
    | true =>
        by_cases hcoin : guidType g = etCoin
        · simp [hcoin, directUpdateToDb, withEntity]
        · simp only [hcoin, if_true, if_false, true_and, ne_eq, not_false_eq_true]
          rw [updateToDb_entry]
          rfl
  · rw [s.add_of_some hg]
    simp [withOwner]

/-- What adding leaves alone; request ids only grow. -/
theorem add_frame (g : UInt64) (m : μ) (addToDb : Bool) (o : UInt64) :
    (s.add g (some m) addToDb o).1.updatingDbEntityMap = s.updatingDbEntityMap ∧
    (s.add g (some m) addToDb o).1.requestInfoVec = s.requestInfoVec ∧
    (s.add g (some m) addToDb o).1.guidOwnerguidMap = s.guidOwnerguidMap.insert g o ∧
    s.requestId ≤ (s.add g (some m) addToDb o).1.requestId := by
  rcases hg : s.entityMap[g]? with _ | info
  · rw [s.add_of_none hg]
    cases addToDb with
    | false => exact ⟨rfl, rfl, rfl, Nat.le_refl _⟩
    | true =>
        simp only [if_true]
        split
        · exact ⟨rfl, rfl, rfl, Nat.le_succ _⟩
        · rw [updateToDb_eq]
          exact ⟨rfl, rfl, rfl, Nat.le_refl _⟩
  · rw [s.add_of_some hg]
    exact ⟨rfl, rfl, rfl, Nat.le_refl _⟩

/-! ## §2. Changing and removing. -/

theorem write_getElem? (g : UInt64) (m : μ) (k : UInt64) :
    (s.write g m).entityMap[k]? =
      (s.entityMap[k]?).map
        (fun info => if k = g then { info with message := some m } else info) := by
  unfold write
  rcases hg : s.entityMap[g]? with _ | info
  · by_cases hk : k = g
    · subst hk
      simp [hg]
    · simp [hk]
  · by_cases hk : k = g
    · subst hk
      simp [hg]
    · have hne : ¬ g = k := fun h => hk h.symm
      simp [hk, TreeMap.getElem?_insert, hne]

/-- Changing an entity in place touches the entities only. -/
theorem write_eq (g : UInt64) (m : μ) :
    s.write g m = { s with entityMap := (s.write g m).entityMap } := by
  unfold write
  split <;> rfl

/-- **Marking an entity for update** records an operation under its owner. -/
theorem updateGuid_cases (g : UInt64) :
    (s.updateGuid g).1 = s ∨
    ∃ o info, s.guidOwnerguidMap[g]? = some o ∧ s.entityMap[g]? = some info ∧
      (s.updateGuid g).1 = PoolImp.updateToDb
        { s with
          entityMap := s.entityMap.insert g
            ({ info with opType := info.opType ||| EntityOpType.update.value } : EntityInfo μ) }
        o g .update := by
  unfold updateGuid
  split
  · exact Or.inl rfl
  · rcases ho : s.guidOwnerguidMap[g]? with _ | o
    · exact Or.inl rfl
    · rcases hg : s.entityMap[g]? with _ | info
      · exact Or.inl rfl
      · exact Or.inr ⟨o, info, rfl, rfl, rfl⟩

theorem isUpdating_eq (o g : UInt64) :
    s.isUpdating o g = (entry s.dbEntityMap o g).any (·.opType == .add) := by
  unfold isUpdating entry
  rcases s.dbEntityMap[o]? with _ | m
  · rfl
  · rcases hm : m[g]? with _ | info <;> simp [hm]

/-- **Removing without a write**: the entity stays, leaves, or is marked because
its ADD is pending. -/
theorem remove_cases (g : UInt64) (msg : Bool) :
    ∃ online owners em,
      (s.remove g false msg).1 =
        { s with onlinePlayer := online, guidOwnerguidMap := owners, entityMap := em } ∧
      (owners = s.guidOwnerguidMap ∨ owners = s.guidOwnerguidMap.erase g) ∧
      (em = s.entityMap ∨ em = s.entityMap.erase g ∨
        ∃ v o, em = s.entityMap.insert g v ∧ s.isUpdating o g = true) := by
  let online := if guidType g = etPlayer then s.onlinePlayer.erase g else s.onlinePlayer
  have hbase : (if guidType g = etPlayer then { s with onlinePlayer := s.onlinePlayer.erase g }
      else s) = { s with onlinePlayer := online } := by
    by_cases hp : guidType g = etPlayer
    · simp only [online, hp, if_true]
    · simp only [online, hp, if_false]
  unfold remove
  rw [hbase]
  -- without an owner nothing else happens
  rcases ho : s.guidOwnerguidMap[g]? with _ | o
  · refine ⟨online, s.guidOwnerguidMap, s.entityMap, ?_, Or.inl rfl, Or.inl rfl⟩
    simp only [ho]
  · rcases hg : s.entityMap[g]? with _ | info
    · refine ⟨online, s.guidOwnerguidMap.erase g, s.entityMap, ?_, Or.inr rfl, Or.inl rfl⟩
      simp only [ho, hg]
    · by_cases hup : s.isUpdating o g = true
      · have hup' : PoolImp.isUpdating { s with
            onlinePlayer := online, guidOwnerguidMap := s.guidOwnerguidMap.erase g } o g = true :=
          hup
        let kept : EntityInfo μ := { info with
          message := if msg then info.message else none, isRemoveFromMemory := true }
        refine ⟨online, s.guidOwnerguidMap.erase g, s.entityMap.insert g kept, ?_, Or.inr rfl,
          Or.inr (Or.inr ⟨kept, o, rfl, hup⟩)⟩
        simp only [ho, hg, hup', Bool.not_false, Bool.true_and, if_true, Bool.false_eq_true,
          if_false]
        rfl
      · have hup' : PoolImp.isUpdating { s with
            onlinePlayer := online, guidOwnerguidMap := s.guidOwnerguidMap.erase g } o g
              = false :=
          Bool.eq_false_iff.mpr hup
        refine ⟨online, s.guidOwnerguidMap.erase g, s.entityMap.erase g, ?_, Or.inr rfl,
          Or.inr (Or.inl rfl)⟩
        simp only [ho, hg, hup', Bool.not_false, Bool.true_and, Bool.false_eq_true, if_false]

/-- What removing leaves alone. -/
theorem remove_frame (g : UInt64) (msg : Bool) :
    (s.remove g false msg).1.dbEntityMap = s.dbEntityMap ∧
    (s.remove g false msg).1.updatingDbEntityMap = s.updatingDbEntityMap ∧
    (s.remove g false msg).1.requestInfoVec = s.requestInfoVec ∧
    (s.remove g false msg).1.requestId = s.requestId := by
  obtain ⟨online, owners, em, heq, -, -⟩ := s.remove_cases g msg
  rw [heq]
  exact ⟨rfl, rfl, rfl, rfl⟩

/-- The owners after removing an entity were there before. -/
theorem remove_owners {g : UInt64} {msg : Bool} {k o : UInt64}
    (h : (s.remove g false msg).1.guidOwnerguidMap[k]? = some o) :
    s.guidOwnerguidMap[k]? = some o := by
  obtain ⟨online, owners, em, heq, howners, -⟩ := s.remove_cases g msg
  rw [heq] at h
  rcases howners with rfl | rfl
  · exact h
  · have h' : (s.guidOwnerguidMap.erase g)[k]? = some o := h
    rw [TreeMap.getElem?_erase] at h'
    split at h'
    · exact absurd h' (by simp)
    · exact h'

/-- Removing an entity concerns no other one. -/
theorem remove_getElem?_of_ne {g k : UInt64} (hk : k ≠ g) (msg : Bool) :
    (s.remove g false msg).1.entityMap[k]? = s.entityMap[k]? := by
  have hne : ¬ g = k := fun h => hk h.symm
  obtain ⟨online, owners, em, heq, -, hem⟩ := s.remove_cases g msg
  rw [heq]
  show em[k]? = _
  rcases hem with rfl | rfl | ⟨v, o, rfl, -⟩
  · rfl
  · simp [TreeMap.getElem?_erase, hne]
  · simp [TreeMap.getElem?_insert, hne]

/-- Removing an entity concerns the owner of no other one. -/
theorem remove_owner_of_ne {g k : UInt64} (hk : k ≠ g) (msg : Bool) :
    (s.remove g false msg).1.guidOwnerguidMap[k]? = s.guidOwnerguidMap[k]? := by
  have hne : ¬ g = k := fun h => hk h.symm
  obtain ⟨online, owners, em, heq, howners, -⟩ := s.remove_cases g msg
  rw [heq]
  show owners[k]? = _
  match howners with
  | Or.inl h => rw [h]
  | Or.inr h =>
      rw [h, TreeMap.getElem?_erase]
      simp [hne]

/-- An entity with an owner whose ADD is not pending is gone after its removal. -/
theorem remove_gone {g o : UInt64} {msg : Bool} (ho : s.guidOwnerguidMap[g]? = some o)
    (hno : s.isUpdating o g = false) : (s.remove g false msg).1.entityMap[g]? = none := by
  by_cases hp : guidType g = etPlayer
  all_goals
    unfold remove
    simp only [hp, if_true, if_false]
    rw [ho]
    dsimp only
    match hg : s.entityMap[g]? with
    | none => exact hg
    | some info =>
        dsimp only
        rw [if_neg]
        · show (s.entityMap.erase g)[g]? = none
          simp
        · show ¬ (!false && s.isUpdating o g) = true
          simp [hno]

/-- Removing what is not there changes no entity. -/
theorem remove_of_none {g : UInt64} {msg : Bool} (h : s.entityMap[g]? = none) :
    (s.remove g false msg).1.entityMap = s.entityMap := by
  by_cases hp : guidType g = etPlayer
  all_goals
    unfold remove
    simp only [hp, if_true, if_false]
    match s.guidOwnerguidMap[g]? with
    | none => rfl
    | some o =>
        dsimp only
        rw [h]

/-- What is in the pool after a removal was there before, with its message. -/
theorem remove_keeps {g k : UInt64} {info' : EntityInfo μ}
    (h : (s.remove g false true).1.entityMap[k]? = some info') :
    ∃ info, s.entityMap[k]? = some info ∧ info'.isFlushing = info.isFlushing ∧
      info'.message = info.message := by
  by_cases hk : k = g
  · subst hk
    by_cases hp : guidType k = etPlayer
    all_goals
      unfold remove at h
      simp only [hp, if_true, if_false] at h
      match ho : s.guidOwnerguidMap[k]? with
      | none =>
          rw [ho] at h
          exact ⟨info', h, rfl, rfl⟩
      | some o =>
          rw [ho] at h
          dsimp only at h
          match hg : s.entityMap[k]? with
          | none =>
              rw [hg] at h
              dsimp only at h
              rw [hg] at h
              exact absurd h (by simp)
          | some info =>
              rw [hg] at h
              dsimp only at h
              split at h
              · have h' : (s.entityMap.insert k { info with isRemoveFromMemory := true })[k]? =
                    some info' := h
                rw [TreeMap.getElem?_insert_self] at h'
                obtain rfl := Option.some.inj h'
                exact ⟨info, rfl, rfl, rfl⟩
              · have h' : (s.entityMap.erase k)[k]? = some info' := h
                simp at h'
  · rw [s.remove_getElem?_of_ne hk] at h
    exact ⟨info', h, rfl, rfl⟩

/-- **Removing an entity whose ADD is not pending** takes it out, if anything. -/
theorem remove_getElem? {g k : UInt64} {msg : Bool} {info : EntityInfo μ}
    (hno : ∀ o i, entry s.dbEntityMap o g = some i → i.opType ≠ .add)
    (h : (s.remove g false msg).1.entityMap[k]? = some info) : s.entityMap[k]? = some info := by
  obtain ⟨online, owners, em, heq, -, hem⟩ := s.remove_cases g msg
  rw [heq] at h
  have h' : em[k]? = some info := h
  rcases hem with rfl | rfl | ⟨v, o, rfl, hup⟩
  · exact h'
  · rw [TreeMap.getElem?_erase] at h'
    split at h'
    · exact absurd h' (by simp)
    · exact h'
  · -- only a pending ADD keeps the entity
    rw [isUpdating_eq] at hup
    rcases he : entry s.dbEntityMap o g with _ | i
    · simp [he] at hup
    · have hadd : i.opType = .add := by simpa [he] using hup
      exact absurd hadd (hno o i he)

/-! ## §3. The frame update. -/

/-- A turn keeps the operation of the entry. -/
theorem turn_opType {em : TreeMap UInt64 (EntityInfo μ)} {info k : DbEntityInfo}
    {r : Option (Request μ)} (h : info.turn em = some (k, r)) : k.opType = info.opType := by
  unfold DbEntityInfo.turn at h
  split at h
  · cases h
  · split at h
    · cases h
      rfl
    · split at h
      · cases h
      · split at h
        · cases h
        · split at h <;> cases h <;> rfl

/-- What the turn of one owner leaves comes from what was pending for it. -/
theorem ownerEntries_opType {em : TreeMap UInt64 (EntityInfo μ)} {m m' : DbEntityMap}
    (h : ownerEntries em m = some m') {g : UInt64} {i : DbEntityInfo} (hi : m'[g]? = some i) :
    ∃ i₀, m[g]? = some i₀ ∧ i₀.opType = i.opType := by
  unfold ownerEntries at h
  split at h
  · cases h
  · cases h
    unfold keptEntries at hi
    rw [TreeMap.getElem?_filterMap'] at hi
    rcases hg : m[g]? with _ | i₀
    · simp [hg] at hi
    · rcases ht : i₀.turn em with _ | ⟨k, r⟩
      · simp [hg, ht] at hi
      · simp only [hg, ht, Option.bind_some, Option.map_some, Option.some.injEq] at hi
        exact ⟨i₀, rfl, by rw [← hi, turn_opType ht]⟩

/-- The ids of the lists that a batch commits are new. -/
private theorem foldl_updateOwner_ids (l : List (UInt64 × DbEntityMap)) (s : PoolImp μ) :
    s.requestId ≤ (l.foldl updateOwner s).requestId ∧
    (l.foldl updateOwner s).guidOwnerguidMap = s.guidOwnerguidMap ∧
    ∃ lists, (l.foldl updateOwner s).requestInfoVec = s.requestInfoVec ++ lists ∧
      ∀ ri ∈ lists, s.requestId < ri.requestList.requestId ∧
        ri.requestList.requestId ≤ (l.foldl updateOwner s).requestId := by
  induction l generalizing s with
  | nil => exact ⟨Nat.le_refl _, rfl, [], by simp, by simp⟩
  | cons e l ih =>
      have hone : s.requestId ≤ (s.updateOwner e).requestId ∧
          (s.updateOwner e).guidOwnerguidMap = s.guidOwnerguidMap ∧
          ∀ ri ∈ s.ownerList e.2, s.requestId < ri.requestList.requestId ∧
            ri.requestList.requestId ≤ (s.updateOwner e).requestId := by
        unfold updateOwner ownerList
        by_cases hemp : e.2.isEmpty = true
        · have hnone : batchRequests s.entityMap e.2 = [] := by
            have hl : e.2.toList = [] := by
              have := TreeMap.isEmpty_toList (t := e.2)
              rw [hemp] at this
              exact List.isEmpty_iff.mp this
            simp [batchRequests, hl]
          simp [hemp, hnone]
        · by_cases hreq : (batchRequests s.entityMap e.2).isEmpty = true
          · rw [if_neg hemp, s.updateDbEntity_of_isEmpty hreq]
            simp [hreq, openList]
          · rw [if_neg hemp, s.updateDbEntity_of_not_isEmpty hreq]
            simp [hreq, openList, commit]
      obtain ⟨hle, hown, lists, hvec, hids⟩ := ih (s.updateOwner e)
      obtain ⟨-, -, -, hvec₁, -⟩ := s.updateOwner_spec e
      rw [List.foldl_cons]
      refine ⟨Nat.le_trans hone.1 hle, hown.trans hone.2.1, s.ownerList e.2 ++ lists, ?_, ?_⟩
      · rw [hvec, hvec₁, List.append_assoc]
      · intro ri hri
        rcases List.mem_append.mp hri with h | h
        · exact ⟨(hone.2.2 ri h).1, Nat.le_trans (hone.2.2 ri h).2 hle⟩
        · exact ⟨Nat.lt_of_le_of_lt hone.1 (hids ri h).1, (hids ri h).2⟩

/-- **The frame update** commits lists of its own and takes no entity out. -/
theorem update_frame :
    s.update.entityMap = s.entityMap ∧
    s.update.guidOwnerguidMap = s.guidOwnerguidMap ∧
    s.requestId ≤ s.update.requestId ∧
    (∃ lists, s.update.requestInfoVec = s.requestInfoVec ++ lists ∧
      ∀ ri ∈ lists, ri.callBack = .updateToDb ∧ s.requestId < ri.requestList.requestId ∧
        ri.requestList.requestId ≤ s.update.requestId) ∧
    (∀ o g i, entry s.update.dbEntityMap o g = some i → entry s.dbEntityMap o g = some i) ∧
    ∀ o g i, entry s.update.updatingDbEntityMap o g = some i →
      ∃ i₀, i₀.opType = i.opType ∧
        (entry s.dbEntityMap o g = some i₀ ∨ entry s.updatingDbEntityMap o g = some i₀) := by
  -- a call that starts no batch
  have hsame : ∀ t : PoolImp μ, t.entityMap = s.entityMap →
      t.guidOwnerguidMap = s.guidOwnerguidMap → t.requestId = s.requestId →
      t.requestInfoVec = s.requestInfoVec → t.dbEntityMap = s.dbEntityMap →
      t.updatingDbEntityMap = s.updatingDbEntityMap →
      t.entityMap = s.entityMap ∧ t.guidOwnerguidMap = s.guidOwnerguidMap ∧
      s.requestId ≤ t.requestId ∧
      (∃ lists, t.requestInfoVec = s.requestInfoVec ++ lists ∧
        ∀ ri ∈ lists, ri.callBack = .updateToDb ∧ s.requestId < ri.requestList.requestId ∧
          ri.requestList.requestId ≤ t.requestId) ∧
      (∀ o g i, entry t.dbEntityMap o g = some i → entry s.dbEntityMap o g = some i) ∧
      ∀ o g i, entry t.updatingDbEntityMap o g = some i →
        ∃ i₀, i₀.opType = i.opType ∧
          (entry s.dbEntityMap o g = some i₀ ∨ entry s.updatingDbEntityMap o g = some i₀) := by
    intro t hem hown hid hvec hdb hup
    refine ⟨hem, hown, Nat.le_of_eq hid.symm, ⟨[], by simpa using hvec, by simp⟩, ?_, ?_⟩
    · intro o g i h
      rwa [hdb] at h
    · intro o g i h
      rw [hup] at h
      exact ⟨i, rfl, Or.inr h⟩
  unfold update
  split
  · exact hsame s rfl rfl rfl rfl rfl rfl
  · split
    · dsimp only
      split
      · exact hsame _ rfl rfl rfl rfl rfl rfl
      · exact hsame _ rfl rfl rfl rfl rfl rfl
    · obtain ⟨hem, hdb, ⟨lists, hvec, -, hfresh⟩, -⟩ := s.startBatch_spec
      obtain ⟨hle, hown, lists', hvec', hids⟩ :=
        foldl_updateOwner_ids s.dbEntityMap.toList s.batchStart
      have hlists : lists' = lists := by
        have h : s.requestInfoVec ++ lists' = s.requestInfoVec ++ lists := by
          rw [← hvec]
          exact hvec'.symm
        exact List.append_cancel_left h
      subst hlists
      refine ⟨hem, hown, hle, ⟨lists', hvec, ?_⟩, ?_, ?_⟩
      · intro ri hri
        exact ⟨(hfresh ri hri).1, hids ri hri⟩
      · intro o g i h
        rw [hdb] at h
        simp at h
      · intro o g i h
        obtain ⟨m', hm', hi⟩ := entry_eq_some.mp h
        rw [startBatch_updating] at hm'
        obtain ⟨m, hm, hown⟩ := Option.bind_eq_some_iff.mp hm'
        obtain ⟨i₀, hi₀, hop⟩ := ownerEntries_opType hown hi
        exact ⟨i₀, hop, Or.inl (entry_eq_some.mpr ⟨m, hm, hi₀⟩)⟩

/-! ## §4. Replies. -/

/-- No entity is kept only because its ADD is pending. -/
def NoneRemoved (s : PoolImp μ) : Prop :=
  ∀ (g : UInt64) (e : EntityInfo μ), s.entityMap[g]? = some e → e.isRemoveFromMemory = false

/-- No entry of the running batch is a FLUSH. -/
def NoFlushEntry (s : PoolImp μ) : Prop :=
  ∀ o g i, entry s.updatingDbEntityMap o g = some i → i.opType ≠ .flush

/-- Writing back takes out only entities that were removed before. -/
theorem writtenBack_of_kept {info : DbEntityInfo}
    (hflag : s.NoneRemoved)
    (hop : info.opType ≠ .flush) : s.writtenBack info = s := by
  have hcheck : ∀ g, s.checkShouldRemovedEntity g = s := by
    intro g
    unfold checkShouldRemovedEntity
    split
    · next e he => simp [hflag g e he]
    · rfl
  unfold writtenBack
  split
  · exact hcheck _
  · exact hcheck _
  · exact hcheck _
  · next h => exact absurd h hop
  · rfl

theorem removeDbInfo_of_kept
    (hflag : s.NoneRemoved)
    (hop : s.NoFlushEntry)
    (o g : UInt64) (ok : Bool) :
    s.removeDbInfo o g ok =
      { s with updatingDbEntityMap := (s.removeDbInfo o g ok).updatingDbEntityMap } := by
  rcases ho : s.updatingDbEntityMap[o]? with _ | m
  · unfold removeDbInfo
    simp only [ho]
  · have htake : (s.takeAnswer m g ok).1 = s := by
      unfold takeAnswer
      split
      · rfl
      · next i hi =>
          split
          · exact s.writtenBack_of_kept hflag (hop o g i (entry_eq_some.mpr ⟨m, ho, hi⟩))
          · split <;> rfl
    rw [s.removeDbInfo_eq ho, htake]

/-- **The callback of a batch** takes no entity out, unless one was removed before. -/
theorem foldl_removeDbInfo_of_kept (rs : List (Request μ)) (s : PoolImp μ)
    (hflag : s.NoneRemoved)
    (hop : s.NoFlushEntry) :
    ∃ up, rs.foldl (fun s r => s.removeDbInfo r.ownerGuid r.guid r.success) s
        = { s with updatingDbEntityMap := up } ∧
      ∀ o g i, entry up o g = some i →
        ∃ i₀, entry s.updatingDbEntityMap o g = some i₀ ∧ i₀.opType = i.opType := by
  induction rs generalizing s with
  | nil => exact ⟨s.updatingDbEntityMap, rfl, fun o g i h => ⟨i, h, rfl⟩⟩
  | cons r rs ih =>
      have hone := s.removeDbInfo_of_kept hflag hop r.ownerGuid r.guid r.success
      obtain ⟨up, hup, hent⟩ := ih (s.removeDbInfo r.ownerGuid r.guid r.success)
        (by rw [hone]; exact hflag) (by
          intro o g i h
          obtain ⟨i₁, hi₁, heq⟩ := s.removeDbInfo_opType h
          rw [← heq]
          exact hop o g i₁ hi₁)
      refine ⟨up, ?_, ?_⟩
      · rw [List.foldl_cons, hup, hone]
      · intro o g i h
        obtain ⟨i₁, hi₁, heq₁⟩ := hent o g i h
        obtain ⟨i₀, hi₀, heq₀⟩ := s.removeDbInfo_opType hi₁
        exact ⟨i₀, hi₀, heq₀.trans heq₁⟩

/-- **The callback of a batch**, as far as entities go. -/
theorem updateToDbCallback_of_kept (hflag : s.NoneRemoved) (hop : s.NoFlushEntry)
    (rl : RequestList μ) :
    (s.updateToDbCallback rl).entityMap = s.entityMap ∧
    (s.updateToDbCallback rl).guidOwnerguidMap = s.guidOwnerguidMap ∧
    (s.updateToDbCallback rl).dbEntityMap = s.dbEntityMap ∧
    (s.updateToDbCallback rl).requestId = s.requestId ∧
    (s.updateToDbCallback rl).requestInfoVec = s.requestInfoVec ∧
    ∀ o g i, entry (s.updateToDbCallback rl).updatingDbEntityMap o g = some i →
      ∃ i₀, entry s.updatingDbEntityMap o g = some i₀ ∧ i₀.opType = i.opType := by
  unfold updateToDbCallback updateToDbReplay
  split
  · obtain ⟨up, hup, hent⟩ := foldl_removeDbInfo_of_kept rl.requestVec
      { s with updateToDbNum := s.updateToDbNum - 1 } hflag hop
    rw [hup]
    exact ⟨rfl, rfl, rfl, rfl, rfl, hent⟩
  · obtain ⟨up, hup, hent⟩ := foldl_removeDbInfo_of_kept rl.requestVec s hflag hop
    rw [hup]
    exact ⟨rfl, rfl, rfl, rfl, rfl, hent⟩

/-- **A reply**, as far as entities go: only the lists change. -/
theorem handlePacket_of_kept (hflag : s.NoneRemoved) (hop : s.NoFlushEntry)
    (guid : UInt64) (requestId : Nat) (reply : CacheReply μ) :
    (s.handlePacket guid requestId reply).entityMap = s.entityMap ∧
    (s.handlePacket guid requestId reply).guidOwnerguidMap = s.guidOwnerguidMap ∧
    (s.handlePacket guid requestId reply).dbEntityMap = s.dbEntityMap ∧
    (s.handlePacket guid requestId reply).requestId = s.requestId ∧
    (s.handlePacket guid requestId reply).requestInfoVec
      = (handleVec guid requestId reply s.requestInfoVec).1 ∧
    ∀ o g i, entry (s.handlePacket guid requestId reply).updatingDbEntityMap o g = some i →
      ∃ i₀, entry s.updatingDbEntityMap o g = some i₀ ∧ i₀.opType = i.opType := by
  unfold handlePacket
  rw [logReply_eq]
  dsimp only
  rcases (handleVec guid requestId reply s.requestInfoVec).2 with _ | ri
  · exact ⟨rfl, rfl, rfl, rfl, rfl, fun o g i h => ⟨i, h, rfl⟩⟩
  · unfold complateRequest
    dsimp only
    cases ri.callBack with
    | plugin => exact ⟨rfl, rfl, rfl, rfl, rfl, fun o g i h => ⟨i, h, rfl⟩⟩
    | updateToDb =>
        exact updateToDbCallback_of_kept
          { s with
            log := (s.logReply reply (answered guid requestId s.requestInfoVec)).log
            requestInfoVec := (handleVec guid requestId reply s.requestInfoVec).1 }
          hflag hop ri.requestList

end PoolImp

end Steppingstone.Pool
