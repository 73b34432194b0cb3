/-
  Steppingstone.Pool.Spec — what each operation of the pool does to the
  recorded operations, entry by entry.

  The two owner maps are seen as maps with two keys.  An operation is
  described by its effect on the entry under an owner and a guid, and by the
  fields it leaves alone, so that no later proof unfolds it.
-/
import Steppingstone.Lib.KeyedFold
import Steppingstone.Lib.NestedMap
import Steppingstone.Pool.Model

namespace Steppingstone.Pool

open Std (TreeMap)
open NestedMap

variable {μ : Type}

/-! ## §1. Recording an operation. -/

/-- The entry after the operation numbered `n` is recorded over it. -/
def coalesce (n : Nat) (eotType : EntityOpType) (ownerGuid guid : UInt64) :
    Option DbEntityInfo → Option DbEntityInfo
  | none => some { opType := eotType, guid, ownerGuid, changes := [n] }
  | some dbInfo =>
      if dbInfo.opType = .add then
        if eotType = .remove then none
        else some { dbInfo with alreadyRequest := false, changes := n :: dbInfo.changes }
      else some { dbInfo with
        alreadyRequest := false, opType := eotType, changes := n :: dbInfo.changes }

/-- The operations that recording `n` cancels: a pending ADD and the REMOVE itself. -/
def cancelled (n : Nat) (eotType : EntityOpType) : Option DbEntityInfo → List Nat
  | none => []
  | some dbInfo =>
      if dbInfo.opType = .add ∧ eotType = .remove then n :: dbInfo.changes else []

namespace PoolImp

variable (s : PoolImp μ)

/-- **Recording an operation** changes the entry of its owner and guid only. -/
theorem updateToDb_entry (o g : UInt64) (t : EntityOpType) (o' g' : UInt64) :
    entry (s.updateToDb o g t).dbEntityMap o' g'
      = if o' = o ∧ g' = g then coalesce s.log.next t o g (entry s.dbEntityMap o g)
        else entry s.dbEntityMap o' g' := by
  unfold updateToDb
  rcases ho : s.dbEntityMap[o]? with _ | m
  · have hnone : ∀ b, ({} : DbEntityMap)[b]? = entry s.dbEntityMap o b := by
      intro b
      simp [entry, ho]
    simp only [ho]
    rw [entry_insert_insert _ hnone, ← hnone g]
    simp [coalesce]
  · have hm : ∀ b, m[b]? = entry s.dbEntityMap o b := fun b => (entry_of_getElem? ho b).symm
    rcases hg : m[g]? with _ | info
    · simp only [ho, hg]
      rw [entry_insert_insert _ hm, ← hm g, hg]
      simp [coalesce]
    · simp only [ho, hg]
      rw [← hm g, hg]
      by_cases hadd : info.opType = .add
      · by_cases hrem : t = .remove
        · simp only [hadd, hrem, if_true, coalesce]
          rw [entry_insert_erase _ hm]
        · simp only [hadd, hrem, if_true, if_false, coalesce]
          rw [entry_insert_insert _ hm]
      · simp only [hadd, if_false, coalesce]
        rw [entry_insert_insert _ hm]

theorem updateToDb_log (o g : UInt64) (t : EntityOpType) :
    (s.updateToDb o g t).log
      = { s.log with
          next := s.log.next + 1
          released := cancelled s.log.next t (entry s.dbEntityMap o g) ++ s.log.released } := by
  unfold updateToDb
  rcases ho : s.dbEntityMap[o]? with _ | m
  · simp [entry, ho, cancelled]
  · rcases hg : m[g]? with _ | info
    · simp [entry, ho, hg, cancelled]
    · by_cases hadd : info.opType = .add
      · by_cases hrem : t = .remove
        · simp [entry, ho, hg, cancelled, hadd, hrem]
        · simp [entry, ho, hg, cancelled, hadd, hrem]
      · simp [entry, ho, hg, cancelled, hadd]

/-- Recording touches the pending entries and the history only. -/
theorem updateToDb_eq (o g : UInt64) (t : EntityOpType) :
    s.updateToDb o g t =
      { s with
        dbEntityMap := (s.updateToDb o g t).dbEntityMap
        log := (s.updateToDb o g t).log } := by
  unfold updateToDb
  rcases ho : s.dbEntityMap[o]? with _ | m
  · simp only [ho]
  · rcases hg : m[g]? with _ | info
    · simp only [ho, hg]
    · simp only [ho, hg]
      split
      · split <;> rfl
      · rfl

@[simp]
theorem updateToDb_updatingDbEntityMap (o g : UInt64) (t : EntityOpType) :
    (s.updateToDb o g t).updatingDbEntityMap = s.updatingDbEntityMap := by
  rw [updateToDb_eq]

@[simp]
theorem updateToDb_requestInfoVec (o g : UInt64) (t : EntityOpType) :
    (s.updateToDb o g t).requestInfoVec = s.requestInfoVec := by
  rw [updateToDb_eq]

@[simp]
theorem updateToDb_entityMap (o g : UInt64) (t : EntityOpType) :
    (s.updateToDb o g t).entityMap = s.entityMap := by
  rw [updateToDb_eq]

end PoolImp

/-! ## §2. Starting a batch. -/

/-- The entries of one owner that stay in a batch. -/
def keptEntries (entityMap : TreeMap UInt64 (EntityInfo μ)) (m : DbEntityMap) : DbEntityMap :=
  m.filterMap (fun _ info => (info.turn entityMap).map (·.1))

/-- The requests made for the entries of one owner. -/
def batchRequests (entityMap : TreeMap UInt64 (EntityInfo μ)) (m : DbEntityMap) :
    List (Request μ) :=
  (m.toList.map (·.2)).filterMap (fun info => (info.turn entityMap).bind (·.2))

/-- The operations given up because their entity is being flushed. -/
def flushedChanges (entityMap : TreeMap UInt64 (EntityInfo μ)) (m : DbEntityMap) : List Nat :=
  ((m.toList.map (·.2)).filter (·.flushing entityMap)).flatMap (·.changes)

namespace PoolImp

variable (s : PoolImp μ)

/-- What one owner's turn leaves under the owner. -/
def ownerEntries (entityMap : TreeMap UInt64 (EntityInfo μ)) (m : DbEntityMap) :
    Option DbEntityMap :=
  if (batchRequests entityMap m).isEmpty then none else some (keptEntries entityMap m)

private theorem batchRequests_of_isEmpty {em : TreeMap UInt64 (EntityInfo μ)} {m : DbEntityMap}
    (h : m.isEmpty = true) : batchRequests em m = [] := by
  have hl : m.toList = [] := by
    have := TreeMap.isEmpty_toList (t := m)
    rw [h] at this
    exact List.isEmpty_iff.mp this
  simp [batchRequests, hl]

private theorem flushedChanges_of_isEmpty {em : TreeMap UInt64 (EntityInfo μ)} {m : DbEntityMap}
    (h : m.isEmpty = true) : flushedChanges em m = [] := by
  have hl : m.toList = [] := by
    have := TreeMap.isEmpty_toList (t := m)
    rw [h] at this
    exact List.isEmpty_iff.mp this
  simp [flushedChanges, hl]

/-- The list committed for one owner, if any. -/
def ownerList (s : PoolImp μ) (m : DbEntityMap) : List (RequestInfo μ) :=
  if (batchRequests s.entityMap m).isEmpty then []
  else [{ requestList :=
            { requestId := s.requestId + 1, requestVec := batchRequests s.entityMap m },
          callBack := .updateToDb }]

/-- The pool when the list of one owner is created. -/
def openList (s : PoolImp μ) (m : DbEntityMap) : PoolImp μ :=
  { s with
    requestId := s.requestId + 1
    log := { s.log with released := flushedChanges s.entityMap m ++ s.log.released } }

theorem updateDbEntity_of_isEmpty {m : DbEntityMap}
    (h : (batchRequests s.entityMap m).isEmpty = true) :
    s.updateDbEntity m = (s.openList m, keptEntries s.entityMap m, false) :=
  if_pos h

theorem updateDbEntity_of_not_isEmpty {m : DbEntityMap}
    (h : ¬ (batchRequests s.entityMap m).isEmpty = true) :
    s.updateDbEntity m =
      (commit { s.openList m with updateToDbNum := s.updateToDbNum + 1 }
        { requestId := s.requestId + 1, requestVec := batchRequests s.entityMap m } .updateToDb,
        keptEntries s.entityMap m, true) :=
  if_neg h

/-- One owner's turn, field by field. -/
theorem updateOwner_spec (e : UInt64 × DbEntityMap) :
    (s.updateOwner e).entityMap = s.entityMap ∧
    (s.updateOwner e).dbEntityMap = s.dbEntityMap ∧
    (s.updateOwner e).updatingDbEntityMap
      = (match ownerEntries s.entityMap e.2 with
        | none => s.updatingDbEntityMap.erase e.1
        | some m => s.updatingDbEntityMap.insert e.1 m) ∧
    (s.updateOwner e).requestInfoVec = s.requestInfoVec ++ s.ownerList e.2 ∧
    (s.updateOwner e).log
      = { s.log with released := flushedChanges s.entityMap e.2 ++ s.log.released } := by
  unfold updateOwner
  by_cases hemp : e.2.isEmpty = true
  · simp [hemp, ownerEntries, ownerList, batchRequests_of_isEmpty hemp,
      flushedChanges_of_isEmpty hemp]
  · by_cases hreq : (batchRequests s.entityMap e.2).isEmpty = true
    · rw [if_neg hemp, s.updateDbEntity_of_isEmpty hreq]
      simp [ownerEntries, ownerList, hreq, openList]
    · rw [if_neg hemp, s.updateDbEntity_of_not_isEmpty hreq]
      simp [ownerEntries, ownerList, hreq, openList, commit]

/-- Seen through one owner, the loop of `update` is a step on that owner alone. -/
theorem updateOwner_keyed :
    KeyedStep (fun e : UInt64 × DbEntityMap => e.1)
      (fun (s : PoolImp μ) o => (s.entityMap, s.updatingDbEntityMap[o]?)) updateOwner
      (fun v e => (v.1, ownerEntries v.1 e.2)) where
  at_key s e := by
    obtain ⟨hem, -, hup, -, -⟩ := s.updateOwner_spec e
    rw [hem, hup]
    cases ownerEntries s.entityMap e.2 with
    | none => simp
    | some m => simp
  frame s e o ho := by
    obtain ⟨hem, -, hup, -, -⟩ := s.updateOwner_spec e
    have hne : e.1 ≠ o := Ne.symm ho
    rw [hem, hup]
    cases ownerEntries s.entityMap e.2 with
    | none => simp [TreeMap.getElem?_erase, hne]
    | some m => simp [TreeMap.getElem?_insert, hne]

/-- A list as the batch commits it. -/
def FreshList (ri : RequestInfo μ) : Prop :=
  ri.callBack = .updateToDb ∧ ri.requestList.complated = false ∧
    ri.requestList.complatedCount = 0

/-- The requests of one owner, unless there are none. -/
def ownerRequests (entityMap : TreeMap UInt64 (EntityInfo μ)) (e : UInt64 × DbEntityMap) :
    Option (List (Request μ)) :=
  if (batchRequests entityMap e.2).isEmpty then none else some (batchRequests entityMap e.2)

/-- The loop over the owners, for everything but the owners' entries. -/
theorem foldl_updateOwner (l : List (UInt64 × DbEntityMap)) (s : PoolImp μ) :
    (l.foldl updateOwner s).entityMap = s.entityMap ∧
    (l.foldl updateOwner s).dbEntityMap = s.dbEntityMap ∧
    (∃ lists, (l.foldl updateOwner s).requestInfoVec = s.requestInfoVec ++ lists ∧
      lists.map (·.requestList.requestVec) = l.filterMap (ownerRequests s.entityMap) ∧
      ∀ ri ∈ lists, FreshList ri) ∧
    (∃ flushed, (l.foldl updateOwner s).log
        = { s.log with released := flushed ++ s.log.released } ∧
      ∀ n, n ∈ flushed ↔ ∃ e ∈ l, n ∈ flushedChanges s.entityMap e.2) := by
  induction l generalizing s with
  | nil => exact ⟨rfl, rfl, ⟨[], by simp, rfl, by simp⟩, ⟨[], rfl, by simp⟩⟩
  | cons e l ih =>
      obtain ⟨hem, hdb, -, hvec, hlog⟩ := s.updateOwner_spec e
      obtain ⟨ihem, ihdb, ⟨lists, ihvec, ihmap, ihfresh⟩, ⟨flushed, ihlog, ihfl⟩⟩ :=
        ih (s.updateOwner e)
      rw [hem] at ihem ihmap ihfl
      rw [List.foldl_cons]
      refine ⟨ihem, ihdb.trans hdb, ⟨s.ownerList e.2 ++ lists, ?_, ?_, ?_⟩,
        ⟨flushed ++ flushedChanges s.entityMap e.2, ?_, ?_⟩⟩
      · rw [ihvec, hvec, List.append_assoc]
      · rw [List.map_append, ihmap]
        by_cases hreq : (batchRequests s.entityMap e.2).isEmpty = true
        · simp [ownerList, ownerRequests, hreq]
        · simp [ownerList, ownerRequests, hreq]
      · intro ri hri
        rcases List.mem_append.mp hri with h | h
        · unfold ownerList at h
          split at h
          · simp at h
          · obtain rfl := List.mem_singleton.mp h
            exact ⟨rfl, rfl, rfl⟩
        · exact ihfresh ri h
      · rw [ihlog, hlog, List.append_assoc]
      · intro n
        rw [List.mem_append, ihfl]
        simp only [List.mem_cons, exists_eq_or_imp]
        exact or_comm

end PoolImp

/-- The keys of a listed map are distinct. -/
theorem nodup_keys_toList {β : Type} (m : TreeMap UInt64 β) :
    (m.toList.map (fun e => e.1)).Nodup := by
  rw [List.Nodup, List.pairwise_map]
  refine m.distinct_keys_toList.imp ?_
  intro a b hab heq
  exact hab (by rw [heq]; exact Std.ReflCmp.compare_self)

namespace PoolImp

variable (s : PoolImp μ)

/-- The pool as the loop of `update` starts on it. -/
def batchStart (s : PoolImp μ) : PoolImp μ :=
  { s with
    doNotGetTheReplayTime := 0
    updatingDbEntityMap := s.dbEntityMap
    dbEntityMap := {} }

theorem startBatch_eq : s.startBatch = s.dbEntityMap.toList.foldl updateOwner s.batchStart :=
  rfl

/-- **A batch, entry by entry**: under each owner stays what that owner's turn leaves. -/
theorem startBatch_updating (o : UInt64) :
    s.startBatch.updatingDbEntityMap[o]?
      = (s.dbEntityMap[o]?).bind (ownerEntries s.entityMap) := by
  rw [startBatch_eq]
  rcases ho : s.dbEntityMap[o]? with _ | m
  · have hne : ∀ e ∈ s.dbEntityMap.toList, e.1 ≠ o := by
      intro e he heq
      obtain ⟨o', m⟩ := e
      obtain rfl : o' = o := heq
      rw [TreeMap.mem_toList_iff_getElem?_eq_some, ho] at he
      cases he
    have := congrArg Prod.snd (updateOwner_keyed.foldl_of_forall_ne s.batchStart hne)
    simpa [batchStart, ho] using this
  · have hmem : (o, m) ∈ s.dbEntityMap.toList :=
      TreeMap.mem_toList_iff_getElem?_eq_some.mpr ho
    have := congrArg Prod.snd
      (updateOwner_keyed.foldl_of_nodup (nodup_keys_toList _) s.batchStart hmem)
    simpa [batchStart] using this

/-- **A batch, all else**: nothing stays pending, and one list an owner is committed. -/
theorem startBatch_spec :
    s.startBatch.entityMap = s.entityMap ∧
    s.startBatch.dbEntityMap = {} ∧
    (∃ lists, s.startBatch.requestInfoVec = s.requestInfoVec ++ lists ∧
      lists.map (·.requestList.requestVec)
        = s.dbEntityMap.toList.filterMap (ownerRequests s.entityMap) ∧
      ∀ ri ∈ lists, FreshList ri) ∧
    (∃ flushed, s.startBatch.log = { s.log with released := flushed ++ s.log.released } ∧
      ∀ n, n ∈ flushed ↔ ∃ e ∈ s.dbEntityMap.toList, n ∈ flushedChanges s.entityMap e.2) :=
  foldl_updateOwner _ s.batchStart

end PoolImp

/-! ## §3. Replies. -/

theorem handlePacket_requestId (rl : RequestList μ) (g : UInt64) (reply : CacheReply μ) :
    (rl.handlePacket g reply).requestId = rl.requestId := by
  unfold RequestList.handlePacket
  split <;> rfl

/-- The elements of a list that is taken apart at one of them. -/
theorem mem_middle {α : Type*} {a x : α} {pre post : List α} :
    x ∈ pre ++ a :: post ↔ x = a ∨ x ∈ pre ++ post :=
  List.perm_middle.mem_iff.trans List.mem_cons

/-- The request that takes the reply, and the ones around it. -/
theorem handleFirst_split {guid : UInt64} (reply : CacheReply μ) {rs : List (Request μ)}
    (h : ∃ r ∈ rs, r.guid = guid) :
    ∃ pre r post, rs = pre ++ r :: post ∧ r.guid = guid ∧
      rs.find? (·.guid == guid) = some r ∧
      handleFirst guid reply rs = pre ++ r.handlePacket reply :: post := by
  induction rs with
  | nil => simp at h
  | cons r rs ih =>
      by_cases hr : r.guid = guid
      · exact ⟨[], r, rs, rfl, hr, by simp [hr], by simp [handleFirst, hr]⟩
      · obtain ⟨x, hx, hxg⟩ := h
        have hx' : x ∈ rs := by
          rcases List.mem_cons.mp hx with rfl | h
          · exact absurd hxg hr
          · exact h
        obtain ⟨pre, y, post, hrs, hy, hfind, hout⟩ := ih ⟨x, hx', hxg⟩
        refine ⟨r :: pre, y, post, by rw [hrs, List.cons_append], hy, ?_, ?_⟩
        · rw [List.find?_cons_of_neg (by simpa using hr), hfind]
        · rw [handleFirst, if_neg hr, hout, List.cons_append]

/-- **A reply concerns one list, or none**: the list stays with the reply
taken, or leaves complete. -/
theorem handleVec_cases (guid : UInt64) (requestId : Nat) (reply : CacheReply μ)
    (vec : List (RequestInfo μ)) :
    ((handleVec guid requestId reply vec) = (vec, none) ∧
      vec.find? (·.requestList.requestId == requestId) = none) ∨
    ∃ pre ri post, vec = pre ++ ri :: post ∧ ri.requestList.requestId = requestId ∧
      vec.find? (·.requestList.requestId == requestId) = some ri ∧
      handleVec guid requestId reply vec =
        (if (ri.requestList.handlePacket guid reply).complated then
          (pre ++ post, some { ri with requestList := ri.requestList.handlePacket guid reply })
        else (pre ++ { ri with requestList := ri.requestList.handlePacket guid reply } :: post,
          none)) := by
  induction vec with
  | nil => exact .inl ⟨rfl, rfl⟩
  | cons ri vec ih =>
      by_cases hid : ri.requestList.requestId = requestId
      · refine .inr ⟨[], ri, vec, rfl, hid, by simp [hid], ?_⟩
        simp [handleVec, hid]
      · rcases ih with ⟨hout, hfind⟩ | ⟨pre, x, post, rfl, hx, hfind, hout⟩
        · refine .inl ⟨?_, ?_⟩
          · rw [handleVec, if_neg hid, hout]
          · simp [hid, hfind]
        · refine .inr ⟨ri :: pre, x, post, rfl, hx, ?_, ?_⟩
          · simp [hid, hfind]
          · rw [handleVec, if_neg hid, hout]
            split <;> rfl

namespace PoolImp

variable (s : PoolImp μ)

/-- Writing back changes the entities only, as far as the records go. -/
theorem writtenBack_spec (info : DbEntityInfo) :
    (s.writtenBack info).dbEntityMap = s.dbEntityMap ∧
    (s.writtenBack info).updatingDbEntityMap = s.updatingDbEntityMap ∧
    (s.writtenBack info).requestInfoVec = s.requestInfoVec ∧
    (s.writtenBack info).log = s.log := by
  have hcheck : ∀ g, (s.checkShouldRemovedEntity g).dbEntityMap = s.dbEntityMap ∧
      (s.checkShouldRemovedEntity g).updatingDbEntityMap = s.updatingDbEntityMap ∧
      (s.checkShouldRemovedEntity g).requestInfoVec = s.requestInfoVec ∧
      (s.checkShouldRemovedEntity g).log = s.log := by
    intro g
    unfold checkShouldRemovedEntity
    split
    · split <;> exact ⟨rfl, rfl, rfl, rfl⟩
    · exact ⟨rfl, rfl, rfl, rfl⟩
  have hremove : ∀ g, (s.remove g false true).1.dbEntityMap = s.dbEntityMap ∧
      (s.remove g false true).1.updatingDbEntityMap = s.updatingDbEntityMap ∧
      (s.remove g false true).1.requestInfoVec = s.requestInfoVec ∧
      (s.remove g false true).1.log = s.log := by
    intro g
    unfold remove
    by_cases hp : guidType g = etPlayer
    · simp only [hp, if_true]
      split
      · exact ⟨rfl, rfl, rfl, rfl⟩
      · split
        · exact ⟨rfl, rfl, rfl, rfl⟩
        · split <;> exact ⟨rfl, rfl, rfl, rfl⟩
    · simp only [hp, if_false]
      split
      · exact ⟨rfl, rfl, rfl, rfl⟩
      · split
        · exact ⟨rfl, rfl, rfl, rfl⟩
        · split <;> exact ⟨rfl, rfl, rfl, rfl⟩
  unfold writtenBack
  split
  · exact hcheck _
  · exact hcheck _
  · exact hcheck _
  · exact hremove _
  · exact ⟨rfl, rfl, rfl, rfl⟩

/-- The entry after the reply to its request is in. -/
def answeredEntry (success : Bool) : Option DbEntityInfo → Option DbEntityInfo
  | none => none
  | some info =>
      if success && info.alreadyRequest then none
      else if !success then some { info with alreadyRequest := false }
      else some info

/-- The inner map that `removeDbInfo` puts back, and the pool it works on by then. -/
def takeAnswer (s : PoolImp μ) (m : DbEntityMap) (guid : UInt64) (success : Bool) :
    PoolImp μ × DbEntityMap :=
  match m[guid]? with
  | none => (s, m)
  | some dbInfo =>
      if success && dbInfo.alreadyRequest then (s.writtenBack dbInfo, m.erase guid)
      else if !success then (s, m.insert guid { dbInfo with alreadyRequest := false })
      else (s, m)

theorem removeDbInfo_eq {o : UInt64} {m : DbEntityMap}
    (ho : s.updatingDbEntityMap[o]? = some m) (g : UInt64) (ok : Bool) :
    s.removeDbInfo o g ok =
      { (s.takeAnswer m g ok).1 with
        updatingDbEntityMap :=
          if (s.takeAnswer m g ok).2.isEmpty then
            (s.takeAnswer m g ok).1.updatingDbEntityMap.erase o
          else (s.takeAnswer m g ok).1.updatingDbEntityMap.insert o (s.takeAnswer m g ok).2 } := by
  unfold removeDbInfo
  rw [ho]
  rfl

private theorem takeAnswer_spec (m : DbEntityMap) (g : UInt64) (ok : Bool) :
    (s.takeAnswer m g ok).1.dbEntityMap = s.dbEntityMap ∧
    (s.takeAnswer m g ok).1.updatingDbEntityMap = s.updatingDbEntityMap ∧
    (s.takeAnswer m g ok).1.requestInfoVec = s.requestInfoVec ∧
    (s.takeAnswer m g ok).1.log = s.log := by
  unfold takeAnswer
  split
  · exact ⟨rfl, rfl, rfl, rfl⟩
  · split
    · exact s.writtenBack_spec _
    · split <;> exact ⟨rfl, rfl, rfl, rfl⟩

private theorem takeAnswer_getElem? (m : DbEntityMap) (g : UInt64) (ok : Bool) (g' : UInt64) :
    (s.takeAnswer m g ok).2[g']?
      = if g' = g then answeredEntry ok (m[g]?) else m[g']? := by
  unfold takeAnswer
  rcases hg : m[g]? with _ | info
  · by_cases h : g' = g
    · simp [h, hg, answeredEntry]
    · simp [h]
  · have hflip : g' ≠ g → ¬ g = g' := fun h h' => h h'.symm
    by_cases hok : (ok && info.alreadyRequest) = true
    · by_cases h : g' = g
      · simp [h, answeredEntry, hok]
      · simp [h, hok, TreeMap.getElem?_erase, hflip h]
    · by_cases hno : (!ok) = true
      · by_cases h : g' = g
        · simp [h, answeredEntry, hok, hno]
        · simp [h, hok, hno, TreeMap.getElem?_insert, hflip h]
      · by_cases h : g' = g
        · simp [h, answeredEntry, hok, hno, hg]
        · simp [h, hok, hno]

/-- **A written entry leaves, a failed one stays**; no other entry changes. -/
theorem removeDbInfo_entry (o g : UInt64) (ok : Bool) (o' g' : UInt64) :
    entry (s.removeDbInfo o g ok).updatingDbEntityMap o' g'
      = if o' = o ∧ g' = g then answeredEntry ok (entry s.updatingDbEntityMap o g)
        else entry s.updatingDbEntityMap o' g' := by
  rcases ho : s.updatingDbEntityMap[o]? with _ | m
  · have hsame : s.removeDbInfo o g ok = s := by
      unfold removeDbInfo
      rw [ho]
    have hnone : entry s.updatingDbEntityMap o g = none := by simp [entry, ho]
    rw [hsame, hnone]
    split
    · next h => rw [h.1, h.2, hnone]; rfl
    · rfl
  · obtain ⟨-, hup, -, -⟩ := s.takeAnswer_spec m g ok
    have hm := s.takeAnswer_getElem? m g ok
    rw [s.removeDbInfo_eq ho, entry_of_getElem? ho]
    show entry (if _ then _ else _) o' g' = _
    rw [hup]
    -- the owner's map is erased exactly when it is empty, so both branches agree
    have hboth : entry (if (s.takeAnswer m g ok).2.isEmpty
          then s.updatingDbEntityMap.erase o
          else s.updatingDbEntityMap.insert o (s.takeAnswer m g ok).2) o' g'
        = if o' = o then (s.takeAnswer m g ok).2[g']? else entry s.updatingDbEntityMap o' g' := by
      split
      · next hemp => rw [entry_erase, TreeMap.getElem?_of_isEmpty hemp]
      · rw [entry_insert]
    rw [hboth]
    by_cases hoo : o' = o
    · subst hoo
      rw [if_pos rfl, hm g', entry_of_getElem? ho]
      by_cases hgg : g' = g
      · simp [hgg]
      · simp [hgg]
    · simp [hoo]

/-- Taking an answer in leaves an entry its operation. -/
theorem removeDbInfo_opType {o g : UInt64} {ok : Bool} {o' g' : UInt64} {info : DbEntityInfo}
    (h : entry (s.removeDbInfo o g ok).updatingDbEntityMap o' g' = some info) :
    ∃ info₀, entry s.updatingDbEntityMap o' g' = some info₀ ∧ info₀.opType = info.opType := by
  rw [removeDbInfo_entry] at h
  by_cases hkey : o' = o ∧ g' = g
  · rw [if_pos hkey] at h
    rw [hkey.1, hkey.2]
    match hold : entry s.updatingDbEntityMap o g with
    | none =>
        rw [hold] at h
        cases h
    | some old =>
        rw [hold] at h
        unfold answeredEntry at h
        dsimp only at h
        split at h
        · cases h
        · split at h
          · obtain rfl := Option.some.inj h
            exact ⟨old, rfl, rfl⟩
          · obtain rfl := Option.some.inj h
            exact ⟨old, rfl, rfl⟩
  · rw [if_neg hkey] at h
    exact ⟨info, h, rfl⟩

/-- A reply is noted in the history only. -/
theorem logReply_eq (reply : CacheReply μ) (answered : Option (Request μ)) :
    s.logReply reply answered = { s with log := (s.logReply reply answered).log } := by
  unfold logReply
  split
  · rfl
  · split <;> rfl

/-- Taking an answer in touches no pending entry, no list and no history. -/
theorem removeDbInfo_spec (o g : UInt64) (ok : Bool) :
    (s.removeDbInfo o g ok).dbEntityMap = s.dbEntityMap ∧
    (s.removeDbInfo o g ok).requestInfoVec = s.requestInfoVec ∧
    (s.removeDbInfo o g ok).log = s.log := by
  rcases ho : s.updatingDbEntityMap[o]? with _ | m
  · have hsame : s.removeDbInfo o g ok = s := by
      unfold removeDbInfo
      rw [ho]
    rw [hsame]
    exact ⟨rfl, rfl, rfl⟩
  · obtain ⟨hdb, -, hvec, hlog⟩ := s.takeAnswer_spec m g ok
    rw [s.removeDbInfo_eq ho]
    exact ⟨hdb, hvec, hlog⟩

end PoolImp

end Steppingstone.Pool
