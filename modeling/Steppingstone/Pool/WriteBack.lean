/-
  Steppingstone.Pool.WriteBack — no recorded operation is lost on its way to
  the cache.

  An operation that `updateToDb` has recorded is to stay in one of the two
  owner maps until a request that carried it is answered with success, unless
  it is cancelled before it is sent, handed over, or given up for a flush; and
  one that was answered with a failure is to be sent again.
-/
import Steppingstone.Pool.Spec

namespace Steppingstone.Pool

open Std (TreeMap)
open NestedMap

variable {μ : Type}

/-! ## §1. The property. -/

/-- The operations that the entries of an owner map stand for. -/
def changesOf (m : OwnerDbEntityMap) : List Nat :=
  (values m).flatMap (·.changes)

/-- The operations carried by the requests of lists that are not complete. -/
def PoolImp.outstanding (s : PoolImp μ) : List Nat :=
  s.requestInfoVec.flatMap (fun ri => ri.requestList.requestVec.flatMap (·.changes))

/-- **Nothing is lost.** -/
structure NothingLost (s : PoolImp μ) : Prop where
  /-- What was recorded is written, released, or still in one of the maps. -/
  recorded : ∀ n < s.log.next, n ∈ s.log.acked ∨ n ∈ s.log.released ∨
    n ∈ changesOf s.dbEntityMap ∨ n ∈ changesOf s.updatingDbEntityMap
  /-- What failed is pending again once its list is complete. -/
  sentAgain : ∀ n ∈ s.log.failed, n ∈ s.log.acked ∨ n ∈ s.log.released ∨
    n ∈ changesOf s.dbEntityMap ∨ n ∈ s.outstanding

/-- The calls the write-back is about: additions and removals that go to the
database, updates, frames, replies, hand-overs and flushes. -/
def WriteBackAction : Action μ → Prop
  | .add _ _ addToDb _ => addToDb = true
  | .remove _ removeFromDb _ => removeFromDb = true
  | .playerIsOnline _ | .playerIsOffline _ | .commit _ => False
  | _ => True

/-- Does the frame update start a batch? -/
def StartsBatch (s : PoolImp μ) : Prop :=
  s.dbEntityMap.isEmpty = false ∧ s.updateToDbNum = 0

/-- The condition on a step: a batch starts only when nothing is left of the
last one and every pending ADD or UPDATE still has its entity, and a reply that
completes a list reports success, as the other replies of the list did. -/
def KeepsChanges (s : PoolImp μ) : Action μ → Prop
  | .update => StartsBatch s → s.updatingDbEntityMap.isEmpty = true ∧
      ∀ info ∈ values s.dbEntityMap, info.opType ≠ .remove →
        (s.entityMap[info.guid]?).isSome = true
  | .reply i reply => ∀ p ∈ s.inFlight[i]?, ∀ ri ∈ s.requestInfoVec,
      ri.requestList.requestId = p.requestId →
      ri.requestList.complatedCount + 1 = ri.requestList.requestVec.length →
        reply.isNormal = true ∧
        ∀ r ∈ ri.requestList.requestVec, r.guid ≠ p.guid → r.success = true
  | _ => True

instance (s : PoolImp μ) : Decidable (StartsBatch s) :=
  inferInstanceAs (Decidable (_ ∧ _))

instance : (s : PoolImp μ) → (a : Action μ) → Decidable (KeepsChanges s a)
  | s, .update => inferInstanceAs (Decidable (StartsBatch s → _ ∧
      ∀ info ∈ values s.dbEntityMap, info.opType ≠ .remove →
        (s.entityMap[info.guid]?).isSome = true))
  | s, .reply i reply => inferInstanceAs (Decidable (∀ p ∈ s.inFlight[i]?,
      ∀ ri ∈ s.requestInfoVec, ri.requestList.requestId = p.requestId →
      ri.requestList.complatedCount + 1 = ri.requestList.requestVec.length →
        reply.isNormal = true ∧
        ∀ r ∈ ri.requestList.requestVec, r.guid ≠ p.guid → r.success = true))
  | _, .add .. | _, .remove .. | _, .updateGuid _ | _, .clearUpdateEntity _ | _, .getWhileFlush _
  | _, .clearFlushState _ | _, .write .. | _, .playerIsOnline _ | _, .playerIsOffline _
  | _, .commit _ => inferInstanceAs (Decidable True)

/-! ## §2. The invariant. -/

theorem mem_changesOf {m : OwnerDbEntityMap} {n : Nat} :
    n ∈ changesOf m ↔ ∃ o g info, entry m o g = some info ∧ n ∈ info.changes := by
  simp only [changesOf, List.mem_flatMap, mem_values]
  constructor
  · rintro ⟨info, ⟨o, g, h⟩, hn⟩
    exact ⟨o, g, info, h, hn⟩
  · rintro ⟨o, g, info, h, hn⟩
    exact ⟨info, ⟨o, g, h⟩, hn⟩

theorem PoolImp.mem_outstanding {s : PoolImp μ} {n : Nat} :
    n ∈ s.outstanding ↔
      ∃ ri ∈ s.requestInfoVec, ∃ r ∈ ri.requestList.requestVec, n ∈ r.changes := by
  simp only [PoolImp.outstanding, List.mem_flatMap]

/-- An entry as `updateToDb` leaves it. -/
structure PendingEntry (o g : UInt64) (info : DbEntityInfo) : Prop where
  notRequested : info.alreadyRequest = false
  guid : info.guid = g
  ownerGuid : info.ownerGuid = o
  opType : info.opType = .add ∨ info.opType = .remove ∨ info.opType = .update

/-- A list of a batch: each request that succeeded is written, and each
request still has its entry. -/
structure BatchList (s : PoolImp μ) (ri : RequestInfo μ) : Prop where
  callBack : ri.callBack = .updateToDb
  nonempty : ri.requestList.requestVec ≠ []
  nodup : (ri.requestList.requestVec.map (·.guid)).Nodup
  written : ∀ r ∈ ri.requestList.requestVec, r.success = true →
    ∀ n ∈ r.changes, n ∈ s.log.acked
  entry : ∀ r ∈ ri.requestList.requestVec, ∃ info,
    entry s.updatingDbEntityMap r.ownerGuid r.guid = some info ∧
      ∀ n ∈ info.changes, n ∈ r.changes

/-- No owner has requests in both lists. -/
def OtherOwners (a b : RequestInfo μ) : Prop :=
  ∀ r ∈ a.requestList.requestVec, ∀ r' ∈ b.requestList.requestVec, r.ownerGuid ≠ r'.ownerGuid

/-- **The invariant** of the runs that keep every change. -/
structure Tracked (s : PoolImp μ) : Prop where
  kept : NothingLost s
  pending : ∀ o g info, entry s.dbEntityMap o g = some info → PendingEntry o g info
  lists : ∀ ri ∈ s.requestInfoVec, ri.requestList.complated = false ∧ BatchList s ri
  owners : s.requestInfoVec.Pairwise OtherOwners

/-- The invariant speaks about the two maps, the lists and the history only. -/
theorem Tracked.congr {s s' : PoolImp μ} (h : Tracked s)
    (hdb : s'.dbEntityMap = s.dbEntityMap)
    (hup : s'.updatingDbEntityMap = s.updatingDbEntityMap)
    (hvec : s'.requestInfoVec = s.requestInfoVec) (hlog : s'.log = s.log) : Tracked s' := by
  have hout : s'.outstanding = s.outstanding := by
    unfold PoolImp.outstanding
    rw [hvec]
  refine ⟨⟨?_, ?_⟩, ?_, ?_, ?_⟩
  · rw [hdb, hup, hlog]
    exact h.kept.recorded
  · rw [hdb, hlog, hout]
    exact h.kept.sentAgain
  · rw [hdb]
    exact h.pending
  · rw [hvec]
    intro ri hri
    obtain ⟨h1, h2, h3, h4, h5, h6⟩ := h.lists ri hri
    refine ⟨h1, h2, h3, h4, ?_, ?_⟩
    · rw [hlog]
      exact h5
    · rw [hup]
      exact h6
  · rw [hvec]
    exact h.owners

theorem tracked_new (cfg : PoolCfg) : Tracked ({ cfg } : PoolImp μ) := by
  refine ⟨⟨?_, ?_⟩, ?_, ?_, ?_⟩
  · intro n hn
    exact absurd hn (Nat.not_lt_zero n)
  · intro n hn
    simp at hn
  · intro o g info h
    simp at h
  · intro ri hri
    simp at hri
  · exact List.Pairwise.nil

/-! ## §3. Recording and handing over. -/

theorem pendingEntry_coalesce {n : Nat} {t : EntityOpType} {o g : UInt64}
    {old : Option DbEntityInfo} {info : DbEntityInfo}
    (ht : t = .add ∨ t = .remove ∨ t = .update)
    (hold : ∀ i, old = some i → PendingEntry o g i)
    (h : coalesce n t o g old = some info) : PendingEntry o g info := by
  cases old with
  | none =>
      obtain rfl := Option.some.inj h
      exact ⟨rfl, rfl, rfl, ht⟩
  | some i =>
      obtain ⟨-, hg, ho, -⟩ := hold i rfl
      unfold coalesce at h
      by_cases hadd : i.opType = .add
      · by_cases hrem : t = .remove
        · simp [hadd, hrem] at h
        · simp only [hadd, hrem, if_true, if_false] at h
          obtain rfl := Option.some.inj h
          exact ⟨rfl, hg, ho, .inl rfl⟩
      · simp only [hadd, if_false] at h
        obtain rfl := Option.some.inj h
        exact ⟨rfl, hg, ho, ht⟩

/-- Whatever the entry stood for, and the operation itself, is in the new entry
or cancelled. -/
theorem mem_coalesce_or_cancelled (n : Nat) (t : EntityOpType) (o g : UInt64)
    (old : Option DbEntityInfo) {k : Nat}
    (hk : k = n ∨ ∃ i, old = some i ∧ k ∈ i.changes) :
    k ∈ cancelled n t old ∨ ∃ i, coalesce n t o g old = some i ∧ k ∈ i.changes := by
  cases old with
  | none =>
      obtain rfl : k = n := by simpa using hk
      exact .inr ⟨_, rfl, by simp⟩
  | some i =>
      have hmem : k ∈ n :: i.changes := by simpa using hk
      unfold coalesce cancelled
      by_cases hadd : i.opType = .add
      · by_cases hrem : t = .remove
        · exact .inl (by simpa [hadd, hrem] using hmem)
        · simp only [hadd, hrem, if_true, if_false]
          exact .inr ⟨_, rfl, hmem⟩
      · simp only [hadd, if_false]
        exact .inr ⟨_, rfl, hmem⟩

/-- **Recording keeps the invariant.** -/
theorem tracked_updateToDb {s : PoolImp μ} (h : Tracked s) (o g : UInt64) {t : EntityOpType}
    (ht : t = .add ∨ t = .remove ∨ t = .update) : Tracked (s.updateToDb o g t) := by
  have hlog := s.updateToDb_log o g t
  have hentry := s.updateToDb_entry o g t
  -- an operation that was pending still is, unless it is cancelled now
  have hkeep : ∀ n, n ∈ changesOf s.dbEntityMap → n ∈ (s.updateToDb o g t).log.released ∨
      n ∈ changesOf (s.updateToDb o g t).dbEntityMap := by
    intro n hn
    obtain ⟨o', g', info, he, hni⟩ := mem_changesOf.mp hn
    by_cases hkey : o' = o ∧ g' = g
    · obtain ⟨rfl, rfl⟩ := hkey
      rcases mem_coalesce_or_cancelled s.log.next t o' g' _ (.inr ⟨info, he, hni⟩)
        with hc | ⟨i, hi, hni'⟩
      · exact .inl (by rw [hlog]; exact List.mem_append_left _ hc)
      · exact .inr (mem_changesOf.mpr ⟨o', g', i, by rw [hentry]; simpa using hi, hni'⟩)
    · exact .inr (mem_changesOf.mpr ⟨o', g', info, by rw [hentry, if_neg hkey]; exact he, hni⟩)
  have hrel : ∀ n, n ∈ s.log.released → n ∈ (s.updateToDb o g t).log.released := by
    intro n hn
    rw [hlog]
    exact List.mem_append_right _ hn
  have hout : (s.updateToDb o g t).outstanding = s.outstanding := by
    unfold PoolImp.outstanding
    rw [PoolImp.updateToDb_requestInfoVec]
  refine ⟨⟨?_, ?_⟩, ?_, ?_, ?_⟩
  · intro n hn
    rw [hlog] at hn
    rcases Nat.lt_succ_iff_lt_or_eq.mp hn with hlt | rfl
    · rcases h.kept.recorded n hlt with ha | hr | hd | hu
      · exact .inl (by rw [hlog]; exact ha)
      · exact .inr (.inl (hrel n hr))
      · rcases hkeep n hd with hr | hd'
        · exact .inr (.inl hr)
        · exact .inr (.inr (.inl hd'))
      · exact .inr (.inr (.inr (by simpa using hu)))
    · -- the operation just recorded
      rcases mem_coalesce_or_cancelled s.log.next t o g (entry s.dbEntityMap o g) (.inl rfl)
        with hc | ⟨i, hi, hni⟩
      · exact .inr (.inl (by rw [hlog]; exact List.mem_append_left _ hc))
      · exact .inr (.inr (.inl (mem_changesOf.mpr
          ⟨o, g, i, by rw [hentry]; simpa using hi, hni⟩)))
  · intro n hn
    rw [hlog] at hn
    rcases h.kept.sentAgain n hn with ha | hr | hd | ho
    · exact .inl (by rw [hlog]; exact ha)
    · exact .inr (.inl (hrel n hr))
    · rcases hkeep n hd with hr | hd'
      · exact .inr (.inl hr)
      · exact .inr (.inr (.inl hd'))
    · exact .inr (.inr (.inr (by rw [hout]; exact ho)))
  · intro o' g' info he
    rw [hentry] at he
    by_cases hkey : o' = o ∧ g' = g
    · obtain ⟨rfl, rfl⟩ := hkey
      exact pendingEntry_coalesce ht (fun i hi => h.pending _ _ i hi) (by simpa using he)
    · exact h.pending o' g' info (by simpa [hkey] using he)
  · intro ri hri
    rw [PoolImp.updateToDb_requestInfoVec] at hri
    obtain ⟨h1, h2, h3, h4, h5, h6⟩ := h.lists ri hri
    refine ⟨h1, h2, h3, h4, ?_, by simpa using h6⟩
    rw [hlog]
    exact h5
  · rw [PoolImp.updateToDb_requestInfoVec]
    exact h.owners

theorem tracked_add {s : PoolImp μ} (h : Tracked s) (g : UInt64) (message : Option μ)
    (addToDb : Bool) (o : UInt64) : Tracked (s.add g message addToDb o).1 := by
  unfold PoolImp.add
  cases message with
  | none => exact h
  | some msg =>
      dsimp only
      split
      · split
        · split
          · exact h.congr rfl rfl rfl rfl
          · refine tracked_updateToDb ?_ o g (.inl rfl)
            exact h.congr rfl rfl rfl rfl
        · exact h.congr rfl rfl rfl rfl
      · exact h.congr rfl rfl rfl rfl

theorem tracked_updateGuid {s : PoolImp μ} (h : Tracked s) (g : UInt64) :
    Tracked (s.updateGuid g).1 := by
  unfold PoolImp.updateGuid
  split
  · exact h
  · split
    · exact h
    · split
      · refine tracked_updateToDb ?_ _ g (.inr (.inr rfl))
        exact h.congr rfl rfl rfl rfl
      · exact h

theorem tracked_remove {s : PoolImp μ} (h : Tracked s) (g : UInt64) (fromDb removeMsg : Bool) :
    Tracked (s.remove g fromDb removeMsg).1 := by
  -- the player may leave the online set first
  have h0 : Tracked (if guidType g = etPlayer then
      { s with onlinePlayer := s.onlinePlayer.erase g } else s) := by
    split
    · exact h.congr rfl rfl rfl rfl
    · exact h
  unfold PoolImp.remove
  generalize (if guidType g = etPlayer then
    { s with onlinePlayer := s.onlinePlayer.erase g } else s) = s0 at h0 ⊢
  dsimp only
  split
  · exact h0
  · next o _ =>
      split
      · exact h0.congr rfl rfl rfl rfl
      · cases fromDb with
        | false =>
            simp only [Bool.not_false, Bool.true_and]
            split <;> exact h0.congr rfl rfl rfl rfl
        | true =>
            simp only [Bool.not_true, Bool.false_and, if_true]
            refine Tracked.congr (s := PoolImp.updateToDb
              { s0 with guidOwnerguidMap := s0.guidOwnerguidMap.erase g } o g .remove)
              ?_ rfl rfl rfl rfl
            refine tracked_updateToDb ?_ o g (.inr (.inl rfl))
            exact h0.congr rfl rfl rfl rfl

/-- **Handing over keeps the invariant**: everything pending for the owner is released. -/
theorem tracked_clearUpdateEntity {s : PoolImp μ} (h : Tracked s) (o : UInt64) :
    Tracked (s.clearUpdateEntity o).1 := by
  unfold PoolImp.clearUpdateEntity
  rcases ho : s.dbEntityMap[o]? with _ | m
  · exact h
  · dsimp only
    have hdb : ∀ n, n ∈ changesOf s.dbEntityMap →
        n ∈ (m.toList.map (·.2)).flatMap (·.changes) ∨ n ∈ changesOf (s.dbEntityMap.erase o) := by
      intro n hn
      obtain ⟨o', g', info, he, hni⟩ := mem_changesOf.mp hn
      by_cases hoo : o' = o
      · subst hoo
        rw [entry_of_getElem? ho] at he
        refine .inl (List.mem_flatMap.mpr ⟨info, List.mem_map.mpr ⟨(g', info), ?_, rfl⟩, hni⟩)
        exact TreeMap.mem_toList_iff_getElem?_eq_some.mpr he
      · exact .inr (mem_changesOf.mpr ⟨o', g', info, by rw [entry_erase, if_neg hoo]; exact he, hni⟩)
    refine ⟨⟨?_, ?_⟩, ?_, ?_, h.owners⟩
    · intro n hn
      rcases h.kept.recorded n hn with ha | hr | hd | hu
      · exact .inl ha
      · exact .inr (.inl (List.mem_append_right _ hr))
      · rcases hdb n hd with hm | hd'
        · exact .inr (.inl (List.mem_append_left _ hm))
        · exact .inr (.inr (.inl hd'))
      · exact .inr (.inr (.inr hu))
    · intro n hn
      rcases h.kept.sentAgain n hn with ha | hr | hd | hu
      · exact .inl ha
      · exact .inr (.inl (List.mem_append_right _ hr))
      · rcases hdb n hd with hm | hd'
        · exact .inr (.inl (List.mem_append_left _ hm))
        · exact .inr (.inr (.inl hd'))
      · exact .inr (.inr (.inr hu))
    · intro o' g' info he
      rw [entry_erase] at he
      split at he
      · cases he
      · exact h.pending o' g' info he
    · intro ri hri
      obtain ⟨h1, h2, h3, h4, h5, h6⟩ := h.lists ri hri
      exact ⟨h1, h2, h3, h4, h5, h6⟩

/-! ## §4. Starting a batch. -/

/-- A request is made from its entry. -/
theorem turn_request {em : TreeMap UInt64 (EntityInfo μ)} {info k : DbEntityInfo}
    {r : Request μ} (h : info.turn em = some (k, some r)) :
    k = { info with alreadyRequest := true } ∧ r.guid = info.guid ∧
      r.ownerGuid = info.ownerGuid ∧ r.changes = info.changes ∧ r.success = false := by
  unfold DbEntityInfo.turn at h
  split at h
  · cases h
  · split at h
    · cases h
      exact ⟨rfl, rfl, rfl, rfl, rfl⟩
    · split at h
      · cases h
      · split at h
        · cases h
        · split at h
          · cases h
            exact ⟨rfl, rfl, rfl, rfl, rfl⟩
          · cases h
            exact ⟨rfl, rfl, rfl, rfl, rfl⟩
          · cases h

/-- **A pending entry is sent**, unless its entity is being flushed or is gone. -/
theorem turn_pending {m : TreeMap UInt64 (EntityInfo μ)} {o g : UInt64} {info : DbEntityInfo}
    (h : PendingEntry o g info) :
    (∃ k r, info.turn m = some (k, some r)) ∨ info.flushing m = true ∨
      (info.opType ≠ .remove ∧ m[g]? = none) := by
  obtain ⟨hreq, rfl, -, hop⟩ := h
  unfold DbEntityInfo.turn DbEntityInfo.flushing
  by_cases hrem : info.opType = .remove
  · exact .inl ⟨_, _, by simp only [hreq, hrem]; rfl⟩
  · rcases he : m[info.guid]? with _ | e
    · exact .inr (.inr ⟨hrem, rfl⟩)
    · by_cases hfl : e.isFlushing = true
      · exact .inr (.inl (by simp [hreq, hrem, hfl]))
      · rcases hop with hop | hop | hop
        · exact .inl ⟨_, _, by simp only [hreq, hop, hfl]; rfl⟩
        · exact absurd hop hrem
        · exact .inl ⟨_, _, by simp only [hreq, hop, hfl]; rfl⟩

theorem mem_batchRequests {em : TreeMap UInt64 (EntityInfo μ)} {m : DbEntityMap}
    {r : Request μ} : r ∈ batchRequests em m ↔
      ∃ (g : UInt64) (info : DbEntityInfo), m[g]? = some info ∧
        ∃ k, info.turn em = some (k, some r) := by
  simp only [batchRequests, List.mem_filterMap, List.mem_map, Prod.exists,
    TreeMap.mem_toList_iff_getElem?_eq_some, Option.bind_eq_some_iff]
  constructor
  · rintro ⟨info, ⟨g, info', hg, rfl⟩, k, r', ht, rfl⟩
    exact ⟨g, info', hg, k, ht⟩
  · rintro ⟨g, info, hg, k, ht⟩
    exact ⟨info, ⟨g, info, hg, rfl⟩, k, some r, ht, rfl⟩

theorem mem_flushedChanges {em : TreeMap UInt64 (EntityInfo μ)} {m : DbEntityMap} {n : Nat} :
    n ∈ flushedChanges em m ↔
      ∃ (g : UInt64) (info : DbEntityInfo), m[g]? = some info ∧
        info.flushing em = true ∧ n ∈ info.changes := by
  simp only [flushedChanges, List.mem_flatMap, List.mem_filter, List.mem_map, Prod.exists,
    TreeMap.mem_toList_iff_getElem?_eq_some]
  constructor
  · rintro ⟨info, ⟨⟨g, info', hg, rfl⟩, hf⟩, hn⟩
    exact ⟨g, info', hg, hf, hn⟩
  · rintro ⟨g, info, hg, hf, hn⟩
    exact ⟨info, ⟨⟨g, info, hg, rfl⟩, hf⟩, hn⟩

/-- The guids of one owner's requests are among the keys, in order. -/
theorem nodup_batchRequests {em : TreeMap UInt64 (EntityInfo μ)} {m : DbEntityMap}
    (hkey : ∀ (g : UInt64) (info : DbEntityInfo), m[g]? = some info → info.guid = g) :
    ((batchRequests em m).map (·.guid)).Nodup := by
  have hsub : ∀ l : List (UInt64 × DbEntityInfo), (∀ e ∈ l, e.2.guid = e.1) →
      (((l.map (·.2)).filterMap (fun info => (info.turn em).bind (·.2))).map (·.guid)).Sublist
        (l.map (fun e => e.1)) := by
    intro l
    induction l with
    | nil => intro _; exact List.Sublist.slnil
    | cons e l ih =>
        intro hl
        have ih' := ih (fun x hx => hl x (List.mem_cons_of_mem _ hx))
        rw [List.map_cons, List.filterMap_cons]
        rcases ht : (e.2.turn em).bind (·.2) with _ | r
        · exact ih'.cons _
        · obtain ⟨⟨k, r'⟩, hk, hr⟩ := Option.bind_eq_some_iff.mp ht
          obtain rfl : r' = some r := hr
          obtain ⟨-, hguid, -⟩ := turn_request hk
          rw [List.map_cons, List.map_cons, hguid, hl e (List.mem_cons_self ..)]
          exact ih'.cons_cons _
  refine List.Nodup.sublist (hsub m.toList ?_) (nodup_keys_toList m)
  rintro ⟨g, info⟩ he
  exact hkey g info (TreeMap.mem_toList_iff_getElem?_eq_some.mp he)

/-- **The lists of a batch**: one for each owner with something to send, and no
owner has requests in two of them. -/
theorem startBatch_lists {s : PoolImp μ}
    (hpending : ∀ o g info, entry s.dbEntityMap o g = some info → PendingEntry o g info) :
    ∃ lists, s.startBatch.requestInfoVec = s.requestInfoVec ++ lists ∧
      (∀ ri ∈ lists, PoolImp.FreshList ri ∧ ∃ (o : UInt64) (m : DbEntityMap),
        s.dbEntityMap[o]? = some m ∧ batchRequests s.entityMap m ≠ [] ∧
        ri.requestList.requestVec = batchRequests s.entityMap m ∧
        (ri.requestList.requestVec.map (·.guid)).Nodup ∧
        ∀ r ∈ ri.requestList.requestVec, r.ownerGuid = o) ∧
      (∀ (o : UInt64) (m : DbEntityMap), s.dbEntityMap[o]? = some m →
        batchRequests s.entityMap m ≠ [] →
        ∃ ri ∈ lists, ri.requestList.requestVec = batchRequests s.entityMap m) ∧
      lists.Pairwise OtherOwners := by
  obtain ⟨-, -, ⟨lists, hvec, hmap, hfresh⟩, -⟩ := s.startBatch_spec
  have hpend : ∀ {o : UInt64} {m : DbEntityMap}, s.dbEntityMap[o]? = some m →
      ∀ (g : UInt64) (info : DbEntityInfo), m[g]? = some info → PendingEntry o g info :=
    fun ho g info hg => hpending _ g info (by rw [entry_of_getElem? ho]; exact hg)
  have howner : ∀ {o : UInt64} {m : DbEntityMap}, s.dbEntityMap[o]? = some m →
      ∀ r ∈ batchRequests s.entityMap m, r.ownerGuid = o := by
    intro o m ho r hr
    obtain ⟨g, info, hg, k, ht⟩ := mem_batchRequests.mp hr
    obtain ⟨-, -, how, -, -⟩ := turn_request ht
    rw [how]
    exact (hpend ho g info hg).ownerGuid
  refine ⟨lists, hvec, ?_, ?_, ?_⟩
  · intro ri hri
    have hrv : ri.requestList.requestVec
        ∈ s.dbEntityMap.toList.filterMap (PoolImp.ownerRequests s.entityMap) := by
      rw [← hmap]
      exact List.mem_map_of_mem hri
    obtain ⟨⟨o, m⟩, hom, hreq⟩ := List.mem_filterMap.mp hrv
    have ho : s.dbEntityMap[o]? = some m := TreeMap.mem_toList_iff_getElem?_eq_some.mp hom
    unfold PoolImp.ownerRequests at hreq
    split at hreq
    · cases hreq
    · next hne =>
        have hrv' : batchRequests s.entityMap m = ri.requestList.requestVec :=
          Option.some.inj hreq
        refine ⟨hfresh ri hri, o, m, ho, by simpa using hne, hrv'.symm, ?_, ?_⟩
        · rw [← hrv']
          exact nodup_batchRequests (fun g info hg => (hpend ho g info hg).guid)
        · rw [← hrv']
          exact howner ho
  · intro o m ho hne
    have hmem : batchRequests s.entityMap m
        ∈ s.dbEntityMap.toList.filterMap (PoolImp.ownerRequests s.entityMap) := by
      refine List.mem_filterMap.mpr ⟨(o, m), TreeMap.mem_toList_iff_getElem?_eq_some.mpr ho, ?_⟩
      simp [PoolImp.ownerRequests, hne]
    rw [← hmap] at hmem
    obtain ⟨ri, hri, heq⟩ := List.mem_map.mp hmem
    exact ⟨ri, hri, heq⟩
  · -- requests of different lists come from different owners
    have hpair : (lists.map (·.requestList.requestVec)).Pairwise
        (fun a b => ∀ r ∈ a, ∀ r' ∈ b, r.ownerGuid ≠ r'.ownerGuid) := by
      rw [hmap, List.pairwise_filterMap]
      have hkeys := List.pairwise_map.mp (nodup_keys_toList s.dbEntityMap)
      refine hkeys.imp_of_mem ?_
      intro a b ha hb hab ra hra rb hrb r hr r' hr'
      have ha' := TreeMap.mem_toList_iff_getElem?_eq_some.mp ha
      have hb' := TreeMap.mem_toList_iff_getElem?_eq_some.mp hb
      unfold PoolImp.ownerRequests at hra hrb
      split at hra
      · cases hra
      · split at hrb
        · cases hrb
        · obtain rfl := Option.some.inj hra
          obtain rfl := Option.some.inj hrb
          rw [howner ha' r hr, howner hb' r' hr']
          exact hab
    rw [List.pairwise_map] at hpair
    exact hpair

/-- **A batch keeps the invariant**, when nothing is left of the last one and
every pending ADD or UPDATE has its entity. -/
theorem tracked_startBatch {s : PoolImp μ} (h : Tracked s)
    (hempty : s.updatingDbEntityMap.isEmpty = true)
    (hpresent : ∀ info ∈ values s.dbEntityMap, info.opType ≠ .remove →
      (s.entityMap[info.guid]?).isSome = true) : Tracked s.startBatch := by
  obtain ⟨-, hdb, -, ⟨flushed, hlog, hfl⟩⟩ := s.startBatch_spec
  obtain ⟨lists, hvec, hfresh, hlist, howners⟩ := startBatch_lists h.pending
  have hnone : ∀ o g, entry s.updatingDbEntityMap o g = none := by
    intro o g
    simp [entry, TreeMap.getElem?_of_isEmpty hempty]
  -- every list still waits for an entry, so there is none
  have hnil : s.requestInfoVec = [] := by
    rcases hv : s.requestInfoVec with _ | ⟨ri, vec⟩
    · rfl
    · obtain ⟨-, -, hne, -, -, hentry⟩ := h.lists ri (by rw [hv]; exact List.mem_cons_self ..)
      obtain ⟨r, hr⟩ := List.exists_mem_of_ne_nil _ hne
      obtain ⟨info, hinfo, -⟩ := hentry r hr
      rw [hnone] at hinfo
      cases hinfo
  rw [hnil, List.nil_append] at hvec
  -- where an entry that was pending is now
  have hkept : ∀ {o : UInt64} {m : DbEntityMap}, s.dbEntityMap[o]? = some m →
      ∀ {g : UInt64} {info k : DbEntityInfo} {r : Request μ}, m[g]? = some info →
      info.turn s.entityMap = some (k, some r) →
      entry s.startBatch.updatingDbEntityMap o g = some k := by
    intro o m ho g info k r hg ht
    have hmem : r ∈ batchRequests s.entityMap m := mem_batchRequests.mpr ⟨g, info, hg, k, ht⟩
    have hne : batchRequests s.entityMap m ≠ [] := List.ne_nil_of_mem hmem
    unfold entry
    rw [s.startBatch_updating, ho]
    simp [PoolImp.ownerEntries, hne, keptEntries, hg, ht]
  have hmoved : ∀ n, n ∈ changesOf s.dbEntityMap → n ∈ flushed ∨
      (n ∈ changesOf s.startBatch.updatingDbEntityMap ∧ n ∈ s.startBatch.outstanding) := by
    intro n hn
    obtain ⟨o, g, info, he, hni⟩ := mem_changesOf.mp hn
    obtain ⟨m, ho, hg⟩ := entry_eq_some.mp he
    rcases turn_pending (m := s.entityMap) (h.pending o g info he)
      with ⟨k, r, ht⟩ | hflush | ⟨hrem, hgone⟩
    · obtain ⟨hk, -, -, hch, -⟩ := turn_request ht
      have hmem : r ∈ batchRequests s.entityMap m := mem_batchRequests.mpr ⟨g, info, hg, k, ht⟩
      obtain ⟨ri, hri, hrv⟩ := hlist o m ho (List.ne_nil_of_mem hmem)
      refine .inr ⟨mem_changesOf.mpr ⟨o, g, k, hkept ho hg ht, by rw [hk]; exact hni⟩, ?_⟩
      refine PoolImp.mem_outstanding.mpr ⟨ri, by rw [hvec]; exact hri, r, ?_, by rw [hch]; exact hni⟩
      rw [hrv]
      exact hmem
    · refine .inl ((hfl n).mpr ⟨(o, m), TreeMap.mem_toList_iff_getElem?_eq_some.mpr ho, ?_⟩)
      exact mem_flushedChanges.mpr ⟨g, info, hg, hflush, hni⟩
    · have := hpresent info (mem_values.mpr ⟨o, g, he⟩) hrem
      rw [(h.pending o g info he).guid, hgone] at this
      cases this
  refine ⟨⟨?_, ?_⟩, ?_, ?_, ?_⟩
  · intro n hn
    rw [hlog] at hn ⊢
    rcases h.kept.recorded n hn with ha | hr | hd | hu
    · exact .inl ha
    · exact .inr (.inl (List.mem_append_right _ hr))
    · rcases hmoved n hd with hf | ⟨hu, -⟩
      · exact .inr (.inl (List.mem_append_left _ hf))
      · exact .inr (.inr (.inr hu))
    · obtain ⟨o, g, info, he, -⟩ := mem_changesOf.mp hu
      rw [hnone] at he
      cases he
  · intro n hn
    rw [hlog] at hn ⊢
    rcases h.kept.sentAgain n hn with ha | hr | hd | ho
    · exact .inl ha
    · exact .inr (.inl (List.mem_append_right _ hr))
    · rcases hmoved n hd with hf | ⟨-, ho⟩
      · exact .inr (.inl (List.mem_append_left _ hf))
      · exact .inr (.inr (.inr ho))
    · obtain ⟨ri, hri, -⟩ := PoolImp.mem_outstanding.mp ho
      rw [hnil] at hri
      cases hri
  · intro o g info he
    rw [hdb] at he
    simp at he
  · intro ri hri
    rw [hvec] at hri
    obtain ⟨⟨hcb, hcompl, -⟩, o, m, ho, hne, hrv, hnd, -⟩ := hfresh ri hri
    refine ⟨hcompl, hcb, ?_, hnd, ?_, ?_⟩
    · rw [hrv]
      exact hne
    · rw [hrv]
      intro r hr hsucc
      obtain ⟨g, info, hg, k, ht⟩ := mem_batchRequests.mp hr
      obtain ⟨-, -, -, -, hfalse⟩ := turn_request ht
      rw [hfalse] at hsucc
      cases hsucc
    · rw [hrv]
      intro r hr
      obtain ⟨g, info, hg, k, ht⟩ := mem_batchRequests.mp hr
      obtain ⟨hk, hguid, howner, hch, -⟩ := turn_request ht
      obtain ⟨-, hgk, hok, -⟩ := h.pending o g info (by rw [entry_of_getElem? ho]; exact hg)
      refine ⟨k, ?_, ?_⟩
      · rw [hguid, howner, hgk, hok]
        exact hkept ho hg ht
      · intro n hn
        rw [hk] at hn
        rw [hch]
        exact hn
  · rw [hvec]
    exact howners

theorem tracked_update {s : PoolImp μ} (h : Tracked s) (hc : KeepsChanges s .update) :
    Tracked s.update := by
  unfold PoolImp.update
  by_cases hemp : s.dbEntityMap.isEmpty = true
  · rw [if_pos hemp]
    exact h
  · rw [if_neg hemp]
    by_cases hnum : s.updateToDbNum ≠ 0
    · rw [if_pos hnum]
      dsimp only
      split <;> exact h.congr rfl rfl rfl rfl
    · rw [if_neg hnum]
      obtain ⟨hup, hpresent⟩ := hc ⟨by simpa using hemp, by simpa using hnum⟩
      exact tracked_startBatch h hup hpresent

/-! ## §5. Replies. -/

namespace Request

variable (r : Request μ) (reply : CacheReply μ)

/-- A reply decides the status and the message, and nothing else. -/
theorem handlePacket_eq : ∃ success message, r.handlePacket reply = { r with success, message } := by
  unfold Request.handlePacket
  split
  · exact ⟨r.success, r.message, rfl⟩
  · dsimp only
    split
    · split <;> exact ⟨_, _, rfl⟩
    · exact ⟨_, _, rfl⟩

theorem handlePacket_spec : (r.handlePacket reply).guid = r.guid ∧
    (r.handlePacket reply).ownerGuid = r.ownerGuid ∧
    (r.handlePacket reply).changes = r.changes := by
  obtain ⟨success, message, h⟩ := r.handlePacket_eq reply
  rw [h]
  exact ⟨rfl, rfl, rfl⟩

theorem success_of_isNormal (h : reply.isNormal = true) :
    (r.handlePacket reply).success = true := by
  cases reply with
  | unparsable => cases h
  | result normal message =>
      obtain rfl : normal = true := h
      unfold Request.handlePacket
      simp only [if_true]
      split <;> rfl

theorem isNormal_or_success (h : (r.handlePacket reply).success = true) :
    reply.isNormal = true ∨ r.success = true := by
  cases reply with
  | unparsable => exact .inr h
  | result normal message =>
      cases normal with
      | true => exact .inl rfl
      | false =>
          unfold Request.handlePacket at h
          simp at h

end Request

/-- What a reply to `r` adds to the history. -/
theorem logReply_spec (s : PoolImp μ) (reply : CacheReply μ) (r : Request μ) :
    (s.logReply reply (some r)).log.next = s.log.next ∧
    (s.logReply reply (some r)).log.released = s.log.released ∧
    (∀ n ∈ s.log.acked, n ∈ (s.logReply reply (some r)).log.acked) ∧
    (reply.isNormal = true → ∀ n ∈ r.changes, n ∈ (s.logReply reply (some r)).log.acked) ∧
    (∀ n ∈ (s.logReply reply (some r)).log.failed, n ∈ s.log.failed ∨ n ∈ r.changes) := by
  unfold PoolImp.logReply
  cases hn : reply.isNormal with
  | true =>
      simp only [if_true]
      refine ⟨trivial, trivial, ?_, ?_, ?_⟩
      · intro n h
        exact List.mem_append_right _ h
      · intro _ n h
        exact List.mem_append_left _ h
      · intro n h
        exact .inl h
  | false =>
      simp only [Bool.false_eq_true, if_false]
      refine ⟨trivial, trivial, fun n h => h, fun h => h.elim, ?_⟩
      intro n h
      exact (List.mem_append.mp h).symm

theorem logReply_fields (s : PoolImp μ) (reply : CacheReply μ) (a : Option (Request μ)) :
    (s.logReply reply a).dbEntityMap = s.dbEntityMap ∧
    (s.logReply reply a).updatingDbEntityMap = s.updatingDbEntityMap ∧
    (s.logReply reply a).requestInfoVec = s.requestInfoVec := by
  rw [s.logReply_eq]
  exact ⟨rfl, rfl, rfl⟩

/-- The callback of a list that succeeded takes out entries of its own only. -/
theorem foldl_removeDbInfo {rs : List (Request μ)} (hall : ∀ r ∈ rs, r.success = true)
    (s : PoolImp μ) :
    let s' := rs.foldl (fun s r => s.removeDbInfo r.ownerGuid r.guid r.success) s
    s'.dbEntityMap = s.dbEntityMap ∧ s'.requestInfoVec = s.requestInfoVec ∧ s'.log = s.log ∧
    ∀ o g, entry s'.updatingDbEntityMap o g = entry s.updatingDbEntityMap o g ∨
      ∃ r ∈ rs, r.ownerGuid = o ∧ r.guid = g := by
  induction rs generalizing s with
  | nil => exact ⟨rfl, rfl, rfl, fun o g => .inl rfl⟩
  | cons r rs ih =>
      obtain ⟨hdb, hvec, hlog, hup⟩ := ih (fun x hx => hall x (List.mem_cons_of_mem _ hx))
        (s.removeDbInfo r.ownerGuid r.guid r.success)
      obtain ⟨hdb', hvec', hlog'⟩ := s.removeDbInfo_spec r.ownerGuid r.guid r.success
      refine ⟨hdb.trans hdb', hvec.trans hvec', hlog.trans hlog', ?_⟩
      intro o g
      by_cases hkey : o = r.ownerGuid ∧ g = r.guid
      · exact .inr ⟨r, List.mem_cons_self .., hkey.1.symm, hkey.2.symm⟩
      · rcases hup o g with hsame | ⟨x, hx, hxo⟩
        · refine .inl (hsame.trans ?_)
          rw [s.removeDbInfo_entry, if_neg hkey]
        · exact .inr ⟨x, List.mem_cons_of_mem _ hx, hxo⟩

/-- A list keeps its standing when one of its requests takes a reply. -/
theorem BatchList.reply {s : PoolImp μ} {ri : RequestInfo μ} (h : BatchList s ri)
    {pre post : List (Request μ)} {r : Request μ}
    (hrv : ri.requestList.requestVec = pre ++ r :: post) (reply : CacheReply μ)
    {ri' : RequestInfo μ} (hcb : ri'.callBack = ri.callBack)
    (hrv' : ri'.requestList.requestVec = pre ++ r.handlePacket reply :: post) :
    BatchList (s.logReply reply (some r)) ri' := by
  obtain ⟨hguid, howner, hch⟩ := r.handlePacket_spec reply
  obtain ⟨-, -, hacked, hnew, -⟩ := logReply_spec s reply r
  obtain ⟨-, hup, -⟩ := logReply_fields s reply (some r)
  have hmem : ∀ x ∈ ri'.requestList.requestVec,
      x = r.handlePacket reply ∨ x ∈ ri.requestList.requestVec := by
    intro x hx
    rw [hrv'] at hx
    rw [hrv]
    exact (mem_middle.mp hx).imp_right fun hx => mem_middle.mpr (.inr hx)
  have hr : r ∈ ri.requestList.requestVec := by
    rw [hrv]
    exact mem_middle.mpr (.inl rfl)
  refine ⟨hcb.trans h.callBack, by rw [hrv']; simp, ?_, ?_, ?_⟩
  · have hnd := h.nodup
    rw [hrv] at hnd
    rw [hrv']
    simpa [hguid] using hnd
  · intro x hx hsucc n hn
    rcases hmem x hx with rfl | hx'
    · rw [hch] at hn
      rcases r.isNormal_or_success reply hsucc with hnorm | hold
      · exact hnew hnorm n hn
      · exact hacked n (h.written r hr hold n hn)
    · exact hacked n (h.written x hx' hsucc n hn)
  · intro x hx
    rw [hup]
    rcases hmem x hx with rfl | hx'
    · rw [hguid, howner, hch]
      exact h.entry r hr
    · exact h.entry x hx'

section Taken

variable {s : PoolImp μ} {pre post : List (RequestInfo μ)} {ri ri' : RequestInfo μ}
  {rpre rpost : List (Request μ)} {r : Request μ} {reply : CacheReply μ}

/-- What a request of the list carried, the same request with its reply carries. -/
theorem exists_taken (hrv : ri.requestList.requestVec = rpre ++ r :: rpost)
    (hrv' : ri'.requestList.requestVec = rpre ++ r.handlePacket reply :: rpost)
    {x : Request μ} (hx : x ∈ ri.requestList.requestVec) :
    ∃ x' ∈ ri'.requestList.requestVec, x'.changes = x.changes ∧ x'.ownerGuid = x.ownerGuid ∧
      x'.guid = x.guid := by
  obtain ⟨hguid, howner, hch⟩ := r.handlePacket_spec reply
  rw [hrv] at hx
  rw [hrv']
  rcases mem_middle.mp hx with rfl | hx
  · exact ⟨_, mem_middle.mpr (.inl rfl), hch, howner, hguid⟩
  · exact ⟨x, mem_middle.mpr (.inr hx), rfl, rfl, rfl⟩

/-- **The list takes the reply and stays.** -/
theorem tracked_taken (h : Tracked s) (hvec : s.requestInfoVec = pre ++ ri :: post)
    (hrv : ri.requestList.requestVec = rpre ++ r :: rpost) (hcb : ri'.callBack = ri.callBack)
    (hrv' : ri'.requestList.requestVec = rpre ++ r.handlePacket reply :: rpost)
    (hopen : ri'.requestList.complated = false) :
    Tracked { s.logReply reply (some r) with requestInfoVec := pre ++ ri' :: post } := by
  obtain ⟨hnext, hrel, hacked, hnew, hfailed⟩ := logReply_spec s reply r
  obtain ⟨hdb, hup, -⟩ := logReply_fields s reply (some r)
  obtain ⟨-, howner, -⟩ := r.handlePacket_spec reply
  have hri : ri ∈ s.requestInfoVec := by
    rw [hvec]
    exact mem_middle.mpr (.inl rfl)
  have hr : r ∈ ri.requestList.requestVec := by
    rw [hrv]
    exact mem_middle.mpr (.inl rfl)
  have hbatch := (h.lists ri hri).2.reply hrv reply hcb hrv'
  have hmem : ri' ∈ pre ++ ri' :: post := mem_middle.mpr (.inl rfl)
  have hother : ∀ x, x ∈ pre ++ ri' :: post → x = ri' ∨ x ∈ s.requestInfoVec := by
    intro x hx
    rw [hvec]
    exact (mem_middle.mp hx).imp_right fun hx => mem_middle.mpr (.inr hx)
  refine ⟨⟨?_, ?_⟩, ?_, ?_, ?_⟩
  · intro n hn
    dsimp only at hn ⊢
    rw [hnext] at hn
    rw [hrel, hdb, hup]
    exact (h.kept.recorded n hn).imp_left (hacked n)
  · intro n hn
    -- what the request carries is outstanding as long as its list is
    have hcarried : ∀ x ∈ ri.requestList.requestVec, n ∈ x.changes →
        n ∈ PoolImp.outstanding
          { s.logReply reply (some r) with requestInfoVec := pre ++ ri' :: post } := by
      intro x hx hnx
      obtain ⟨x', hx', hch, -, -⟩ := exists_taken hrv hrv' hx
      exact PoolImp.mem_outstanding.mpr ⟨ri', hmem, x', hx', by rw [hch]; exact hnx⟩
    rcases hfailed n hn with hold | hnr
    · dsimp only
      rw [hrel, hdb]
      rcases h.kept.sentAgain n hold with ha | hr' | hd | ho
      · exact .inl (hacked n ha)
      · exact .inr (.inl hr')
      · exact .inr (.inr (.inl hd))
      · obtain ⟨y, hy, x, hx, hnx⟩ := PoolImp.mem_outstanding.mp ho
        rw [hvec] at hy
        rcases mem_middle.mp hy with rfl | hy
        · exact .inr (.inr (.inr (hcarried x hx hnx)))
        · exact .inr (.inr (.inr (PoolImp.mem_outstanding.mpr
            ⟨y, mem_middle.mpr (.inr hy), x, hx, hnx⟩)))
    · exact .inr (.inr (.inr (hcarried r hr hnr)))
  · dsimp only
    rw [hdb]
    exact h.pending
  · intro x hx
    rcases hother x hx with rfl | hx'
    · refine ⟨hopen, hbatch.callBack, hbatch.nonempty, hbatch.nodup, hbatch.written, ?_⟩
      exact hbatch.entry
    · obtain ⟨h1, h2, h3, h4, h5, h6⟩ := h.lists x hx'
      refine ⟨h1, h2, h3, h4, fun y hy hs n hn => hacked n (h5 y hy hs n hn), ?_⟩
      dsimp only
      rw [hup]
      exact h6
  · -- the owners of the lists are the ones they were
    have howners : ∀ l : List (RequestInfo μ), l.Pairwise OtherOwners ↔
        (l.map (fun x => x.requestList.requestVec.map (·.ownerGuid))).Pairwise
          (fun a b => ∀ o ∈ a, ∀ o' ∈ b, o ≠ o') := by
      intro l
      rw [List.pairwise_map]
      simp only [List.mem_map, forall_exists_index, and_imp,
        forall_apply_eq_imp_iff₂]
      exact Iff.rfl
    have hold := (howners _).mp h.owners
    rw [hvec] at hold
    refine (howners _).mpr ?_
    simpa [hrv, hrv', howner] using hold

/-- **The list is complete and every request succeeded**: its callback takes
written entries out, and only its own. -/
theorem tracked_completed (h : Tracked s) (hvec : s.requestInfoVec = pre ++ ri :: post)
    (hrv : ri.requestList.requestVec = rpre ++ r :: rpost) (hcb : ri'.callBack = ri.callBack)
    (hrv' : ri'.requestList.requestVec = rpre ++ r.handlePacket reply :: rpost)
    (hnorm : reply.isNormal = true)
    (hall : ∀ x ∈ ri'.requestList.requestVec, x.success = true) :
    Tracked (PoolImp.complateRequest
      { s.logReply reply (some r) with requestInfoVec := pre ++ post } ri') := by
  obtain ⟨hnext, hrel, hacked, hnew, hfailed⟩ := logReply_spec s reply r
  obtain ⟨hdb, hup, -⟩ := logReply_fields s reply (some r)
  have hri : ri ∈ s.requestInfoVec := by
    rw [hvec]
    exact mem_middle.mpr (.inl rfl)
  have hbatch := (h.lists ri hri).2.reply hrv reply hcb hrv'
  have hothers : ∀ x ∈ pre ++ post, x ∈ s.requestInfoVec := by
    intro x hx
    rw [hvec]
    exact mem_middle.mpr (.inr hx)
  -- the pool on which the callback's loop starts
  have hstart : PoolImp.complateRequest
      { s.logReply reply (some r) with requestInfoVec := pre ++ post } ri'
      = ri'.requestList.requestVec.foldl
          (fun s r => s.removeDbInfo r.ownerGuid r.guid r.success)
          (PoolImp.updateToDbReplay
            { s.logReply reply (some r) with requestInfoVec := pre ++ post }) := by
    unfold PoolImp.complateRequest
    rw [hbatch.callBack]
    rfl
  have hreplay : ∀ s : PoolImp μ, s.updateToDbReplay.dbEntityMap = s.dbEntityMap ∧
      s.updateToDbReplay.updatingDbEntityMap = s.updatingDbEntityMap ∧
      s.updateToDbReplay.requestInfoVec = s.requestInfoVec ∧
      s.updateToDbReplay.log = s.log := by
    intro s
    unfold PoolImp.updateToDbReplay
    split <;> exact ⟨rfl, rfl, rfl, rfl⟩
  obtain ⟨hdb0, hup0, hvec0, hlog0⟩ := hreplay
    { s.logReply reply (some r) with requestInfoVec := pre ++ post }
  obtain ⟨hdb1, hvec1, hlog1, hup1⟩ := foldl_removeDbInfo hall (PoolImp.updateToDbReplay
    { s.logReply reply (some r) with requestInfoVec := pre ++ post })
  rw [← hstart] at hdb1 hvec1 hlog1 hup1
  rw [hdb0] at hdb1
  rw [hvec0] at hvec1
  rw [hlog0] at hlog1
  rw [hup0] at hup1
  generalize PoolImp.complateRequest
      { s.logReply reply (some r) with requestInfoVec := pre ++ post } ri' = s'
    at hdb1 hvec1 hlog1 hup1 ⊢
  dsimp only at hdb1 hvec1 hlog1 hup1
  rw [hdb] at hdb1
  rw [hup] at hup1
  have hwritten : ∀ x ∈ ri'.requestList.requestVec, ∀ n ∈ x.changes, n ∈ s'.log.acked := by
    intro x hx n hn
    rw [hlog1]
    exact hbatch.written x hx (hall x hx) n hn
  refine ⟨⟨?_, ?_⟩, ?_, ?_, ?_⟩
  · intro n hn
    rw [hlog1, hnext] at hn
    rcases h.kept.recorded n hn with ha | hr | hd | hu
    · exact .inl (by rw [hlog1]; exact hacked n ha)
    · exact .inr (.inl (by rw [hlog1, hrel]; exact hr))
    · exact .inr (.inr (.inl (by rw [hdb1]; exact hd)))
    · obtain ⟨o, g, info, he, hni⟩ := mem_changesOf.mp hu
      rcases hup1 o g with hsame | ⟨x, hx, rfl, rfl⟩
      · exact .inr (.inr (.inr (mem_changesOf.mpr ⟨o, g, info, by rw [hsame]; exact he, hni⟩)))
      · -- the entry is the one of a request of this list
        obtain ⟨info', he', hsub⟩ := hbatch.entry x hx
        rw [hup, he] at he'
        obtain rfl := Option.some.inj he'
        exact .inl (hwritten x hx n (hsub n hni))
  · intro n hn
    rw [hlog1] at hn
    have hold : n ∈ s.log.failed ∨ n ∈ s'.log.acked := by
      rcases hfailed n hn with hold | hnr
      · exact .inl hold
      · exact .inr (by rw [hlog1]; exact hnew hnorm n hnr)
    rcases hold with hold | ha
    · rcases h.kept.sentAgain n hold with ha | hr | hd | ho
      · exact .inl (by rw [hlog1]; exact hacked n ha)
      · exact .inr (.inl (by rw [hlog1, hrel]; exact hr))
      · exact .inr (.inr (.inl (by rw [hdb1]; exact hd)))
      · obtain ⟨y, hy, x, hx, hnx⟩ := PoolImp.mem_outstanding.mp ho
        rw [hvec] at hy
        rcases mem_middle.mp hy with rfl | hy'
        · obtain ⟨x', hx', hch, -, -⟩ := exists_taken hrv hrv' hx
          exact .inl (hwritten x' hx' n (by rw [hch]; exact hnx))
        · exact .inr (.inr (.inr (PoolImp.mem_outstanding.mpr
            ⟨y, by rw [hvec1]; exact hy', x, hx, hnx⟩)))
    · exact .inl ha
  · rw [hdb1]
    exact h.pending
  · intro y hy
    rw [hvec1] at hy
    obtain ⟨h1, h2, h3, h4, h5, h6⟩ := h.lists y (hothers y hy)
    refine ⟨h1, h2, h3, h4, ?_, ?_⟩
    · intro x hx hs n hn
      rw [hlog1]
      exact hacked n (h5 x hx hs n hn)
    · intro x hx
      obtain ⟨info, he, hsub⟩ := h6 x hx
      rcases hup1 x.ownerGuid x.guid with hsame | ⟨z, hz, hzo, -⟩
      · exact ⟨info, by rw [hsame]; exact he, hsub⟩
      · -- the other lists belong to other owners
        exfalso
        have hz' : ∃ z' ∈ ri.requestList.requestVec, z'.ownerGuid = z.ownerGuid := by
          rw [hrv'] at hz
          rw [hrv]
          rcases mem_middle.mp hz with rfl | hz
          · exact ⟨r, mem_middle.mpr (.inl rfl), (r.handlePacket_spec reply).2.1.symm⟩
          · exact ⟨z, mem_middle.mpr (.inr hz), rfl⟩
        obtain ⟨z', hz'mem, hz'o⟩ := hz'
        have hown := h.owners
        rw [hvec, List.pairwise_append] at hown
        obtain ⟨-, hpost, hpre⟩ := hown
        rcases List.mem_append.mp hy with hy | hy
        · exact hpre y hy ri (List.mem_cons_self ..) x hx z' hz'mem (by rw [hz'o, hzo])
        · exact (List.pairwise_cons.mp hpost).1 y hy z' hz'mem x hx (by rw [hz'o, hzo])
  · rw [hvec1]
    have hown := h.owners
    rw [hvec] at hown
    exact hown.sublist (List.Sublist.append_left (List.sublist_cons_self ri post) pre)

end Taken

/-- **A reply keeps the invariant**, unless it completes a list with a failure in it. -/
theorem tracked_handlePacket {s : PoolImp μ} (h : Tracked s) (g : UInt64) (id : Nat)
    (reply : CacheReply μ)
    (hc : ∀ ri ∈ s.requestInfoVec, ri.requestList.requestId = id →
      ri.requestList.complatedCount + 1 = ri.requestList.requestVec.length →
        reply.isNormal = true ∧
        ∀ r ∈ ri.requestList.requestVec, r.guid ≠ g → r.success = true) :
    Tracked (s.handlePacket g id reply) := by
  unfold PoolImp.handlePacket
  rcases handleVec_cases g id reply s.requestInfoVec
    with ⟨hout, hfind⟩ | ⟨pre, ri, post, hvec, hid, hfind, hout⟩
  · -- no list has the request id
    have hans : answered g id s.requestInfoVec = none := by simp [answered, hfind]
    rw [hans]
    dsimp only [PoolImp.logReply]
    rw [hout]
    exact h.congr rfl rfl rfl rfl
  · have hri : ri ∈ s.requestInfoVec := by
      rw [hvec]
      exact mem_middle.mpr (.inl rfl)
    obtain ⟨hcompl, hlist⟩ := h.lists ri hri
    have hans : answered g id s.requestInfoVec
        = ri.requestList.requestVec.find? (·.guid == g) := by simp [answered, hfind]
    by_cases hany : ∃ r ∈ ri.requestList.requestVec, r.guid = g
    · obtain ⟨rpre, r, rpost, hrv, hrg, hrfind, hfirst⟩ := handleFirst_split reply hany
      have hrl : ri.requestList.handlePacket g reply =
          { ri.requestList with
            requestVec := rpre ++ r.handlePacket reply :: rpost
            complatedCount := ri.requestList.complatedCount + 1
            complated := ri.requestList.complatedCount + 1
              == ri.requestList.requestVec.length } := by
        unfold RequestList.handlePacket
        rw [if_pos (by simpa using hany), hfirst, hcompl, Bool.false_or]
      obtain ⟨-, -, hvec'⟩ := logReply_fields s reply (some r)
      rw [hans, hrfind]
      dsimp only
      rw [hvec', hout]
      by_cases hdone : (ri.requestList.handlePacket g reply).complated = true
      · rw [if_pos hdone]
        have hlen : ri.requestList.complatedCount + 1 = ri.requestList.requestVec.length := by
          rw [hrl] at hdone
          simpa using hdone
        obtain ⟨hnorm, hrest⟩ := hc ri hri hid hlen
        refine tracked_completed h hvec hrv rfl (by rw [hrl]) hnorm ?_
        intro x hx
        rw [hrl] at hx
        -- the guids of the list are distinct, so every other request is another guid's
        have hnd := hlist.nodup
        rw [hrv, List.map_append, List.map_cons, List.nodup_append] at hnd
        obtain ⟨-, hnd', hdisj⟩ := hnd
        rcases List.mem_append.mp hx with hx | hx
        · refine hrest x (by rw [hrv]; exact List.mem_append_left _ hx) ?_
          intro hxg
          exact hdisj x.guid (List.mem_map_of_mem hx) r.guid (List.mem_cons_self ..)
            (by rw [hxg, hrg])
        · rcases List.mem_cons.mp hx with rfl | hx
          · exact r.success_of_isNormal reply hnorm
          · refine hrest x
              (by rw [hrv]; exact List.mem_append_right _ (List.mem_cons_of_mem _ hx)) ?_
            intro hxg
            refine (List.nodup_cons.mp hnd').1 ?_
            rw [hrg, ← hxg]
            exact List.mem_map_of_mem hx
      · rw [if_neg hdone]
        exact tracked_taken h hvec hrv rfl (by rw [hrl]) (by simpa using hdone)
    · -- the list has no such request
      have hsame : ri.requestList.handlePacket g reply = ri.requestList := by
        unfold RequestList.handlePacket
        rw [if_neg (by simpa using hany)]
      have hnone : ri.requestList.requestVec.find? (·.guid == g) = none := by
        simpa using hany
      rw [hans, hnone]
      dsimp only [PoolImp.logReply]
      rw [hout, hsame, hcompl]
      exact h.congr rfl rfl hvec.symm rfl

/-! ## §6. Every run. -/

theorem tracked_step {s s' : PoolImp μ} {a : Action μ} (h : Tracked s)
    (hc : WriteBackAction a ∧ KeepsChanges s a) (hst : step s a = some s') : Tracked s' := by
  obtain ⟨hscope, hkeep⟩ := hc
  cases a with
  | add g message addToDb o =>
      obtain rfl := Option.some.inj hst
      exact tracked_add h g message addToDb o
  | remove g fromDb removeMsg =>
      obtain rfl := Option.some.inj hst
      exact tracked_remove h g fromDb removeMsg
  | updateGuid g =>
      obtain rfl := Option.some.inj hst
      exact tracked_updateGuid h g
  | update =>
      obtain rfl := Option.some.inj hst
      exact tracked_update h hkeep
  | reply i reply =>
      obtain ⟨p, hp, rfl⟩ := Option.map_eq_some_iff.mp hst
      have h0 : Tracked { s with inFlight := s.inFlight.eraseIdx i } := h.congr rfl rfl rfl rfl
      exact tracked_handlePacket h0 p.guid p.requestId reply (hkeep p hp)
  | clearUpdateEntity o =>
      obtain rfl := Option.some.inj hst
      exact tracked_clearUpdateEntity h o
  | getWhileFlush g =>
      obtain rfl := Option.some.inj hst
      unfold PoolImp.getWhileFlush
      split
      · split
        · exact h
        · exact h.congr rfl rfl rfl rfl
      · exact h
  | clearFlushState g =>
      obtain rfl := Option.some.inj hst
      unfold PoolImp.clearFlushState
      split
      · exact h.congr rfl rfl rfl rfl
      · exact h
  | write g message =>
      obtain rfl := Option.some.inj hst
      unfold PoolImp.write
      split
      · exact h.congr rfl rfl rfl rfl
      · exact h
  | playerIsOnline g => exact hscope.elim
  | playerIsOffline g => exact hscope.elim
  | commit requests => exact hscope.elim

/-- **No change is lost** in any run of the write-back whose batches start with
nothing left over and whose lists complete with successes only. -/
theorem reachable_nothingLost {cfg : PoolCfg} {s : PoolImp μ}
    (hs : (system cfg).ReachableWhen (fun s a => WriteBackAction a ∧ KeepsChanges s a) s) :
    NothingLost s := by
  have htracked : Tracked s := by
    refine hs.invariant (I := Tracked) ?_ ?_
    · rintro s rfl
      exact tracked_new cfg
    · intro s a s' h hc hst
      exact tracked_step h hc hst
  exact htracked.kept

/-- An addition, its batch and its reply, then an update and the next batch. -/
theorem reachable_nothingLost_written :
    ∃ s, (system ⟨1, false⟩ : TransSys (PoolImp Nat) (Action Nat)).run { cfg := ⟨1, false⟩ }
        [.add 0x0800000000000001 (some 5) true 0x0100000000000001, .update,
          .reply 0 (.result true none), .updateGuid 0x0800000000000001, .update] = some s ∧
      s.log.next = 2 ∧ s.log.acked = [0] ∧ NothingLost s := by
  obtain ⟨s, hs, hnext, hacked⟩ :
      ∃ s, (system ⟨1, false⟩ : TransSys (PoolImp Nat) (Action Nat)).run { cfg := ⟨1, false⟩ }
          [.add 0x0800000000000001 (some 5) true 0x0100000000000001, .update,
            .reply 0 (.result true none), .updateGuid 0x0800000000000001, .update] = some s ∧
        s.log.next = 2 ∧ s.log.acked = [0] :=
    ⟨_, rfl, by decide +kernel, by decide +kernel⟩
  refine ⟨s, hs, hnext, hacked, @reachable_nothingLost Nat ⟨1, false⟩ s
    (TransSys.reachableWhen_of_run rfl ?_ hs)⟩
  exact ⟨⟨rfl, by decide⟩, _, rfl, ⟨trivial, by decide +kernel⟩, _, rfl,
    ⟨trivial, by decide +kernel⟩, _, rfl, ⟨trivial, by decide⟩, _, rfl,
    ⟨trivial, by decide +kernel⟩, _, rfl, trivial⟩

/-- **The defect**: the addition is answered with a failure and stays behind in
`m_updating_db_entity_map`; the next batch deletes it there. -/
theorem failed_change_lost :
    ¬ ∀ s : PoolImp Nat, (system ⟨1, false⟩).ReachableWhen (fun _ a => WriteBackAction a) s →
      NothingLost s := by
  intro hall
  obtain ⟨s, hs, hnext, hacked, hreleased, hdb, hup⟩ :
      ∃ s, (system ⟨1, false⟩ : TransSys (PoolImp Nat) (Action Nat)).run { cfg := ⟨1, false⟩ }
          [.add 0x0800000000000001 (some 5) true 0x0100000000000001, .update,
            .reply 0 (.result false none), .updateGuid 0x0800000000000001, .update] = some s ∧
        s.log.next = 2 ∧ s.log.acked = [] ∧ s.log.released = [] ∧
        changesOf s.dbEntityMap = [] ∧ changesOf s.updatingDbEntityMap = [1] :=
    ⟨_, rfl, by decide +kernel, by decide +kernel, by decide +kernel, by decide +kernel, by decide +kernel⟩
  have hreach : (system ⟨1, false⟩).ReachableWhen (fun _ a => WriteBackAction a) s := by
    refine TransSys.reachableWhen_of_run rfl ?_ hs
    exact ⟨rfl, _, rfl, trivial, _, rfl, trivial, _, rfl, trivial, _, rfl, trivial, _, rfl,
      trivial⟩
  have hlost := (hall s hreach).recorded 0 (by rw [hnext]; decide)
  rw [hacked, hreleased, hdb, hup] at hlost
  simp at hlost

end Steppingstone.Pool
