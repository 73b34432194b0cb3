/-
  Steppingstone.Player.Flushing — what the pool holds for outstanding flushes.

  The invariant follows every entity that an outstanding flush list carries: it
  is in the pool, marked as flushing, with the message that was sent, and no
  other list or player touches it until the list is answered.
-/
import Steppingstone.Pool.Entities
import Steppingstone.Player.Removal

namespace Steppingstone.Player

open Std (TreeMap TreeSet)
open Steppingstone.Pool
open NestedMap

/-! ## §1. The pool of well-formed entities. -/

/-- The pool holds entities that fit the schema, and records their writes. -/
structure Schema.Holds (sch : Schema) (pool : PoolImp Entity) : Prop where
  entities : ∀ g info, pool.entityMap[g]? = some info →
    info.isRemoveFromMemory = false ∧ (sch.kind g = .coin → info.isFlushing = false) ∧
      ∃ e, info.message = some e ∧ e.guid = g ∧ sch.Fits e
  owners : ∀ g o, pool.guidOwnerguidMap[g]? = some o → o = sch.owner g
  /-- Coins are written at once and attach entities never. -/
  pending : ∀ o g i, entry pool.dbEntityMap o g = some i → o = sch.owner g ∧
    (i.opType = .update ∨ i.opType = .add ∧ sch.kind g ≠ .coin ∧ sch.kind g ≠ .attach)
  updating : pool.NoFlushEntry

/-- The ADD of the entity is not pending. -/
def NotPendingAdd (pool : PoolImp Entity) (g : UInt64) : Prop :=
  ∀ o i, entry pool.dbEntityMap o g = some i → i.opType ≠ .add

/-- What an outstanding flush list of `p` carries is held for it in the pool. -/
structure InFlush (sch : Schema) (pool : PoolImp Entity) (p : UInt64)
    (rs : List (Request Entity)) : Prop where
  own : ∃ r ∈ rs, r.guid = p
  held : ∀ r ∈ rs, isWrite r.requestType ∧ sch.owner r.guid = p ∧ NotPendingAdd pool r.guid ∧
    ∃ info, pool.entityMap[r.guid]? = some info ∧ info.isFlushing = true ∧
      info.message = r.message

/-- The players of the outstanding flush lists. -/
def flushing (s : FlushServer) : List UInt64 :=
  s.pool.requestInfoVec.filterMap (fun ri => s.flushOf[ri.requestList.requestId]?)

/-- **The invariant** of the scene. -/
structure FlushInv (sch : Schema) (s : FlushServer) : Prop where
  pool : sch.Holds s.pool
  lists : ∀ ri ∈ s.pool.requestInfoVec, ∀ p, s.flushOf[ri.requestList.requestId]? = some p →
    InFlush sch s.pool p ri.requestList.requestVec
  /-- A player has one outstanding flush list at most. -/
  one : (flushing s).Nodup
  ids : ∀ ri ∈ s.pool.requestInfoVec, ri.requestList.requestId ≤ s.pool.requestId
  flushIds : ∀ id p, s.flushOf[id]? = some p → id ≤ s.pool.requestId
  removals : ∀ ev ∈ s.removals, ev.Safe

variable {sch : Schema} {s : FlushServer} {pool pool' : PoolImp Entity} {p g : UInt64}

/-- The guids in the pool are neither 0 nor 1. -/
theorem Schema.Holds.guid (h : sch.Holds pool) {info : EntityInfo Entity}
    (hg : pool.entityMap[g]? = some info) : 1 < g := by
  obtain ⟨-, -, e, -, rfl, hfit⟩ := h.entities g info hg
  exact hfit.guid

/-- What `get` returns is in the pool, unmarked, and fits. -/
theorem Schema.Holds.get (h : sch.Holds pool) {e : Entity} (hg : pool.get g = some e) :
    ∃ info, pool.entityMap[g]? = some info ∧ info.isFlushing = false ∧
      info.message = some e ∧ e.guid = g ∧ sch.Fits e := by
  unfold PoolImp.get at hg
  rcases hi : pool.entityMap[g]? with _ | info
  · simp [hi] at hg
  · simp only [hi] at hg
    split at hg
    · cases hg
    · next hfl =>
        obtain ⟨-, -, e', hm, hguid, hfit⟩ := h.entities g info hi
        rw [hg] at hm
        obtain rfl := Option.some.inj hm
        exact ⟨info, rfl, by simpa using hfl, hg, hguid, hfit⟩

/-- A list keeps what it holds while its entities stay marked as they are. -/
theorem InFlush.congr {rs : List (Request Entity)} (h : InFlush sch pool p rs)
    (hent : ∀ g info, sch.owner g = p → pool.entityMap[g]? = some info → info.isFlushing = true →
      ∃ info', pool'.entityMap[g]? = some info' ∧ info'.isFlushing = true ∧
        info'.message = info.message)
    (hpend : ∀ g info, pool.entityMap[g]? = some info → NotPendingAdd pool g →
      NotPendingAdd pool' g) : InFlush sch pool' p rs where
  own := h.own
  held := by
    intro r hr
    obtain ⟨hwrite, hown, hno, info, hi, hfl, hm⟩ := h.held r hr
    obtain ⟨info', hi', hfl', hm'⟩ := hent r.guid info hown hi hfl
    exact ⟨hwrite, hown, hpend r.guid info hi hno, info', hi', hfl', hm'.trans hm⟩

/-- The invariant moves along a change of the pool that leaves the lists alone. -/
theorem FlushInv.change (h : FlushInv sch s) (hpool : sch.Holds pool')
    (hvec : pool'.requestInfoVec = s.pool.requestInfoVec)
    (hid : s.pool.requestId ≤ pool'.requestId)
    (hlist : ∀ q ∈ flushing s, ∀ rs, InFlush sch s.pool q rs → InFlush sch pool' q rs) :
    FlushInv sch { s with pool := pool' } where
  pool := hpool
  lists := by
    intro ri hri q hq
    have hri' : ri ∈ s.pool.requestInfoVec := by
      rw [← hvec]
      exact hri
    have hout : q ∈ flushing s := List.mem_filterMap.mpr ⟨ri, hri', hq⟩
    exact hlist q hout _ (h.lists ri hri' q hq)
  one := by
    have hone := h.one
    unfold flushing at hone ⊢
    show (pool'.requestInfoVec.filterMap _).Nodup
    rw [hvec]
    exact hone
  ids := by
    intro ri hri
    have hri' : ri ∈ s.pool.requestInfoVec := by
      rw [← hvec]
      exact hri
    exact Nat.le_trans (h.ids ri hri') hid
  flushIds := fun id q hq => Nat.le_trans (h.flushIds id q hq) hid
  removals := h.removals

/-! ## §2. Adding and changing entities. -/

/-- Adding an entity that fits. -/
theorem Schema.Holds.add (h : sch.Holds pool) {e : Entity} (hfit : sch.Fits e) (addToDb : Bool)
    (hattach : addToDb → sch.kind e.guid ≠ .attach) :
    sch.Holds (pool.add e.guid (some e) addToDb (sch.owner e.guid)).1 where
  entities := by
    intro g info hg
    rw [PoolImp.add_getElem?] at hg
    split at hg
    · next hnew =>
        obtain rfl := Option.some.inj hg
        exact ⟨rfl, fun _ => rfl, e, rfl, hnew.1.symm, hfit⟩
    · exact h.entities g info hg
  owners := by
    intro g o hg
    rw [(pool.add_frame e.guid e addToDb (sch.owner e.guid)).2.2.1] at hg
    rw [TreeMap.getElem?_insert] at hg
    split at hg
    · next heq =>
        rw [← Std.LawfulEqCmp.compare_eq_iff_eq.mp heq]
        exact (Option.some.inj hg).symm
    · exact h.owners g o hg
  pending := by
    intro o g i hi
    rw [PoolImp.add_pending] at hi
    split at hi
    · next hnew =>
        obtain ⟨hdb, -, hcoin, rfl, rfl⟩ := hnew
        have hadd : i.opType = .add := by
          unfold coalesce at hi
          split at hi
          · cases hi
            rfl
          · split at hi
            · next hop =>
                rw [if_neg (by decide)] at hi
                cases hi
                exact hop
            · cases hi
              rfl
        refine ⟨rfl, Or.inr ⟨hadd, ?_, hattach hdb⟩⟩
        intro hkind
        exact hcoin ((sch.kind_coin _).mp hkind)
    · exact h.pending o g i hi
  updating := by
    unfold PoolImp.NoFlushEntry
    rw [(pool.add_frame e.guid e addToDb (sch.owner e.guid)).1]
    exact h.updating

/-- What a list holds is there already, so adding does not touch it. -/
theorem InFlush.add {rs : List (Request Entity)} (h : InFlush sch pool p rs) (e : Entity)
    (addToDb : Bool) (o : UInt64) : InFlush sch (pool.add e.guid (some e) addToDb o).1 p rs := by
  refine h.congr ?_ ?_
  · intro g info _ hg hfl
    refine ⟨info, ?_, hfl, rfl⟩
    rw [PoolImp.add_getElem?, if_neg ?_]
    · exact hg
    · intro hnew
      rw [← hnew.1, hg] at hnew
      exact absurd hnew.2 (by simp)
  · intro g info hg hno o' i hi
    rw [PoolImp.add_pending] at hi
    split at hi
    · next hnew =>
        rw [← hnew.2.2.2.2, hg] at hnew
        exact absurd hnew.2.1 (by simp)
    · exact hno o' i hi

theorem FlushInv.create (h : FlushInv sch s) {e : Entity} (hfit : sch.Fits e) (addToDb : Bool)
    (hattach : addToDb → sch.kind e.guid ≠ .attach) :
    FlushInv sch
      { s with pool := (s.pool.add e.guid (some e) addToDb (sch.owner e.guid)).1 } := by
  have hframe := s.pool.add_frame e.guid e addToDb (sch.owner e.guid)
  exact h.change (h.pool.add hfit addToDb hattach) hframe.2.1 hframe.2.2.2
    (fun q _ rs hq => hq.add e addToDb _)

theorem FlushInv.load (h : FlushInv sch s) {entities : List Entity}
    (hfit : ∀ e ∈ entities, sch.Fits e ∧ sch.owner e.guid = p) :
    FlushInv sch
      { s with
        pool := entities.foldl (fun pool e => (pool.add e.guid (some e) false p).1) s.pool } := by
  induction entities generalizing s with
  | nil => exact h
  | cons e es ih =>
      obtain ⟨hfe, rfl⟩ := hfit e (by simp)
      exact ih (h.create hfe false (by simp))
        (fun e' he' => hfit e' (List.mem_cons_of_mem _ he'))

/-- Writing to an unmarked entity. -/
theorem Schema.Holds.write (h : sch.Holds pool) {e : Entity} (hfit : sch.Fits e) :
    sch.Holds (pool.write e.guid e) where
  entities := by
    intro g info hg
    rw [PoolImp.write_getElem?] at hg
    obtain ⟨info₀, hg₀, rfl⟩ := Option.map_eq_some_iff.mp hg
    obtain ⟨hrem, hcoin, e₀, hm, hguid, hfit₀⟩ := h.entities g info₀ hg₀
    split
    · next heq => exact ⟨hrem, hcoin, e, rfl, heq.symm, hfit⟩
    · exact ⟨hrem, hcoin, e₀, hm, hguid, hfit₀⟩
  owners := by
    rw [PoolImp.write_eq]
    exact h.owners
  pending := by
    rw [PoolImp.write_eq]
    exact h.pending
  updating := by
    rw [PoolImp.write_eq]
    exact h.updating

/-- Writing an entity that is not being flushed leaves the flush. -/
theorem InFlush.write {rs : List (Request Entity)} (h : InFlush sch pool p rs) {g : UInt64}
    (hg : ∀ info, pool.entityMap[g]? = some info → info.isFlushing = false) (e : Entity) :
    InFlush sch (pool.write g e) p rs := by
  refine h.congr ?_ ?_
  · intro k info _ hk hfl
    refine ⟨info, ?_, hfl, rfl⟩
    rw [PoolImp.write_getElem?, hk, Option.map_some, if_neg ?_]
    intro heq
    subst heq
    rw [hg info hk] at hfl
    exact absurd hfl (by decide)
  · intro k info _ hno
    rw [PoolImp.write_eq]
    exact hno

/-- Recording an UPDATE over what is pending. -/
private theorem coalesce_update {n : Nat} {o g : UInt64} {prev : Option DbEntityInfo}
    {i : DbEntityInfo} (h : coalesce n .update o g prev = some i) :
    i.opType = .update ∨ ∃ i₀, prev = some i₀ ∧ i₀.opType = .add ∧ i.opType = .add := by
  unfold coalesce at h
  split at h
  · cases h
    exact Or.inl rfl
  · next i₀ =>
      split at h
      · next hop =>
          rw [if_neg (by decide)] at h
          cases h
          exact Or.inr ⟨i₀, rfl, hop, hop⟩
      · cases h
        exact Or.inl rfl

/-- The entities after a mark for update differ in their `op_type` only. -/
private theorem updateGuid_getElem? (pool : PoolImp Entity) (g k : UInt64) :
    ∃ f : EntityInfo Entity → EntityInfo Entity,
      (pool.updateGuid g).1.entityMap[k]? = (pool.entityMap[k]?).map f ∧
      ∀ info, (f info).isFlushing = info.isFlushing ∧ (f info).message = info.message ∧
        (f info).isRemoveFromMemory = info.isRemoveFromMemory := by
  rcases pool.updateGuid_cases g with heq | ⟨o, info, -, hg, heq⟩
  · exact ⟨id, by rw [heq]; simp, fun _ => ⟨rfl, rfl, rfl⟩⟩
  · by_cases hk : g = k
    · subst hk
      refine ⟨fun i => { i with opType := info.opType ||| EntityOpType.update.value }, ?_,
        fun _ => ⟨rfl, rfl, rfl⟩⟩
      rw [heq, PoolImp.updateToDb_entityMap, hg]
      simp
    · refine ⟨id, ?_, fun _ => ⟨rfl, rfl, rfl⟩⟩
      rw [heq, PoolImp.updateToDb_entityMap]
      simp [TreeMap.getElem?_insert, hk]

private theorem updateGuid_pending (pool : PoolImp Entity) {g o k : UInt64} {i : DbEntityInfo}
    (h : entry (pool.updateGuid g).1.dbEntityMap o k = some i) :
    entry pool.dbEntityMap o k = some i ∨
    (i.opType = .update ∧ k = g ∧ pool.guidOwnerguidMap[g]? = some o) ∨
    ∃ i₀, entry pool.dbEntityMap o k = some i₀ ∧ i₀.opType = .add ∧ i.opType = .add := by
  rcases pool.updateGuid_cases g with heq | ⟨o', info, ho, -, heq⟩
  · rw [heq] at h
    exact Or.inl h
  · rw [heq, PoolImp.updateToDb_entry] at h
    split at h
    · next hkey =>
        obtain ⟨rfl, rfl⟩ := hkey
        rcases coalesce_update h with hup | ⟨i₀, hi₀, hop₀, hop⟩
        · exact Or.inr (Or.inl ⟨hup, rfl, ho⟩)
        · exact Or.inr (Or.inr ⟨i₀, hi₀, hop₀, hop⟩)
    · exact Or.inl h

private theorem updateGuid_frame (pool : PoolImp Entity) (g : UInt64) :
    (pool.updateGuid g).1.updatingDbEntityMap = pool.updatingDbEntityMap ∧
    (pool.updateGuid g).1.guidOwnerguidMap = pool.guidOwnerguidMap ∧
    (pool.updateGuid g).1.requestInfoVec = pool.requestInfoVec ∧
    (pool.updateGuid g).1.requestId = pool.requestId := by
  rcases pool.updateGuid_cases g with heq | ⟨o, info, -, -, heq⟩
  · rw [heq]
    exact ⟨rfl, rfl, rfl, rfl⟩
  · rw [heq, PoolImp.updateToDb_eq]
    exact ⟨rfl, rfl, rfl, rfl⟩

/-- An update keeps what the schema says. -/
theorem Schema.Holds.updateGuid (h : sch.Holds pool) (g : UInt64) :
    sch.Holds (pool.updateGuid g).1 where
  entities := by
    intro k info hk
    obtain ⟨f, hf, hsame⟩ := updateGuid_getElem? pool g k
    rw [hf] at hk
    obtain ⟨info₀, hk₀, rfl⟩ := Option.map_eq_some_iff.mp hk
    obtain ⟨hrem, hcoin, e, hm, hguid, hfit⟩ := h.entities k info₀ hk₀
    obtain ⟨hfl, hmsg, hrm⟩ := hsame info₀
    exact ⟨hrm.trans hrem, fun hc => hfl.trans (hcoin hc), e, hmsg.trans hm, hguid, hfit⟩
  owners := by
    rw [(updateGuid_frame pool g).2.1]
    exact h.owners
  pending := by
    intro o k i hi
    rcases updateGuid_pending pool hi with hold | ⟨hup, rfl, ho⟩ | ⟨i₀, hi₀, hop₀, hop⟩
    · exact h.pending o k i hold
    · exact ⟨h.owners _ o ho, Or.inl hup⟩
    · obtain ⟨hown, hcase⟩ := h.pending o k i₀ hi₀
      rcases hcase with hup | ⟨-, hkinds⟩
      · rw [hup] at hop₀
        cases hop₀
      · exact ⟨hown, Or.inr ⟨hop, hkinds⟩⟩
  updating := by
    unfold PoolImp.NoFlushEntry
    rw [(updateGuid_frame pool g).1]
    exact h.updating

theorem InFlush.updateGuid {rs : List (Request Entity)} (h : InFlush sch pool p rs) (g : UInt64) :
    InFlush sch (pool.updateGuid g).1 p rs := by
  refine h.congr ?_ ?_
  · intro k info _ hk hfl
    obtain ⟨f, hf, hsame⟩ := updateGuid_getElem? pool g k
    refine ⟨f info, by rw [hf, hk, Option.map_some], ?_, (hsame info).2.1⟩
    rw [(hsame info).1]
    exact hfl
  · intro k info _ hno o i hi
    rcases updateGuid_pending pool hi with hold | ⟨hup, -, -⟩ | ⟨i₀, hi₀, hop₀, -⟩
    · exact hno o i hold
    · rw [hup]
      decide
    · exact absurd hop₀ (hno o i₀ hi₀)

theorem FlushInv.update (h : FlushInv sch s) {e : Entity} (hfit : sch.Fits e)
    (hget : (s.pool.get e.guid).isSome) :
    FlushInv sch { s with pool := ((s.pool.write e.guid e).updateGuid e.guid).1 } := by
  obtain ⟨e₀, he₀⟩ := Option.isSome_iff_exists.mp hget
  obtain ⟨info₀, hi₀, hfl₀, -⟩ := h.pool.get he₀
  have hfree : ∀ info, s.pool.entityMap[e.guid]? = some info → info.isFlushing = false := by
    intro info hi
    rw [hi₀] at hi
    obtain rfl := Option.some.inj hi
    exact hfl₀
  have hframe := updateGuid_frame (s.pool.write e.guid e) e.guid
  have hwrite := s.pool.write_eq e.guid e
  refine h.change ((h.pool.write hfit).updateGuid e.guid) ?_ ?_ ?_
  · rw [hframe.2.2.1, hwrite]
  · exact Nat.le_of_eq (by rw [hframe.2.2.2, hwrite])
  · intro q _ rs hq
    exact (hq.write hfree e).updateGuid e.guid

end Steppingstone.Player
