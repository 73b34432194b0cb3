/-
  Steppingstone.Player.SafeRemoval — a finished flush takes out only what was
  written or handed over.

  Here are the steps that make and answer flush lists; `Player.Flushing` has the
  invariant and `Player.Removing` the steps that take entities out.
-/
import Steppingstone.Player.Removing

namespace Steppingstone.Player

open Std (TreeMap TreeSet)
open Steppingstone.Pool
open NestedMap

variable {sch : Schema} {s : FlushServer} {pool pool' : PoolImp Entity} {p q g : UInt64}
  {rs : List (Request Entity)}

/-! ## §1. Starting a flush. -/

section

variable {e : Entity} {fields : PlayerEntity} {isUpdating : Bool}

/-- A reference to an entity of the player, of the type it is cast to, and not a coin. -/
def Typed (sch : Schema) (p : UInt64) (r : Ref) : Prop :=
  1 < r.guid → sch.owner r.guid = p ∧ sch.kind r.guid = r.kind ∧ r.kind ≠ .coin

/-- The references of an entity of the player. -/
theorem typed_refs (hfit : sch.Fits e) (hown : sch.owner e.guid = p) :
    ∀ r ∈ e.refs, Typed sch p r := by
  intro r hr hlt
  obtain ⟨hown', hkind⟩ := hfit.links r (List.mem_append_left _ hr) hlt
  exact ⟨hown'.trans hown, hkind, e.refs_kind r hr⟩

/-- **The references of a player** are to entities of its own. -/
theorem typed_references (h : sch.Holds pool) (hget : pool.get p = some e)
    (hp : e.asPlayer = some fields) : ∀ r ∈ references pool p fields, Typed sch p r := by
  obtain ⟨-, -, -, -, hguid, hfit⟩ := h.get hget
  have hself : sch.owner e.guid = p := (hfit.player (by rw [hp]; rfl)).trans hguid
  have hfields : ∀ r ∈ fields.refs, Typed sch p r := by
    intro r hr hlt
    have hlink : r ∈ e.links := by
      unfold Entity.links
      rw [hp]
      exact List.mem_append_right _ (List.mem_append_left _ hr)
    obtain ⟨hown, hkind⟩ := hfit.links r hlink hlt
    exact ⟨hown.trans hself, hkind, fields.refs_kind r hr⟩
  -- the induction is over the player's own references, with what came before
  have hall : ∀ (refs before : List Ref), (∀ r ∈ refs, Typed sch p r) →
      (∀ r ∈ before, Typed sch p r) →
      ∀ r ∈ refs.foldl (fun before r =>
        before ++ r :: ((opens pool (p :: before.map (·.guid)) r).map Entity.refs).getD [])
        before, Typed sch p r := by
    intro refs
    induction refs with
    | nil => exact fun before _ hbefore => hbefore
    | cons r rs ih =>
        intro before hrs hbefore
        refine ih _ (fun r' hr' => hrs r' (List.mem_cons_of_mem _ hr')) ?_
        have hr := hrs r (List.mem_cons_self ..)
        intro r' hr'
        match List.mem_append.mp hr' with
        | Or.inl hold => exact hbefore r' hold
        | Or.inr hnew =>
            match List.mem_cons.mp hnew with
            | Or.inl heq =>
                rw [heq]
                exact hr
            | Or.inr hsub =>
                match ho : opens pool (p :: before.map (·.guid)) r with
                | none =>
                    rw [ho] at hsub
                    exact absurd hsub (by simp)
                | some e₀ =>
                    rw [ho] at hsub
                    unfold opens at ho
                    split at ho
                    · exact absurd ho (by simp)
                    · obtain ⟨hget₀, -⟩ := Option.filter_eq_some_iff.mp ho
                      obtain ⟨info, hi, -, -, hguid₀, hfit₀⟩ := h.get hget₀
                      have hown₀ : sch.owner e₀.guid = p := by
                        rw [hguid₀]
                        exact (hr (h.guid hi)).1
                      exact typed_refs hfit₀ hown₀ r' hsub
  exact hall fields.refs [] hfields (fun r hr => absurd hr (by simp))

/-- What the walk collects under a guid is the entity of that guid in the pool. -/
theorem Schema.Holds.reached (h : sch.Holds pool) {L : List Ref} (hr : ReachedAs pool p L g e) :
    g ∈ L.map (·.guid) ∧ pool.get g = some e := by
  obtain ⟨before, r, after, rfl, ⟨hopens, hkey⟩, -⟩ := hr
  unfold opens at hopens
  split at hopens
  · exact absurd hopens (by simp)
  · obtain ⟨hget, -⟩ := Option.filter_eq_some_iff.mp hopens
    obtain ⟨-, -, -, -, hguid, -⟩ := h.get hget
    have hg : g = r.guid := by
      rw [← hkey]
      unfold Ref.key
      rw [hguid, ite_self]
    subst hg
    exact ⟨by simp, hget⟩

/-- **The pool after a flush was started**: the player and what it refers to are
marked, what was pending for it is dropped, and one list is committed. -/
structure Flushed (pool pool' : PoolImp Entity) (p : UInt64) (fields : PlayerEntity)
    (requests : List (Request Entity)) : Prop where
  entities : ∀ g, pool'.entityMap[g]? =
    (pool.entityMap[g]?).map (marked (p :: (references pool p fields).map (·.guid)) g)
  owners : pool'.guidOwnerguidMap = pool.guidOwnerguidMap
  updating : pool'.updatingDbEntityMap = pool.updatingDbEntityMap
  pending : ∀ o g i, entry pool'.dbEntityMap o g = some i →
    o ≠ p ∧ entry pool.dbEntityMap o g = some i
  requestId : pool'.requestId = pool.requestId + 1
  vec : pool'.requestInfoVec = pool.requestInfoVec ++
    [⟨{ requestId := pool.requestId + 1, requestVec := requests }, .plugin⟩]

theorem clearUpdateEntity_pending (pool : PoolImp Entity) (p : UInt64) {o : UInt64}
    {i : DbEntityInfo} (h : entry (pool.clearUpdateEntity p).1.dbEntityMap o g = some i) :
    o ≠ p ∧ entry pool.dbEntityMap o g = some i := by
  unfold PoolImp.clearUpdateEntity at h
  match hp : pool.dbEntityMap[p]? with
  | none =>
      rw [hp] at h
      refine ⟨?_, h⟩
      intro ho
      subst ho
      unfold entry at h
      dsimp only at h
      rw [hp] at h
      exact absurd h (by simp)
  | some m =>
      rw [hp] at h
      have h' : entry (pool.dbEntityMap.erase p) o g = some i := h
      rw [entry_erase] at h'
      split at h'
      · exact absurd h' (by simp)
      · next hne => exact ⟨fun ho => hne ho, h'⟩

theorem clearUpdateEntity_frame (pool : PoolImp Entity) (p : UInt64) :
    (pool.clearUpdateEntity p).1.guidOwnerguidMap = pool.guidOwnerguidMap ∧
    (pool.clearUpdateEntity p).1.updatingDbEntityMap = pool.updatingDbEntityMap ∧
    (pool.clearUpdateEntity p).1.requestId = pool.requestId := by
  unfold PoolImp.clearUpdateEntity
  split <;> exact ⟨rfl, rfl, rfl⟩

theorem requestFlushPlayer_flushed (hget : pool.get p = some e) (hp : e.asPlayer = some fields) :
    Flushed pool (requestFlushPlayer pool p isUpdating) p fields
      (flushVec pool p isUpdating e) := by
  let start : PoolImp Entity := { pool with requestId := pool.requestId + 1 }
  obtain ⟨hem, hvec⟩ := clearUpdateEntity_entityMap start p
  obtain ⟨hown, hup, hid⟩ := clearUpdateEntity_frame start p
  have hget' : (cleared pool p).1.get p = some e := by
    unfold PoolImp.get at hget ⊢
    rw [show (cleared pool p).1.entityMap = pool.entityMap from hem]
    exact hget
  have hwalk := getPlayerEntityMap_walked hget' hp
  have hrefs : references (cleared pool p).1 p fields = references pool p fields :=
    (references_congr (p := p) hem fields).1
  rw [requestFlushPlayer_eq hget hp]
  have hframe := hwalk.frame
  rw [hrefs] at hwalk
  refine ⟨?_, ?_, ?_, ?_, ?_, ?_⟩
  · intro g
    show (getPlayerEntityMap (cleared pool p).1 p true).1.entityMap[g]? = _
    rw [hwalk.entry g]
    exact congrArg _ (congrArg (·[g]?) hem)
  · show (getPlayerEntityMap (cleared pool p).1 p true).1.guidOwnerguidMap = _
    rw [hframe]
    exact hown
  · show (getPlayerEntityMap (cleared pool p).1 p true).1.updatingDbEntityMap = _
    rw [hframe]
    exact hup
  · intro o g i hi
    have hi' : entry (getPlayerEntityMap (cleared pool p).1 p true).1.dbEntityMap o g = some i :=
      hi
    rw [hframe] at hi'
    exact clearUpdateEntity_pending start p hi'
  · show (getPlayerEntityMap (cleared pool p).1 p true).1.requestId = _
    rw [hframe]
    exact hid
  · show (getPlayerEntityMap (cleared pool p).1 p true).1.requestInfoVec ++ [_] = _
    rw [hframe]
    show (cleared pool p).1.requestInfoVec ++ [_] = _
    rw [show (cleared pool p).1.requestInfoVec = pool.requestInfoVec from hvec,
      show (cleared pool p).1.requestId = pool.requestId + 1 from hid]

/-- The entities after a flush was started are those of before, some of them marked. -/
theorem Flushed.getElem? {rs : List (Request Entity)} (hf : Flushed pool pool' p fields rs)
    {info' : EntityInfo Entity} (hg : pool'.entityMap[g]? = some info') :
    ∃ info, pool.entityMap[g]? = some info ∧
      info' = marked (p :: (references pool p fields).map (·.guid)) g info := by
  rw [hf.entities] at hg
  obtain ⟨info, hi, heq⟩ := Option.map_eq_some_iff.mp hg
  exact ⟨info, hi, heq.symm⟩

/-- A mark changes nothing but the flag. -/
theorem marked_same (seen : List UInt64) (g : UInt64) (info : EntityInfo Entity) :
    (marked seen g info).message = info.message ∧
    (marked seen g info).isRemoveFromMemory = info.isRemoveFromMemory ∧
    (marked seen g info).isFlushing = (info.isFlushing || decide (g ∈ seen)) := by
  unfold marked
  by_cases hg : g ∈ seen
  · rw [if_pos hg]
    exact ⟨rfl, rfl, by simp [hg]⟩
  · rw [if_neg hg]
    exact ⟨rfl, rfl, by simp [hg]⟩

theorem Flushed.holds {rs : List (Request Entity)} (hf : Flushed pool pool' p fields rs)
    (h : sch.Holds pool) (hget : pool.get p = some e) (hp : e.asPlayer = some fields) :
    sch.Holds pool' where
  entities := by
    intro g info' hg
    obtain ⟨info, hi, rfl⟩ := hf.getElem? hg
    obtain ⟨hm, hrem, hfl⟩ := marked_same (p :: (references pool p fields).map (·.guid)) g info
    obtain ⟨hno, hcoin, m, hmsg, hguid, hfit⟩ := h.entities g info hi
    refine ⟨hrem.trans hno, ?_, m, hm.trans hmsg, hguid, hfit⟩
    intro hkind
    have hfree : g ∉ p :: (references pool p fields).map (·.guid) := by
      intro hmem
      match List.mem_cons.mp hmem with
      | Or.inl heq =>
          -- the player is no coin
          obtain ⟨-, -, -, -, hself, hfit'⟩ := h.get hget
          rw [heq, ← hself, ← hfit'.kind, Entity.kind_of_asPlayer hp] at hkind
          exact absurd hkind (by decide)
      | Or.inr hin =>
          obtain ⟨r, hr, rfl⟩ := List.mem_map.mp hin
          obtain ⟨-, hk, hne⟩ := typed_references h hget hp r hr (h.guid hi)
          exact hne (hk.symm.trans hkind)
    rw [hfl, hcoin hkind]
    simp [hfree]
  owners := by
    rw [hf.owners]
    exact h.owners
  pending := fun o g i hi => h.pending o g i (hf.pending o g i hi).2
  updating := by
    unfold PoolImp.NoFlushEntry
    rw [hf.updating]
    exact h.updating

/-- The lists that are out keep what they hold. -/
theorem Flushed.inFlush {rs rs' : List (Request Entity)} (hf : Flushed pool pool' p fields rs)
    (h : InFlush sch pool q rs') : InFlush sch pool' q rs' := by
  refine h.congr ?_ ?_
  · intro g info _ hi hfl
    have hsame := marked_same (p :: (references pool p fields).map (·.guid)) g info
    refine ⟨_, by rw [hf.entities, hi]; rfl, ?_, hsame.1⟩
    rw [hsame.2.2, hfl]
    rfl
  · intro g info _ hno o i hi
    exact hno o i (hf.pending o g i hi).2

theorem mem_pendingOf {info : DbEntityInfo} (h : info ∈ pendingOf pool p) :
    ∃ g, entry pool.dbEntityMap p g = some info := by
  unfold pendingOf at h
  match hm : pool.dbEntityMap[p]? with
  | none =>
      rw [hm] at h
      exact absurd h (by simp)
  | some m =>
      rw [hm] at h
      obtain ⟨⟨g, info'⟩, hmem, rfl⟩ := List.mem_map.mp h
      exact ⟨g, entry_eq_some.mpr ⟨m, hm, TreeMap.mem_toList_iff_getElem?_eq_some.mp hmem⟩⟩

/-- **The new list** holds what it carries. -/
theorem Flushed.newList (hf : Flushed pool pool' p fields (flushVec pool p isUpdating e))
    (h : sch.Holds pool) (hget : pool.get p = some e) (hp : e.asPlayer = some fields) :
    InFlush sch pool' p (flushVec pool p isUpdating e) where
  own := ⟨_, (mem_flushVec hget hp).mpr (Or.inr (Or.inr (Or.inr rfl))), rfl⟩
  held := by
    obtain ⟨infoₚ, hiₚ, -, hmₚ, hguidₚ, hfitₚ⟩ := h.get hget
    have hself : sch.owner p = p := by
      rw [← hguidₚ]
      exact hfitₚ.player (by rw [hp]; rfl)
    -- an entity of the player that is in the pool and marked
    have hone : ∀ g m, pool.get g = some m → sch.owner g = p →
        g ∈ p :: (references pool p fields).map (·.guid) →
        NotPendingAdd pool' g ∧ ∃ info, pool'.entityMap[g]? = some info ∧
          info.isFlushing = true ∧ info.message = some m := by
      intro g m hgm hown hmem
      obtain ⟨info, hi, -, hm, -, -⟩ := h.get hgm
      have hsame := marked_same (p :: (references pool p fields).map (·.guid)) g info
      refine ⟨?_, _, by rw [hf.entities, hi]; rfl, ?_, hsame.1.trans hm⟩
      · intro o i hentry _
        obtain ⟨hne, hold⟩ := hf.pending o g i hentry
        exact hne ((h.pending o g i hold).1.trans hown)
      · rw [hsame.2.2]
        simp [hmem]
    have hreached : ∀ g m, ReachedAs pool p (references pool p fields) g m →
        sch.owner g = p ∧ NotPendingAdd pool' g ∧ ∃ info, pool'.entityMap[g]? = some info ∧
          info.isFlushing = true ∧ info.message = some m := by
      intro g m hr
      obtain ⟨hmem, hgm⟩ := h.reached hr
      obtain ⟨info, hi, -⟩ := h.get hgm
      obtain ⟨r, hrm, rfl⟩ := List.mem_map.mp hmem
      have hown := (typed_references h hget hp r hrm (h.guid hi)).1
      exact ⟨hown, hone _ m hgm hown (List.mem_cons_of_mem _ hmem)⟩
    intro req hreq
    match (mem_flushVec hget hp).mp hreq with
    | Or.inl ⟨info, _, _, m, hr, heq⟩ =>
        subst heq
        exact ⟨by cases isUpdating <;> rfl, hreached _ m hr⟩
    | Or.inr (Or.inl ⟨info, hinfo, hop, _⟩) =>
        -- nothing of the player is pending as removed
        obtain ⟨g, hentry⟩ := mem_pendingOf hinfo
        match (h.pending p g info hentry).2 with
        | Or.inl hup =>
            rw [hup] at hop
            exact absurd hop (by decide)
        | Or.inr ⟨hadd, _⟩ =>
            rw [hadd] at hop
            exact absurd hop (by decide)
    | Or.inr (Or.inr (Or.inl ⟨g, m, _, hr, heq⟩)) =>
        subst heq
        exact ⟨by cases isUpdating <;> rfl, hreached g m hr⟩
    | Or.inr (Or.inr (Or.inr heq)) =>
        subst heq
        exact ⟨rfl, hself, hone p e hget hself (List.mem_cons_self ..)⟩

/-- The player of a request list, after a new one was noted. -/
theorem flushOf_insert (flushOf : TreeMap Nat UInt64) (n id : Nat) (p : UInt64) :
    (flushOf.insert n p)[id]? = if id = n then some p else flushOf[id]? := by
  rw [TreeMap.getElem?_insert]
  by_cases hid : id = n
  · simp [hid]
  · have hne : ¬ n = id := fun h => hid h.symm
    simp [hid, hne]

theorem mem_flushing : p ∈ flushing s ↔
    ∃ ri ∈ s.pool.requestInfoVec, s.flushOf[ri.requestList.requestId]? = some p := by
  unfold flushing
  rw [List.mem_filterMap]

theorem FlushInv.flush (h : FlushInv sch s) (p : UInt64) (isUpdating : Bool) :
    FlushInv sch (flushPlayer s p isUpdating) := by
  unfold flushPlayer
  split
  · next hsome =>
      obtain ⟨fields, hbind⟩ := Option.isSome_iff_exists.mp hsome
      obtain ⟨e, hget, hp⟩ := Option.bind_eq_some_iff.mp hbind
      have hf : Flushed s.pool (requestFlushPlayer s.pool p isUpdating) p fields
        (flushVec s.pool p isUpdating e) := requestFlushPlayer_flushed hget hp
      -- the lists that were out have other ids
      have hold : ∀ ri ∈ s.pool.requestInfoVec,
          (s.flushOf.insert (s.pool.requestId + 1) p)[ri.requestList.requestId]?
            = s.flushOf[ri.requestList.requestId]? := by
        intro ri hri
        have hle := h.ids ri hri
        rw [flushOf_insert, if_neg (by omega)]
      refine ⟨hf.holds h.pool hget hp, ?_, ?_, ?_, ?_, h.removals⟩
      · intro ri hri q hq
        have hri' : ri ∈ (requestFlushPlayer s.pool p isUpdating).requestInfoVec := hri
        rw [hf.vec] at hri'
        match List.mem_append.mp hri' with
        | Or.inl hmem => exact hf.inFlush (h.lists ri hmem q ((hold ri hmem).symm.trans hq))
        | Or.inr hnew =>
            obtain rfl := List.mem_singleton.mp hnew
            have hq' : (s.flushOf.insert (s.pool.requestId + 1) p)[s.pool.requestId + 1]? =
              some q := hq
            rw [flushOf_insert, if_pos rfl] at hq'
            obtain rfl := Option.some.inj hq'
            exact hf.newList h.pool hget hp
      · have hnot : p ∉ flushing s := by
          intro hmem
          obtain ⟨ri, hri, hflush⟩ := mem_flushing.mp hmem
          rw [(h.lists ri hri p hflush).get_eq_none] at hget
          exact absurd hget (by simp)
        show ((requestFlushPlayer s.pool p isUpdating).requestInfoVec.filterMap
          (fun ri => (s.flushOf.insert (s.pool.requestId + 1) p)[ri.requestList.requestId]?)).Nodup
        rw [hf.vec, List.filterMap_append, List.filterMap_congr hold]
        have hlast : List.filterMap (fun ri : RequestInfo Entity =>
            (s.flushOf.insert (s.pool.requestId + 1) p)[ri.requestList.requestId]?)
            [⟨{ requestId := s.pool.requestId + 1, requestVec := flushVec s.pool p isUpdating e },
              .plugin⟩] = [p] := by
          simp
        rw [hlast]
        exact List.nodup_append.mpr ⟨h.one, by simp, by
          intro a ha b hb hab
          rw [List.mem_singleton.mp hb] at hab
          exact hnot (hab ▸ ha)⟩
      · intro ri hri
        have hri' : ri ∈ (requestFlushPlayer s.pool p isUpdating).requestInfoVec := hri
        show ri.requestList.requestId ≤ (requestFlushPlayer s.pool p isUpdating).requestId
        rw [hf.vec] at hri'
        rw [hf.requestId]
        match List.mem_append.mp hri' with
        | Or.inl hmem => exact Nat.le_succ_of_le (h.ids ri hmem)
        | Or.inr hnew =>
            exact Nat.le_of_eq (by rw [List.mem_singleton.mp hnew])
      · intro id q hq
        show id ≤ (requestFlushPlayer s.pool p isUpdating).requestId
        rw [hf.requestId]
        have hq' : (s.flushOf.insert (s.pool.requestId + 1) p)[id]? = some q := hq
        rw [flushOf_insert] at hq'
        split at hq'
        · omega
        · exact Nat.le_succ_of_le (h.flushIds id q hq')
  · exact h

end

/-! ## §2. The frame update and the replies. -/

/-- The frame update sends what is pending; no entity is about to leave for it. -/
theorem FlushInv.frame (h : FlushInv sch s) : FlushInv sch { s with pool := s.pool.update } := by
  obtain ⟨hem, hown, hle, ⟨lists, hvec, hlists⟩, hpend, hup⟩ := s.pool.update_frame
  -- no player is bound to a list of the batch
  have hnew : ∀ ri ∈ lists, s.flushOf[ri.requestList.requestId]? = none := by
    intro ri hri
    match hp : s.flushOf[ri.requestList.requestId]? with
    | none => rfl
    | some p =>
        have hlow := h.flushIds _ p hp
        have hhigh := (hlists ri hri).2.1
        omega
  refine ⟨?_, ?_, ?_, ?_, ?_, h.removals⟩
  · refine ⟨?_, ?_, fun o g i hi => h.pool.pending o g i (hpend o g i hi), ?_⟩
    · rw [hem]
      exact h.pool.entities
    · rw [hown]
      exact h.pool.owners
    · intro o g i hi
      obtain ⟨i₀, hop, hcase⟩ := hup o g i hi
      rw [← hop]
      match hcase with
      | Or.inr hold => exact h.pool.updating o g i₀ hold
      | Or.inl hdb =>
          match (h.pool.pending o g i₀ hdb).2 with
          | Or.inl hupdate =>
              rw [hupdate]
              decide
          | Or.inr ⟨hadd, _⟩ =>
              rw [hadd]
              decide
  · intro ri hri p hp
    have hri' : ri ∈ s.pool.requestInfoVec ++ lists := hvec ▸ hri
    match List.mem_append.mp hri' with
    | Or.inr hmem =>
        have hp' : s.flushOf[ri.requestList.requestId]? = some p := hp
        rw [hnew ri hmem] at hp'
        exact absurd hp' (by simp)
    | Or.inl hmem =>
        refine (h.lists ri hmem p hp).congr ?_ ?_
        · intro g info _ hi hfl
          exact ⟨info, by rw [hem]; exact hi, hfl, rfl⟩
        · intro g info _ hno o i hi
          exact hno o i (hpend o g i hi)
  · show (s.pool.update.requestInfoVec.filterMap _).Nodup
    rw [hvec, List.filterMap_append, List.filterMap_eq_nil_iff.mpr hnew, List.append_nil]
    exact h.one
  · intro ri hri
    have hri' : ri ∈ s.pool.requestInfoVec ++ lists := hvec ▸ hri
    match List.mem_append.mp hri' with
    | Or.inl hmem => exact Nat.le_trans (h.ids ri hmem) hle
    | Or.inr hmem => exact (hlists ri hmem).2.2
  · exact fun id p hp => Nat.le_trans (h.flushIds id p hp) hle

/-- A reply to a write changes nothing but `success`. -/
theorem handlePacket_write {r : Request Entity} (hwrite : isWrite r.requestType)
    (reply : CacheReply Entity) :
    (r.handlePacket reply).requestType = r.requestType ∧ (r.handlePacket reply).guid = r.guid ∧
      (r.handlePacket reply).message = r.message := by
  obtain ⟨requestType, guid, message, ownerGuid, success, changes⟩ := r
  match reply with
  | .unparsable => exact ⟨rfl, rfl, rfl⟩
  | .result false _ => exact ⟨rfl, rfl, rfl⟩
  | .result true _ =>
      match requestType with
      | .add | .addWithFlush | .update | .flush | .delete => exact ⟨rfl, rfl, rfl⟩
      | .load | .loadOnce | .query => exact absurd hwrite (by simp [isWrite, isAdd])

theorem mem_handleFirst {guid : UInt64} {reply : CacheReply Entity} {r' : Request Entity}
    (h : r' ∈ handleFirst guid reply rs) : ∃ r ∈ rs, r' = r ∨ r' = r.handlePacket reply := by
  induction rs with
  | nil => exact absurd h (by simp [handleFirst])
  | cons r rs ih =>
      rw [handleFirst] at h
      split at h
      · obtain heq | hmem := List.mem_cons.mp h
        · exact ⟨r, List.mem_cons_self .., Or.inr heq⟩
        · exact ⟨r', List.mem_cons_of_mem _ hmem, Or.inl rfl⟩
      · obtain heq | hmem := List.mem_cons.mp h
        · exact ⟨r, List.mem_cons_self .., Or.inl heq⟩
        · obtain ⟨r₀, hr₀, hcase⟩ := ih hmem
          exact ⟨r₀, List.mem_cons_of_mem _ hr₀, hcase⟩

theorem handleFirst_guids (guid : UInt64) (reply : CacheReply Entity) (rs : List (Request Entity))
    (hwrite : ∀ r ∈ rs, isWrite r.requestType) :
    (handleFirst guid reply rs).map (·.guid) = rs.map (·.guid) := by
  induction rs with
  | nil => rfl
  | cons r rs ih =>
      rw [handleFirst]
      split
      · show (r.handlePacket reply).guid :: rs.map (·.guid) = _
        rw [(handlePacket_write (hwrite r (List.mem_cons_self ..)) reply).2.1]
        rfl
      · show r.guid :: (handleFirst guid reply rs).map (·.guid) = _
        rw [ih (fun r' hr' => hwrite r' (List.mem_cons_of_mem _ hr'))]
        rfl

/-- **A list that takes a reply** holds what it held. -/
theorem InFlush.reply {rl : RequestList Entity} (h : InFlush sch pool p rl.requestVec)
    (guid : UInt64) (reply : CacheReply Entity) :
    InFlush sch pool p (rl.handlePacket guid reply).requestVec := by
  unfold RequestList.handlePacket
  split
  · refine ⟨?_, ?_⟩
    · obtain ⟨r, hr, hguid⟩ := h.own
      have hmem : p ∈ (handleFirst guid reply rl.requestVec).map (·.guid) := by
        rw [handleFirst_guids guid reply rl.requestVec (fun r hr => (h.held r hr).1)]
        exact List.mem_map.mpr ⟨r, hr, hguid⟩
      exact List.mem_map.mp hmem
    · intro r' hr'
      obtain ⟨r, hr, hcase⟩ := mem_handleFirst hr'
      have hheld := h.held r hr
      match hcase with
      | Or.inl heq =>
          rw [heq]
          exact hheld
      | Or.inr heq =>
          obtain ⟨htype, hguid, hm⟩ := handlePacket_write hheld.1 reply
          rw [heq, htype, hguid, hm]
          exact hheld
  · exact h

/-- The pool after a reply, as far as the invariant goes. -/
theorem Schema.Holds.handlePacket (h : sch.Holds pool) (guid : UInt64) (requestId : Nat)
    (reply : CacheReply Entity) :
    sch.Holds (pool.handlePacket guid requestId reply) ∧
      (∀ q rs, InFlush sch pool q rs → InFlush sch (pool.handlePacket guid requestId reply) q rs) ∧
      (pool.handlePacket guid requestId reply).requestId = pool.requestId ∧
      (pool.handlePacket guid requestId reply).requestInfoVec
        = (handleVec guid requestId reply pool.requestInfoVec).1 := by
  obtain ⟨hem, hown, hdb, hid, hvec, hup⟩ := pool.handlePacket_of_kept
    (fun g info hg => (h.entities g info hg).1) h.updating guid requestId reply
  refine ⟨⟨?_, ?_, ?_, ?_⟩, fun q rs hq => hq.of_same hem hdb, hid, hvec⟩
  · rw [hem]
    exact h.entities
  · rw [hown]
    exact h.owners
  · rw [hdb]
    exact h.pending
  · intro o g i hi
    obtain ⟨i₀, hi₀, hop⟩ := hup o g i hi
    rw [← hop]
    exact h.updating o g i₀ hi₀

/-- The lists change, but what they hold is there. -/
theorem FlushInv.withLists (h : FlushInv sch s) (hpool : sch.Holds pool')
    (hflush : ∀ q rs, InFlush sch s.pool q rs → InFlush sch pool' q rs)
    (hid : pool'.requestId = s.pool.requestId)
    (hlists : ∀ ri ∈ pool'.requestInfoVec, ∃ ri₀ ∈ s.pool.requestInfoVec,
      ri.requestList.requestId = ri₀.requestList.requestId ∧
      ∀ p, InFlush sch s.pool p ri₀.requestList.requestVec →
        InFlush sch s.pool p ri.requestList.requestVec)
    (hone : (flushing { s with pool := pool' }).Nodup) :
    FlushInv sch { s with pool := pool' } := by
  refine ⟨hpool, ?_, hone, ?_, ?_, h.removals⟩
  · intro ri hri p hp
    obtain ⟨ri₀, hri₀, hsame, hheld⟩ := hlists ri hri
    have hp₀ : s.flushOf[ri₀.requestList.requestId]? = some p := by
      rw [← hsame]
      exact hp
    exact hflush p _ (hheld p (h.lists ri₀ hri₀ p hp₀))
  · intro ri hri
    obtain ⟨ri₀, hri₀, hsame, -⟩ := hlists ri hri
    show ri.requestList.requestId ≤ pool'.requestId
    rw [hsame, hid]
    exact h.ids ri₀ hri₀
  · intro id q hq
    show id ≤ pool'.requestId
    rw [hid]
    exact h.flushIds id q hq

/-- **A reply** keeps the invariant; so does the finished flush, if there is one. -/
theorem FlushInv.flushReply (h : FlushInv sch s) (guid : UInt64) (requestId : Nat)
    (reply : CacheReply Entity) : FlushInv sch (flushReply s guid requestId reply) := by
  obtain ⟨hpool, hflush, hid, hvec⟩ := h.pool.handlePacket guid requestId reply
  have hone := h.one
  unfold flushing at hone
  unfold Player.flushReply
  match handleVec_cases guid requestId reply s.pool.requestInfoVec with
  | Or.inl ⟨hout, _⟩ =>
      rw [hout] at hvec
      dsimp only at hvec ⊢
      rw [hout]
      refine h.withLists hpool hflush hid ?_ ?_
      · intro ri hri
        exact ⟨ri, hvec ▸ hri, rfl, fun p hp => hp⟩
      · unfold flushing
        rw [hvec]
        exact hone
  | Or.inr ⟨pre, ri, post, hsplit, _, _, hout⟩ =>
      have hsame := Pool.handlePacket_requestId ri.requestList guid reply
      have hmem : ri ∈ s.pool.requestInfoVec := by
        rw [hsplit]
        exact List.mem_append_right _ (List.mem_cons_self ..)
      dsimp only
      rw [hout] at hvec ⊢
      split at hvec
      · next hdone =>
          rw [if_pos hdone]
          dsimp only at hvec ⊢
          -- the list leaves
          have hrest : ∀ x ∈ pre ++ post, x ∈ s.pool.requestInfoVec := by
            intro x hx
            rw [hsplit]
            exact List.mem_append.mpr ((List.mem_append.mp hx).imp_right (List.mem_cons_of_mem _))
          have hperm : (s.pool.requestInfoVec.filterMap
              (fun ri => s.flushOf[ri.requestList.requestId]?)).Perm
              ((ri :: (pre ++ post)).filterMap
                (fun ri => s.flushOf[ri.requestList.requestId]?)) := by
            rw [hsplit]
            exact List.perm_middle.filterMap _
          have hone' := hperm.nodup_iff.mp hone
          have hleft : FlushInv sch
              { s with pool := s.pool.handlePacket guid requestId reply } := by
            refine h.withLists hpool hflush hid ?_ ?_
            · intro x hx
              exact ⟨x, hrest x (hvec ▸ hx), rfl, fun p hp => hp⟩
            · unfold flushing
              rw [hvec]
              rw [List.filterMap_cons] at hone'
              split at hone'
              · exact hone'
              · exact (List.nodup_cons.mp hone').2
          rw [hsame]
          match hp : s.flushOf[ri.requestList.requestId]? with
          | none => exact hleft
          | some p =>
              refine hleft.finish ?_ ?_
              · exact hflush p _ ((h.lists ri hmem p hp).reply guid reply)
              · unfold flushing
                rw [hvec]
                rw [List.filterMap_cons, hp] at hone'
                exact (List.nodup_cons.mp hone').1
      · next hopen =>
          rw [if_neg hopen]
          dsimp only at hvec ⊢
          refine h.withLists hpool hflush hid ?_ ?_
          · intro x hx
            rw [hvec] at hx
            match List.mem_append.mp hx with
            | Or.inl hpre =>
                exact ⟨x, hsplit ▸ List.mem_append_left _ hpre, rfl, fun p hp => hp⟩
            | Or.inr hrest =>
                match List.mem_cons.mp hrest with
                | Or.inl heq =>
                    subst heq
                    exact ⟨ri, hmem, hsame, fun p hp => hp.reply guid reply⟩
                | Or.inr hpost =>
                    exact ⟨x, hsplit ▸ List.mem_append_right _ (List.mem_cons_of_mem _ hpost),
                      rfl, fun p hp => hp⟩
          · unfold flushing
            rw [hvec]
            rw [hsplit] at hone
            simp only [List.filterMap_append, List.filterMap_cons, hsame] at hone ⊢
            exact hone

/-! ## §3. Runs. -/

/-- **Every step** keeps the invariant. -/
theorem step_flushInv (h : FlushInv sch s) {a : FlushAction} {s' : FlushServer}
    (hst : flushStep sch s a = some s') : FlushInv sch s' := by
  unfold flushStep at hst
  match a with
  | .load player entities =>
      dsimp only at hst
      split at hst
      · next hfit =>
          obtain rfl := Option.some.inj hst
          exact h.load hfit
      · exact absurd hst (by simp)
  | .create e =>
      dsimp only at hst
      split at hst
      · next hfit =>
          obtain rfl := Option.some.inj hst
          exact h.create hfit.1 true (fun _ => hfit.2)
      · exact absurd hst (by simp)
  | .update e =>
      dsimp only at hst
      split at hst
      · next hfit =>
          obtain rfl := Option.some.inj hst
          exact h.update hfit.1 hfit.2
      · exact absurd hst (by simp)
  | .setState player st =>
      dsimp only at hst
      split at hst
      · obtain rfl := Option.some.inj hst
        exact h.of_same rfl rfl rfl
      · exact absurd hst (by simp)
      · obtain rfl := Option.some.inj hst
        exact h.of_same rfl rfl rfl
  | .jump player data =>
      obtain rfl := Option.some.inj hst
      exact h.jump player data
  | .flush player isUpdating =>
      obtain rfl := Option.some.inj hst
      exact h.flush player isUpdating
  | .frame =>
      obtain rfl := Option.some.inj hst
      exact h.frame
  | .reply i reply =>
      obtain ⟨p, -, rfl⟩ := Option.map_eq_some_iff.mp hst
      -- the packet leaves, and nothing else changes
      have htaken : FlushInv sch
          { s with pool := { s.pool with inFlight := s.pool.inFlight.eraseIdx i } } :=
        h.change ⟨h.pool.entities, h.pool.owners, h.pool.pending, h.pool.updating⟩ rfl
          (Nat.le_refl _) (fun q _ rs hq => hq.of_same rfl rfl)
      exact htaken.flushReply p.guid p.requestId reply
  | .lostGateConnection =>
      obtain rfl := Option.some.inj hst
      exact h.of_same rfl rfl rfl

theorem flushInv_init (sch : Schema) (cfg : PoolCfg) :
    FlushInv sch { pool := { cfg } } where
  pool := by
    refine ⟨?_, ?_, ?_, ?_⟩
    · intro g info hg
      exact absurd hg (by simp)
    · intro g o ho
      exact absurd ho (by simp)
    · intro o g i hi
      exact absurd hi (by simp [entry])
    · intro o g i hi
      exact absurd hi (by simp [entry])
  lists := fun ri hri => absurd hri (by simp)
  one := List.nodup_nil
  ids := fun ri hri => absurd hri (by simp)
  flushIds := fun id p hp => absurd hp (by simp)
  removals := fun ev hev => absurd hev (by simp)

/-- **In every run** of loads, changes, flushes and jumps, with replies of success
or failure in any order, a finished flush removes safely. -/
theorem reachable_safeRemoval {cfg : PoolCfg} (hs : (flushSystem sch cfg).Reachable s) :
    ∀ ev ∈ s.removals, ev.Safe := by
  have hinv : FlushInv sch s := hs.invariant
    (fun s hinit => by
      have heq : s = { pool := { cfg } } := hinit
      rw [heq]
      exact flushInv_init sch cfg)
    (fun s a s' h _ hst => step_flushInv h hst)
  exact hinv.removals

/-- One player, whose guids have their type byte's type. -/
def sampleSchema : Schema where
  owner _ := samplePlayer.guid
  kind guid :=
    if guidType guid = etCoin then .coin
    else if guidType guid = etPlayer then .player
    else .form
  kind_coin guid := by
    by_cases hcoin : guidType guid = etCoin
    · simp [hcoin]
    · by_cases hplayer : guidType guid = etPlayer <;> simp [hcoin, hplayer]

/-- The player leaves the map; its form and its own entity are written. -/
def leaveActs : List FlushAction :=
  [.load samplePlayer.guid [samplePlayer, sampleForm, sampleCoin],
    .setState samplePlayer.guid (some .flushingLeaveMap),
    .flush samplePlayer.guid false,
    .reply 0 (.result true none), .reply 0 (.result true none)]

/-- The pool of the runs: a map's. -/
def sampleCfg : PoolCfg := { lineId := 1, isLineScene := false }

/-- The run takes out the player, the form and the coin. -/
theorem leaveActs_run : ∃ s ∈ (flushSystem sampleSchema sampleCfg).run
      { pool := { cfg := sampleCfg } } leaveActs,
    ∃ ev ∈ s.removals, ev.transferInfo = none ∧
      (∀ r ∈ ev.requestList.requestVec, r.guid ≠ sampleCoin.guid) ∧
      (ev.before[sampleCoin.guid]?).isSome = true ∧ ev.after.isEmpty = true := by
  decide +kernel

/-- The leaving player loses nothing. -/
theorem reachable_safeRemoval_leave : ∃ s, (flushSystem sampleSchema sampleCfg).Reachable s ∧
    (∃ ev ∈ s.removals, ev.after.isEmpty = true) ∧ ∀ ev ∈ s.removals, ev.Safe := by
  obtain ⟨s, hrun, ev, hev, -, -, -, hempty⟩ := leaveActs_run
  have hs : (flushSystem sampleSchema sampleCfg).Reachable s :=
    TransSys.reachable_of_run rfl hrun
  exact ⟨s, hs, ⟨ev, hev, hempty⟩, reachable_safeRemoval hs⟩

/-- **The coin is taken out without a write**, and is not in a transfer object. -/
theorem coin_removed_unwritten :
    ¬ ∀ sch cfg s, (flushSystem sch cfg).Reachable s → ∀ ev ∈ s.removals,
      ev.WrittenOrTransferred := by
  intro hall
  obtain ⟨s, hrun, ev, hev, htransfer, hnot, hbefore, hempty⟩ := leaveActs_run
  have hs : (flushSystem sampleSchema sampleCfg).Reachable s :=
    TransSys.reachable_of_run rfl hrun
  obtain ⟨info, hi⟩ := Option.isSome_iff_exists.mp hbefore
  have hafter : ev.after[sampleCoin.guid]? = none := TreeMap.getElem?_of_isEmpty hempty
  match hall sampleSchema sampleCfg s hs ev hev sampleCoin.guid info ⟨hi, hafter⟩ with
  | Or.inl ⟨r, hr, hguid, _⟩ => exact hnot r hr hguid
  | Or.inr ⟨map, hmap, _⟩ =>
      rw [htransfer] at hmap
      exact absurd hmap (by simp)

end Steppingstone.Player
