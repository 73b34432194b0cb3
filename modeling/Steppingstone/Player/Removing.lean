/-
  Steppingstone.Player.Removing — the steps that take entities out of the pool:
  jumping to another map and a finished flush.

  An entity that no pending ADD needs leaves when it is removed, and the
  entities a player owns are in no list of another player.
-/
import Steppingstone.Player.Flushing

namespace Steppingstone.Player

open Std (TreeMap TreeSet)
open Steppingstone.Pool
open NestedMap

variable {sch : Schema} {s : FlushServer} {pool pool' : PoolImp Entity} {p q g : UInt64}
  {gs : List UInt64} {rs : List (Request Entity)} {msg : Bool}

/-! ## §1. Taking entities out. -/

/-- The removal of the guid takes its entity out, if there is one. -/
def Removable (pool : PoolImp Entity) (g : UInt64) : Prop :=
  pool.entityMap[g]? = none ∨ NotPendingAdd pool g

/-- What is in the pool after the removal was there before, unchanged. -/
theorem Removable.getElem? (h : Removable pool g) {k : UInt64} {info : EntityInfo Entity}
    (hk : (pool.remove g false msg).1.entityMap[k]? = some info) :
    pool.entityMap[k]? = some info := by
  match h with
  | Or.inl hnone =>
      rw [pool.remove_of_none hnone] at hk
      exact hk
  | Or.inr hno => exact pool.remove_getElem? hno hk

theorem Removable.remove (h : Removable pool g) {k : UInt64} (hk : Removable pool k) :
    Removable (pool.remove g false msg).1 k := by
  match hk with
  | Or.inr hno =>
      refine Or.inr ?_
      unfold NotPendingAdd
      rw [(pool.remove_frame g msg).1]
      exact hno
  | Or.inl hnone =>
      refine Or.inl ?_
      match hget : (pool.remove g false msg).1.entityMap[k]? with
      | none => rfl
      | some info =>
          rw [h.getElem? hget] at hnone
          exact absurd hnone (by simp)

theorem Schema.Holds.remove (h : sch.Holds pool) (hg : Removable pool g) (msg : Bool) :
    sch.Holds (pool.remove g false msg).1 where
  entities := fun k info hk => h.entities k info (hg.getElem? hk)
  owners := fun k o ho => h.owners k o (pool.remove_owners ho)
  pending := by
    rw [(pool.remove_frame g msg).1]
    exact h.pending
  updating := by
    unfold PoolImp.NoFlushEntry
    rw [(pool.remove_frame g msg).2.1]
    exact h.updating

/-- Removing entities leaves the records and the lists alone. -/
theorem removeAll_frame (gs : List UInt64) (msg : Bool) (pool : PoolImp Entity) :
    (removeAll pool gs msg).dbEntityMap = pool.dbEntityMap ∧
    (removeAll pool gs msg).requestInfoVec = pool.requestInfoVec ∧
    (removeAll pool gs msg).requestId = pool.requestId := by
  induction gs generalizing pool with
  | nil => exact ⟨rfl, rfl, rfl⟩
  | cons g gs ih =>
      obtain ⟨hdb, -, hvec, hid⟩ := pool.remove_frame g msg
      obtain ⟨hdb', hvec', hid'⟩ := ih (pool.remove g false msg).1
      exact ⟨hdb'.trans hdb, hvec'.trans hvec, hid'.trans hid⟩

/-- Entities outside the list stay as they are. -/
theorem removeAll_of_notMem (hg : g ∉ gs) :
    (removeAll pool gs msg).entityMap[g]? = pool.entityMap[g]? := by
  induction gs generalizing pool with
  | nil => rfl
  | cons k gs ih =>
      have hne : g ≠ k := fun h => hg (h ▸ List.mem_cons_self ..)
      have hrest : g ∉ gs := fun h => hg (List.mem_cons_of_mem _ h)
      show (removeAll (pool.remove k false msg).1 gs msg).entityMap[g]? = _
      rw [ih hrest, pool.remove_getElem?_of_ne hne]

theorem Schema.Holds.removeAll (h : sch.Holds pool) (hgs : ∀ g ∈ gs, Removable pool g)
    (msg : Bool) : sch.Holds (removeAll pool gs msg) := by
  induction gs generalizing pool with
  | nil => exact h
  | cons g gs ih =>
      have hg := hgs g (List.mem_cons_self ..)
      refine ih (h.remove hg msg) ?_
      intro k hk
      exact hg.remove (hgs k (List.mem_cons_of_mem _ hk))

/-- The lists of other players keep what they hold. -/
theorem InFlush.removeAll (h : InFlush sch pool q rs)
    (hgs : ∀ g ∈ gs, pool.entityMap[g]? ≠ none → sch.owner g ≠ q) (msg : Bool) :
    InFlush sch (removeAll pool gs msg) q rs := by
  refine h.congr ?_ ?_
  · intro k info hown hk hfl
    refine ⟨info, ?_, hfl, rfl⟩
    rw [removeAll_of_notMem ?_]
    · exact hk
    · intro hmem
      refine hgs k hmem ?_ hown
      rw [hk]
      exact Option.some_ne_none _
  · intro k info _ hno o i hi
    rw [(removeAll_frame gs msg pool).1] at hi
    exact hno o i hi

/-- The coin and the attach entity of a player. -/
def sideGuids (player : PlayerEntity) : List UInt64 := [player.coinGuid, player.attach]

/-- They belong to the player, and are never pending as new. -/
theorem Schema.Holds.side (h : sch.Holds pool) {e : Entity} (hfit : sch.Fits e)
    {player : PlayerEntity} (hp : e.asPlayer = some player) (hg : g ∈ sideGuids player) :
    Removable pool g ∧ ∀ info, pool.entityMap[g]? = some info →
      sch.owner g = e.guid ∧ (g = player.coinGuid → sch.kind g = .coin) ∧
        (sch.kind g = .coin ∨ sch.kind g = .attach) := by
  have hlinks : (field .coin player.coinGuid ∈ e.links) ∧
      (field .attach player.attach ∈ e.links) := by
    unfold Entity.links
    rw [hp]
    simp
  have hself : sch.owner e.guid = e.guid := hfit.player (by rw [hp]; rfl)
  -- whatever is there has one of the two types
  have hkind : ∀ info, pool.entityMap[g]? = some info → sch.owner g = e.guid ∧
      (g = player.coinGuid → sch.kind g = .coin) ∧
      (sch.kind g = .coin ∨ sch.kind g = .attach) := by
    intro info hi
    have hlt := h.guid hi
    have hmem : g = player.coinGuid ∨ g = player.attach := by simpa [sideGuids] using hg
    by_cases hcoin : g = player.coinGuid
    · subst hcoin
      obtain ⟨hown, hk⟩ := hfit.links _ hlinks.1 hlt
      exact ⟨hown.trans hself, fun _ => hk, Or.inl hk⟩
    · have hattach := hmem.resolve_left hcoin
      subst hattach
      obtain ⟨hown, hk⟩ := hfit.links _ hlinks.2 hlt
      exact ⟨hown.trans hself, fun hc => absurd hc hcoin, Or.inr hk⟩
  refine ⟨?_, hkind⟩
  match hi : pool.entityMap[g]? with
  | none => exact Or.inl hi
  | some info =>
      refine Or.inr ?_
      intro o i hentry hadd
      obtain ⟨-, hcase⟩ := h.pending o g i hentry
      obtain ⟨-, -, hkinds⟩ := hkind info hi
      match hcase with
      | Or.inl hup =>
          rw [hup] at hadd
          exact absurd hadd (by decide)
      | Or.inr ⟨_, hnc, hna⟩ => exact hkinds.elim hnc hna

/-! ## §2. Jumping to another map. -/

/-- The invariant does not look at the player states. -/
theorem FlushInv.of_same (h : FlushInv sch s) {t : FlushServer} (hpool : t.pool = s.pool)
    (hflush : t.flushOf = s.flushOf) (hrem : t.removals = s.removals) : FlushInv sch t := by
  have hflushing : flushing t = flushing s := by
    unfold flushing
    rw [hpool, hflush]
  refine ⟨?_, ?_, ?_, ?_, ?_, ?_⟩
  · rw [hpool]
    exact h.pool
  · rw [hpool, hflush]
    exact h.lists
  · rw [hflushing]
    exact h.one
  · rw [hpool]
    exact h.ids
  · rw [hpool, hflush]
    exact h.flushIds
  · rw [hrem]
    exact h.removals

theorem Entity.kind_of_asPlayer {e : Entity} {player : PlayerEntity}
    (h : e.asPlayer = some player) : e.body.kind = .player := by
  unfold Entity.asPlayer at h
  split at h
  · next hb => rw [hb]; rfl
  · exact absurd h (by simp)

/-- The player of an outstanding flush list is marked, so `get` does not return it. -/
theorem InFlush.get_eq_none (h : InFlush sch pool p rs) : pool.get p = none := by
  obtain ⟨r, hr, rfl⟩ := h.own
  obtain ⟨-, -, -, info, hi, hfl, -⟩ := h.held r hr
  unfold PoolImp.get
  rw [hi]
  simp [hfl]

/-- Collecting takes out the coin and the attach entity at most. -/
theorem collectTransferPlayerInfo_pool (h : sch.Holds pool) {e : Entity} (hfit : sch.Fits e)
    {player : PlayerEntity} (hp : e.asPlayer = some player) :
    ∃ gs, (collectTransferPlayerInfo pool e player).1 = removeAll pool gs false ∧
      ∀ g ∈ gs, g ∈ sideGuids player := by
  unfold collectTransferPlayerInfo
  match hc : getCoin pool player.coinGuid with
  | none => exact ⟨[], rfl, fun g hg => absurd hg (by simp)⟩
  | some (coin, fields) =>
      obtain ⟨e', he', hmap⟩ := Option.bind_eq_some_iff.mp hc
      obtain ⟨c, -, hpair⟩ := Option.map_eq_some_iff.mp hmap
      obtain ⟨rfl, -⟩ := Prod.mk.inj hpair
      obtain ⟨-, -, -, -, hguid, -⟩ := h.get he'
      have hside := (h.side hfit hp (List.mem_cons_self .. : player.coinGuid ∈ _)).1
      have h' := h.remove hside false
      dsimp only
      rw [hguid]
      match ha : getAttach (pool.remove player.coinGuid false false).1 player.attach with
      | none =>
          exact ⟨[player.coinGuid], rfl, fun g hg => by simp_all [sideGuids]⟩
      | some attach =>
          obtain ⟨hget, -⟩ := Option.filter_eq_some_iff.mp ha
          obtain ⟨-, -, -, -, hguid', -⟩ := h'.get hget
          dsimp only
          rw [hguid']
          exact ⟨[player.coinGuid, player.attach], rfl, fun g hg => hg⟩

/-- Taking out entities of a player who is not being flushed. -/
theorem FlushInv.removeSide (h : FlushInv sch s) {e : Entity} (hget : s.pool.get p = some e)
    {player : PlayerEntity} (hp : e.asPlayer = some player)
    (hgs : ∀ g ∈ gs, g ∈ sideGuids player) (msg : Bool) :
    FlushInv sch { s with pool := removeAll s.pool gs msg } := by
  obtain ⟨-, -, -, -, rfl, hfit⟩ := h.pool.get hget
  obtain ⟨-, hvec, hid⟩ := removeAll_frame gs msg s.pool
  refine h.change ?_ hvec (Nat.le_of_eq hid.symm) ?_
  · exact h.pool.removeAll (fun g hg => (h.pool.side hfit hp (hgs g hg)).1) msg
  · intro q _ rs hq
    refine hq.removeAll ?_ msg
    intro g hg hsome howner
    obtain ⟨info, hi⟩ := Option.ne_none_iff_exists'.mp hsome
    -- then it is the player that is flushed
    have hown := ((h.pool.side hfit hp (hgs g hg)).2 info hi).1
    rw [← howner, hown] at hq
    rw [hq.get_eq_none] at hget
    exact absurd hget (by simp)

theorem FlushInv.write (h : FlushInv sch s) {e e' : Entity} (hget : s.pool.get e.guid = some e')
    (hfit : sch.Fits e) : FlushInv sch { s with pool := s.pool.write e.guid e } := by
  obtain ⟨info₀, hi₀, hfl₀, -⟩ := h.pool.get hget
  have heq := s.pool.write_eq e.guid e
  refine h.change (h.pool.write hfit) (by rw [heq]) (Nat.le_of_eq (by rw [heq])) ?_
  intro q _ rs hq
  refine hq.write ?_ e
  intro info hi
  rw [hi₀] at hi
  obtain rfl := Option.some.inj hi
  exact hfl₀

theorem FlushInv.jump (h : FlushInv sch s) (p : UInt64) (data : List UInt8) :
    FlushInv sch (jumpMap s p data) := by
  unfold jumpMap
  match hget : s.pool.get p with
  | none => exact h
  | some e =>
      dsimp only
      match hp : e.asPlayer, s.playerState[p]? with
      | none, _ => exact h
      | some player, none => exact h
      | some player, some _ =>
          dsimp only
          obtain ⟨info, hi, hfl, hm, hguid, hfit⟩ := h.pool.get hget
          obtain ⟨gs, hpool, hgs⟩ := collectTransferPlayerInfo_pool h.pool hfit hp
          match hc : collectTransferPlayerInfo s.pool e player with
          | (pool, none) => exact h
          | (pool, some map) =>
              rw [hc] at hpool
              have hside := h.removeSide hget hp hgs false
              have hpool' : pool = removeAll s.pool gs false := hpool
              rw [← hpool'] at hside
              -- the player itself is still there
              have hnot : p ∉ gs := by
                intro hmem
                obtain ⟨-, -, hkind⟩ := (h.pool.side hfit hp (hgs p hmem)).2 info hi
                rw [← hguid, ← hfit.kind, Entity.kind_of_asPlayer hp] at hkind
                exact hkind.elim (fun hc => by cases hc) (fun hc => by cases hc)
              have hget' : pool.get p = some e := by
                unfold PoolImp.get at hget ⊢
                rw [hpool', removeAll_of_notMem hnot]
                exact hget
              have hfit' : sch.Fits { e with data } := 
                ⟨hfit.guid, hfit.kind, hfit.player, hfit.coin, hfit.links⟩
              subst hguid
              have hwrite : FlushInv sch { s with pool := pool.write e.guid { e with data } } :=
                FlushInv.write hside (e := { e with data }) hget' hfit'
              exact hwrite.of_same rfl rfl rfl

/-! ## §3. A finished flush. -/

/-- What a list holds depends on the entities and the records only. -/
theorem InFlush.of_same (h : InFlush sch pool p rs) (hem : pool'.entityMap = pool.entityMap)
    (hdb : pool'.dbEntityMap = pool.dbEntityMap) : InFlush sch pool' p rs := by
  refine h.congr ?_ ?_
  · intro g info _ hi hfl
    exact ⟨info, by rw [hem]; exact hi, hfl, rfl⟩
  · intro g info _ hno o i hi
    rw [hdb] at hi
    exact hno o i hi

theorem clearFlushState_getElem? (pool : PoolImp Entity) (p g : UInt64) :
    (pool.clearFlushState p).entityMap[g]? = (pool.entityMap[g]?).map
      (fun info => if g = p then { info with isFlushing := false } else info) := by
  unfold PoolImp.clearFlushState
  match hp : pool.entityMap[p]? with
  | none =>
      by_cases hg : g = p
      · subst hg
        simp [hp]
      · simp [hg]
  | some info =>
      by_cases hg : g = p
      · subst hg
        simp [hp]
      · have hne : ¬ p = g := fun h => hg h.symm
        simp [TreeMap.getElem?_insert, hg, hne]

theorem clearFlushState_eq (pool : PoolImp Entity) (p : UInt64) :
    pool.clearFlushState p = { pool with entityMap := (pool.clearFlushState p).entityMap } := by
  unfold PoolImp.clearFlushState
  split <;> rfl

theorem Schema.Holds.clearFlushState (h : sch.Holds pool) (p : UInt64) :
    sch.Holds (pool.clearFlushState p) where
  entities := by
    intro g info' hg
    rw [clearFlushState_getElem?] at hg
    obtain ⟨info, hi, rfl⟩ := Option.map_eq_some_iff.mp hg
    obtain ⟨hno, hcoin, e, hm, hguid, hfit⟩ := h.entities g info hi
    split
    · exact ⟨hno, fun _ => rfl, e, hm, hguid, hfit⟩
    · exact ⟨hno, hcoin, e, hm, hguid, hfit⟩
  owners := by
    rw [clearFlushState_eq]
    exact h.owners
  pending := by
    rw [clearFlushState_eq]
    exact h.pending
  updating := by
    rw [clearFlushState_eq]
    exact h.updating

/-- The mark of the player whose flush is finished is taken back. -/
theorem FlushInv.clearFlushState (h : FlushInv sch s) (hself : sch.owner p = p)
    (hnot : p ∉ flushing s) : FlushInv sch { s with pool := s.pool.clearFlushState p } := by
  have heq := clearFlushState_eq s.pool p
  refine h.change (h.pool.clearFlushState p) (by rw [heq]) (Nat.le_of_eq (by rw [heq])) ?_
  intro q hq rs hin
  refine hin.congr ?_ ?_
  · intro g info hown hi hfl
    have hne : g ≠ p := by
      intro hgp
      rw [hgp, hself] at hown
      exact hnot (hown ▸ hq)
    exact ⟨info, by rw [clearFlushState_getElem?, hi, Option.map_some, if_neg hne], hfl, rfl⟩
  · intro g info _ hno
    rw [heq]
    exact hno

/-- Taking out entities of a player whose flush is finished. -/
theorem FlushInv.removeOwn (h : FlushInv sch s) (hnot : p ∉ flushing s)
    (hgs : ∀ g ∈ gs, Removable s.pool g ∧ (s.pool.entityMap[g]? ≠ none → sch.owner g = p))
    (msg : Bool) : FlushInv sch { s with pool := removeAll s.pool gs msg } := by
  obtain ⟨-, hvec, hid⟩ := removeAll_frame gs msg s.pool
  refine h.change ?_ hvec (Nat.le_of_eq hid.symm) ?_
  · exact h.pool.removeAll (fun g hg => (hgs g hg).1) msg
  · intro q hq rs hin
    refine hin.removeAll ?_ msg
    intro g hg hsome howner
    exact hnot (((hgs g hg).2 hsome).symm.trans howner ▸ hq)

/-- A finished flush is recorded with a safe removal. -/
theorem FlushInv.record (h : FlushInv sch s) {ev : FlushRemoval} (hev : ev.Safe)
    (states : TreeMap UInt64 AttachInfo) :
    FlushInv sch { s with playerState := states, removals := ev :: s.removals } := by
  refine ⟨h.pool, h.lists, h.one, h.ids, h.flushIds, ?_⟩
  intro ev' hev'
  match List.mem_cons.mp hev' with
  | Or.inl heq =>
      rw [heq]
      exact hev
  | Or.inr hold => exact h.removals ev' hold

/-- The guids of a request list. -/
theorem InFlush.guids (h : InFlush sch pool p rs) : ∀ g ∈ rs.map (·.guid),
    NotPendingAdd pool g ∧ sch.owner g = p := by
  intro g hg
  obtain ⟨r, hr, rfl⟩ := List.mem_map.mp hg
  obtain ⟨-, hown, hno, -⟩ := h.held r hr
  exact ⟨hno, hown⟩

/-- They can be removed from any pool with the same records. -/
theorem InFlush.removable (h : InFlush sch pool p rs) (hdb : pool'.dbEntityMap = pool.dbEntityMap) :
    ∀ g ∈ rs.map (·.guid),
      Removable pool' g ∧ (pool'.entityMap[g]? ≠ none → sch.owner g = p) := by
  intro g hg
  refine ⟨Or.inr ?_, fun _ => (h.guids g hg).2⟩
  unfold NotPendingAdd
  rw [hdb]
  exact (h.guids g hg).1

theorem InFlush.owner_self (h : InFlush sch pool p rs) : sch.owner p = p := by
  obtain ⟨r, hr, hguid⟩ := h.own
  obtain ⟨-, hown, -⟩ := h.held r hr
  rw [hguid] at hown
  exact hown

/-- **What a list carried was written**, with the content it has, or its request
failed. -/
theorem InFlush.written (h : InFlush sch pool p rs) {ev : FlushRemoval}
    (hvec : ev.requestList.requestVec = rs) (hbefore : ev.before = pool.entityMap)
    (hg : g ∈ rs.map (·.guid)) {info : EntityInfo Entity} (hi : ev.before[g]? = some info) :
    ev.Failed g ∨ ev.Written g info := by
  obtain ⟨r, hr, rfl⟩ := List.mem_map.mp hg
  obtain ⟨hwrite, -, -, info', hi', -, hm⟩ := h.held r hr
  rw [hbefore, hi'] at hi
  obtain rfl := Option.some.inj hi
  have hmem : r ∈ ev.requestList.requestVec := by
    rw [hvec]
    exact hr
  match hok : r.success with
  | false => exact Or.inl ⟨r, hmem, rfl, hwrite, hok⟩
  | true => exact Or.inr ⟨r, hmem, rfl, hwrite, hok, hm.symm⟩

theorem FlushInv.finishAfterLostGate (h : FlushInv sch s) {rl : RequestList Entity}
    (hin : InFlush sch s.pool p rl.requestVec) (hnot : p ∉ flushing s) :
    FlushInv sch (playerFlushDataFinishAfterLostGateConnection s p rl) := by
  refine (h.removeOwn hnot (hin.removable rfl) false).record ?_ s.playerState
  intro g info hrem
  obtain ⟨hbefore, hafter⟩ := hrem
  by_cases hg : g ∈ rl.requestVec.map (·.guid)
  · exact (hin.written rfl rfl hg hbefore).imp_right Or.inl
  · have hkeep : (removeAll s.pool (rl.requestVec.map (·.guid)) false).entityMap[g]? = none :=
      hafter
    have hbefore' : s.pool.entityMap[g]? = some info := hbefore
    rw [removeAll_of_notMem hg, hbefore'] at hkeep
    exact absurd hkeep (by simp)

/-- The entities after the mark of the player was taken back are those of before. -/
theorem clearFlushState_none (h : (pool.clearFlushState p).entityMap[g]? = none) :
    pool.entityMap[g]? = none := by
  rw [clearFlushState_getElem?] at h
  exact Option.map_eq_none_iff.mp h

theorem clearFlushState_message {info : EntityInfo Entity}
    (h : (pool.clearFlushState p).entityMap[g]? = some info) :
    ∃ info₀, pool.entityMap[g]? = some info₀ ∧ info₀.message = info.message := by
  rw [clearFlushState_getElem?] at h
  obtain ⟨info₀, hi, rfl⟩ := Option.map_eq_some_iff.mp h
  refine ⟨info₀, hi, ?_⟩
  split <;> rfl

/-- The state before a finished flush removes anything. -/
theorem FlushInv.cleared (h : FlushInv sch s) {rl : RequestList Entity}
    (hin : InFlush sch s.pool p rl.requestVec) (hnot : p ∉ flushing s) :
    FlushInv sch { s with pool := s.pool.clearFlushState p } ∧
      p ∉ flushing { s with pool := s.pool.clearFlushState p } ∧
      (s.pool.clearFlushState p).dbEntityMap = s.pool.dbEntityMap := by
  refine ⟨h.clearFlushState hin.owner_self hnot, ?_, ?_⟩
  · unfold flushing
    rw [clearFlushState_eq]
    exact hnot
  · rw [clearFlushState_eq]

theorem FlushInv.finishJump (h : FlushInv sch s) {rl : RequestList Entity}
    (hin : InFlush sch s.pool p rl.requestVec) (hnot : p ∉ flushing s)
    (transferInfo : Option EntityGuidMap) (states : TreeMap UInt64 AttachInfo) :
    let pool := removeAll (s.pool.clearFlushState p) (rl.requestVec.map (·.guid)) false
    FlushInv sch
      { s with
        pool
        playerState := states
        removals :=
          { player := p, requestList := rl, before := s.pool.entityMap, after := pool.entityMap
            transferInfo } :: s.removals } := by
  obtain ⟨hclear, hnot', hdb⟩ := h.cleared hin hnot
  refine (hclear.removeOwn hnot' (hin.removable hdb) false).record ?_ states
  intro g info hrem
  obtain ⟨hbefore, hafter⟩ := hrem
  by_cases hg : g ∈ rl.requestVec.map (·.guid)
  · exact (hin.written rfl rfl hg hbefore).imp_right Or.inl
  · have hkeep : (removeAll (s.pool.clearFlushState p) (rl.requestVec.map (·.guid))
        false).entityMap[g]? = none := hafter
    rw [removeAll_of_notMem hg] at hkeep
    have hbefore' : s.pool.entityMap[g]? = some info := hbefore
    rw [clearFlushState_none hkeep] at hbefore'
    exact absurd hbefore' (by simp)

/-- The coin that is delivered is the one in the pool, with the player's balances. -/
theorem Schema.Holds.delivered (h : sch.Holds pool) {fields : PlayerEntity}
    {info : EntityInfo Entity} (hi : pool.entityMap[fields.coinGuid]? = some info)
    (hkind : sch.kind fields.coinGuid = .coin) :
    ∃ e coin, info.message = some e ∧ e.asCoin = some coin ∧
      deliveryCoinToLS pool fields = some { e with
        body := .coin { coin with coin := fields.coin, money := fields.money } } := by
  obtain ⟨-, hcoin, e, hm, hguid, hfit⟩ := h.entities _ info hi
  have hbody : e.body.kind = .coin := by
    rw [hfit.kind, hguid, hkind]
  obtain ⟨coin, hasCoin⟩ := Option.isSome_iff_exists.mp (hfit.coin hbody)
  refine ⟨e, coin, hm, hasCoin, ?_⟩
  have hget : pool.get fields.coinGuid = some e := by
    unfold PoolImp.get
    rw [hi]
    simp [hcoin hkind, hm]
  unfold deliveryCoinToLS getCoin
  rw [hget]
  simp [hasCoin]

/-- **Leaving**: the coin was delivered, the attach entity is given up, and the rest
was written. -/
theorem FlushInv.finishLeave (h : FlushInv sch s) {rl : RequestList Entity}
    (hin : InFlush sch s.pool p rl.requestVec) (hnot : p ∉ flushing s)
    (states : TreeMap UInt64 AttachInfo) :
    let cleared := s.pool.clearFlushState p
    let player := (cleared.get p).bind Entity.asPlayer
    let pool := removeAll (removeAll cleared
      ((player.map fun player => [player.coinGuid, player.attach]).getD []) true)
      (rl.requestVec.map (·.guid)) true
    FlushInv sch
      { s with
        pool
        playerState := states
        removals :=
          { player := p, requestList := rl, before := s.pool.entityMap, after := pool.entityMap
            delivered := player.bind (deliveryCoinToLS cleared) } :: s.removals } := by
  obtain ⟨hclear, hnot', hdb⟩ := h.cleared hin hnot
  dsimp only
  generalize hside : (((s.pool.clearFlushState p).get p).bind Entity.asPlayer).map
    (fun player => [player.coinGuid, player.attach]) = side
  -- what is removed besides the list are the side entities of the player
  have hgs : ∀ g ∈ side.getD [], ∃ e fields, (s.pool.clearFlushState p).get p = some e ∧
      e.asPlayer = some fields ∧ g ∈ sideGuids fields := by
    intro g hg
    match side with
    | none => exact absurd hg (by simp)
    | some l =>
        obtain ⟨fields, hbind, rfl⟩ := Option.map_eq_some_iff.mp hside
        obtain ⟨e, he, hp⟩ := Option.bind_eq_some_iff.mp hbind
        exact ⟨e, fields, he, hp, hg⟩
  have hremovable : ∀ g ∈ side.getD [], Removable (s.pool.clearFlushState p) g ∧
      ((s.pool.clearFlushState p).entityMap[g]? ≠ none → sch.owner g = p) := by
    intro g hg
    obtain ⟨e, fields, he, hp, hmem⟩ := hgs g hg
    obtain ⟨-, -, -, -, hguid, hfit⟩ := hclear.pool.get he
    obtain ⟨hrem, hown⟩ := hclear.pool.side hfit hp hmem
    refine ⟨hrem, fun hsome => ?_⟩
    obtain ⟨info, hi⟩ := Option.ne_none_iff_exists'.mp hsome
    exact (hown info hi).1.trans hguid
  have hfirst := hclear.removeOwn hnot' hremovable true
  obtain ⟨hdb', hvec', -⟩ := removeAll_frame (side.getD []) true (s.pool.clearFlushState p)
  have hnot'' : p ∉ flushing
      { s with pool := removeAll (s.pool.clearFlushState p) (side.getD []) true } := by
    unfold flushing
    rw [hvec']
    exact hnot'
  refine (hfirst.removeOwn hnot'' (hin.removable (hdb'.trans hdb)) true).record ?_ states
  intro g info hrem
  obtain ⟨hbefore, hafter⟩ := hrem
  have hbefore' : s.pool.entityMap[g]? = some info := hbefore
  by_cases hg : g ∈ rl.requestVec.map (·.guid)
  · exact (hin.written rfl rfl hg hbefore).imp_right Or.inl
  · have hkeep : (removeAll (removeAll (s.pool.clearFlushState p) (side.getD []) true)
        (rl.requestVec.map (·.guid)) true).entityMap[g]? = none := hafter
    rw [removeAll_of_notMem hg] at hkeep
    by_cases hmem : g ∈ side.getD []
    · refine Or.inr (Or.inr (Or.inr ?_))
      obtain ⟨e, fields, he, hp, hsides⟩ := hgs g hmem
      obtain ⟨infoₚ, hiₚ, -, hmₚ, hguid, hfit⟩ := hclear.pool.get he
      -- the player's fields are those of before
      obtain ⟨info₀, hi₀, hm₀⟩ := clearFlushState_message hiₚ
      have hfields : ((s.pool.entityMap[p]?).bind
          (fun info => info.message.bind Entity.asPlayer)) = some fields := by
        rw [hi₀, Option.bind_some, hm₀, hmₚ, Option.bind_some, hp]
      by_cases hcoin : g = fields.coinGuid
      · refine Or.inl ?_
        subst hcoin
        obtain ⟨info', hi', hm'⟩ : ∃ info', (s.pool.clearFlushState p).entityMap[fields.coinGuid]?
            = some info' ∧ info'.message = info.message := by
          refine ⟨_, by rw [clearFlushState_getElem?, hbefore', Option.map_some], ?_⟩
          split <;> rfl
        have hkind := ((hclear.pool.side hfit hp hsides).2 info' hi').2.1 rfl
        obtain ⟨c, coin, hmc, hasCoin, hdel⟩ := hclear.pool.delivered hi' hkind
        refine ⟨fields, c, coin, hfields, rfl, hm'.symm.trans hmc, hasCoin, ?_⟩
        show (((s.pool.clearFlushState p).get p).bind Entity.asPlayer).bind
          (deliveryCoinToLS (s.pool.clearFlushState p)) = _
        rw [he, Option.bind_some, hp, Option.bind_some]
        exact hdel
      · have hattach : g = fields.attach := by
          have hor : g = fields.coinGuid ∨ g = fields.attach := by simpa [sideGuids] using hsides
          exact hor.resolve_left hcoin
        exact Or.inr ⟨fields, hfields, hattach⟩
    · rw [removeAll_of_notMem hmem] at hkeep
      rw [clearFlushState_none hkeep] at hbefore'
      exact absurd hbefore' (by simp)

/-- **A finished flush** keeps the invariant. -/
theorem FlushInv.finish (h : FlushInv sch s) {rl : RequestList Entity}
    (hin : InFlush sch s.pool p rl.requestVec) (hnot : p ∉ flushing s) :
    FlushInv sch (playerFlushDataFinish s p rl) := by
  unfold playerFlushDataFinish
  split
  · exact h.finishAfterLostGate hin hnot
  · match s.playerState[p]? with
    | none => exact h
    | some attachInfo =>
        dsimp only
        split
        · exact h.finishJump hin hnot attachInfo.transferInfo _
        · exact h.finishLeave hin hnot _

end Steppingstone.Player
