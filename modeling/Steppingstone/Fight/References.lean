/-
  Steppingstone.Fight.References — counting the requests that use the entities of
  a player.

  `Exact o r put n` says that the table counts `n g` requests for the player `g`
  and that the entities `put` for a player are in the pool exactly while that
  number is positive.  It is kept by counting one more, by giving one back and
  by an answer with entities.

  Entities belong to players, `Ownership`; a player belongs to himself.  What is
  collected for a player belongs to him and is not about to be stored as new.
-/
import Steppingstone.Fight.Linked
import Steppingstone.Lib.Lookup

namespace Steppingstone.Fight

open Pool (PoolImp EntityInfo EntityOpType guidType etPlayer)
open Player (Entity PlayerEntity)
open Std (TreeMap)

/-! ## §1. Whose entities they are. -/

/-- The player an entity belongs to. -/
structure Ownership where
  owner : UInt64 → UInt64
  self : ∀ g, guidType g = etPlayer → owner g = g

/-- The entities a player refers to are his. -/
def Ownership.Owns (o : Ownership) (g : UInt64) (p : PlayerEntity) : Prop :=
  ∀ k ∈ p.roles ++ [p.form], k ≠ 0 → o.owner k = g

/-- The players in the pool can be located, and what they refer to is theirs. -/
structure Roster (o : Ownership) (pool : PoolImp Entity) : Prop where
  zero : pool.entityMap[(0 : UInt64)]? = none
  players : ∀ g info, guidType g = etPlayer → pool.entityMap[g]? = some info →
    info.isFlushing = false ∧ ∃ e p, info.message = some e ∧ e.asPlayer = some p ∧ o.Owns g p

/-- **What is collected for a player**: the player first, and only entities of his
that are not about to be stored as new. -/
structure Collected (o : Ownership) (pool : PoolImp Entity) (g : UInt64)
    (msgs : CollectMsgInfo) : Prop where
  head : ∃ e rest p, msgs = (g, e) :: rest ∧ e.asPlayer = some p ∧ o.Owns g p
  keys : ∀ k ∈ guidVecOf msgs, k ≠ 0 ∧ o.owner k = g ∧ ∀ x, pool.isUpdating x k = false

section

variable {o : Ownership} {pool : PoolImp Entity} {r : References}

theorem Roster.get_player (h : Roster o pool) {g : UInt64} {info : EntityInfo Entity}
    (hg : guidType g = etPlayer) (he : pool.entityMap[g]? = some info) :
    ∃ p, (pool.get g).bind Entity.asPlayer = some p ∧ o.Owns g p := by
  obtain ⟨hfl, e, p, hmsg, hp, howns⟩ := h.players g info hg he
  refine ⟨p, ?_, howns⟩
  unfold PoolImp.get
  rw [he]
  dsimp only
  rw [hfl, hmsg]
  exact hp

/-- A player in the pool is located. -/
theorem Roster.locate (h : Roster o r.pool) {g : UInt64} (hg : guidType g = etPlayer)
    (he : r.pool.entityMap[g]? ≠ none) : r.requestPlayerFightDataFromLocate g ≠ none := by
  obtain ⟨info, hinfo⟩ := Option.ne_none_iff_exists'.mp he
  obtain ⟨p, hp, -⟩ := h.get_player hg hinfo
  unfold References.requestPlayerFightDataFromLocate
  rw [hp]
  exact Option.some_ne_none _

/-- What is located for a player is his, and he is in the pool. -/
theorem Roster.located (h : Roster o r.pool) {g : UInt64} (hg : guidType g = etPlayer)
    {l : List UInt64} (hl : r.requestPlayerFightDataFromLocate g = some l) :
    r.pool.entityMap[g]? ≠ none ∧ g ∈ l ∧ ∀ k ∈ l, o.owner k = g := by
  unfold References.requestPlayerFightDataFromLocate at hl
  match he : r.pool.entityMap[g]? with
  | none =>
      have hget : r.pool.get g = none := by
        unfold PoolImp.get
        rw [he]
      rw [hget] at hl
      exact absurd hl (by simp)
  | some info =>
      obtain ⟨p, hp, howns⟩ := h.get_player hg he
      rw [hp] at hl
      dsimp only at hl
      obtain rfl := Option.some.inj hl
      -- nothing is stored under 0
      have hzero : ∀ f : Entity → Bool, (r.pool.get 0).any f = false := by
        intro f
        unfold PoolImp.get
        rw [h.zero]
        rfl
      refine ⟨Option.some_ne_none info, by simp, ?_⟩
      intro k hk
      simp only [List.cons_append, List.mem_cons, List.mem_append, List.mem_filter] at hk
      match hk with
      | Or.inl heq => rw [heq, o.self g hg]
      | Or.inr (Or.inl ⟨hmem, hany⟩) =>
          refine howns k (List.mem_append.mpr (Or.inl hmem)) ?_
          intro h0
          rw [h0, hzero] at hany
          exact absurd hany (by simp)
      | Or.inr (Or.inr hmem) =>
          split at hmem
          · next hany =>
              rw [List.mem_singleton.mp hmem]
              refine howns p.form (by simp) ?_
              intro h0
              rw [h0, hzero] at hany
              exact absurd hany (by simp)
          · exact absurd hmem (by simp)

/-! ## §2. Removing entities. -/

/-- The removal loop of `reduceReferenceNo`. -/
def removeAll (pool : PoolImp Entity) (guids : List UInt64) : PoolImp Entity :=
  guids.foldl (fun pool g => (pool.remove g false true).1) pool

theorem removeAll_keeps {guids : List UInt64} {k : UInt64} {info' : EntityInfo Entity}
    (h : (removeAll pool guids).entityMap[k]? = some info') :
    ∃ info, pool.entityMap[k]? = some info ∧ info'.isFlushing = info.isFlushing ∧
      info'.message = info.message := by
  induction guids generalizing pool with
  | nil => exact ⟨info', h, rfl, rfl⟩
  | cons g rest ih =>
      obtain ⟨info, hinfo, hfl, hmsg⟩ := @ih (pool.remove g false true).1 h
      obtain ⟨info₀, hinfo₀, hfl₀, hmsg₀⟩ := pool.remove_keeps hinfo
      exact ⟨info₀, hinfo₀, hfl.trans hfl₀, hmsg.trans hmsg₀⟩

theorem removeAll_none {guids : List UInt64} {k : UInt64} (h : pool.entityMap[k]? = none) :
    (removeAll pool guids).entityMap[k]? = none := by
  match he : (removeAll pool guids).entityMap[k]? with
  | none => rfl
  | some info' =>
      obtain ⟨info, hinfo, -⟩ := removeAll_keeps he
      rw [h] at hinfo
      exact absurd hinfo (by simp)

theorem removeAll_isUpdating (pool : PoolImp Entity) (guids : List UInt64) (x k : UInt64) :
    (removeAll pool guids).isUpdating x k = pool.isUpdating x k := by
  induction guids generalizing pool with
  | nil => rfl
  | cons g rest ih =>
      show (removeAll (pool.remove g false true).1 rest).isUpdating x k = _
      rw [ih]
      unfold PoolImp.isUpdating
      rw [(pool.remove_frame g true).1]

/-- Entities outside the list stay, with their owners. -/
theorem removeAll_other {guids : List UInt64} {k : UInt64} (hk : k ∉ guids) :
    (removeAll pool guids).entityMap[k]? = pool.entityMap[k]? ∧
    (removeAll pool guids).guidOwnerguidMap[k]? = pool.guidOwnerguidMap[k]? := by
  induction guids generalizing pool with
  | nil => exact ⟨rfl, rfl⟩
  | cons g rest ih =>
      have hne : k ≠ g := fun he => hk (he ▸ List.mem_cons_self ..)
      have hrest : k ∉ rest := fun hm => hk (List.mem_cons_of_mem _ hm)
      obtain ⟨hem, how⟩ := @ih (pool.remove g false true).1 hrest
      exact ⟨hem.trans (pool.remove_getElem?_of_ne hne true),
        how.trans (pool.remove_owner_of_ne hne true)⟩

/-- **The entities of the list are gone**, if they have owners and are not about
to be stored as new. -/
theorem removeAll_gone {guids : List UInt64} {k : UInt64} (hk : k ∈ guids)
    (ho : pool.guidOwnerguidMap[k]? ≠ none) (hno : ∀ x, pool.isUpdating x k = false) :
    (removeAll pool guids).entityMap[k]? = none := by
  induction guids generalizing pool with
  | nil => exact absurd hk (by simp)
  | cons g rest ih =>
      show (removeAll (pool.remove g false true).1 rest).entityMap[k]? = none
      by_cases hg : k = g
      · subst hg
        obtain ⟨x, hx⟩ := Option.ne_none_iff_exists'.mp ho
        exact removeAll_none (pool.remove_gone hx (hno x))
      · refine ih (List.mem_of_ne_of_mem hg hk) ?_ ?_
        · rw [pool.remove_owner_of_ne hg true]
          exact ho
        · intro x
          unfold PoolImp.isUpdating
          rw [(pool.remove_frame g true).1]
          exact hno x

theorem Roster.removeAll (h : Roster o pool) (guids : List UInt64) :
    Roster o (removeAll pool guids) := by
  refine ⟨removeAll_none h.zero, ?_⟩
  intro g info' hg he
  obtain ⟨info, hinfo, hfl, hmsg⟩ := removeAll_keeps he
  obtain ⟨hfl', e, p, hmsg', hp, howns⟩ := h.players g info hg hinfo
  exact ⟨hfl.trans hfl', e, p, hmsg.trans hmsg', hp, howns⟩

/-! ## §3. Adding what was collected. -/

/-- `POOL_OP_ADD` in a loop. -/
def addAll (pool : PoolImp Entity) (g : UInt64) (msgs : CollectMsgInfo) : PoolImp Entity :=
  msgs.foldl (fun pool e => (pool.add e.1 (some e.2) false g).1) pool

/-- Adding without a write changes the entity and its owner only. -/
theorem add_false_eq (pool : PoolImp Entity) (k : UInt64) (e : Entity) (g : UInt64) :
    (pool.add k (some e) false g).1 =
      if pool.entityMap[k]? = none then pool.withEntity k g e else pool.withOwner k g := by
  match hk : pool.entityMap[k]? with
  | none =>
      rw [if_pos rfl, pool.add_of_none hk e false g]
      rfl
  | some info => rw [if_neg (Option.some_ne_none info), pool.add_of_some hk e false g]

theorem add_false_isUpdating (pool : PoolImp Entity) (k : UInt64) (e : Entity) (g x k' : UInt64) :
    (pool.add k (some e) false g).1.isUpdating x k' = pool.isUpdating x k' := by
  rw [add_false_eq]
  split <;> rfl

theorem add_false_owner (pool : PoolImp Entity) (k : UInt64) (e : Entity) (g k' : UInt64) :
    (pool.add k (some e) false g).1.guidOwnerguidMap[k']? =
      if k' = k then some g else pool.guidOwnerguidMap[k']? := by
  rw [(pool.add_frame k e false g).2.2.1, TreeMap.getElem?_insert]
  by_cases hk : k' = k
  · simp [hk]
  · simp [hk, Ne.symm hk]

theorem addAll_isUpdating (pool : PoolImp Entity) (g : UInt64) (msgs : CollectMsgInfo)
    (x k : UInt64) : (addAll pool g msgs).isUpdating x k = pool.isUpdating x k := by
  induction msgs generalizing pool with
  | nil => rfl
  | cons m rest ih =>
      show (addAll (pool.add m.1 (some m.2) false g).1 g rest).isUpdating x k = _
      rw [ih, add_false_isUpdating]

/-- What was in the pool stays as it was. -/
theorem addAll_of_some {g : UInt64} {msgs : CollectMsgInfo} {k : UInt64}
    {info : EntityInfo Entity} (h : pool.entityMap[k]? = some info) :
    (addAll pool g msgs).entityMap[k]? = some info := by
  induction msgs generalizing pool with
  | nil => exact h
  | cons m rest ih =>
      refine @ih (pool.add m.1 (some m.2) false g).1 ?_
      rw [pool.add_getElem? m.1 m.2 false g k, if_neg, h]
      intro hc
      rw [hc.1, hc.2] at h
      exact absurd h (by simp)

theorem addAll_other {g : UInt64} {msgs : CollectMsgInfo} {k : UInt64}
    (hk : k ∉ guidVecOf msgs) :
    (addAll pool g msgs).entityMap[k]? = pool.entityMap[k]? ∧
    (addAll pool g msgs).guidOwnerguidMap[k]? = pool.guidOwnerguidMap[k]? := by
  induction msgs generalizing pool with
  | nil => exact ⟨rfl, rfl⟩
  | cons m rest ih =>
      have hk' : k ∉ m.1 :: guidVecOf rest := hk
      have hne : k ≠ m.1 := fun he => hk' (he ▸ List.mem_cons_self ..)
      have hrest : k ∉ guidVecOf rest := fun hm => hk' (List.mem_cons_of_mem _ hm)
      obtain ⟨hem, how⟩ := @ih (pool.add m.1 (some m.2) false g).1 hrest
      refine ⟨hem.trans ?_, how.trans ?_⟩
      · rw [pool.add_getElem?, if_neg (fun hc => hne hc.1)]
      · rw [add_false_owner, if_neg hne]

/-- **What was collected is in the pool**, with an owner. -/
theorem addAll_mem {g : UInt64} {msgs : CollectMsgInfo} {k : UInt64}
    (hk : k ∈ guidVecOf msgs) :
    (addAll pool g msgs).entityMap[k]? ≠ none ∧
    (addAll pool g msgs).guidOwnerguidMap[k]? ≠ none := by
  induction msgs generalizing pool with
  | nil => exact absurd hk (by simp [guidVecOf])
  | cons m rest ih =>
      show (addAll (pool.add m.1 (some m.2) false g).1 g rest).entityMap[k]? ≠ none ∧
        (addAll (pool.add m.1 (some m.2) false g).1 g rest).guidOwnerguidMap[k]? ≠ none
      by_cases hmem : k ∈ guidVecOf rest
      · exact ih hmem
      · have heq : k = m.1 := by
          have hk' : k ∈ m.1 :: guidVecOf rest := hk
          exact (List.mem_cons.mp hk').resolve_right hmem
        obtain ⟨hem, how⟩ := @addAll_other (pool.add m.1 (some m.2) false g).1 g _ _ hmem
        rw [hem, how, pool.add_getElem?, add_false_owner, if_pos heq, heq]
        refine ⟨?_, Option.some_ne_none _⟩
        split
        · exact Option.some_ne_none _
        · next hc => exact fun hnone => hc ⟨rfl, hnone⟩

/-- Adding what was collected for a player who was not there. -/
theorem Roster.addAll (h : Roster o pool) {g : UInt64} {msgs : CollectMsgInfo}
    (hc : Collected o pool g msgs) (hnone : pool.entityMap[g]? = none) :
    Roster o (addAll pool g msgs) := by
  refine ⟨?_, ?_⟩
  · rw [(addAll_other (fun hm => (hc.keys 0 hm).1 rfl)).1]
    exact h.zero
  · intro k info hk he
    by_cases hmem : k ∈ guidVecOf msgs
    · -- the only player among them is the one they were collected for
      have hkg : k = g := by
        rw [← (hc.keys k hmem).2.1, o.self k hk]
      subst hkg
      obtain ⟨e, rest, p, hmsgs, hp, howns⟩ := hc.head
      have hfirst : (Fight.addAll pool k msgs).entityMap[k]? =
          some { opType := EntityOpType.add.value, ownerGuid := k, message := some e } := by
        rw [hmsgs]
        refine @addAll_of_some (pool.add k (some e) false k).1 _ _ _ _ ?_
        rw [pool.add_getElem?, if_pos ⟨rfl, hnone⟩]
      rw [hfirst] at he
      obtain rfl := Option.some.inj he
      exact ⟨rfl, e, p, rfl, hp, howns⟩
    · rw [(addAll_other hmem).1] at he
      exact h.players k info hk he

end

/-! ## §4. Exact counts. -/

/-- The table entry of a player that `n` requests use. -/
def CountIs (entry : Option ReferenceInfo) (n : Nat) : Prop :=
  match entry with
  | none => n = 0
  | some info => 0 < n ∧ info.referenceNo = n

/-- **The counts are exact**: `n g` requests use the player `g`, and what was `put`
into the pool for a player is there exactly while somebody uses him. -/
structure Exact (o : Ownership) (r : References) (put : UInt64 → Option (List UInt64))
    (n : UInt64 → Nat) : Prop where
  roster : Roster o r.pool
  count : ∀ g, CountIs (r.guidReferenceMap g) (n g)
  impack : ∀ g info, r.guidReferenceMap g = some info →
    g ∈ info.impackGuid ∧ ∀ k ∈ info.impackGuid, o.owner k = g
  present : ∀ g, 0 < n g → r.pool.entityMap[g]? ≠ none
  same : ∀ g info keys, r.guidReferenceMap g = some info → put g = some keys →
    info.impackGuid = keys
  headed : ∀ g keys, put g = some keys → g ∈ keys
  his : ∀ g keys, put g = some keys → ∀ k ∈ keys,
    o.owner k = g ∧ ∀ x, r.pool.isUpdating x k = false
  kept : ∀ g keys, put g = some keys → 0 < n g → ∀ k ∈ keys,
    r.pool.entityMap[k]? ≠ none ∧ r.pool.guidOwnerguidMap[k]? ≠ none
  gone : ∀ g keys, put g = some keys → n g = 0 → ∀ k ∈ keys, r.pool.entityMap[k]? = none

namespace Exact

variable {o : Ownership} {r : References} {put : UInt64 → Option (List UInt64)}
  {n : UInt64 → Nat}

theorem init {pool : PoolImp Entity} (h : Roster o pool) :
    Exact o { pool } (fun _ => none) (fun _ => 0) where
  roster := h
  count := fun _ => rfl
  impack := by intro g info hinfo; exact absurd hinfo (by simp)
  present := by intro g hg; exact absurd hg (by simp)
  same := by intro g info keys hinfo; exact absurd hinfo (by simp)
  headed := by intro g keys hk; exact absurd hk (by simp)
  his := by intro g keys hk; exact absurd hk (by simp)
  kept := by intro g keys hk; exact absurd hk (by simp)
  gone := by intro g keys hk; exact absurd hk (by simp)

theorem entry_of_zero (h : Exact o r put n) {g : UInt64} (hg : n g = 0) :
    r.guidReferenceMap g = none := by
  have hcount := h.count g
  match he : r.guidReferenceMap g with
  | none => rfl
  | some info =>
      rw [he] at hcount
      have hpos : 0 < n g := hcount.1
      omega

theorem entry_of_pos (h : Exact o r put n) {g : UInt64} (hg : 0 < n g) :
    ∃ info, r.guidReferenceMap g = some info ∧ info.referenceNo = n g := by
  have hcount := h.count g
  match he : r.guidReferenceMap g with
  | none =>
      rw [he] at hcount
      have hzero : n g = 0 := hcount
      omega
  | some info =>
      rw [he] at hcount
      exact ⟨info, rfl, hcount.2⟩

/-- Only the count of one player changes, and stays positive. -/
theorem recount (h : Exact o r put n) {g : UInt64} {info : ReferenceInfo} {m : Nat}
    (hinfo : r.guidReferenceMap g = some info) (hm : 0 < m) :
    Exact o
      { r with
        guidReferenceMap := Function.update r.guidReferenceMap g
          (some { info with referenceNo := (m : Int) }) }
      put (Function.update n g m) := by
  have hpos : 0 < n g := by
    have hcount := h.count g
    rw [hinfo] at hcount
    exact hcount.1
  -- a positive count was positive before, and an entry has the guids it had
  have hpos' : ∀ k, 0 < Function.update n g m k → 0 < n k := by
    intro k hk
    by_cases hkg : k = g
    · rw [hkg]
      exact hpos
    · rw [Function.update_of_ne hkg] at hk
      exact hk
  have hentry : ∀ k info', Function.update r.guidReferenceMap g
      (some { info with referenceNo := (m : Int) }) k = some info' →
      ∃ old, r.guidReferenceMap k = some old ∧ info'.impackGuid = old.impackGuid := by
    intro k info' hk
    obtain ⟨rfl, rfl⟩ | ⟨-, hk⟩ := Lookup.update_some.mp hk
    · exact ⟨info, hinfo, rfl⟩
    · exact ⟨info', hk, rfl⟩
  refine ⟨h.roster, ?_, ?_, fun k hk => h.present k (hpos' k hk), ?_, h.headed, h.his,
    fun k keys hkeys hk => h.kept k keys hkeys (hpos' k hk), ?_⟩
  · intro k
    show CountIs (Function.update r.guidReferenceMap g _ k) (Function.update n g m k)
    by_cases hkg : k = g
    · rw [hkg, Function.update_self, Function.update_self]
      exact ⟨hm, rfl⟩
    · rw [Function.update_of_ne hkg, Function.update_of_ne hkg]
      exact h.count k
  · intro k info' hk
    obtain ⟨old, hold, heq⟩ := hentry k info' hk
    rw [heq]
    exact h.impack k old hold
  · intro k info' keys hk hkeys
    obtain ⟨old, hold, heq⟩ := hentry k info' hk
    rw [heq]
    exact h.same k old keys hold hkeys
  · intro k keys hkeys hzero
    refine h.gone k keys hkeys ?_
    by_cases hkg : k = g
    · rw [hkg, Function.update_self] at hzero
      omega
    · rw [Function.update_of_ne hkg] at hzero
      exact hzero

/-- **Giving a reference back.** The last one takes the entities out of the pool;
without an entry nothing happens. -/
theorem reduce (h : Exact o r put n) (g : UInt64) :
    Exact o (r.reduceReferenceNo g) put (Function.update n g (n g - 1)) := by
  by_cases hzero : n g = 0
  · have heq : r.reduceReferenceNo g = r := by
      unfold References.reduceReferenceNo
      rw [h.entry_of_zero hzero]
    rw [heq, hzero, show (0 : Nat) - 1 = n g from hzero.symm, Function.update_eq_self]
    exact h
  · obtain ⟨info, hinfo, hno⟩ := h.entry_of_pos (Nat.pos_of_ne_zero hzero)
    unfold References.reduceReferenceNo
    rw [hinfo]
    dsimp only
    by_cases hlast : n g = 1
    · -- the last one: the entities go
      rw [if_pos (by rw [hno, hlast]; decide), hlast]
      obtain ⟨-, himpack⟩ := h.impack g info hinfo
      have hothers : ∀ k g', g' ≠ g → o.owner k = g' → k ∉ info.impackGuid := by
        intro k g' hne hown hmem
        exact hne (hown.symm.trans (himpack k hmem))
      have hne : ∀ k, 0 < Function.update n g (1 - 1) k → k ≠ g ∧ 0 < n k := by
        intro k hk
        by_cases hkg : k = g
        · rw [hkg, Function.update_self] at hk
          omega
        · rw [Function.update_of_ne hkg] at hk
          exact ⟨hkg, hk⟩
      have hentry : ∀ k info', Function.update r.guidReferenceMap g none k = some info' →
          k ≠ g ∧ r.guidReferenceMap k = some info' :=
        fun k info' hk => Lookup.update_none.mp hk
      refine ⟨h.roster.removeAll info.impackGuid, ?_, ?_, ?_, ?_, h.headed, ?_, ?_, ?_⟩
      · intro k
        show CountIs (Function.update r.guidReferenceMap g none k) _
        by_cases hkg : k = g
        · rw [hkg, Function.update_self, Function.update_self]
          rfl
        · rw [Function.update_of_ne hkg, Function.update_of_ne hkg]
          exact h.count k
      · intro k info' hk
        exact h.impack k info' (hentry k info' hk).2
      · intro k hk
        obtain ⟨hkg, hpos⟩ := hne k hk
        obtain ⟨info', hinfo', -⟩ := h.entry_of_pos hpos
        obtain ⟨hmem, hown⟩ := h.impack k info' hinfo'
        show (removeAll r.pool info.impackGuid).entityMap[k]? ≠ none
        rw [(removeAll_other (hothers k k hkg (hown k hmem))).1]
        exact h.present k hpos
      · intro k info' keys hk hkeys
        exact h.same k info' keys (hentry k info' hk).2 hkeys
      · intro k keys hkeys x hx
        obtain ⟨hown, hno'⟩ := h.his k keys hkeys x hx
        refine ⟨hown, fun y => ?_⟩
        show (removeAll r.pool info.impackGuid).isUpdating y x = false
        rw [removeAll_isUpdating]
        exact hno' y
      · intro k keys hkeys hk x hx
        obtain ⟨hkg, hpos⟩ := hne k hk
        obtain ⟨hem, how⟩ := @removeAll_other r.pool _ _
          (hothers x k hkg (h.his k keys hkeys x hx).1)
        show (removeAll r.pool info.impackGuid).entityMap[x]? ≠ none ∧
          (removeAll r.pool info.impackGuid).guidOwnerguidMap[x]? ≠ none
        rw [hem, how]
        exact h.kept k keys hkeys hpos x hx
      · intro k keys hkeys hk x hx
        show (removeAll r.pool info.impackGuid).entityMap[x]? = none
        by_cases hkg : k = g
        · subst hkg
          obtain ⟨-, how⟩ := h.kept k keys hkeys (by omega) x hx
          refine removeAll_gone ?_ how (h.his k keys hkeys x hx).2
          rw [h.same k info keys hinfo hkeys]
          exact hx
        · rw [Function.update_of_ne hkg] at hk
          exact removeAll_none (h.gone k keys hkeys hk x hx)
    · -- one fewer
      rw [if_neg (by rw [hno]; omega)]
      have hcast : info.referenceNo - 1 = ((n g - 1 : Nat) : Int) := by
        rw [hno]
        omega
      rw [hcast]
      exact h.recount hinfo (by omega)

/-- No entity comes back when a reference is given back. -/
theorem reduce_none (g : UInt64) {k : UInt64} (hk : r.pool.entityMap[k]? = none) :
    (r.reduceReferenceNo g).pool.entityMap[k]? = none := by
  unfold References.reduceReferenceNo
  match r.guidReferenceMap g with
  | none => exact hk
  | some info =>
      dsimp only
      split
      · exact removeAll_none hk
      · exact hk

/-- **A completed request** gives back one reference for each of its players. -/
theorem reduceAll (h : Exact o r put n) (infos : List GuidRequestInfo)
    (hn : (infos.map GuidRequestInfo.reqGuid).Nodup) :
    Exact o (r.reduceAll infos) put
      (fun g => if g ∈ infos.map GuidRequestInfo.reqGuid then n g - 1 else n g) ∧
    ∀ k : UInt64, r.pool.entityMap[k]? = none →
      (r.reduceAll infos).pool.entityMap[k]? = none := by
  induction infos generalizing r n with
  | nil =>
      refine ⟨?_, fun k hk => hk⟩
      show Exact o r put _
      simpa using h
  | cons i rest ih =>
      obtain ⟨hnot, hn'⟩ := List.nodup_cons.mp hn
      obtain ⟨hrest, hnone⟩ := ih (h.reduce i.reqGuid) hn'
      refine ⟨?_, fun k hk => hnone k (reduce_none i.reqGuid hk)⟩
      have hsame : (fun g => if g ∈ (i :: rest).map GuidRequestInfo.reqGuid then n g - 1 else n g) =
          fun g => if g ∈ rest.map GuidRequestInfo.reqGuid then
            Function.update n i.reqGuid (n i.reqGuid - 1) g - 1
          else Function.update n i.reqGuid (n i.reqGuid - 1) g := by
        funext g
        by_cases hg : g = i.reqGuid
        · have hmem : i.reqGuid ∈ (i :: rest).map GuidRequestInfo.reqGuid :=
            List.mem_map_of_mem (List.mem_cons_self ..)
          rw [hg, if_pos hmem, if_neg hnot, Function.update_self]
        · rw [Function.update_of_ne hg]
          have hmem : g ∈ (i :: rest).map GuidRequestInfo.reqGuid ↔
              g ∈ rest.map GuidRequestInfo.reqGuid := by
            show g ∈ i.reqGuid :: _ ↔ _
            rw [List.mem_cons]
            exact ⟨fun hm => hm.resolve_left hg, Or.inr⟩
          simp only [hmem]
      rw [hsame]
      exact hrest

/-- **A player in the pool is used once more.** -/
theorem locatedOne (h : Exact o r put n) {g : UInt64} (hg : guidType g = etPlayer)
    {l : List UInt64} (hl : r.requestPlayerFightDataFromLocate g = some l) :
    Exact o (r.addReferenceNo g l) put (Function.update n g (n g + 1)) := by
  obtain ⟨hin, hmem, hown⟩ := h.roster.located hg hl
  unfold References.addReferenceNo
  by_cases hzero : n g = 0
  · -- the first: nothing that was put into the pool for him is there
    have hput : put g = none := by
      match hp : put g with
      | none => rfl
      | some keys => exact absurd (h.gone g keys hp hzero g (h.headed g keys hp)) hin
    rw [h.entry_of_zero hzero, hzero]
    dsimp only
    have hentry : ∀ k info', Function.update r.guidReferenceMap g (some (ReferenceInfo.mk 1 g l)) k =
        some info' → (k = g ∧ info' = ReferenceInfo.mk 1 g l) ∨
          (k ≠ g ∧ r.guidReferenceMap k = some info') :=
      fun k info' hk => Lookup.update_some.mp hk
    have hne : ∀ k keys, put k = some keys → k ≠ g := by
      intro k keys hk hkg
      rw [hkg, hput] at hk
      exact absurd hk (by simp)
    refine ⟨h.roster, ?_, ?_, ?_, ?_, h.headed, h.his, ?_, ?_⟩
    · intro k
      show CountIs (Function.update r.guidReferenceMap g _ k) _
      by_cases hkg : k = g
      · rw [hkg, Function.update_self, Function.update_self]
        exact ⟨Nat.one_pos, rfl⟩
      · rw [Function.update_of_ne hkg, Function.update_of_ne hkg]
        exact h.count k
    · intro k info' hk
      match hentry k info' hk with
      | Or.inl ⟨hkg, hinfo⟩ =>
          rw [hkg, hinfo]
          exact ⟨hmem, hown⟩
      | Or.inr ⟨_, hk'⟩ => exact h.impack k info' hk'
    · intro k hk
      by_cases hkg : k = g
      · rw [hkg]
        exact hin
      · rw [Function.update_of_ne hkg] at hk
        exact h.present k hk
    · intro k info' keys hk hkeys
      match hentry k info' hk with
      | Or.inl ⟨hkg, _⟩ => exact absurd hkg (hne k keys hkeys)
      | Or.inr ⟨_, hk'⟩ => exact h.same k info' keys hk' hkeys
    · intro k keys hkeys hk
      rw [Function.update_of_ne (hne k keys hkeys)] at hk
      exact h.kept k keys hkeys hk
    · intro k keys hkeys hk
      rw [Function.update_of_ne (hne k keys hkeys)] at hk
      exact h.gone k keys hkeys hk
  -- one more
  · obtain ⟨info, hinfo, hno⟩ := h.entry_of_pos (Nat.pos_of_ne_zero hzero)
    rw [hinfo]
    dsimp only
    have hcast : info.referenceNo + 1 = ((n g + 1 : Nat) : Int) := by
      rw [hno]
      omega
    rw [hcast]
    exact h.recount hinfo (by omega)

/-- **Players asked for**: those in the pool are used once more. -/
theorem located (h : Exact o r put n) (guids : List UInt64) (hn : guids.Nodup)
    (hp : ∀ g ∈ guids, guidType g = etPlayer) :
    Exact o (guids.foldl SceneRequestImp.located r) put
      (fun g => if g ∈ guids ∧ r.requestPlayerFightDataFromLocate g ≠ none then n g + 1 else n g) ∧
    (guids.foldl SceneRequestImp.located r).pool = r.pool := by
  induction guids generalizing r n with
  | nil =>
      refine ⟨?_, rfl⟩
      simpa using h
  | cons g rest ih =>
      obtain ⟨hnot, hn'⟩ := List.nodup_cons.mp hn
      have hpool : (SceneRequestImp.located r g).pool = r.pool := by
        unfold SceneRequestImp.located References.addReferenceNo
        split
        · split <;> rfl
        · rfl
      have hone : Exact o (SceneRequestImp.located r g) put
          (Function.update n g
            (if r.requestPlayerFightDataFromLocate g ≠ none then n g + 1 else n g)) := by
        unfold SceneRequestImp.located
        match hl : r.requestPlayerFightDataFromLocate g with
        | some l =>
            rw [if_pos (Option.some_ne_none l)]
            exact h.locatedOne (hp g (List.mem_cons_self ..)) hl
        | none =>
            rw [if_neg (fun hc => hc rfl), Function.update_eq_self]
            exact h
      obtain ⟨hrest, hpool'⟩ := ih hone hn' (fun g' hg' => hp g' (List.mem_cons_of_mem _ hg'))
      refine ⟨?_, hpool'.trans hpool⟩
      -- the guids are distinct, so the first one is not counted again
      have hsame : (fun k => if k ∈ g :: rest ∧ r.requestPlayerFightDataFromLocate k ≠ none
            then n k + 1 else n k) =
          fun k => if k ∈ rest ∧
              (SceneRequestImp.located r g).requestPlayerFightDataFromLocate k ≠ none then
            Function.update n g
              (if r.requestPlayerFightDataFromLocate g ≠ none then n g + 1 else n g) k + 1
          else Function.update n g
              (if r.requestPlayerFightDataFromLocate g ≠ none then n g + 1 else n g) k := by
        funext k
        rw [SceneRequestImp.locate_located]
        by_cases hk : k = g
        · subst hk
          rw [Function.update_self]
          simp [hnot]
        · rw [Function.update_of_ne hk]
          simp [hk]
      rw [hsame]
      exact hrest

/-- Counting several requests for a player without an entry. -/
theorem repeated_add {g : UInt64} {keys : List UInt64} (m : Nat) (r : References)
    (hr : r.guidReferenceMap g = none) :
    SceneRequestImp.repeated (·.addReferenceNo g keys) (m + 1) r =
      { r with
        guidReferenceMap := Function.update r.guidReferenceMap g
          (some (ReferenceInfo.mk (m + 1 : Nat) g keys)) } := by
  have hmore : ∀ (m : Nat) (k : Nat) (r : References),
      SceneRequestImp.repeated (·.addReferenceNo g keys) m
        { r with
          guidReferenceMap := Function.update r.guidReferenceMap g
            (some (ReferenceInfo.mk (k : Nat) g keys)) } =
        { r with
          guidReferenceMap := Function.update r.guidReferenceMap g
            (some (ReferenceInfo.mk ((k + m : Nat) : Int) g keys)) } := by
    intro m
    induction m with
    | zero => intro k r; rfl
    | succ m ih =>
        intro k r
        show SceneRequestImp.repeated _ m (References.addReferenceNo _ g keys) = _
        unfold References.addReferenceNo
        dsimp only
        rw [Function.update_self]
        dsimp only
        rw [Function.update_idem]
        have hih := ih (k + 1) r
        rw [show k + (m + 1) = k + 1 + m by omega, ← hih]
        rfl
  show SceneRequestImp.repeated _ m (r.addReferenceNo g keys) = _
  unfold References.addReferenceNo
  rw [hr]
  dsimp only
  rw [show m + 1 = 1 + m by omega, ← hmore m 1 r]
  rfl

/-- **An answer with entities** puts them into the pool, for all the requests that
waited for it. -/
theorem collected (h : Exact o r put n) {g : UInt64} {msgs : CollectMsgInfo} {m : Nat}
    (hc : Collected o r.pool g msgs) (hnone : r.pool.entityMap[g]? = none) (hm : 0 < m) :
    n g = 0 ∧
    Exact o (SceneRequestImp.toldReferences r g m (some msgs))
      (Function.update put g (some (guidVecOf msgs))) (Function.update n g m) := by
  have hzero : n g = 0 := by
    match hng : n g with
    | 0 => rfl
    | k + 1 => exact absurd hnone (h.present g (by omega))
  refine ⟨hzero, ?_⟩
  have hentry : (r.addCollected g msgs).guidReferenceMap g = none := h.entry_of_zero hzero
  obtain ⟨m', rfl⟩ : ∃ m', m = m' + 1 := ⟨m - 1, by omega⟩
  unfold SceneRequestImp.toldReferences
  dsimp only
  rw [repeated_add m' _ hentry]
  have hmem : g ∈ guidVecOf msgs := by
    obtain ⟨e, rest, p, hmsgs, -, -⟩ := hc.head
    rw [hmsgs]
    exact List.mem_cons_self ..
  -- what belongs to another player is not among what was collected
  have hother : ∀ k, k ≠ g → ∀ x, o.owner x = k → x ∉ guidVecOf msgs := by
    intro k hk x hx hxm
    exact hk (hx.symm.trans (hc.keys x hxm).2.1)
  have hcases : ∀ k info', Function.update r.guidReferenceMap g
      (some (ReferenceInfo.mk ((m' + 1 : Nat) : Int) g (guidVecOf msgs))) k = some info' →
      (k = g ∧ info' = ReferenceInfo.mk ((m' + 1 : Nat) : Int) g (guidVecOf msgs)) ∨
        (k ≠ g ∧ r.guidReferenceMap k = some info') :=
    fun k info' hk => Lookup.update_some.mp hk
  have hputs : ∀ k keys, Function.update put g (some (guidVecOf msgs)) k = some keys →
      (k = g ∧ keys = guidVecOf msgs) ∨ (k ≠ g ∧ put k = some keys) :=
    fun k keys hk => Lookup.update_some.mp hk
  refine ⟨h.roster.addAll hc hnone, ?_, ?_, ?_, ?_, ?_, ?_, ?_, ?_⟩
  · intro k
    show CountIs (Function.update r.guidReferenceMap g _ k) _
    by_cases hkg : k = g
    · rw [hkg, Function.update_self, Function.update_self]
      exact ⟨Nat.succ_pos m', rfl⟩
    · rw [Function.update_of_ne hkg, Function.update_of_ne hkg]
      exact h.count k
  · intro k info' hk
    match hcases k info' hk with
    | Or.inl ⟨hkg, hinfo⟩ =>
        rw [hkg, hinfo]
        exact ⟨hmem, fun x hx => (hc.keys x hx).2.1⟩
    | Or.inr ⟨_, hk'⟩ => exact h.impack k info' hk'
  · intro k hk
    show (addAll r.pool g msgs).entityMap[k]? ≠ none
    by_cases hkg : k = g
    · rw [hkg]
      exact (addAll_mem hmem).1
    · rw [Function.update_of_ne hkg] at hk
      obtain ⟨info, hinfo⟩ := Option.ne_none_iff_exists'.mp (h.present k hk)
      rw [addAll_of_some hinfo]
      exact Option.some_ne_none info
  · intro k info' keys hk hkeys
    match hcases k info' hk, hputs k keys hkeys with
    | Or.inl ⟨_, hinfo⟩, Or.inl ⟨_, hks⟩ => rw [hinfo, hks]
    | Or.inl ⟨hkg, _⟩, Or.inr ⟨hne, _⟩ => exact absurd hkg hne
    | Or.inr ⟨hne, _⟩, Or.inl ⟨hkg, _⟩ => exact absurd hkg hne
    | Or.inr ⟨_, hk'⟩, Or.inr ⟨_, hkeys'⟩ => exact h.same k info' keys hk' hkeys'
  · intro k keys hkeys
    match hputs k keys hkeys with
    | Or.inl ⟨hkg, hks⟩ =>
        rw [hkg, hks]
        exact hmem
    | Or.inr ⟨_, hkeys'⟩ => exact h.headed k keys hkeys'
  · intro k keys hkeys x hx
    show o.owner x = k ∧ ∀ y, (addAll r.pool g msgs).isUpdating y x = false
    have hupd : ∀ y, (addAll r.pool g msgs).isUpdating y x = r.pool.isUpdating y x :=
      fun y => addAll_isUpdating r.pool g msgs y x
    match hputs k keys hkeys with
    | Or.inl ⟨hkg, hks⟩ =>
        rw [hks] at hx
        rw [hkg]
        exact ⟨(hc.keys x hx).2.1, fun y => (hupd y).trans ((hc.keys x hx).2.2 y)⟩
    | Or.inr ⟨_, hkeys'⟩ =>
        obtain ⟨hown, hno⟩ := h.his k keys hkeys' x hx
        exact ⟨hown, fun y => (hupd y).trans (hno y)⟩
  · intro k keys hkeys hk x hx
    show (addAll r.pool g msgs).entityMap[x]? ≠ none ∧
      (addAll r.pool g msgs).guidOwnerguidMap[x]? ≠ none
    match hputs k keys hkeys with
    | Or.inl ⟨_, hks⟩ =>
        rw [hks] at hx
        exact addAll_mem hx
    | Or.inr ⟨hne, hkeys'⟩ =>
        rw [Function.update_of_ne hne] at hk
        obtain ⟨hem, how⟩ := @addAll_other r.pool g _ _
          (hother k hne x (h.his k keys hkeys' x hx).1)
        rw [hem, how]
        exact h.kept k keys hkeys' hk x hx
  · intro k keys hkeys hk x hx
    show (addAll r.pool g msgs).entityMap[x]? = none
    match hputs k keys hkeys with
    | Or.inl ⟨hkg, _⟩ =>
        rw [hkg, Function.update_self] at hk
        exact absurd hk (Nat.succ_ne_zero m')
    | Or.inr ⟨hne, hkeys'⟩ =>
        rw [Function.update_of_ne hne] at hk
        rw [(addAll_other (hother k hne x (h.his k keys hkeys' x hx).1)).1]
        exact h.gone k keys hkeys' hk x hx

end Exact

end Steppingstone.Fight
