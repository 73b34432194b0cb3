/-
  Steppingstone.Player.Coverage — loading and flushing cover the same entities.

  Both walks follow the fields of the player and of the entities below it, by guards of their own.
  A guid tells its entity's type, so 0, 1 and the 32-bit equipments of a wife are the guids of
  nothing: what one guard lets through and the other does not is never an entity.
-/
import Steppingstone.Player.Flush
import Steppingstone.Player.Load

namespace Steppingstone.Player

open Std (TreeMap)
open Steppingstone.Pool

/-! ## §1. Guids of nothing. -/

theorem entityType_eq_none {guid : UInt64} (h : guidType guid = 0) : entityType guid = none := by
  unfold entityType
  rw [h]
  decide

theorem entityType_zero : entityType 0 = none := entityType_eq_none (by decide)

theorem entityType_one : entityType 1 = none := entityType_eq_none (by decide)

/-- A 32-bit number is the guid of nothing. -/
theorem entityType_toUInt64 (n : UInt32) : entityType n.toUInt64 = none := by
  refine entityType_eq_none ?_
  unfold guidType
  apply UInt64.toNat_inj.mp
  have hlt : n.toNat < 2 ^ 32 := n.toNat_lt
  have hshift : n.toNat >>> 56 = 0 := by
    rw [Nat.shiftRight_eq_div_pow]
    exact Nat.div_eq_of_lt (by omega)
  rw [UInt64.toNat_and, UInt64.toNat_shiftRight]
  show (n.toNat >>> 56) &&& 0xFF = 0
  rw [hshift]
  exact Nat.zero_and _

/-- The guid of an entity passes every guard. -/
theorem one_lt_of_isSome {guid : UInt64} (h : (entityType guid).isSome) : guid > 1 := by
  have h0 : guid ≠ 0 := by
    intro he
    rw [he, entityType_zero] at h
    cases h
  have h1 : guid ≠ 1 := by
    intro he
    rw [he, entityType_one] at h
    cases h
  have hn0 : guid.toNat ≠ 0 := fun he => h0 (UInt64.toNat_inj.mp he)
  have hn1 : guid.toNat ≠ 1 := fun he => h1 (UInt64.toNat_inj.mp he)
  show (1 : UInt64).toNat < guid.toNat
  show 1 < guid.toNat
  omega

/-! ## §2. The two walks follow the same fields. -/

variable {g : UInt64}

/-- A guarded field asks for its guid, if that is an entity's. -/
theorem mem_requestIfSet (h : (entityType g).isSome) (guid : UInt64) :
    g ∈ requestIfSet guid ↔ g = guid := by
  have h0 : g ≠ 0 := by
    intro he
    rw [he, entityType_zero] at h
    cases h
  unfold requestIfSet
  split
  · exact List.mem_singleton
  · rename_i hz
    have hz : guid = 0 := by simpa using hz
    subst hz
    exact ⟨fun hm => absurd hm List.not_mem_nil, fun he => absurd he h0⟩

theorem mem_filter_guid (h : (entityType g).isSome) (l : List UInt64) :
    g ∈ l.filter (· > 1) ↔ g ∈ l := by
  have hgt := one_lt_of_isSome h
  simp [List.mem_filter, hgt]

theorem mem_filter_set (h : (entityType g).isSome) (l : List UInt64) :
    g ∈ l.filter (· > 0) ↔ g ∈ l := by
  have hgt : g > 0 := by
    have := one_lt_of_isSome h
    exact UInt64.lt_trans (by decide) this
  simp [List.mem_filter, hgt]

theorem mem_filter_ne (h : (entityType g).isSome) (l : List UInt64) :
    g ∈ l.filter (· ≠ 0) ↔ g ∈ l := by
  have h0 : g ≠ 0 := by
    intro he
    rw [he, entityType_zero] at h
    cases h
  simp [List.mem_filter, h0]

theorem guid_fieldIfSet (h : (entityType g).isSome) (kind : EntityKind) (guid : UInt64) :
    g ∈ (fieldIfSet kind guid).map Ref.guid ↔ g = guid := by
  rw [← mem_requestIfSet h guid]
  unfold fieldIfSet requestIfSet
  split <;> simp [field]

theorem guids_owned (kind : EntityKind) (l : List UInt64) :
    (l.map (owned kind)).map Ref.guid = l := by
  rw [List.map_map]
  exact List.map_id l

theorem guids_field (kind : EntityKind) (l : List UInt64) :
    (l.map (field kind)).map Ref.guid = l := by
  rw [List.map_map]
  exact List.map_id l

/-- **The fields of the player**: what they request is what they refer to. -/
theorem mem_loadPlayer (h : (entityType g).isSome) (player : PlayerEntity) :
    g ∈ loadPlayer player ↔ g ∈ player.refs.map Ref.guid := by
  unfold loadPlayer PlayerEntity.refs
  simp only [List.map_append, List.mem_append, guids_owned, guids_field, guid_fieldIfSet h,
    mem_requestIfSet h, mem_filter_guid h, mem_filter_ne h, mem_filter_set h, List.map_cons,
    List.map_nil, List.mem_cons, List.not_mem_nil, or_false, or_assoc]
  -- the two walks differ in the order of two fields
  rw [@or_left_comm (g = player.runes) (g = player.trial)]
  rfl

/-- A role's requests are its references. -/
theorem mem_loadRole (h : (entityType g).isSome) (role : Role) :
    g ∈ loadRole role ↔ g ∈ role.refs.map Ref.guid := by
  unfold loadRole Role.refs
  simp only [List.map_append, List.mem_append, guids_owned, guid_fieldIfSet h, mem_requestIfSet h,
    mem_filter_guid h, List.map_cons, List.map_nil, List.mem_cons, List.not_mem_nil, or_false,
    or_assoc]
  rfl

/-- So are a task list's. -/
theorem mem_loadTasksBrief (brief : TasksBrief) :
    g ∈ loadTasksBrief brief ↔ g ∈ brief.refs.map Ref.guid := by
  unfold loadTasksBrief TasksBrief.refs
  rw [guids_field]

/-- So are a chakra's. -/
theorem mem_loadChakra (h : (entityType g).isSome) (chakra : Chakra) :
    g ∈ loadChakra chakra ↔ g ∈ chakra.refs.map Ref.guid := by
  unfold loadChakra Chakra.refs
  simp only [List.map_append, List.mem_append, guids_owned, mem_filter_guid h]

/-- The equipments of a wife are no entities. -/
theorem not_mem_wife (h : (entityType g).isSome) (wife : Wife) :
    g ∉ wife.refs.map Ref.guid := by
  unfold Wife.refs
  rw [guids_owned]
  intro hm
  obtain ⟨n, -, rfl⟩ := List.mem_map.mp hm
  rw [entityType_toUInt64] at h
  cases h

/-! ## §3. The types of the fields. -/

/-- The types of entities with fields that are followed. -/
def EntityKind.Inner (kind : EntityKind) : Prop :=
  kind = .player ∨ kind = .role ∨ kind = .tasksBrief ∨ kind = .chakra ∨ kind = .wife

/-- What the player refers to is no player and no attach. -/
theorem PlayerEntity.refs_ne (player : PlayerEntity) :
    ∀ r ∈ player.refs, r.kind ≠ .player ∧ r.kind ≠ .attach := by
  unfold PlayerEntity.refs
  simp only [List.forall_mem_append, List.forall_mem_cons, List.forall_mem_map,
    forall_mem_fieldIfSet]
  simp [field, owned]

/-- What the entities below the player refer to has no fields of its own. -/
theorem Entity.refs_outer (e : Entity) : ∀ r ∈ e.refs, ¬ r.kind.Inner ∧ r.kind ≠ .attach := by
  unfold Entity.refs EntityKind.Inner
  split
  · unfold Role.refs
    simp only [List.forall_mem_append, List.forall_mem_cons, List.forall_mem_map,
      forall_mem_fieldIfSet]
    simp [field, owned]
  · unfold TasksBrief.refs
    simp only [List.forall_mem_map]
    simp [field]
  · unfold Chakra.refs
    simp only [List.forall_mem_append, List.forall_mem_map]
    simp [owned]
  · unfold Wife.refs
    simp only [List.forall_mem_map]
    simp [owned]
  · simp

theorem Entity.refs_of_outer {e : Entity} (h : ¬ e.body.kind.Inner) : e.refs = [] := by
  unfold Entity.refs
  unfold EntityKind.Inner at h
  match hb : e.body with
  | .player _ => rfl
  | .coin _ => rfl
  | .other _ => rfl
  | .role _ => exact absurd (Or.inr (Or.inl (by rw [hb]; rfl))) h
  | .tasksBrief _ => exact absurd (Or.inr (Or.inr (Or.inl (by rw [hb]; rfl)))) h
  | .chakra _ => exact absurd (Or.inr (Or.inr (Or.inr (Or.inl (by rw [hb]; rfl))))) h
  | .wife _ => exact absurd (Or.inr (Or.inr (Or.inr (Or.inr (by rw [hb]; rfl))))) h

/-- The fields for roles, the task brief and the chakra. -/
theorem PlayerEntity.refs_inner (player : PlayerEntity) : ∀ r ∈ player.refs,
    (r.kind = .role → r.guid ∈ player.roles ∨ r.guid ∈ player.leaveTeamRoles) ∧
      (r.kind = .tasksBrief → r.guid = player.taskBrief) ∧
      (r.kind = .chakra → r.guid = player.chakra) := by
  unfold PlayerEntity.refs
  simp only [List.forall_mem_append, List.forall_mem_cons, List.forall_mem_map,
    forall_mem_fieldIfSet]
  simp +contextual [field, owned]

theorem PlayerEntity.role_mem_refs {player : PlayerEntity} {guid : UInt64}
    (h : guid ∈ player.roles ∨ guid ∈ player.leaveTeamRoles) : owned .role guid ∈ player.refs := by
  have hmem : ∀ l : List UInt64, guid ∈ l → owned .role guid ∈ l.map (owned .role) :=
    fun l hm => List.mem_map_of_mem hm
  unfold PlayerEntity.refs
  simp only [List.mem_append]
  obtain h | h := h
  · simp only [hmem _ h, true_or, or_true]
  · simp only [hmem _ h, true_or, or_true]

theorem PlayerEntity.brief_mem_refs (player : PlayerEntity) :
    field .tasksBrief player.taskBrief ∈ player.refs := by
  unfold PlayerEntity.refs
  simp only [List.mem_append, List.mem_cons, true_or, or_true]

theorem PlayerEntity.chakra_mem_refs (player : PlayerEntity) :
    field .chakra player.chakra ∈ player.refs := by
  unfold PlayerEntity.refs
  simp only [List.mem_append, List.mem_cons, true_or, or_true]

/-! ## §4. What the walk collects. -/

/-- Every entity of the pool is well typed. -/
def WellTypedPool (s : PoolImp Entity) : Prop := ∀ guid e, s.get guid = some e → e.WellTyped guid

variable {s : PoolImp Entity} {p : UInt64} {isFlush : Bool} {asked asked' : List UInt64}
  {w : PoolImp Entity × EntityGuidMap} {r : Ref}

theorem getEntity_message (s : PoolImp Entity) (isFlush : Bool) (guid : UInt64) :
    (getEntity isFlush s guid).2 = s.get guid := by
  cases isFlush with
  | false => rfl
  | true => exact getWhileFlush_message s guid

/-- Asking marks the entity, if it is for a flush. -/
theorem getEntity_get (s : PoolImp Entity) (isFlush : Bool) (guid k : UInt64) :
    (getEntity isFlush s guid).1.get k =
      if isFlush = true ∧ k = guid then none else s.get k := by
  cases isFlush with
  | false => rw [if_neg (by simp)]; rfl
  | true =>
      show (s.getWhileFlush guid).1.get k = _
      unfold PoolImp.get
      rw [getWhileFlush_entry]
      match hk : s.entityMap[k]? with
      | none => simp
      | some info =>
          by_cases hkg : k = guid
          · subst hkg
            simp [marked]
          · simp [marked, hkg]

/-- The walk has asked for the guids `asked`, besides the player. -/
structure Went (s : PoolImp Entity) (p : UInt64) (isFlush : Bool) (asked : List UInt64)
    (w : PoolImp Entity × EntityGuidMap) : Prop where
  get : ∀ k, w.1.get k = if isFlush = true ∧ (k = p ∨ k ∈ asked) then none else s.get k
  collected : ∀ g, g ∈ w.2 ↔ g ≠ p ∧ g ∈ asked ∧ (s.get g).isSome

/-- The order of the guids does not matter. -/
theorem Went.congr (h : Went s p isFlush asked w) (ha : ∀ k, k ∈ asked ↔ k ∈ asked') :
    Went s p isFlush asked' w where
  get k := by
    rw [h.get k]
    simp only [ha k]
  collected g := by
    rw [h.collected g, ha g]

/-- What one reference takes: nothing a second time, for a flush. -/
theorem Went.taken (h : Went s p isFlush asked w) (hs : WellTypedPool s) (hr : r.WellTyped) :
    (take isFlush w r).2 =
      if isFlush = true ∧ (r.guid = p ∨ r.guid ∈ asked) then none else s.get r.guid := by
  have hmsg := getEntity_message w.1 isFlush r.guid
  rw [h.get r.guid] at hmsg
  unfold take
  simp only [hmsg]
  by_cases hseen : isFlush = true ∧ (r.guid = p ∨ r.guid ∈ asked)
  · simp only [if_pos hseen]
  · simp only [if_neg hseen]
    match he : s.get r.guid with
    | none => rfl
    | some e =>
        have hkind : e.body.kind = r.kind := hr _ (hs _ _ he).kind
        simp only [hkind, if_true]

/-- What one reference leaves. -/
theorem take_state (w : PoolImp Entity × EntityGuidMap) (r : Ref) :
    (take isFlush w r).1.1 = (getEntity isFlush w.1 r.guid).1 ∧
      (take isFlush w r).1.2 = match (take isFlush w r).2 with
        | none => w.2
        | some e => w.2.insertIfNew (r.key e) e := by
  unfold take
  match hg : getEntity isFlush w.1 r.guid with
  | (s', none) => exact ⟨rfl, rfl⟩
  | (s', some e) =>
      simp only
      split
      · exact ⟨rfl, rfl⟩
      · exact ⟨rfl, rfl⟩

/-- **One reference** of the walk. -/
theorem Went.take (h : Went s p isFlush asked w) (hs : WellTypedPool s) (hr : r.WellTyped)
    (hne : (s.get r.guid).isSome → r.guid ≠ p) :
    Went s p isFlush (r.guid :: asked) (take isFlush w r).1 where
  get k := by
    rw [(take_state w r).1, getEntity_get, h.get k]
    by_cases hf : isFlush = true
    · by_cases hk : k = r.guid
      · simp [hf, hk]
      · simp [hf, hk]
    · simp [hf]
  collected g := by
    rw [(take_state w r).2, h.taken hs hr]
    by_cases hseen : isFlush = true ∧ (r.guid = p ∨ r.guid ∈ asked)
    · rw [if_pos hseen, h.collected g, List.mem_cons]
      refine ⟨fun hg => ⟨hg.1, Or.inr hg.2.1, hg.2.2⟩, fun hg => ⟨hg.1, ?_, hg.2.2⟩⟩
      obtain rfl | hm := hg.2.1
      · exact hseen.2.resolve_left hg.1
      · exact hm
    · rw [if_neg hseen]
      match he : s.get r.guid with
      | none =>
          simp only
          rw [h.collected g, List.mem_cons]
          refine ⟨fun hg => ⟨hg.1, Or.inr hg.2.1, hg.2.2⟩, fun hg => ⟨hg.1, ?_, hg.2.2⟩⟩
          obtain rfl | hm := hg.2.1
          · have hsome := hg.2.2
            rw [he] at hsome
            cases hsome
          · exact hm
      | some e =>
          have hkey : r.key e = r.guid := by
            unfold Ref.key
            split
            · exact (hs _ _ he).self
            · rfl
          simp only
          rw [hkey, TreeMap.mem_insertIfNew, h.collected g, List.mem_cons,
            Std.LawfulEqCmp.compare_eq_iff_eq]
          constructor
          · intro hg
            obtain rfl | hg := hg
            · exact ⟨hne (by rw [he]; rfl), Or.inl rfl, by rw [he]; rfl⟩
            · exact ⟨hg.1, Or.inr hg.2.1, hg.2.2⟩
          · intro hg
            obtain heq | hm := hg.2.1
            · exact Or.inl heq.symm
            · exact Or.inr ⟨hg.1, hm, hg.2.2⟩

/-- The references of one entity. -/
theorem Went.takeAll (hs : WellTypedPool s) {refs : List Ref} (hr : ∀ r ∈ refs, r.WellTyped)
    (hne : ∀ r ∈ refs, (s.get r.guid).isSome → r.guid ≠ p) (h : Went s p isFlush asked w) :
    Went s p isFlush (refs.map Ref.guid ++ asked)
      (refs.foldl (fun w r => (Player.take isFlush w r).1) w) := by
  induction refs generalizing asked w with
  | nil => exact h
  | cons r refs ih =>
      have hone := h.take hs (hr r List.mem_cons_self) (hne r List.mem_cons_self)
      have hall := ih (fun r' hm => hr r' (List.mem_cons_of_mem _ hm))
        (fun r' hm => hne r' (List.mem_cons_of_mem _ hm)) hone
      refine hall.congr fun k => ?_
      simp only [List.map_cons, List.mem_append, List.mem_cons]
      tauto

/-- A guid of the references `refs`, or of those of the entities they refer to. -/
def Follows (get : UInt64 → Option Entity) (refs : List Ref) (g : UInt64) : Prop :=
  g ∈ refs.map Ref.guid ∨ ∃ r ∈ refs, ∃ e, get r.guid = some e ∧ g ∈ e.refs.map Ref.guid

/-- **The state of a walk** that has gone through the references `done` of the player. -/
structure Done (s : PoolImp Entity) (p : UInt64) (isFlush : Bool) (done : List Ref)
    (asked : List UInt64) (w : PoolImp Entity × EntityGuidMap) : Prop where
  went : Went s p isFlush asked w
  here : ∀ r ∈ done, r.guid ∈ asked
  below : ∀ k ∈ asked, k ≠ p → ∀ e, s.get k = some e → ∀ r ∈ e.refs, r.guid ∈ asked
  only : ∀ k ∈ asked, Follows s.get done k

theorem Entity.fields_eq {e : Entity} (h : e.body.kind ≠ .player) : e.fields = e.refs := by
  unfold Entity.fields Entity.asPlayer
  match hb : e.body with
  | .player _ => exact absurd (by rw [hb]; rfl) h
  | .coin _ => rfl
  | .role _ => rfl
  | .tasksBrief _ => rfl
  | .chakra _ => rfl
  | .wife _ => rfl
  | .other _ => rfl

theorem follows_mono {done done' : List Ref} (hsub : ∀ r ∈ done, r ∈ done') {k : UInt64}
    (h : Follows s.get done k) : Follows s.get done' k := by
  obtain h | ⟨r, hr, e, he, hk⟩ := h
  · obtain ⟨r, hr, rfl⟩ := List.mem_map.mp h
    exact Or.inl (List.mem_map_of_mem (hsub r hr))
  · exact Or.inr ⟨r, hsub r hr, e, he, hk⟩

/-- A field for another type does not refer to the player. -/
theorem ne_player_guid (hs : WellTypedPool s) (hr : r.WellTyped) (hk : r.kind ≠ .player)
    (hp : ∀ e, s.get p = some e → e.body.kind = .player) (hsome : (s.get r.guid).isSome) :
    r.guid ≠ p := by
  intro heq
  obtain ⟨e, he⟩ := Option.isSome_iff_exists.mp hsome
  have hkind : e.body.kind = r.kind := hr _ (hs _ _ he).kind
  rw [heq] at he
  exact hk (hkind.symm.trans (hp e he))

/-- **A reference of the player** with those of the entity it takes. -/
theorem Done.walk {done : List Ref} (h : Done s p isFlush done asked w) (hs : WellTypedPool s)
    (hp : ∀ e, s.get p = some e → e.body.kind = .player) (hr : r.WellTyped)
    (hk : r.kind ≠ .player) :
    ∃ asked', Done s p isFlush (done ++ [r]) asked' (walk isFlush w r) := by
  have hne := ne_player_guid hs hr hk hp
  have hone := h.went.take hs hr hne
  have htaken := h.went.taken hs hr
  have hsub : ∀ r' ∈ done, r' ∈ done ++ [r] := fun r' hm => List.mem_append_left _ hm
  have hself : Follows s.get (done ++ [r]) r.guid :=
    Or.inl (List.mem_map_of_mem (List.mem_append_right _ List.mem_cons_self))
  unfold Player.walk
  match ht : Player.take isFlush w r with
  | (w', none) =>
      rw [ht] at hone htaken
      refine ⟨r.guid :: asked, hone, ?_, ?_, ?_⟩
      · intro r' hr'
        obtain hr' | hr' := List.mem_append.mp hr'
        · exact List.mem_cons_of_mem _ (h.here r' hr')
        · rw [List.mem_singleton.mp hr']
          exact List.mem_cons_self
      · intro k hm hkp e he r' hr'
        obtain rfl | hm := List.mem_cons.mp hm
        · -- nothing was taken, so the entity has been taken before
          replace htaken : none = if isFlush = true ∧ (r.guid = p ∨ r.guid ∈ asked) then none
            else s.get r.guid := htaken
          split at htaken
          · rename_i hseen
            exact List.mem_cons_of_mem _
              (h.below _ (hseen.2.resolve_left hkp) hkp e he r' hr')
          · rw [he] at htaken
            cases htaken
        · exact List.mem_cons_of_mem _ (h.below k hm hkp e he r' hr')
      · intro k hm
        obtain rfl | hm := List.mem_cons.mp hm
        · exact hself
        · exact follows_mono hsub (h.only k hm)
  | (w', some e) =>
      rw [ht] at hone htaken
      replace htaken : some e = if isFlush = true ∧ (r.guid = p ∨ r.guid ∈ asked) then none
        else s.get r.guid := htaken
      split at htaken
      · cases htaken
      have he : s.get r.guid = some e := htaken.symm
      have hkind : e.body.kind = r.kind := hr _ (hs _ _ he).kind
      have htyped : ∀ r' ∈ e.refs, r'.WellTyped := by
        intro r' hr'
        rw [← Entity.fields_eq (hkind.trans_ne hk)] at hr'
        exact (hs _ _ he).fields r' hr'
      have hall := hone.takeAll hs htyped fun r' hr' => ne_player_guid hs (htyped r' hr')
        (fun he' => (e.refs_outer r' hr').1 (Or.inl he')) hp
      refine ⟨_, hall, ?_, ?_, ?_⟩
      · intro r' hr'
        refine List.mem_append_right _ ?_
        obtain hr' | hr' := List.mem_append.mp hr'
        · exact List.mem_cons_of_mem _ (h.here r' hr')
        · rw [List.mem_singleton.mp hr']
          exact List.mem_cons_self
      · intro k hm hkp e' he' r' hr'
        obtain hm | hm := List.mem_append.mp hm
        · -- the entities below have no references of their own
          obtain ⟨r'', hr'', rfl⟩ := List.mem_map.mp hm
          have hkind'' : e'.body.kind = r''.kind := htyped r'' hr'' _ (hs _ _ he').kind
          have houter := (e.refs_outer r'' hr'').1
          rw [← hkind''] at houter
          rw [Entity.refs_of_outer houter] at hr'
          cases hr'
        · obtain rfl | hm := List.mem_cons.mp hm
          · rw [he] at he'
            obtain rfl := Option.some.inj he'
            exact List.mem_append_left _ (List.mem_map_of_mem hr')
          · exact List.mem_append_right _
              (List.mem_cons_of_mem _ (h.below k hm hkp e' he' r' hr'))
      · intro k hm
        obtain hm | hm := List.mem_append.mp hm
        · exact Or.inr ⟨r, List.mem_append_right _ List.mem_cons_self, e, he, hm⟩
        · obtain rfl | hm := List.mem_cons.mp hm
          · exact hself
          · exact follows_mono hsub (h.only k hm)

/-- A walk over references is done with each of them. -/
theorem Done.walkAll (hs : WellTypedPool s)
    (hp : ∀ e, s.get p = some e → e.body.kind = .player) (refs : List Ref)
    (hr : ∀ r ∈ refs, r.WellTyped) (hk : ∀ r ∈ refs, r.kind ≠ .player) {done : List Ref}
    (h : Done s p isFlush done asked w) :
    ∃ asked', Done s p isFlush (done ++ refs) asked' (refs.foldl (Player.walk isFlush) w) := by
  induction refs generalizing done asked w with
  | nil =>
      rw [List.append_nil]
      exact ⟨asked, h⟩
  | cons r refs ih =>
      obtain ⟨asked', hone⟩ := h.walk hs hp (hr r List.mem_cons_self) (hk r List.mem_cons_self)
      have hall := ih (fun r' hm => hr r' (List.mem_cons_of_mem _ hm))
        (fun r' hm => hk r' (List.mem_cons_of_mem _ hm)) hone
      rw [List.append_assoc] at hall
      exact hall

/-- A flush walks the player's references. -/
theorem getPlayerEntityMap_eq {player : Entity} {fields : PlayerEntity}
    (hget : s.get p = some player) (hplayer : player.asPlayer = some fields) :
    getPlayerEntityMap s p isFlush =
      fields.refs.foldl (Player.walk isFlush) ((getEntity isFlush s p).1, {}) := by
  have hmsg := getEntity_message s isFlush p
  rw [hget] at hmsg
  unfold getPlayerEntityMap
  simp only [hmsg, Option.bind_some, hplayer]

theorem Entity.body_of_asPlayer {e : Entity} {fields : PlayerEntity}
    (h : e.asPlayer = some fields) : e.body = .player fields := by
  unfold Entity.asPlayer at h
  split at h
  · rename_i hb
    rw [hb, Option.some.inj h]
  · cases h

/-- **What `getPlayerEntityMap` collects** in a well-typed pool: the entities that the fields of the
    player refer to, and those that their fields refer to. -/
theorem mem_getPlayerEntityMap (hs : WellTypedPool s) {player : Entity} {fields : PlayerEntity}
    (hget : s.get p = some player) (hplayer : player.asPlayer = some fields) (isFlush : Bool)
    (g : UInt64) :
    g ∈ (getPlayerEntityMap s p isFlush).2 ↔
      g ≠ p ∧ Follows s.get fields.refs g ∧ (s.get g).isSome := by
  have hbody := Entity.body_of_asPlayer hplayer
  have hp : ∀ e, s.get p = some e → e.body.kind = .player := by
    intro e he
    rw [hget] at he
    rw [← Option.some.inj he, hbody]
    rfl
  have hfields : ∀ r ∈ fields.refs, r.WellTyped := by
    have htyped := (hs _ _ hget).fields
    unfold Entity.fields at htyped
    rw [hplayer] at htyped
    exact htyped
  have hstart : Done s p isFlush [] [] ((getEntity isFlush s p).1, ({} : EntityGuidMap)) := by
    refine ⟨⟨fun k => ?_, fun g => ?_⟩, ?_, ?_, ?_⟩
    · rw [getEntity_get]
      simp
    · simp
    · exact fun r hr => absurd hr List.not_mem_nil
    · exact fun k hk => absurd hk List.not_mem_nil
    · exact fun k hk => absurd hk List.not_mem_nil
  obtain ⟨asked, hdone⟩ := hstart.walkAll hs hp fields.refs hfields
    fun r hr => (fields.refs_ne r hr).1
  rw [List.nil_append] at hdone
  rw [getPlayerEntityMap_eq hget hplayer, hdone.went.collected g]
  refine and_congr_right fun hgp => and_congr_left fun hsome => ⟨hdone.only g, ?_⟩
  intro hfollows
  obtain hg | ⟨r, hr, e, he, hg⟩ := hfollows
  · obtain ⟨r, hr, rfl⟩ := List.mem_map.mp hg
    exact hdone.here r hr
  · obtain ⟨r', hr', rfl⟩ := List.mem_map.mp hg
    have hrp := ne_player_guid hs (hfields r hr) (fields.refs_ne r hr).1 hp
      (by rw [he]; rfl)
    exact hdone.below _ (hdone.here r hr) hrp e he r' hr'

/-! ## §5. What the load requests. -/

variable {db : Database} {pld pld' : LoadingEntities} {guids : List UInt64} {l : Loaded}

/-- The loading data holds the answers to the requests `asked`. -/
def Holds (db : Database) (asked : List UInt64) (pld : LoadingEntities) : Prop :=
  ∀ g, pld[g]? = if g ∈ asked then db.extractEntity g else none

theorem holds_foldl (h : Holds db asked pld) (guids : List UInt64) :
    Holds db (asked ++ guids) (guids.foldl (fun pld guid =>
      match db.extractEntity guid with
      | some e => pld.insertIfNew guid e
      | none => pld) pld) := by
  induction guids generalizing asked pld with
  | nil =>
      rw [List.append_nil]
      exact h
  | cons guid guids ih =>
      rw [List.append_cons]
      refine ih fun g => ?_
      simp only [List.mem_append, List.mem_singleton]
      match he : db.extractEntity guid with
      | none =>
          simp only
          rw [h g]
          by_cases hg : g = guid
          · subst hg
            simp [he]
          · simp [hg]
      | some e =>
          simp only [TreeMap.getElem?_insertIfNew, Std.LawfulEqCmp.compare_eq_iff_eq]
          by_cases hg : guid = g
          · subst hg
            have hmem : guid ∈ pld ↔ guid ∈ asked := by
              rw [← TreeMap.isSome_getElem?_iff_mem, h guid]
              split
              · rename_i hin
                simp [hin, he]
              · rename_i hin
                simp [hin]
            by_cases hin : guid ∈ asked
            · rw [if_neg (fun hn => hn.2 (hmem.mpr hin)), h guid]
              simp [hin]
            · rw [if_pos ⟨rfl, fun hm => hin (hmem.mp hm)⟩]
              simp [he]
          · rw [if_neg (fun hn => hg hn.1), h g]
            have hne : ¬ g = guid := fun hn => hg hn.symm
            simp [hne]

/-- The answers of a list, all of them found. -/
theorem addAnswers_spec (h : Holds db asked pld) (ha : addAnswers db pld guids = some pld') :
    Holds db (asked ++ guids) pld' ∧ ∀ g ∈ guids, (db.get g).isSome := by
  unfold addAnswers at ha
  split at ha
  · rename_i hall
    obtain rfl := Option.some.inj ha
    exact ⟨holds_foldl h guids, List.all_eq_true.mp hall⟩
  · cases ha

theorem Database.entityType_of_get {e : Entity} (h : db.get g = some e) :
    entityType g = some e.body.kind := (db.wellTyped g e h).kind

theorem isSome_of_get {e : Entity} (h : db.get g = some e) : (entityType g).isSome := by
  rw [db.entityType_of_get h]
  rfl

theorem Database.get_of_extractEntity {e : Entity} (h : db.extractEntity g = some e) :
    db.get g = some e := by
  unfold Database.extractEntity at h
  exact (Option.filter_eq_some_iff.mp h).1

/-- The player's fields of a type other than attach lead to the messages. -/
theorem Database.extractEntity_of_get {r : Ref} (hr : r.WellTyped) (hk : r.kind ≠ .attach)
    {e : Entity} (h : db.get r.guid = some e) : db.extractEntity r.guid = some e := by
  have hkind : e.body.kind = r.kind := hr _ (db.entityType_of_get h)
  unfold Database.extractEntity
  rw [h]
  refine Option.filter_eq_some_iff.mpr ⟨rfl, ?_⟩
  rw [hkind]
  exact decide_eq_true hk

/-- What a loaded role asks for. -/
theorem mem_request_role {guid : UInt64} :
    g ∈ ((pld.role guid).map loadRole).getD [] ↔
      ∃ e role, pld[guid]? = some e ∧ e.body = .role role ∧ g ∈ loadRole role := by
  unfold LoadingEntities.role
  match pld[guid]? with
  | none => simp
  | some e =>
      match hb : e.body with
      | .role role => simp [hb]
      | .player _ | .coin _ | .tasksBrief _ | .chakra _ | .wife _ | .other _ => simp [hb]

theorem mem_request_tasksBrief {guid : UInt64} :
    g ∈ ((pld.tasksBrief guid).map loadTasksBrief).getD [] ↔
      ∃ e brief, pld[guid]? = some e ∧ e.body = .tasksBrief brief ∧ g ∈ loadTasksBrief brief := by
  unfold LoadingEntities.tasksBrief
  match pld[guid]? with
  | none => simp
  | some e =>
      match hb : e.body with
      | .tasksBrief brief => simp [hb]
      | .player _ | .coin _ | .role _ | .chakra _ | .wife _ | .other _ => simp [hb]

theorem mem_request_chakra {guid : UInt64} :
    g ∈ ((pld.chakra guid).map loadChakra).getD [] ↔
      ∃ e chakra, pld[guid]? = some e ∧ e.body = .chakra chakra ∧ g ∈ loadChakra chakra := by
  unfold LoadingEntities.chakra
  match pld[guid]? with
  | none => simp
  | some e =>
      match hb : e.body with
      | .chakra chakra => simp [hb]
      | .player _ | .coin _ | .role _ | .tasksBrief _ | .wife _ | .other _ => simp [hb]

/-- What the fields of the player refer to has been asked for. -/
theorem Holds.field {player : PlayerEntity} (h : Holds db (p :: loadPlayer player) pld) {r : Ref}
    (hr : r ∈ player.refs) : pld[r.guid]? = db.extractEntity r.guid := by
  rw [h r.guid]
  split
  · rfl
  · rename_i hnot
    match he : db.extractEntity r.guid with
    | none => rfl
    | some e =>
        have htyped := db.entityType_of_get (Database.get_of_extractEntity he)
        have hmem := (mem_loadPlayer (by rw [htyped]; rfl) player).mpr (List.mem_map_of_mem hr)
        exact absurd (List.mem_cons_of_mem _ hmem) hnot

/-- **The requests of `load_player_role`** are those of the entities that the player refers to. -/
theorem mem_loadPlayerRole {player : PlayerEntity} (h : Holds db (p :: loadPlayer player) pld)
    (hfields : ∀ r ∈ player.refs, r.WellTyped) (hg : (entityType g).isSome) :
    g ∈ loadPlayerRole pld player ↔
      ∃ r ∈ player.refs, ∃ e, db.extractEntity r.guid = some e ∧ g ∈ e.refs.map Ref.guid := by
  unfold loadPlayerRole
  simp only [List.mem_append, List.mem_flatMap, mem_request_role, mem_request_tasksBrief,
    mem_request_chakra]
  constructor
  · have hrole : ∀ guid, (guid ∈ player.roles ∨ guid ∈ player.leaveTeamRoles) →
        (∃ e role, pld[guid]? = some e ∧ e.body = .role role ∧ g ∈ loadRole role) →
        ∃ r ∈ player.refs, ∃ e, db.extractEntity r.guid = some e ∧ g ∈ e.refs.map Ref.guid := by
      intro guid hguid ⟨e, role, he, hb, hm⟩
      have hr := PlayerEntity.role_mem_refs hguid
      refine ⟨_, hr, e, (h.field hr).symm.trans he, ?_⟩
      unfold Entity.refs
      rw [hb]
      exact (mem_loadRole hg role).mp hm
    intro hm
    obtain ((⟨guid, hguid, hm⟩ | ⟨guid, hguid, hm⟩) | ⟨e, brief, he, hb, hm⟩) |
      ⟨e, chakra, he, hb, hm⟩ := hm
    · exact hrole guid (Or.inl hguid) hm
    · exact hrole guid (Or.inr hguid) hm
    · have hr := player.brief_mem_refs
      refine ⟨_, hr, e, (h.field hr).symm.trans he, ?_⟩
      unfold Entity.refs
      rw [hb]
      exact (mem_loadTasksBrief brief).mp hm
    · have hr := player.chakra_mem_refs
      refine ⟨_, hr, e, (h.field hr).symm.trans he, ?_⟩
      unfold Entity.refs
      rw [hb]
      exact (mem_loadChakra hg chakra).mp hm
  · intro ⟨r, hr, e, he, hm⟩
    have hkind : e.body.kind = r.kind :=
      hfields r hr _ (db.entityType_of_get (Database.get_of_extractEntity he))
    have hpld : pld[r.guid]? = some e := (h.field hr).trans he
    obtain ⟨hroles, hbrief, hchakra⟩ := player.refs_inner r hr
    unfold Entity.refs at hm
    match hb : e.body with
    | .role role =>
        rw [hb] at hm hkind
        have hload := (mem_loadRole hg role).mpr hm
        obtain hin | hin := hroles hkind.symm
        · exact Or.inl (Or.inl (Or.inl ⟨r.guid, hin, e, role, hpld, hb, hload⟩))
        · exact Or.inl (Or.inl (Or.inr ⟨r.guid, hin, e, role, hpld, hb, hload⟩))
    | .tasksBrief brief =>
        rw [hb] at hm hkind
        rw [hbrief hkind.symm] at hpld
        exact Or.inl (Or.inr ⟨e, brief, hpld, hb, (mem_loadTasksBrief brief).mpr hm⟩)
    | .chakra chakra =>
        rw [hb] at hm hkind
        rw [hchakra hkind.symm] at hpld
        exact Or.inr ⟨e, chakra, hpld, hb, (mem_loadChakra hg chakra).mpr hm⟩
    | .wife wife =>
        rw [hb] at hm
        exact absurd hm (not_mem_wife hg wife)
    | .player _ | .coin _ | .other _ =>
        rw [hb] at hm
        cases hm

/-- **A finished load.** -/
theorem load_spec (h : load db p = some l) :
    ∃ player fields, db.extractEntity p = some player ∧ player.asPlayer = some fields ∧
      Holds db l.requested l.entities ∧ (∀ g ∈ l.requested, (db.get g).isSome) ∧
      ∀ g, (entityType g).isSome →
        (g ∈ l.requested ↔ g = p ∨ Follows db.extractEntity fields.refs g) := by
  unfold load at h
  obtain ⟨player, hplayer, h⟩ := Option.bind_eq_some_iff.mp h
  obtain ⟨fields, hasPlayer, h⟩ := Option.bind_eq_some_iff.mp h
  have hget := Database.get_of_extractEntity hplayer
  have hfields : ∀ r ∈ fields.refs, r.WellTyped := by
    have htyped := (db.wellTyped _ _ hget).fields
    unfold Entity.fields at htyped
    rw [hasPlayer] at htyped
    exact htyped
  have hstart : Holds db [p] (({} : LoadingEntities).insertIfNew p player) := by
    intro g
    simp only [TreeMap.getElem?_insertIfNew, Std.LawfulEqCmp.compare_eq_iff_eq]
    by_cases hg : p = g
    · subst hg
      simp [hplayer]
    · have hne : ¬ g = p := fun hn => hg hn.symm
      simp [hg, hne]
  refine ⟨player, fields, hplayer, hasPlayer, ?_⟩
  simp only at h
  split at h
  · rename_i hempty
    obtain rfl := Option.some.inj h
    have hnil : loadPlayer fields = [] := List.isEmpty_iff.mp hempty
    have hnone : ∀ r ∈ fields.refs, (entityType r.guid).isSome → False := by
      intro r hr htyped
      have hm := (mem_loadPlayer htyped fields).mpr (List.mem_map_of_mem hr)
      rw [hnil] at hm
      cases hm
    refine ⟨hstart, ?_, ?_⟩
    · intro g hg
      rw [List.mem_singleton.mp hg, hget]
      rfl
    · intro g hg
      rw [List.mem_singleton]
      refine ⟨Or.inl, fun hf => hf.resolve_right fun hf => ?_⟩
      obtain hf | ⟨r, hr, e, he, -⟩ := hf
      · obtain ⟨r, hr, rfl⟩ := List.mem_map.mp hf
        exact hnone r hr hg
      · have htyped := db.entityType_of_get (Database.get_of_extractEntity he)
        exact hnone r hr (by rw [htyped]; rfl)
  · obtain ⟨pld, hpld, h⟩ := Option.bind_eq_some_iff.mp h
    obtain ⟨fields', hfields', h⟩ := Option.bind_eq_some_iff.mp h
    obtain ⟨pld', hpld', h⟩ := Option.bind_eq_some_iff.mp h
    obtain rfl := Option.some.inj h
    obtain ⟨hfirst, hfound⟩ := addAnswers_spec hstart hpld
    rw [List.singleton_append] at hfirst
    obtain ⟨hsecond, hfound'⟩ := addAnswers_spec hfirst hpld'
    -- the player that the second stage reads is the one that was loaded
    have hsame : fields' = fields := by
      unfold LoadingEntities.player at hfields'
      rw [hfirst p, if_pos List.mem_cons_self, hplayer,
        Option.bind_some, hasPlayer] at hfields'
      exact (Option.some.inj hfields').symm
    subst hsame
    refine ⟨?_, ?_, ?_⟩
    · intro g
      rw [hsecond g, List.cons_append]
    · intro g hg
      obtain rfl | hg := List.mem_cons.mp hg
      · rw [hget]
        rfl
      · obtain hg | hg := List.mem_append.mp hg
        · exact hfound g hg
        · exact hfound' g hg
    · intro g hg
      simp only [List.mem_cons, List.mem_append]
      rw [mem_loadPlayer hg fields', mem_loadPlayerRole hfirst hfields hg]
      rfl

/-! ## §6. The two walks cover the same entities. -/

/-- **Loading and flushing cover the same entities.**  When a load of the player has ended and its
    entities are in the pool, the guids it requested are those that `getPlayerEntityMap` collects,
    and the player's. -/
theorem load_covers_flush (db : Database) (p : UInt64) (l : Loaded) (h : load db p = some l)
    (s : PoolImp Entity) (hs : WellTypedPool s)
    (hpool : ∀ g e, l.entities[g]? = some e → s.get g = some e) (isFlush : Bool) (g : UInt64) :
    g ∈ l.requested ↔ g ∈ (getPlayerEntityMap s p isFlush).2 ∨ g = p := by
  obtain ⟨player, fields, hplayer, hasPlayer, hholds, hfound, hrequested⟩ := load_spec h
  have hget := Database.get_of_extractEntity hplayer
  have hptyped := isSome_of_get hget
  have hpin : p ∈ l.requested := (hrequested p hptyped).mpr (Or.inl rfl)
  have hentities : ∀ k e, k ∈ l.requested → db.extractEntity k = some e → s.get k = some e := by
    intro k e hk he
    refine hpool k e ?_
    rw [hholds k, if_pos hk, he]
  have hfields : ∀ r ∈ fields.refs, r.WellTyped := by
    have htyped := (db.wellTyped _ _ hget).fields
    unfold Entity.fields at htyped
    rw [hasPlayer] at htyped
    exact htyped
  -- an entity of the load is in the pool
  have hloaded : ∀ r : Ref, r.WellTyped → r.kind ≠ .attach → r.guid ∈ l.requested →
      (s.get r.guid).isSome := by
    intro r hr hk hin
    obtain ⟨e, he⟩ := Option.isSome_iff_exists.mp (hfound r.guid hin)
    rw [hentities _ e hin (Database.extractEntity_of_get hr hk he)]
    rfl
  rw [mem_getPlayerEntityMap hs (hentities p player hpin hplayer) hasPlayer isFlush g]
  constructor
  · intro hg
    by_cases hgp : g = p
    · exact Or.inr hgp
    obtain ⟨e, he⟩ := Option.isSome_iff_exists.mp (hfound g hg)
    have htyped := isSome_of_get he
    obtain hf | ⟨r, hr, e', he', hm⟩ := ((hrequested g htyped).mp hg).resolve_left hgp
    · obtain ⟨r, hr, rfl⟩ := List.mem_map.mp hf
      exact Or.inl ⟨hgp, Or.inl hf, hloaded r (hfields r hr) (fields.refs_ne r hr).2 hg⟩
    · have hget' := Database.get_of_extractEntity he'
      have hrtyped := isSome_of_get hget'
      have hrin : r.guid ∈ l.requested :=
        (hrequested _ hrtyped).mpr (Or.inr (Or.inl (List.mem_map_of_mem hr)))
      obtain ⟨r', hr', rfl⟩ := List.mem_map.mp hm
      have hkind : e'.body.kind = r.kind := hfields r hr _ (db.entityType_of_get hget')
      have hr'typed := (db.wellTyped _ _ hget').fields
      rw [Entity.fields_eq (hkind.trans_ne (fields.refs_ne r hr).1)] at hr'typed
      exact Or.inl ⟨hgp, Or.inr ⟨r, hr, e', hentities _ e' hrin he', hm⟩,
        hloaded r' (hr'typed r' hr') (e'.refs_outer r' hr').2 hg⟩
  · intro hg
    obtain ⟨-, hf, hsome⟩ | rfl := hg
    · obtain ⟨e, he⟩ := Option.isSome_iff_exists.mp hsome
      have htyped : (entityType g).isSome := by rw [(hs g e he).kind]; rfl
      refine (hrequested g htyped).mpr (Or.inr ?_)
      obtain hf | ⟨r, hr, e', he', hm⟩ := hf
      · exact Or.inl hf
      · have hrtyped : (entityType r.guid).isSome := by rw [(hs _ e' he').kind]; rfl
        have hrin : r.guid ∈ l.requested :=
          (hrequested _ hrtyped).mpr (Or.inr (Or.inl (List.mem_map_of_mem hr)))
        obtain ⟨e₀, he₀⟩ := Option.isSome_iff_exists.mp (hfound _ hrin)
        have hex := Database.extractEntity_of_get (hfields r hr) (fields.refs_ne r hr).2 he₀
        have hsame := hentities _ e₀ hrin hex
        rw [he'] at hsame
        rw [Option.some.inj hsame] at hm
        exact Or.inr ⟨r, hr, e₀, hex, hm⟩
    · exact hpin

/-- **What a flush writes is what a load requests.** -/
theorem flushed_iff_requested {db : Database} {l : Loaded} (h : load db p = some l)
    (hs : WellTypedPool s) (hpool : ∀ g e, l.entities[g]? = some e → s.get g = some e)
    {player : Entity} {fields : PlayerEntity} (hget : s.get p = some player)
    (hplayer : player.asPlayer = some fields) (isUpdating : Bool) (g : UInt64) :
    (∃ req ∈ flushVec s p isUpdating player, isWrite req.requestType ∧ req.guid = g) ↔
      g ∈ l.requested := by
  have hwalk := getPlayerEntityMap_walked hget hplayer
  have hcover := load_covers_flush db p l h s hs hpool true
  have hreached : ∀ {k e}, ReachedAs s p (references s p fields) k e → k ∈ l.requested := by
    intro k e he
    exact (hcover k).mpr (Or.inl ((hwalk.reached k).mpr (reached_of_reachedAs he)))
  constructor
  · intro ⟨req, hreq, hwrite, hguid⟩
    rw [mem_flushVec hget hplayer] at hreq
    obtain ⟨info, -, -, e, he, rfl⟩ | ⟨info, -, -, rfl⟩ | ⟨k, e, -, he, rfl⟩ | rfl := hreq
    · exact hguid ▸ hreached he
    · exact absurd hwrite (by simp [removeRequest, isWrite, isAdd])
    · exact hguid ▸ hreached he
    · exact (hcover g).mpr (Or.inr hguid.symm)
  · intro hg
    obtain hg | rfl := (hcover g).mp hg
    · have he := (hwalk.reachedAs g _).mp (TreeMap.getElem?_eq_some_getElem hg)
      by_cases hadd : ∃ info ∈ pendingOf s p, info.opType = .add ∧ info.guid = g
      · obtain ⟨info, hinfo, hop, rfl⟩ := hadd
        refine ⟨addRequest isUpdating p info.guid _, (mem_flushVec hget hplayer).mpr
          (Or.inl ⟨info, hinfo, hop, _, he, rfl⟩), ?_, rfl⟩
        cases isUpdating <;> rfl
      · refine ⟨writeRequest isUpdating p (g, _), (mem_flushVec hget hplayer).mpr
          (Or.inr (Or.inr (Or.inl ⟨g, _, ?_, he, rfl⟩))), ?_, rfl⟩
        · exact fun info hinfo hop hguid => hadd ⟨info, hinfo, hop, hguid⟩
        · cases isUpdating <;> rfl
    · exact ⟨_, (mem_flushVec hget hplayer).mpr (Or.inr (Or.inr (Or.inr rfl))), rfl, rfl⟩

/-- A player with a role in the team, a chakra and a wife; the role has an item, the wife's equipment
    is a number. -/
def saved : List Entity :=
  [{ guid := 0x0100000000000001
     body := .player
       { roles := [0x0200000000000001], wifes := [0x3700000000000001],
         chakra := 0x1900000000000001, bag := [1, 0x0800000000000002, 0] } },
   { guid := 0x0200000000000001, body := .role { equipments := [0x0800000000000001, 1, 0] } },
   { guid := 0x0800000000000001, body := .other .item },
   { guid := 0x0800000000000002, body := .other .item },
   { guid := 0x1900000000000001, body := .chakra { caches := [1, 0x1A00000000000001] } },
   { guid := 0x1A00000000000001, body := .other .chakre },
   { guid := 0x3700000000000001, body := .wife { equipments := [7] } }]

/-- The database of the player below. -/
def savedDb : Database := Database.ofList saved (by decide)

/-- The pool after the load. -/
def savedPool : PoolImp Entity :=
  saved.foldl (fun s e => (s.add e.guid (some e) false 0x0100000000000001).1)
    { cfg := { lineId := 1, isLineScene := false } }

/-- The load and the flush of a stored player. -/
theorem load_covers_flush_saved : ∃ l, load savedDb 0x0100000000000001 = some l ∧
    ∀ isFlush g, g ∈ l.requested ↔
      g ∈ (getPlayerEntityMap savedPool 0x0100000000000001 isFlush).2 ∨ g = 0x0100000000000001 := by
  have hsome : (load savedDb 0x0100000000000001).isSome := by decide +kernel
  obtain ⟨l, hl⟩ := Option.isSome_iff_exists.mp hsome
  refine ⟨l, hl, load_covers_flush savedDb _ l hl savedPool ?_ ?_⟩
  · have hall : ∀ x ∈ savedPool.entityMap.toList, ∀ e ∈ x.2.message.toList, e.WellTyped x.1 := by
      decide +kernel
    intro g e he
    unfold PoolImp.get at he
    match hg : savedPool.entityMap[g]? with
    | none => simp [hg] at he
    | some info =>
        simp only [hg] at he
        split at he
        · cases he
        · exact hall (g, info) (TreeMap.mem_toList_iff_getElem?_eq_some.mpr hg) e
            (Option.mem_toList.mpr he)
  · have hall : ∀ e ∈ saved, savedPool.get e.guid = some e := by decide +kernel
    obtain ⟨-, -, -, -, hholds, -⟩ := load_spec hl
    intro g e he
    rw [hholds g] at he
    split at he
    · have hfind : saved.find? (·.guid == g) = some e := Database.get_of_extractEntity he
      have hguid := List.find?_some (p := fun e : Entity => e.guid == g) hfind
      rw [← eq_of_beq hguid]
      exact hall e (List.mem_of_find?_eq_some hfind)
    · cases he

end Steppingstone.Player
