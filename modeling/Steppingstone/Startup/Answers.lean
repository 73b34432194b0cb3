/-
  Steppingstone.Startup.Answers — what the answer to one list does.

  The loading set is looked at after every removal.  Guids are removed from a set that holds them
  all, so only the last removal can empty it; after a failure an empty set announces nothing.
-/
import Steppingstone.Startup.Model

namespace Steppingstone.Startup

open ManageShort

/-! ## §1. Guid types. -/

/-- The type of a guid that is switched. -/
theorem guidType_switch (t g : UInt64) :
    (guidType (switchGuidType t g)).toNat = t.toNat % 2 ^ 8 := by
  -- the guid keeps its low 56 bits, the type takes the high 8
  have hlow : (g &&& (0x00FFFFFFFFFFFFFF : UInt64)).toNat >>> 56 = 0 := by
    rw [UInt64.toNat_and]
    show (g.toNat &&& (2 ^ 56 - 1)) >>> 56 = 0
    rw [Nat.and_two_pow_sub_one_eq_mod, Nat.shiftRight_eq_div_pow]
    exact Nat.div_eq_of_lt (Nat.mod_lt _ (by decide))
  have hhigh : ((t <<< 56) &&& (0xFF00000000000000 : UInt64)).toNat >>> 56 = t.toNat % 2 ^ 8 := by
    rw [UInt64.toNat_and, UInt64.toNat_shiftLeft, Nat.shiftRight_and_distrib]
    show (t.toNat <<< 56 % 2 ^ 64) >>> 56 &&& (2 ^ 8 - 1) = _
    rw [Nat.and_two_pow_sub_one_eq_mod, Nat.shiftRight_eq_div_pow, Nat.shiftLeft_eq]
    omega
  unfold guidType switchGuidType
  rw [UInt64.toNat_and, UInt64.toNat_shiftRight]
  show (_ : UInt64).toNat >>> 56 &&& (2 ^ 8 - 1) = _
  rw [UInt64.toNat_or, Nat.shiftRight_or_distrib, hlow, hhigh, Nat.or_zero,
    Nat.and_two_pow_sub_one_eq_mod, Nat.mod_mod]

theorem isShortGuid_short (p : UInt64) : isShortGuid (shortGuid p) = true := by
  have htype := guidType_switch etShort p
  exact beq_iff_eq.mpr (UInt64.toNat_inj.mp htype)

theorem isShortGuid_coin (p : UInt64) : isShortGuid (coinGuid p) = false := by
  have htype := guidType_switch etCoin (switchGuidType etPlayer p)
  rw [isShortGuid, beq_eq_false_iff_ne]
  intro heq
  unfold coinGuid at heq
  rw [heq] at htype
  cases htype

/-! ## §2. What a list stands for. -/

/-- The guids of a list that are in the loading set. -/
def RequestList.collected : RequestList → List UInt64
  | short listed => [shortGuid listed]
  | other _ guids => guids

/-- All that is loaded until the list and those that follow it are answered. -/
def RequestList.pending (shortEntity : UInt64 → ShortEntity) : RequestList → List UInt64
  | short listed =>
      shortGuid listed :: coinGuid listed :: (shortEntity (shortGuid listed)).otherGuids
  | other _ guids => guids

theorem RequestList.mem_pending {shortEntity : UInt64 → ShortEntity} {l : RequestList} {g : UInt64}
    (h : g ∈ l.collected) : g ∈ l.pending shortEntity := by
  cases l with
  | short listed => exact List.mem_cons.mpr (.inl (List.mem_singleton.mp h))
  | other _ _ => exact h

/-- A list is empty when nothing was collected. -/
theorem RequestList.requests_eq_nil {l : RequestList} : l.requests = [] ↔ l.collected = [] := by
  cases l with
  | short listed =>
      constructor <;>
        · intro h
          cases h
  | other _ _ => exact Iff.rfl

/-! ## §3. The set is looked at. -/

/-- Nothing is announced yet. -/
def Quiet (s : ManageShort) : Prop := s.startupSuccess = false ∧ s.notices = []

/-- What has been announced agrees with the loading set. -/
structure Told (s : ManageShort) : Prop where
  waiting : s.loadingShortGuid ≠ ∅ → Quiet s
  started : s.loadingShortGuid = ∅ → s.startupSuccess = true
  failed : s.isLoadFailed = true → s.notices = []
  once : s.loadingShortGuid = ∅ → s.isLoadFailed = false →
    ∃ players, s.notices = [⟨players, s.outstanding⟩]

variable {s s' : ManageShort} {g : UInt64} {l : RequestList}

/-- The set is not empty afterwards. -/
theorem remove_of_ne (h : s.loadingShortGuid.erase g ≠ ∅) :
    s.removeLoadingShortGuid g = { s with loadingShortGuid := s.loadingShortGuid.erase g } := by
  unfold removeLoadingShortGuid
  exact if_neg h

/-- The set is empty afterwards: the start has ended, and it is announced if nothing failed. -/
theorem remove_of_eq (h : s.loadingShortGuid.erase g = ∅) :
    s.removeLoadingShortGuid g = { s with
      loadingShortGuid := s.loadingShortGuid.erase g
      startupSuccess := true
      notices := s.notices ++
        if s.isLoadFailed then [] else [⟨s.activeAmahPlayerGuid, s.outstanding⟩] } := by
  unfold removeLoadingShortGuid
  refine (if_pos h).trans ?_
  by_cases hfailed : s.isLoadFailed = true
  · simp only [if_pos hfailed, List.append_nil]
  · simp only [if_neg hfailed]
    rfl

section Remove

variable (s g)

/-- A guid that is loaded leaves the loading ones, and nothing else changes. -/
theorem remove_cases :
    (s.removeLoadingShortGuid g).loadingShortGuid = s.loadingShortGuid.erase g ∧
      (s.removeLoadingShortGuid g).requestInfoVec = s.requestInfoVec ∧
      (s.removeLoadingShortGuid g).isLoadFailed = s.isLoadFailed := by
  by_cases h : s.loadingShortGuid.erase g = ∅
  · rw [remove_of_eq h]
    exact ⟨rfl, rfl, rfl⟩
  · rw [remove_of_ne h]
    exact ⟨rfl, rfl, rfl⟩

@[simp]
theorem remove_loading :
    (s.removeLoadingShortGuid g).loadingShortGuid = s.loadingShortGuid.erase g :=
  (remove_cases s g).1

@[simp]
theorem remove_requestInfoVec :
    (s.removeLoadingShortGuid g).requestInfoVec = s.requestInfoVec :=
  (remove_cases s g).2.1

@[simp]
theorem remove_isLoadFailed : (s.removeLoadingShortGuid g).isLoadFailed = s.isLoadFailed :=
  (remove_cases s g).2.2

end Remove

/-- **One removal**, from a set that is not empty or after a failure. -/
theorem Told.remove (h : Told s) (hopen : s.loadingShortGuid ≠ ∅ ∨ s.isLoadFailed = true) :
    Told (s.removeLoadingShortGuid g) := by
  have hnone : s.notices = [] := hopen.elim (fun hne => (h.waiting hne).2) h.failed
  -- only a removal that empties the set looks at the failure flag
  by_cases hrest : s.loadingShortGuid.erase g = ∅
  · rw [remove_of_eq hrest, hnone]
    refine ⟨fun hne => absurd hrest hne, fun _ => rfl, fun hfailed => ?_, fun _ hgood => ?_⟩
    · exact if_pos hfailed
    · exact ⟨s.activeAmahPlayerGuid, if_neg (ne_true_of_eq_false hgood)⟩
  · have hne : s.loadingShortGuid ≠ ∅ := by
      rintro hempty
      rw [hempty] at hrest
      exact hrest rfl
    rw [remove_of_ne hrest]
    exact ⟨fun _ => h.waiting hne, fun hempty => absurd hempty hrest, fun _ => hnone,
      fun hempty => absurd hempty hrest⟩

/-- What the pool holds is not announced. -/
theorem Told.add (h : Told s) : Told (s.add g) :=
  ⟨h.waiting, h.started, h.failed, h.once⟩

/-! ## §4. The effect of an answer. -/

section SecondStage

/-- So it is for every player of a list. -/
theorem otherLoaded_cases (s : ManageShort) (x : UInt64 × Reply) :
    (otherLoaded s x).loadingShortGuid = s.loadingShortGuid.erase x.1 ∧
      (otherLoaded s x).requestInfoVec = s.requestInfoVec ∧
      (otherLoaded s x).isLoadFailed = s.isLoadFailed ∧
      (Told (s.removeLoadingShortGuid x.1) → Told (otherLoaded s x)) := by
  obtain ⟨g, r⟩ := x
  obtain ⟨hloading, hlists, hfailed⟩ := remove_cases s g
  cases r with
  | failed => exact ⟨hloading, hlists, hfailed, id⟩
  | empty => exact ⟨hloading, hlists, hfailed, id⟩
  | loaded => exact ⟨hloading, hlists, hfailed, Told.add⟩

/-- **Each guid of the list is removed**, and only the last removal can empty the set. -/
theorem foldl_otherLoaded (xs : List (UInt64 × Reply)) (h : Told s)
    (hnodup : (xs.map Prod.fst).Nodup) (hmem : ∀ x ∈ xs, x.1 ∈ s.loadingShortGuid) :
    Told (xs.foldl otherLoaded s) ∧
      (xs.foldl otherLoaded s).requestInfoVec = s.requestInfoVec ∧
      (xs.foldl otherLoaded s).isLoadFailed = s.isLoadFailed ∧
      ∀ g, g ∈ (xs.foldl otherLoaded s).loadingShortGuid ↔
        g ∈ s.loadingShortGuid ∧ g ∉ xs.map Prod.fst := by
  -- a guid that is still to come keeps the set from being empty
  induction xs generalizing s with
  | nil => exact ⟨h, rfl, rfl, fun g => by simp only [List.foldl_nil, List.map_nil,
      List.not_mem_nil, not_false_iff, and_true]⟩
  | cons x xs ih =>
      obtain ⟨hx, hxs⟩ := List.nodup_cons.mp hnodup
      obtain ⟨hloading, hlists, hfailed, htold⟩ := otherLoaded_cases s x
      have hne : s.loadingShortGuid ≠ ∅ :=
        Finset.ne_empty_of_mem (hmem x (List.mem_cons_self ..))
      have hrest : ∀ y ∈ xs, y.1 ∈ (otherLoaded s x).loadingShortGuid := by
        intro y hy
        rw [hloading]
        refine Finset.mem_erase.mpr ⟨fun heq => hx ?_, hmem y (List.mem_cons_of_mem _ hy)⟩
        exact heq ▸ List.mem_map_of_mem hy
      obtain ⟨hlast, hlists', hfailed', hall⟩ :=
        ih (htold (h.remove (.inl hne))) hxs hrest
      refine ⟨hlast, hlists'.trans hlists, hfailed'.trans hfailed, fun g => ?_⟩
      rw [List.foldl_cons, hall g, hloading, Finset.mem_erase, List.map_cons, List.mem_cons]
      tauto

/-- Collecting guids adds them to the loading ones. -/
theorem foldl_collect (s : ManageShort) (gs : List UInt64) :
    gs.foldl collectLoadingShortGuid s
      = { s with loadingShortGuid := s.loadingShortGuid ∪ gs.toFinset } := by
  induction gs generalizing s with
  | nil => rw [List.foldl_nil, List.toFinset_nil, Finset.union_empty]
  | cons g gs ih =>
      rw [List.foldl_cons, ih]
      unfold collectLoadingShortGuid
      simp only [List.toFinset_cons, Finset.insert_union, Finset.union_insert]

end SecondStage

/-- One of the loads failed. -/
def Answer.Failed (a : Answer) : Prop := Reply.failed ∈ a.replies

instance Answer.decidableFailed (a : Answer) : Decidable a.Failed :=
  inferInstanceAs (Decidable (Reply.failed ∈ a.replies))

/-- The answer takes the guids of its list out of the loading set: a `Short` that is loaded or
fails does, and a second stage without a failure does. -/
def Answer.Drains (a : Answer) : Prop :=
  match a.list with
  | .short _ => a.Failed ∨ a.replies.head? = some .loaded
  | .other _ _ => ¬ a.Failed

instance Answer.decidableDrains : (a : Answer) → Decidable a.Drains
  | ⟨.short _, replies⟩ =>
      inferInstanceAs (Decidable (Reply.failed ∈ replies ∨ replies.head? = some .loaded))
  | ⟨.other _ _, replies⟩ => inferInstanceAs (Decidable (¬ Reply.failed ∈ replies))

/-- What an answer takes out. -/
def Answer.removed (a : Answer) : List UInt64 :=
  if a.Drains then a.list.collected else []

/-- The list that an answer issues. -/
def Answer.issued (shortEntity : UInt64 → ShortEntity) (a : Answer) : List RequestList :=
  match a.list with
  | .short listed =>
      if ¬ a.Failed ∧ a.replies.head? = some .loaded then
        [.other (shortEntity (shortGuid listed)).player
          (shortEntity (shortGuid listed)).otherGuids]
      else []
  | .other _ _ => []

/-- **What a callback does** to the lists, the loading set and what is announced. -/
structure Effect (shortEntity : UInt64 → ShortEntity) (a : Answer) (s s' : ManageShort) : Prop where
  lists : s'.requestInfoVec = s.requestInfoVec ++ a.issued shortEntity
  loading : ∀ g, g ∈ s'.loadingShortGuid ↔
    (g ∈ s.loadingShortGuid ∧ g ∉ a.removed) ∨ ∃ l ∈ a.issued shortEntity, g ∈ l.collected
  failed : s'.isLoadFailed = true ↔ s.isLoadFailed = true ∨ a.Failed
  told : Told s'

variable {shortEntity : UInt64 → ShortEntity}

theorem mem_removed {a : Answer} : g ∈ a.removed ↔ a.Drains ∧ g ∈ a.list.collected := by
  unfold Answer.removed
  split
  · rename_i h
    exact (and_iff_right h).symm
  · rename_i h
    exact iff_of_false (List.not_mem_nil) fun hand => h hand.1

theorem Effect.mem_lists {a : Answer} (h : Effect shortEntity a s s')
    (hl : l ∈ s'.requestInfoVec) : l ∈ s.requestInfoVec ∨ l ∈ a.issued shortEntity := by
  rw [h.lists] at hl
  exact List.mem_append.mp hl

/-- A guid of the set that the answer does not take out is still there. -/
theorem Effect.mem_loading {a : Answer} (h : Effect shortEntity a s s')
    (hg : g ∈ s.loadingShortGuid) (hnot : a.Drains → g ∉ a.list.collected) :
    g ∈ s'.loadingShortGuid :=
  (h.loading g).mpr (.inl ⟨hg, fun hrem =>
    hnot (mem_removed.mp hrem).1 (mem_removed.mp hrem).2⟩)

/-- A list succeeds when no reply failed. -/
theorem isSuccess_iff {replies : List Reply} :
    isSuccess replies = true ↔ Reply.failed ∉ replies := by
  rw [isSuccess, List.all_eq_true]
  constructor
  · intro h hmem
    exact absurd (h _ hmem) (by decide)
  · intro h r hr
    rw [bne_iff_ne]
    rintro rfl
    exact h hr

/-- The second stage of a player is answered. -/
theorem other_effect {playerGuid : UInt64} {guids : List UInt64} {replies : List Reply}
    (h : Told s) (hguids : guids ≠ []) (hlength : replies.length = guids.length)
    (hnodup : guids.Nodup) (hmem : ∀ g ∈ guids, g ∈ s.loadingShortGuid) :
    Effect shortEntity ⟨.other playerGuid guids, replies⟩ s
      (s.loadShortOtherGuidFinish guids replies) := by
  unfold loadShortOtherGuidFinish
  by_cases hfailed : Reply.failed ∈ replies
  -- a failure: the flag is set, and the guids stay where they are
  · rw [if_neg fun hsuccess => isSuccess_iff.mp hsuccess hfailed]
    have hnot : ¬ (⟨.other playerGuid guids, replies⟩ : Answer).Drains := fun hd => hd hfailed
    obtain ⟨g, hg⟩ := List.exists_mem_of_ne_nil _ hguids
    have hne : s.loadingShortGuid ≠ ∅ := Finset.ne_empty_of_mem (hmem g hg)
    refine ⟨(List.append_nil _).symm, fun g => ?_, ⟨fun _ => .inr hfailed, fun _ => rfl⟩,
      ⟨h.waiting, fun hempty => absurd hempty hne, fun _ => (h.waiting hne).2,
        fun hempty => absurd hempty hne⟩⟩
    rw [Answer.removed, if_neg hnot]
    simp only [Answer.issued, List.not_mem_nil, not_false_iff, and_true, false_and, exists_false,
      or_false]
  -- success: the callback walks the guids beside their replies
  · rw [if_pos (isSuccess_iff.mpr hfailed)]
    have hfst : (guids.zip replies).map Prod.fst = guids :=
      List.map_fst_zip (Nat.le_of_eq hlength.symm)
    obtain ⟨htold, hlists, hflag, hall⟩ := foldl_otherLoaded (guids.zip replies) h
      (hfst.symm ▸ hnodup) fun x hx => hmem _ (hfst ▸ List.mem_map_of_mem hx)
    have hdrains : (⟨.other playerGuid guids, replies⟩ : Answer).Drains := hfailed
    refine ⟨hlists.trans (List.append_nil _).symm, fun g => ?_, ?_, htold⟩
    · rw [hall g, hfst, Answer.removed, if_pos hdrains]
      simp only [Answer.issued, RequestList.collected, List.not_mem_nil, false_and, exists_false,
        or_false]
    · rw [hflag]
      exact ⟨.inl, fun hor => hor.resolve_right hfailed⟩

/-- A `Short` is there: its second stage is issued, and then its own guid is removed. -/
theorem shortLoaded_effect {p : UInt64} (h : Told s) (hmem : shortGuid p ∈ s.loadingShortGuid)
    (hown : shortGuid p ∉ (shortEntity (shortGuid p)).otherGuids) :
    Told (shortLoaded shortEntity s (shortGuid p, .loaded)) ∧
      (shortLoaded shortEntity s (shortGuid p, .loaded)).requestInfoVec
        = s.requestInfoVec ++ [.other (shortEntity (shortGuid p)).player
            (shortEntity (shortGuid p)).otherGuids] ∧
      (shortLoaded shortEntity s (shortGuid p, .loaded)).isLoadFailed = s.isLoadFailed ∧
      ∀ g, g ∈ (shortLoaded shortEntity s (shortGuid p, .loaded)).loadingShortGuid ↔
        (g ∈ s.loadingShortGuid ∧ g ≠ shortGuid p) ∨
          g ∈ (shortEntity (shortGuid p)).otherGuids := by
  -- the pool and the set of the amah players are not looked at below
  generalize hamah : (if 0 < (shortEntity (shortGuid p)).amah then
    { s.add (shortGuid p) with
      activeAmahPlayerGuid :=
        insert (shortEntity (shortGuid p)).player (s.add (shortGuid p)).activeAmahPlayerGuid }
    else s.add (shortGuid p)) = t
  have hstep : shortLoaded shortEntity s (shortGuid p, .loaded)
      = (t.loadShortOtherGuid (shortEntity (shortGuid p))).removeLoadingShortGuid
          (shortGuid p) := by
    rw [← hamah]
    exact if_pos (isShortGuid_short p)
  have hsame : t.loadingShortGuid = s.loadingShortGuid ∧ t.requestInfoVec = s.requestInfoVec ∧
      t.isLoadFailed = s.isLoadFailed ∧ (Quiet s → Quiet t) := by
    rw [← hamah]
    split
    · exact ⟨rfl, rfl, rfl, id⟩
    · exact ⟨rfl, rfl, rfl, id⟩
  obtain ⟨hloading, hlists, hfailed, hquiet⟩ := hsame
  have hissued : t.loadShortOtherGuid (shortEntity (shortGuid p)) = { t with
      loadingShortGuid := t.loadingShortGuid ∪ (shortEntity (shortGuid p)).otherGuids.toFinset
      requestInfoVec := t.requestInfoVec ++ [.other (shortEntity (shortGuid p)).player
        (shortEntity (shortGuid p)).otherGuids] } := by
    unfold loadShortOtherGuid
    rw [foldl_collect]
    rfl
  have hne : s.loadingShortGuid ≠ ∅ := Finset.ne_empty_of_mem hmem
  -- the own guid is still in the set, so the second stage cannot end the start
  have hstill : (t.loadShortOtherGuid (shortEntity (shortGuid p))).loadingShortGuid ≠ ∅ := by
    rw [hissued, hloading]
    exact Finset.ne_empty_of_mem (Finset.mem_union_left _ hmem)
  have htold : Told (t.loadShortOtherGuid (shortEntity (shortGuid p))) := by
    have hsilent : Quiet (t.loadShortOtherGuid (shortEntity (shortGuid p))) := by
      rw [hissued]
      exact hquiet (h.waiting hne)
    exact ⟨fun _ => hsilent, fun hempty => absurd hempty hstill, fun _ => hsilent.2,
      fun hempty => absurd hempty hstill⟩
  rw [hstep]
  refine ⟨htold.remove (.inl hstill), ?_, ?_, fun g => ?_⟩
  · rw [remove_requestInfoVec, hissued, hlists]
  · rw [remove_isLoadFailed, hissued, hfailed]
  · rw [remove_loading, hissued, hloading, Finset.mem_erase, Finset.mem_union, List.mem_toFinset]
    constructor
    · intro hg
      exact hg.2.imp (fun hold => ⟨hold, hg.1⟩) id
    · intro hg
      refine hg.elim (fun hold => ⟨hold.2, .inl hold.1⟩) fun hnew => ⟨?_, .inr hnew⟩
      rintro rfl
      exact hown hnew

variable (shortEntity) in
/-- Only the `Short` of a list does more than enter the pool. -/
theorem shortLoaded_coin (s : ManageShort) {p : UInt64} {r : Reply} (hr : r ≠ .failed) :
    shortLoaded shortEntity s (coinGuid p, r) = s ∨
      shortLoaded shortEntity s (coinGuid p, r) = s.add (coinGuid p) := by
  cases r with
  | failed => exact absurd rfl hr
  | empty => exact .inl rfl
  | loaded => exact .inr (if_neg (ne_true_of_eq_false (isShortGuid_coin p)))

/-- The first stage of a player is answered. -/
theorem short_effect {p : UInt64} {first second : Reply} (h : Told s)
    (hmem : shortGuid p ∈ s.loadingShortGuid) (hcoin : coinGuid p ∉ s.loadingShortGuid)
    (hown : shortGuid p ∉ (shortEntity (shortGuid p)).otherGuids) :
    Effect shortEntity ⟨.short p, [first, second]⟩ s
      (s.loadShortFinish shortEntity [shortGuid p, coinGuid p] [first, second]) := by
  have hne : s.loadingShortGuid ≠ ∅ := Finset.ne_empty_of_mem hmem
  unfold loadShortFinish
  by_cases hfailed : Reply.failed ∈ [first, second]
  · rw [if_neg fun hsuccess => isSuccess_iff.mp hsuccess hfailed]
    -- the guid of the `Short` is removed, and then that of the `Coin`, which is not there
    have hstart : Told { s with isLoadFailed := true } :=
      ⟨h.waiting, fun hempty => absurd hempty hne, fun _ => (h.waiting hne).2,
        fun hempty => absurd hempty hne⟩
    have htold : Told ([shortGuid p, coinGuid p].foldl removeLoadingShortGuid
        { s with isLoadFailed := true }) :=
      (hstart.remove (.inr rfl)).remove (.inr (remove_isLoadFailed _ _))
    have hdrains : (⟨.short p, [first, second]⟩ : Answer).Drains := .inl hfailed
    have hnone : (⟨.short p, [first, second]⟩ : Answer).issued shortEntity = [] :=
      if_neg fun hand => hand.1 hfailed
    refine ⟨?_, fun g => ?_, ⟨fun _ => .inr hfailed, fun _ => ?_⟩, htold⟩
    · simp only [List.foldl_cons, List.foldl_nil, remove_requestInfoVec, hnone, List.append_nil]
    · simp only [List.foldl_cons, List.foldl_nil, remove_loading, hnone, Answer.removed,
        if_pos hdrains, RequestList.collected, List.mem_singleton, Finset.mem_erase,
        List.not_mem_nil, false_and, exists_false, or_false]
      constructor
      · intro hg
        exact ⟨hg.2.2, hg.2.1⟩
      · intro hg
        exact ⟨fun heq => hcoin (heq ▸ hg.1), hg.2, hg.1⟩
    · simp only [List.foldl_cons, List.foldl_nil, remove_isLoadFailed]
  · rw [if_pos (isSuccess_iff.mpr hfailed)]
    have hsecond : second ≠ .failed := by
      rintro rfl
      exact hfailed (List.mem_cons_of_mem _ (List.mem_singleton_self _))
    -- the `Coin` is read after the `Short`, and only enters the pool
    suffices hshort : Effect shortEntity ⟨.short p, [first, second]⟩ s
        (shortLoaded shortEntity s (shortGuid p, first)) by
      show Effect _ _ s (shortLoaded shortEntity _ (coinGuid p, second))
      obtain hcoin | hcoin := shortLoaded_coin shortEntity
        (shortLoaded shortEntity s (shortGuid p, first)) hsecond
      · rw [hcoin]
        exact hshort
      · rw [hcoin]
        exact ⟨hshort.lists, hshort.loading, hshort.failed, hshort.told.add⟩
    -- what the `Short` itself came back with decides
    cases first with
    | failed => exact absurd (List.mem_cons_self ..) hfailed
    | empty =>
        have hnot : ¬ (⟨.short p, [.empty, second]⟩ : Answer).Drains := by
          rintro (hf | hhead)
          · exact hfailed hf
          · cases hhead
        have hnone : (⟨.short p, [.empty, second]⟩ : Answer).issued shortEntity = [] := by
          refine if_neg ?_
          rintro ⟨-, hhead⟩
          cases hhead
        refine ⟨?_, fun g => ?_, ⟨.inl, fun hor => hor.resolve_right hfailed⟩, h⟩
        · rw [hnone, List.append_nil]
          rfl
        · rw [hnone, Answer.removed, if_neg hnot]
          simp only [shortLoaded, List.not_mem_nil, not_false_iff, and_true, false_and,
            exists_false, or_false]
    | loaded =>
        obtain ⟨htold, hlists, hflag, hall⟩ := shortLoaded_effect h hmem hown
        have hdrains : (⟨.short p, [.loaded, second]⟩ : Answer).Drains := .inr rfl
        have hone : (⟨.short p, [.loaded, second]⟩ : Answer).issued shortEntity
            = [.other (shortEntity (shortGuid p)).player
                (shortEntity (shortGuid p)).otherGuids] :=
          if_pos ⟨hfailed, rfl⟩
        refine ⟨hlists.trans (by rw [hone]), fun g => ?_, ?_, htold⟩
        · rw [hall g, hone, Answer.removed, if_pos hdrains]
          simp only [RequestList.collected, List.mem_singleton, exists_eq_left]
        · rw [hflag]
          exact ⟨.inl, fun hor => hor.resolve_right hfailed⟩

end Steppingstone.Startup
