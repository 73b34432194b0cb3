/-
  Steppingstone.Startup.Announced — when the end of the start is announced.

  A guid waits in the loading set for a list that will take it out.  The set is empty only when no
  list is left to be answered, so nothing is announced early.  A list of the second stage that
  fails leaves its guids in the set, and so does a `Short` that is answered without a message: no
  later answer takes them out, and the start never ends.
-/
import Steppingstone.Startup.Answers

namespace Steppingstone.Startup

open ManageShort

/-! ## §1. The lists and the loading set. -/

variable {s s' : ManageShort} {g : UInt64} {l : RequestList}
  {shortEntity : UInt64 → ShortEntity}

/-- The guids that wait in the loading set belong to one list each, or to none that is left. -/
structure Inv (shortEntity : UInt64 → ShortEntity) (s : ManageShort) : Prop where
  collected : ∀ l ∈ s.requestInfoVec, ∀ g ∈ l.collected, g ∈ s.loadingShortGuid
  distinct : (s.requestInfoVec.flatMap (RequestList.pending shortEntity)).Nodup
  left : ∀ g ∈ s.loadingShortGuid, (∃ l ∈ s.requestInfoVec, g ∈ l.collected) ∨
    ∀ l ∈ s.requestInfoVec, g ∉ l.pending shortEntity
  told : Told s

/-- A guid waits for a list that has been answered. -/
def Stuck (s : ManageShort) : Prop :=
  ∃ g ∈ s.loadingShortGuid, ∀ l ∈ s.requestInfoVec, g ∉ l.collected

theorem issued_short (shortEntity : UInt64 → ShortEntity) (p : UInt64) (replies : List Reply) :
    (⟨.short p, replies⟩ : Answer).issued shortEntity = [] ∨
      (⟨.short p, replies⟩ : Answer).issued shortEntity
        = [.other (shortEntity (shortGuid p)).player
            (shortEntity (shortGuid p)).otherGuids] := by
  by_cases h : ¬ (⟨.short p, replies⟩ : Answer).Failed ∧ replies.head? = some .loaded
  · exact .inr (if_pos h)
  · exact .inl (if_neg h)

/-- What an answer removes and what it issues was pending in its list. -/
theorem pending_sublist (shortEntity : UInt64 → ShortEntity) (a : Answer) :
    (a.list.collected ++ (a.issued shortEntity).flatMap (RequestList.pending shortEntity)).Sublist
      (a.list.pending shortEntity) := by
  obtain ⟨l, replies⟩ := a
  cases l with
  | short p =>
      refine List.Sublist.cons_cons _ (List.Sublist.cons _ ?_)
      obtain hnone | hone := issued_short shortEntity p replies
      · rw [hnone]
        exact List.nil_sublist _
      · rw [hone, List.flatMap_singleton]
        exact List.Sublist.refl _
  | other playerGuid guids =>
      show (guids ++ []).Sublist guids
      rw [List.append_nil]

/-- The answered list apart from the others. -/
theorem Inv.split {a : Answer} (h : Inv shortEntity s) (hl : a.list ∈ s.requestInfoVec) :
    (a.list.pending shortEntity ++
      (s.requestInfoVec.erase a.list).flatMap (RequestList.pending shortEntity)).Nodup :=
  (List.Perm.flatMap_right _ (List.perm_cons_erase hl)).nodup_iff.mp h.distinct

/-- What the answered list stands for is in no other list; what it issues was not collected. -/
structure Parted (shortEntity : UInt64 → ShortEntity) (a : Answer) (s : ManageShort) : Prop where
  other : ∀ g ∈ a.list.pending shortEntity, ∀ l ∈ s.requestInfoVec.erase a.list,
    g ∉ l.pending shortEntity
  issued : ∀ l ∈ a.issued shortEntity, ∀ g ∈ l.pending shortEntity,
    g ∈ a.list.pending shortEntity ∧ g ∉ a.list.collected

theorem Inv.parted {a : Answer} (h : Inv shortEntity s) (hl : a.list ∈ s.requestInfoVec) :
    Parted shortEntity a s := by
  have hsub := pending_sublist shortEntity a
  obtain ⟨hown, -, hapart⟩ := List.nodup_append.mp (h.split hl)
  refine ⟨fun g hg l hl' hmem => hapart g hg g (List.mem_flatMap.mpr ⟨l, hl', hmem⟩) rfl, ?_⟩
  intro l hl' g hmem
  have hflat : g ∈ (a.issued shortEntity).flatMap (RequestList.pending shortEntity) :=
    List.mem_flatMap.mpr ⟨l, hl', hmem⟩
  refine ⟨hsub.subset (List.mem_append_right _ hflat), fun hcol => ?_⟩
  exact (List.nodup_append.mp (hown.sublist hsub)).2.2 g hcol g hflat rfl

section Callback

variable {a : Answer} (h : Inv shortEntity s) (hl : a.list ∈ s.requestInfoVec)
  (heffect : Effect shortEntity a { s with requestInfoVec := s.requestInfoVec.erase a.list } s')

include h hl heffect

/-- **A callback keeps the invariant.** -/
theorem Inv.effect : Inv shortEntity s' := by
  have hparted := h.parted hl
  have hsub := pending_sublist shortEntity a
  refine ⟨fun l hl' g hg => ?_, ?_, fun g hg => ?_, heffect.told⟩
  -- a list that is left, or one that the answer has issued
  · obtain hl' | hl' := heffect.mem_lists hl'
    · refine heffect.mem_loading (h.collected l (List.mem_of_mem_erase hl') g hg) ?_
      intro _ hcol
      exact hparted.other g (RequestList.mem_pending hcol) l hl' (RequestList.mem_pending hg)
    · exact (heffect.loading g).mpr (.inr ⟨l, hl', hg⟩)
  -- what is issued was pending in the answered list, so the lists stay apart
  · have hflat := (List.sublist_append_right _ _).trans hsub
    rw [heffect.lists, List.flatMap_append]
    exact ((hflat.append (List.Sublist.refl _)).nodup (h.split hl)).perm List.perm_append_comm
  -- a guid that was there before, or one that has been collected now
  · obtain ⟨hmem, -⟩ | ⟨l, hl', hmem⟩ := (heffect.loading g).mp hg
    · obtain ⟨l, hl', hcol⟩ | hnone := h.left g hmem
      · obtain rfl | hl' := List.mem_cons.mp ((List.perm_cons_erase hl).mem_iff.mp hl')
        · refine .inr fun l hl' hpend => ?_
          obtain hl' | hl' := heffect.mem_lists hl'
          · exact hparted.other g (RequestList.mem_pending hcol) l hl' hpend
          · exact (hparted.issued l hl' g hpend).2 hcol
        · exact .inl ⟨l, heffect.lists ▸ List.mem_append_left _ hl', hcol⟩
      · refine .inr fun l hl' hpend => ?_
        obtain hl' | hl' := heffect.mem_lists hl'
        · exact hnone l (List.mem_of_mem_erase hl') hpend
        · exact hnone a.list hl (hparted.issued l hl' g hpend).1
    · exact .inl ⟨l, heffect.lists ▸ List.mem_append_right _ hl', hmem⟩

/-- **A guid is left behind exactly if the answer does not drain its list.** -/
theorem Inv.stuck_iff (hne : a.list.collected ≠ []) : Stuck s' ↔ Stuck s ∨ ¬ a.Drains := by
  have hparted := h.parted hl
  constructor
  · rintro ⟨g, hg, hfree⟩
    rw [heffect.lists] at hfree
    obtain ⟨hmem, hkept⟩ | ⟨l, hl', hmem⟩ := (heffect.loading g).mp hg
    · by_cases hdrains : a.Drains
      · refine .inl ⟨g, hmem, fun l hl' hcol => ?_⟩
        obtain rfl | hl' := List.mem_cons.mp ((List.perm_cons_erase hl).mem_iff.mp hl')
        · exact hkept (mem_removed.mpr ⟨hdrains, hcol⟩)
        · exact hfree l (List.mem_append_left _ hl') hcol
      · exact .inr hdrains
    · exact absurd hmem (hfree l (List.mem_append_right _ hl'))
  · rintro (⟨g, hmem, hfree⟩ | hnot)
    · -- a guid that was left behind belongs to no list, and not to the answered one either
      have hnone : ∀ l ∈ s.requestInfoVec, g ∉ l.pending shortEntity := by
        refine (h.left g hmem).resolve_left ?_
        rintro ⟨l, hl', hcol⟩
        exact hfree l hl' hcol
      refine ⟨g, heffect.mem_loading hmem fun _ => hfree a.list hl, fun l hl' hcol => ?_⟩
      obtain hl' | hl' := heffect.mem_lists hl'
      · exact hfree l (List.mem_of_mem_erase hl') hcol
      · exact hnone _ hl (hparted.issued l hl' g (RequestList.mem_pending hcol)).1
    -- a list that is not drained leaves its guids, and nobody else has them
    · obtain ⟨g, hg⟩ := List.exists_mem_of_ne_nil _ hne
      refine ⟨g, heffect.mem_loading (h.collected _ hl g hg) fun hd => absurd hd hnot,
        fun l hl' hcol => ?_⟩
      obtain hl' | hl' := heffect.mem_lists hl'
      · exact hparted.other g (RequestList.mem_pending hg) l hl' (RequestList.mem_pending hcol)
      · exact (hparted.issued l hl' g (RequestList.mem_pending hcol)).2 hg

end Callback

theorem answer_eq_some {a : Answer} (h : s.answer shortEntity a = some s') :
    a.list ∈ s.requestInfoVec ∧ a.list.requests ≠ [] ∧
      a.replies.length = a.list.requests.length ∧
      s' = callBack { s with requestInfoVec := s.requestInfoVec.erase a.list } shortEntity a := by
  unfold answer at h
  split at h
  · rename_i hen
    exact ⟨hen.1, hen.2.1, hen.2.2, (Option.some.inj h).symm⟩
  · cases h

/-- **An answered list** has the effect of its callback. -/
theorem Inv.callBack {a : Answer} (h : Inv shortEntity s)
    (hstep : s.answer shortEntity a = some s') :
    Effect shortEntity a { s with requestInfoVec := s.requestInfoVec.erase a.list } s' := by
  obtain ⟨hl, hne, hlength, rfl⟩ := answer_eq_some hstep
  have hcol := h.collected a.list hl
  have hown : (a.list.pending shortEntity).Nodup := (List.nodup_append.mp (h.split hl)).1
  obtain ⟨g, hg⟩ := List.exists_mem_of_ne_nil a.list.collected fun hnil =>
    hne (RequestList.requests_eq_nil.mpr hnil)
  have hopen : s.loadingShortGuid ≠ ∅ := Finset.ne_empty_of_mem (hcol g hg)
  have htold : Told { s with requestInfoVec := s.requestInfoVec.erase a.list } :=
    ⟨fun _ => h.told.waiting hopen, fun hempty => absurd hempty hopen, h.told.failed,
      fun hempty => absurd hempty hopen⟩
  obtain ⟨l, replies⟩ := a
  cases l with
  | short p =>
      obtain ⟨first, second, rfl⟩ := List.length_eq_two.mp hlength
      obtain ⟨hshort, hrest⟩ := List.nodup_cons.mp hown
      refine short_effect htold (hcol _ (List.mem_singleton_self _)) (fun hcoin => ?_)
        fun hmem => hshort (List.mem_cons_of_mem _ hmem)
      -- the guid of the `Coin` belongs to this list, and was not collected
      have hpend : coinGuid p ∈ (RequestList.short p).pending shortEntity :=
        List.mem_cons_of_mem _ (List.mem_cons_self ..)
      obtain ⟨l, hl', hmem⟩ | hnone := h.left _ hcoin
      · obtain rfl | hl' := List.mem_cons.mp ((List.perm_cons_erase hl).mem_iff.mp hl')
        · rw [← List.mem_singleton.mp hmem] at hshort
          exact hshort (List.mem_cons_self ..)
        · exact (List.nodup_append.mp (h.split hl)).2.2 _ hpend _
            (List.mem_flatMap.mpr ⟨l, hl', RequestList.mem_pending hmem⟩) rfl
      · exact hnone _ hl hpend
  | other playerGuid guids => exact other_effect htold hne hlength hown hcol

/-- **One answer.** -/
theorem Inv.answer {a : Answer} (h : Inv shortEntity s)
    (hstep : s.answer shortEntity a = some s') :
    Inv shortEntity s' ∧ (Stuck s' ↔ Stuck s ∨ ¬ a.Drains) ∧
      (s'.isLoadFailed = true ↔ s.isLoadFailed = true ∨ a.Failed) := by
  obtain ⟨hl, hne, -, -⟩ := answer_eq_some hstep
  have heffect := h.callBack hstep
  exact ⟨Inv.effect h hl heffect,
    Inv.stuck_iff h hl heffect fun hnil => hne (RequestList.requests_eq_nil.mpr hnil),
    heffect.failed⟩

/-! ## §2. The start. -/

theorem foldl_loadShort (ps : List UInt64) (s : ManageShort) :
    (ps.foldl loadShort s).requestInfoVec = s.requestInfoVec ++ ps.map RequestList.short ∧
      (ps.foldl loadShort s).loadingShortGuid
        = s.loadingShortGuid ∪ (ps.map shortGuid).toFinset ∧
      (ps.foldl loadShort s).isLoadFailed = s.isLoadFailed ∧
      (ps.foldl loadShort s).startupSuccess = s.startupSuccess ∧
      (ps.foldl loadShort s).notices = s.notices := by
  induction ps generalizing s with
  | nil => exact ⟨(List.append_nil _).symm, (Finset.union_empty _).symm, rfl, rfl, rfl⟩
  | cons p ps ih =>
      obtain ⟨hlists, hloading, hfailed, hstarted, hnotices⟩ := ih (s.loadShort p)
      refine ⟨hlists.trans ?_, hloading.trans ?_, hfailed, hstarted, hnotices⟩
      · exact List.append_assoc ..
      · show insert (shortGuid p) s.loadingShortGuid ∪ _ = _
        rw [List.map_cons, List.toFinset_cons, Finset.insert_union, Finset.union_insert]

/-- Each listed guid, in the order of the lists. -/
theorem foldl_lists (lists : ShortPlayers) (s : ManageShort) :
    (List.finRange shortPlayerTotalNum).foldl (fun s i => (lists i).foldl loadShort s) s
      = lists.listed.foldl loadShort s :=
  List.foldl_flatMap.symm

theorem start_of_nil {stored : Stored} (h : stored.shortPlayers.listed = []) :
    stored.start.requestInfoVec = [] ∧ stored.start.loadingShortGuid = ∅ ∧
      stored.start.isLoadFailed = false ∧ stored.start.startupSuccess = true ∧
      stored.start.notices = [⟨∅, 0⟩] := by
  unfold Stored.start loadShortInfo
  rw [foldl_lists, h]
  exact ⟨rfl, rfl, rfl, rfl, rfl⟩

theorem start_of_ne {stored : Stored} (h : stored.shortPlayers.listed ≠ []) :
    stored.start = stored.shortPlayers.listed.foldl loadShort {} := by
  unfold Stored.start loadShortInfo
  rw [foldl_lists]
  exact if_neg h

/-- **The first stage is issued.** -/
theorem start_inv (stored : Stored) :
    Inv stored.shortEntity stored.start ∧ ¬ Stuck stored.start ∧
      stored.start.isLoadFailed = false := by
  -- without players the end is announced at once; else every guid waits for its list
  by_cases h : stored.shortPlayers.listed = []
  · obtain ⟨hlists, hloading, hfailed, hstarted, hnotices⟩ := start_of_nil h
    refine ⟨⟨fun l hl => ?_, ?_, fun g hg => ?_,
      ⟨fun hne => absurd hloading hne, fun _ => hstarted, fun hf => ?_, fun _ _ => ⟨∅, ?_⟩⟩⟩,
      fun hstuck => ?_, hfailed⟩
    · rw [hlists] at hl
      cases hl
    · rw [hlists]
      exact List.nodup_nil
    · rw [hloading] at hg
      exact absurd hg (Finset.notMem_empty g)
    · rw [hfailed] at hf
      cases hf
    · rw [hnotices, ManageShort.outstanding, hlists]
      rfl
    · obtain ⟨g, hg, -⟩ := hstuck
      rw [hloading] at hg
      exact absurd hg (Finset.notMem_empty g)
  · obtain ⟨hlists, hloading, hfailed, hstarted, hnotices⟩ :=
      foldl_loadShort stored.shortPlayers.listed {}
    rw [← start_of_ne h] at hlists hloading hfailed hstarted hnotices
    rw [List.nil_append] at hlists
    rw [Finset.empty_union] at hloading
    have hcol : ∀ g ∈ stored.start.loadingShortGuid,
        ∃ l ∈ stored.start.requestInfoVec, g ∈ l.collected := by
      intro g hg
      rw [hloading, List.mem_toFinset] at hg
      obtain ⟨p, hp, rfl⟩ := List.mem_map.mp hg
      exact ⟨.short p, hlists ▸ List.mem_map_of_mem hp, List.mem_singleton_self _⟩
    have hopen : stored.start.loadingShortGuid ≠ ∅ := by
      obtain ⟨p, hp⟩ := List.exists_mem_of_ne_nil _ h
      refine Finset.ne_empty_of_mem (a := shortGuid p) ?_
      rw [hloading, List.mem_toFinset]
      exact List.mem_map_of_mem hp
    refine ⟨⟨fun l hl g hg => ?_, ?_, fun g hg => .inl (hcol g hg),
      ⟨fun _ => ⟨hstarted, hnotices⟩, fun hempty => absurd hempty hopen, fun _ => hnotices,
        fun hempty => absurd hempty hopen⟩⟩, fun hstuck => ?_, hfailed⟩
    · rw [hlists] at hl
      obtain ⟨p, hp, rfl⟩ := List.mem_map.mp hl
      rw [hloading, List.mem_toFinset, List.mem_singleton.mp hg]
      exact List.mem_map_of_mem hp
    · rw [hlists, List.flatMap_map]
      exact stored.distinct
    · obtain ⟨g, hg, hfree⟩ := hstuck
      obtain ⟨l, hl, hmem⟩ := hcol g hg
      exact hfree l hl hmem

/-! ## §3. What is announced. -/

/-- Every load that was issued has been answered. -/
def Complete (s : ManageShort) : Prop := ∀ l ∈ s.requestInfoVec, l.requests = []

/-- **The end of the start is announced as it should be**, after the given answers. -/
structure Announced (answers : List Answer) (s : ManageShort) : Prop where
  /-- When every load has been answered the start has ended. -/
  started : Complete s → s.startupSuccess = true
  /-- It is announced exactly once if no load failed. -/
  once : Complete s → (∀ a ∈ answers, ¬ a.Failed) → s.notices.length = 1
  /-- It is never announced if one failed. -/
  never : (∃ a ∈ answers, a.Failed) → s.notices = []
  /-- No load is outstanding when it is announced. -/
  late : ∀ n ∈ s.notices, n.outstanding = 0

instance decidableComplete (s : ManageShort) : Decidable (Complete s) :=
  inferInstanceAs (Decidable (∀ l ∈ s.requestInfoVec, l.requests = []))

theorem outstanding_eq_zero : s.outstanding = 0 ↔ Complete s := by
  unfold ManageShort.outstanding Complete
  rw [List.countP_eq_zero]
  refine forall₂_congr fun l _ => ?_
  rw [bne_iff_ne, not_not]

theorem complete_of_empty (h : Inv shortEntity s) (hempty : s.loadingShortGuid = ∅) :
    Complete s := by
  intro l hl
  rw [RequestList.requests_eq_nil]
  refine List.eq_nil_iff_forall_not_mem.mpr fun g hg => ?_
  have hmem := h.collected l hl g hg
  rw [hempty] at hmem
  exact absurd hmem (Finset.notMem_empty g)

/-- When every load has been answered, what is left in the set stays there. -/
theorem stuck_iff_of_complete (hdone : Complete s) : Stuck s ↔ s.loadingShortGuid ≠ ∅ := by
  rw [← Finset.nonempty_iff_ne_empty]
  refine exists_congr fun g => and_iff_left fun l hl => ?_
  rw [RequestList.requests_eq_nil.mp (hdone l hl)]
  exact List.not_mem_nil

/-- What every run of answers keeps. -/
theorem run_inv {stored : Stored} {answers : List Answer}
    (hrun : (system stored).run stored.start answers = some s) :
    Inv stored.shortEntity s ∧ (¬ Stuck s ↔ ∀ a ∈ answers, a.Drains) ∧
      (s.isLoadFailed = false ↔ ∀ a ∈ answers, ¬ a.Failed) := by
  obtain ⟨hinv, hstuck, hfailed⟩ := start_inv stored
  have hkeeps : ∀ s a s', Inv stored.shortEntity s → (system stored).step s a = some s' →
      Inv stored.shortEntity s' := fun s a s' h hstep => (h.answer hstep).1
  refine ⟨TransSys.run_invariant hkeeps hinv hrun, ?_, ?_⟩
  -- a step leaves a guid behind exactly if its answer does not drain its list
  · have hexact := TransSys.run_iff_runMeets (M := system stored) (P := fun s => ¬ Stuck s)
      (C := fun _ a => a.Drains) hkeeps (fun s a s' h hstep => ?_) hinv hrun
    · rw [hexact, TransSys.runMeets_label_iff hrun]
      exact and_iff_right hstuck
    · rw [(h.answer hstep).2.1, not_or, not_not]
  · have hexact := TransSys.run_iff_runMeets (M := system stored)
      (P := fun s => s.isLoadFailed = false) (C := fun _ a => ¬ a.Failed) hkeeps
      (fun s a s' h hstep => ?_) hinv hrun
    · rw [hexact, TransSys.runMeets_label_iff hrun]
      exact and_iff_right hfailed
    · have hiff := (h.answer hstep).2.2
      rw [← Bool.not_eq_true, ← Bool.not_eq_true, hiff, not_or]

/-- **The start is announced as it should be exactly if every answer drains its list**, once all
loads have been answered. -/
theorem announced_iff (stored : Stored) (answers : List Answer) (s : ManageShort)
    (hrun : (system stored).run stored.start answers = some s) :
    Announced answers s ↔ (Complete s → ∀ a ∈ answers, a.Drains) := by
  obtain ⟨hinv, hstuck, hfailed⟩ := run_inv hrun
  rw [← hstuck]
  constructor
  -- a guid is left behind, so the set is open and the start has not ended
  · intro h hdone hleft
    have hopen := (stuck_iff_of_complete hdone).mp hleft
    have hstarted := h.started hdone
    rw [(hinv.told.waiting hopen).1] at hstarted
    cases hstarted
  · intro hfree
    have hend : Complete s → s.loadingShortGuid = ∅ := fun hdone =>
      not_not.mp fun hopen => hfree hdone ((stuck_iff_of_complete hdone).mpr hopen)
    refine ⟨fun hdone => hinv.told.started (hend hdone), fun hdone hgood => ?_, ?_, fun n hn => ?_⟩
    · obtain ⟨players, hnotices⟩ := hinv.told.once (hend hdone) (hfailed.mpr hgood)
      rw [hnotices]
      rfl
    · rintro ⟨a, ha, hfail⟩
      refine hinv.told.failed ?_
      rw [← Bool.not_eq_false, hfailed]
      exact fun hgood => hgood a ha hfail
    -- an announcement means that the set is empty, and then every list is answered
    · by_cases hempty : s.loadingShortGuid = ∅
      · cases hflag : s.isLoadFailed with
        | true =>
            rw [hinv.told.failed hflag] at hn
            cases hn
        | false =>
            obtain ⟨players, hnotices⟩ := hinv.told.once hempty hflag
            rw [hnotices] at hn
            rw [List.mem_singleton.mp hn]
            exact outstanding_eq_zero.mpr (complete_of_empty hinv hempty)
      · rw [(hinv.told.waiting hempty).2] at hn
        cases hn

/-! ## §4. One player with a mail box. -/

/-- One player is registered, and its `Short` names a mail box only. -/
def oneMail : Stored where
  shortPlayers i := if i = 0 then [0x0101000000000001] else []
  shortEntity _ := { player := 0x0101000000000001, mail := 0x1D01000000000005 }
  distinct := by decide +kernel

/-- The `Short` and the `Coin` are there, and the mail box is answered. -/
def mailAnswers (mail : Reply) : List Answer :=
  [⟨.short 0x0101000000000001, [.loaded, .loaded]⟩,
    ⟨.other 0x0101000000000001 [0x1D01000000000005], [mail]⟩]

theorem mail_loads :
    ∃ s, (system oneMail).run oneMail.start (mailAnswers .loaded) = some s ∧ Complete s ∧
      Announced (mailAnswers .loaded) s := by
  have hrun : ((system oneMail).run oneMail.start (mailAnswers .loaded)).any
      (fun s => decide (Complete s)) = true := by decide +kernel
  obtain ⟨s, hs, hdone⟩ := (Option.any_eq_true ..).mp hrun
  exact ⟨s, hs, of_decide_eq_true hdone, (announced_iff oneMail (mailAnswers .loaded) s hs).mpr
    fun _ => by decide⟩

/-- **The mail box cannot be loaded, and the start does not end**: both lists have been answered. -/
theorem mail_load_fails :
    ∃ s, (system oneMail).run oneMail.start (mailAnswers .failed) = some s ∧ Complete s ∧
      s.startupSuccess = false ∧ ¬ Announced (mailAnswers .failed) s := by
  have hrun : ((system oneMail).run oneMail.start (mailAnswers .failed)).any
      (fun s => decide (Complete s ∧ s.startupSuccess = false)) = true := by decide +kernel
  obtain ⟨s, hs, hbad⟩ := (Option.any_eq_true ..).mp hrun
  obtain ⟨hdone, hnot⟩ := of_decide_eq_true hbad
  refine ⟨s, hs, hdone, hnot, fun h => ?_⟩
  have hstarted := h.started hdone
  rw [hnot] at hstarted
  cases hstarted

end Steppingstone.Startup
