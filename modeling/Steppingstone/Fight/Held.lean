/-
  Steppingstone.Fight.Held — fight data stays in the pool while it is used.

  A reference is counted for each player a request obtained, and when the
  request is completed one is given back for each player it asked for.  A player
  who failed for it costs another request its reference: a request that failed
  for a player, and is still open when a later one obtains him, takes his
  entities out of the pool when it is completed.
-/
import Steppingstone.Fight.Answered
import Steppingstone.Fight.References

namespace Steppingstone.Fight

open Pool (PoolImp guidType etPlayer)
open Player (Entity PlayerEntity)

/-! ## §1. The property. -/

namespace SceneRequestImp

variable (s : SceneRequestImp)

/-- The open request at an address counted a reference for the player. -/
def Holds (a : Nat) (g : UInt64) : Prop :=
  ∃ p ∈ s.pending a, ∃ e ∈ p.entries, e.guid = g ∧ e.counted = true

instance (a : Nat) (g : UInt64) : Decidable (s.Holds a g) :=
  inferInstanceAs (Decidable (∃ p ∈ s.pending a, _))

/-- The open requests that counted a reference for the player. -/
structure HeldBy (g : UInt64) (holders : List Nat) : Prop where
  nodup : holders.Nodup
  mem : ∀ a, a ∈ holders ↔ s.Holds a g

/-- The open request at an address waits for nobody but perhaps one player. -/
def Completes (g : UInt64) (a : Nat) : Prop :=
  ∃ p ∈ s.pending a, ∀ e ∈ p.entries, e.guid ≠ g → e.answer ≠ none

instance (g : UInt64) (a : Nat) : Decidable (s.Completes g a) :=
  inferInstanceAs (Decidable (∃ p ∈ s.pending a, _))

/-- Whoever holds a reference for the player is completed by the answer before the
request at `a`. -/
def Spares (guid : UInt64) (requests : List Nat) (a : Nat) (e : Entry) : Prop :=
  ∀ b < s.nextObject, s.Holds b e.guid →
    s.Completes guid b ∧ requests.idxOf b < requests.idxOf a

instance (guid : UInt64) (requests : List Nat) (a : Nat) (e : Entry) :
    Decidable (s.Spares guid requests a e) :=
  inferInstanceAs (Decidable (∀ b < s.nextObject, _))

end SceneRequestImp

/-- **Fight data is kept while it is used**: what was put into the pool for a
player is there while an open request obtained him and is gone when none did;
and the table counts exactly the open requests that obtained him. -/
structure KeptWhileHeld (s : SceneRequestImp) : Prop where
  kept : ∀ g keys, s.put g = some keys → (∃ a, s.Holds a g) →
    ∀ k ∈ keys, s.references.pool.entityMap[k]? ≠ none
  removed : ∀ g keys, s.put g = some keys → (∀ a, ¬ s.Holds a g) →
    ∀ k ∈ keys, s.references.pool.entityMap[k]? = none
  counted : ∀ g, ∃ holders, s.HeldBy g holders ∧
    CountIs (s.references.guidReferenceMap g) holders.length

/-- **The condition**: a request that the answer completes gives back only
references it counted: for a player it did not obtain, no open request holds a
reference, unless the answer completes that one before. -/
def GivesBackOwn (s : SceneRequestImp) (act : Act) : Prop :=
  ∀ x ∈ act.answers s, ∀ requests ∈ s.guidRequestReferenceMap x.1, ∀ a ∈ requests,
    s.Completes x.1 a → ∀ p ∈ s.pending a, ∀ e ∈ p.entries, e.counted = false →
      (e.guid = x.1 → x.2 = none) → s.Spares x.1 requests a e

instance (s : SceneRequestImp) (act : Act) : Decidable (GivesBackOwn s act) := by
  unfold GivesBackOwn
  infer_instance

/-- An answer brings entities of its player. -/
def Supplied (o : Ownership) (s : SceneRequestImp) (act : Act) : Prop :=
  ∀ g msgs, act.answers s = some (g, some msgs) → Collected o s.references.pool g msgs

/-- A step of a run: ids are fresh, answers bring entities of their player, and
completed requests give back what they counted. -/
structure FairStep (o : Ownership) (s : SceneRequestImp) (act : Act) : Prop where
  fresh : FreshId s act
  supplied : Supplied o s act
  givesBack : GivesBackOwn s act

/-- Runs start without requests, with players in the pool that can be located. -/
def heldSystem (o : Ownership) : TransSys SceneRequestImp Act where
  init s := ∃ pool : PoolImp Entity, Roster o pool ∧ s = { references := { pool } }
  step := step

theorem heldSystem_step (o : Ownership) (s : SceneRequestImp) (a : Act) :
    (heldSystem o).step s a = step s a := rfl

/-! ## §2. Exact counts of the open requests. -/

/-- The counts are exact for the open requests. -/
def Counts (o : Ownership) (s : SceneRequestImp) : Prop :=
  ∃ n, Exact o s.references s.put n ∧ ∀ g, ∃ holders, s.HeldBy g holders ∧ holders.length = n g

theorem Counts.keptWhileHeld {o : Ownership} {s : SceneRequestImp} (h : Counts o s) :
    KeptWhileHeld s := by
  obtain ⟨n, hexact, hheld⟩ := h
  refine ⟨?_, ?_, ?_⟩
  · intro g keys hkeys hsome k hk
    obtain ⟨a, ha⟩ := hsome
    obtain ⟨holders, hby, hlen⟩ := hheld g
    have hpos : 0 < n g := by
      rw [← hlen]
      exact List.length_pos_of_mem ((hby.mem a).mpr ha)
    exact (hexact.kept g keys hkeys hpos k hk).1
  · intro g keys hkeys hnone k hk
    obtain ⟨holders, hby, hlen⟩ := hheld g
    have hnil : holders = [] :=
      List.eq_nil_iff_forall_not_mem.mpr fun a ha => hnone a ((hby.mem a).mp ha)
    exact hexact.gone g keys hkeys (by rw [← hlen, hnil]; rfl) k hk
  · intro g
    obtain ⟨holders, hby, hlen⟩ := hheld g
    refine ⟨holders, hby, ?_⟩
    rw [hlen]
    exact hexact.count g

section

variable {o : Ownership} {s s' : SceneRequestImp}

theorem Counts.init {pool : PoolImp Entity} (h : Roster o pool) :
    Counts o { references := { pool } } := by
  refine ⟨fun _ => 0, Exact.init h, fun g => ⟨[], ⟨List.nodup_nil, ?_⟩, rfl⟩⟩
  intro a
  refine ⟨fun ha => absurd ha (by simp), fun ha => ?_⟩
  obtain ⟨p, hp, -⟩ := ha
  exact absurd hp (by simp [SceneRequestImp.pending])

/-- The counts depend on the references and on what the open requests counted. -/
theorem Counts.of_same (h : Counts o s) (href : s'.references = s.references)
    (hput : s'.put = s.put) (hholds : ∀ a g, s'.Holds a g ↔ s.Holds a g) : Counts o s' := by
  obtain ⟨n, hexact, hheld⟩ := h
  refine ⟨n, ?_, ?_⟩
  · rw [href, hput]
    exact hexact
  · intro g
    obtain ⟨holders, hby, hlen⟩ := hheld g
    exact ⟨holders, ⟨hby.nodup, fun a => (hby.mem a).trans (hholds a g).symm⟩, hlen⟩

theorem holds_of_pending {a : Nat} (h : s'.pending a = s.pending a) (g : UInt64) :
    s'.Holds a g ↔ s.Holds a g := by
  unfold SceneRequestImp.Holds
  rw [h]

/-- **Completing a request** that gives back what it counted keeps the counts
exact, and puts nothing into the pool. -/
theorem complate_counts {a : Nat} {todo : List Nat} (hl : Linked s (a :: todo))
    (h : Counts o s)
    (hown : ∀ p, s.pending a = some p → p.Answered → ∀ e ∈ p.entries, e.counted = false →
      ∀ b, ¬ s.Holds b e.guid) :
    Counts o (s.complateDataRequest a) ∧
    ∀ k : UInt64, s.references.pool.entityMap[k]? = none →
      (s.complateDataRequest a).references.pool.entityMap[k]? = none := by
  obtain ⟨d, hd, heq⟩ := hl.complate_eq
  have hpend := SceneRequestImp.pending_of_objects hd
  rw [heq]
  by_cases ha : d.pending.Answered
  · rw [if_pos ha]
    obtain ⟨n, hexact, hheld⟩ := h
    have hguids : d.guidReqInfoMap.map GuidRequestInfo.reqGuid = d.pending.guids := by
      show _ = (d.guidReqInfoMap.map GuidRequestInfo.entry).map Entry.guid
      rw [List.map_map]
      rfl
    have hn : (d.guidReqInfoMap.map GuidRequestInfo.reqGuid).Nodup := by
      rw [hguids]
      exact hl.guidsNodup a d.pending hpend
    obtain ⟨hreduced, hnone⟩ := hexact.reduceAll d.guidReqInfoMap hn
    refine ⟨⟨_, hreduced, ?_⟩, hnone⟩
    intro g
    obtain ⟨holders, hby, hlen⟩ := hheld g
    have hholds : ∀ b, (s.completed a d).Holds b g ↔ b ≠ a ∧ s.Holds b g := by
      intro b
      unfold SceneRequestImp.Holds
      rw [SceneRequestImp.completed_pending]
      by_cases hb : b = a
      · rw [if_pos hb]
        simp [hb]
      · rw [if_neg hb]
        simp [hb]
    rw [hguids]
    by_cases hag : s.Holds a g
    · -- the request held a reference: one holder fewer
      have hmem : g ∈ d.pending.guids := by
        obtain ⟨p, hp, e, he, heg, -⟩ := hag
        have hp' : s.pending a = some p := hp
        rw [hpend] at hp'
        obtain rfl := Option.some.inj hp'
        exact List.mem_map.mpr ⟨e, he, heg⟩
      rw [if_pos hmem]
      refine ⟨holders.erase a, ⟨hby.nodup.erase a, ?_⟩, ?_⟩
      · intro b
        rw [hby.nodup.mem_erase_iff, hby.mem b, hholds b]
      · rw [List.length_erase_of_mem ((hby.mem a).mpr hag), hlen]
    · refine ⟨holders, ⟨hby.nodup, ?_⟩, ?_⟩
      · intro b
        rw [hby.mem b, hholds b]
        exact ⟨fun hb => ⟨fun hba => hag (hba ▸ hb), hb⟩, fun hb => hb.2⟩
      · split
        · next hmem =>
            -- it asked for the player and held nothing: nobody does
            obtain ⟨e, he, heg⟩ := List.mem_map.mp hmem
            have hcount : e.counted = false := by
              refine Bool.eq_false_iff.mpr fun hc => hag ?_
              exact ⟨d.pending, hpend, e, he, heg, hc⟩
            have hnil : holders = [] := by
              refine List.eq_nil_iff_forall_not_mem.mpr fun b hb => ?_
              have hb' := (hby.mem b).mp hb
              rw [← heg] at hb'
              exact hown d.pending hpend ha e he hcount b hb'
            rw [← hlen, hnil]
            rfl
        · exact hlen
  · rw [if_neg ha]
    refine ⟨h.of_same rfl rfl fun b g => ?_, fun k hk => hk⟩
    exact holds_of_pending (SceneRequestImp.lookedAt_pending hd b) g

/-- The completions that are still to come give back only what they counted. -/
def Own (s : SceneRequestImp) (todo : List Nat) : Prop :=
  ∀ before a after, todo = before ++ a :: after →
    ∀ p, s.pending a = some p → p.Answered → ∀ e ∈ p.entries, e.counted = false →
      ∀ b, s.Holds b e.guid → b ∈ before ∧ ∃ q, s.pending b = some q ∧ q.Answered

theorem complate_pending {a : Nat} {todo : List Nat} (hl : Linked s (a :: todo)) {b : Nat}
    {p : Pending} (hp : (s.complateDataRequest a).pending b = some p) :
    s.pending b = some p ∧ (b = a → ¬ p.Answered) := by
  obtain ⟨d, hd, heq⟩ := hl.complate_eq
  rw [heq] at hp
  by_cases ha : d.pending.Answered
  · rw [if_pos ha] at hp
    obtain ⟨hb, hp⟩ := SceneRequestImp.pending_of_completed hp
    exact ⟨hp, fun hba => absurd hba hb⟩
  · rw [if_neg ha, SceneRequestImp.lookedAt_pending hd] at hp
    refine ⟨hp, ?_⟩
    intro hb
    rw [hb, SceneRequestImp.pending_of_objects hd] at hp
    obtain rfl := Option.some.inj hp
    exact ha

/-- **Completing all requests of a list** that give back what they counted. -/
theorem foldl_complate_counts {todo : List Nat} (hl : Linked s todo) (h : Counts o s)
    (hown : Own s todo) :
    Counts o (todo.foldl SceneRequestImp.complateDataRequest s) ∧
    ∀ k : UInt64, s.references.pool.entityMap[k]? = none →
      (todo.foldl SceneRequestImp.complateDataRequest s).references.pool.entityMap[k]? = none := by
  induction todo generalizing s with
  | nil => exact ⟨h, fun k hk => hk⟩
  | cons a rest ih =>
      obtain ⟨hcounts, hnone⟩ := complate_counts hl h (by
        intro p hp ha e he hcount b hb
        have := (hown [] a rest rfl p hp ha e he hcount b hb).1
        exact absurd this (by simp))
      obtain ⟨hcounts', hnone'⟩ := ih hl.complate hcounts (by
        intro before c after hsplit p hp hans e he hcount b hb
        obtain ⟨hp', -⟩ := complate_pending hl hp
        obtain ⟨q, hq, hbe⟩ := hb
        obtain ⟨hq', hqa⟩ := complate_pending hl hq
        obtain ⟨hmem, q', hq'', hqans⟩ := hown (a :: before) c after (by rw [hsplit]; rfl) p hp'
          hans e he hcount b ⟨q, hq', hbe⟩
        rw [hq'] at hq''
        obtain rfl := Option.some.inj hq''
        -- the head is gone or not answered, so it is not the holder
        have hba : b ≠ a := fun hba => hqa hba hqans
        exact ⟨(List.mem_cons.mp hmem).resolve_left hba, q, hq, hqans⟩)
      exact ⟨hcounts', fun k hk => hnone' k (hnone k hk)⟩

/-! ## §3. Answers. -/

/-- Who is told of data holds a reference, and nobody else gains one. -/
theorem told_holds {guid : UInt64} {requests : List Nat} {info : Option CollectMsgInfo}
    (ht : Linked.Told s s' guid requests info) (hw : ∀ a ∈ requests, s.Waits a guid)
    (b : Nat) (g : UInt64) :
    s'.Holds b g ↔ s.Holds b g ∨ (b ∈ requests ∧ g = guid ∧ info.isSome = true) := by
  unfold SceneRequestImp.Holds
  rw [ht.pending b]
  by_cases hb : b ∈ requests
  · rw [if_pos hb]
    -- the entry of the request that waits for the guid
    obtain ⟨p, hp, e₀, he₀, hg₀, -⟩ := hw b hb
    rw [hp]
    simp only [Option.map_some, Option.mem_def, Option.some.injEq, exists_eq_left', hb, true_and]
    refine ⟨?_, ?_⟩
    · intro h
      obtain ⟨e, he, hg, hcount⟩ := h
      match Pending.mem_told.mp he with
      | Or.inl ⟨he', _⟩ => exact Or.inl ⟨e, he', hg, hcount⟩
      | Or.inr ⟨hgg, _, e', he', hg', hc⟩ =>
          rw [hc] at hcount
          match Bool.or_eq_true_iff.mp hcount with
          | Or.inl hsome => exact Or.inr ⟨hg.symm.trans hgg, hsome⟩
          | Or.inr hold => exact Or.inl ⟨e', he', hg'.trans (hgg.symm.trans hg), hold⟩
    · intro h
      match h with
      | Or.inl ⟨e, he, hg, hcount⟩ =>
          by_cases hgg : e.guid = guid
          · refine ⟨{ e with answer := some info.isSome, counted := info.isSome || e.counted },
              ?_, hg, ?_⟩
            · exact Pending.mem_told.mpr (Or.inr ⟨hgg, rfl, e, he, hgg, rfl⟩)
            · show (info.isSome || e.counted) = true
              rw [hcount, Bool.or_true]
          · exact ⟨e, Pending.mem_told.mpr (Or.inl ⟨he, hgg⟩), hg, hcount⟩
      | Or.inr ⟨hg, hsome⟩ =>
          refine ⟨{ e₀ with answer := some info.isSome, counted := info.isSome || e₀.counted },
            ?_, hg₀.trans hg.symm, ?_⟩
          · exact Pending.mem_told.mpr (Or.inr ⟨hg₀, rfl, e₀, he₀, hg₀, rfl⟩)
          · show (info.isSome || e₀.counted) = true
            rw [hsome, Bool.true_or]
  · rw [if_neg hb]
    simp [hb]

/-- **Telling requests of an answer** counts a reference for each. -/
theorem told_counts {guid : UInt64} {requests : List Nat} {info : Option CollectMsgInfo}
    (ht : Linked.Told s s' guid requests info) (h : Counts o s)
    (hw : ∀ a ∈ requests, s.Waits a guid) (hnil : requests ≠ [])
    (hnone : s.references.pool.entityMap[guid]? = none)
    (hcol : ∀ msgs, info = some msgs → Collected o s.references.pool guid msgs) :
    Counts o s' := by
  obtain ⟨objects, answers, hs'⟩ := ht.frame
  have hholds := told_holds ht hw
  match info, hcol with
  | none, _ =>
      refine h.of_same (by rw [hs']; rfl) (by rw [hs']; rfl) fun b g => ?_
      rw [hholds b g]
      simp
  | some msgs, hcol =>
      obtain ⟨n, hexact, hheld⟩ := h
      obtain ⟨hzero, hexact'⟩ := hexact.collected (hcol msgs rfl) hnone
        (List.length_pos_iff.mpr hnil)
      refine ⟨Function.update n guid requests.length, ?_, ?_⟩
      · rw [show s'.references = SceneRequestImp.toldReferences s.references guid
          requests.length (some msgs) by rw [hs'], show s'.put =
          Function.update s.put guid (some (guidVecOf msgs)) by rw [hs']; rfl]
        exact hexact'
      · intro g
        obtain ⟨holders, hby, hlen⟩ := hheld g
        by_cases hg : g = guid
        · -- nobody held it before
          subst hg
          have hno : ∀ b, ¬ s.Holds b g := by
            intro b hb
            have hpos := List.length_pos_of_mem ((hby.mem b).mpr hb)
            omega
          refine ⟨requests, ⟨ht.linked.todoNodup, ?_⟩, by rw [Function.update_self]⟩
          intro b
          rw [hholds b g]
          simp [hno b]
        -- of another guid nobody is told
        · refine ⟨holders, ⟨hby.nodup, ?_⟩, ?_⟩
          · intro b
            rw [hby.mem b, hholds b g]
            simp [hg]
          · rw [Function.update_of_ne hg]
            exact hlen

/-- The completions after an answer give back what they counted. -/
theorem told_own {guid : UInt64} {requests : List Nat} {info : Option CollectMsgInfo}
    (hl : Linked s []) (ht : Linked.Told s s' guid requests info)
    (hw : ∀ a ∈ requests, s.Waits a guid)
    (hown : ∀ a ∈ requests, s.Completes guid a → ∀ p ∈ s.pending a, ∀ e ∈ p.entries,
      e.counted = false → (e.guid = guid → info = none) → s.Spares guid requests a e) :
    Own s' requests := by
  intro before a after hsplit p hp hans e he hcount b hb
  have ha : a ∈ requests := by
    rw [hsplit]
    simp
  rw [ht.pending a, if_pos ha] at hp
  obtain ⟨p₀, hp₀, rfl⟩ := Option.map_eq_some_iff.mp hp
  -- who is answered once told was waiting for nobody else
  have hcomplete : ∀ c q, c ∈ requests → s.pending c = some q →
      ((q.told guid info.isSome).Answered ↔ s.Completes guid c) := by
    intro c q hc hq
    unfold SceneRequestImp.Completes
    rw [hq]
    simp only [Option.mem_def, Option.some.injEq, exists_eq_left']
    refine ⟨?_, ?_⟩
    · intro hq' e' he' hne
      exact hq' e' (Pending.mem_told.mpr (Or.inl ⟨he', hne⟩))
    · intro hq' e' he'
      match Pending.mem_told.mp he' with
      | Or.inl ⟨he'', hne⟩ => exact hq' e' he'' hne
      | Or.inr ⟨_, hsome, _⟩ =>
          rw [hsome]
          exact Option.some_ne_none _
  have hca := (hcomplete a p₀ ha hp₀).mp hans
  -- the reference was not counted before, nor by this answer
  obtain ⟨e₀, he₀, hg₀, hc₀, hguid⟩ : ∃ e₀ ∈ p₀.entries, e₀.guid = e.guid ∧
      e₀.counted = false ∧ (e.guid = guid → info = none) := by
    match Pending.mem_told.mp he with
    | Or.inl ⟨he', hne⟩ => exact ⟨e, he', rfl, hcount, fun hg => absurd hg hne⟩
    | Or.inr ⟨hg, _, e', he', hg', hc⟩ =>
        rw [hc, Bool.or_eq_false_iff] at hcount
        exact ⟨e', he', hg'.trans hg.symm, hcount.2,
          fun _ => Option.not_isSome_iff_eq_none.mp (by simp [hcount.1])⟩
  have hb' : s.Holds b e.guid := by
    match (told_holds ht hw b e.guid).mp hb with
    | Or.inl h => exact h
    | Or.inr ⟨_, hg, hsome⟩ =>
        rw [hguid hg] at hsome
        exact absurd hsome (by simp)
  have hlt : b < s.nextObject := by
    obtain ⟨q, hq, -⟩ := hb'
    exact hl.bounded b q hq
  obtain ⟨hcb, hidx⟩ := hown a ha hca p₀ hp₀ e₀ he₀ hc₀ (fun hg => hguid (hg₀.symm.trans hg)) b hlt
    (by rw [hg₀]; exact hb')
  -- the requests are distinct, so an earlier place is a place before
  have hnd := ht.linked.todoNodup
  have hbefore : b ∈ before := by
    by_contra hnot
    have hidxa : requests.idxOf a = before.length := by
      have hna : a ∉ before := by
        rw [hsplit] at hnd
        intro hmem
        exact (List.nodup_append.mp hnd).2.2 a hmem a (List.mem_cons_self ..) rfl
      rw [hsplit, List.idxOf_append_of_notMem hna]
      simp
    have hidxb : before.length ≤ requests.idxOf b := by
      rw [hsplit, List.idxOf_append_of_notMem hnot]
      omega
    omega
  have hbr : b ∈ requests := by
    rw [hsplit]
    exact List.mem_append.mpr (Or.inl hbefore)
  obtain ⟨q, hq, -⟩ := hb'
  have hq' : s.pending b = some q := hq
  refine ⟨hbefore, q.told guid info.isSome, ?_, (hcomplete b q hbr hq').mpr hcb⟩
  rw [ht.pending b, if_pos hbr, hq']
  rfl

/-! ## §4. Requests. -/

/-- A reference is counted for the players that were in the pool. -/
theorem infoOf_counted (s : SceneRequestImp) (line : UInt64 → Located) (g : UInt64) :
    (s.infoOf line g).entry.counted = true ↔
      s.references.requestPlayerFightDataFromLocate g ≠ none := by
  unfold SceneRequestImp.infoOf
  match s.references.requestPlayerFightDataFromLocate g with
  | some l => simp [GuidRequestInfo.entry]
  | none =>
      simp only [ne_eq, not_true_eq_false, iff_false, Bool.not_eq_true]
      split <;> rfl

/-- **A new request** keeps the counts exact, and puts nothing into the pool. -/
theorem accept_counts (hl : Linked s []) (h : Counts o s) {guids : List UInt64}
    (line : UInt64 → Located) (hv : validGuids guids = true)
    (hfree : s.dataRequestIdInfoMap s.getRequestId = none) :
    Counts o (s.acceptRequest guids line) ∧
    (∀ k : UInt64, s.references.pool.entityMap[k]? = none →
      (s.acceptRequest guids line).references.pool.entityMap[k]? = none) ∧
    ∀ g ∈ (s.acceptRequest guids line).inFlight, g ∈ s.inFlight ∨
      (guidType g = etPlayer ∧ s.references.pool.entityMap[g]? = none) := by
  have hn := validGuids_nodup hv
  have hplayer : ∀ g ∈ guids, guidType g = etPlayer := by
    unfold validGuids at hv
    simp only [Bool.and_eq_true, List.all_eq_true, decide_eq_true_eq] at hv
    exact hv.1.2
  obtain ⟨shared, answers, s', hs', heq, hshared, hans⟩ := s.acceptRequest_eq line guids hn hfree
  have hposted := hl.posted hn hfree hs' hshared hans
  obtain ⟨n, hexact, hheld⟩ := h
  obtain ⟨hlocated, hpool⟩ := hexact.located guids hn hplayer
  have href : s'.references = guids.foldl SceneRequestImp.located s.references := by rw [hs']
  have hput : s'.put = s.put := by rw [hs']
  have hnew : s'.pending s.nextObject =
      some { reqId := s.getRequestId
             entries := guids.map fun g => (s.infoOf line g).entry } := by
    exact SceneRequestImp.pending_posted (by rw [hs'])
  have hold : ∀ b, b ≠ s.nextObject → s'.pending b = s.pending b := by
    intro b hb
    exact SceneRequestImp.pending_of_ne (by rw [hs']) hb
  have hholdsNew : ∀ g, s'.Holds s.nextObject g ↔
      g ∈ guids ∧ s.references.requestPlayerFightDataFromLocate g ≠ none := by
    intro g
    unfold SceneRequestImp.Holds
    rw [hnew]
    simp only [Option.mem_def, Option.some.injEq, exists_eq_left', List.mem_map]
    refine ⟨?_, ?_⟩
    · intro hg
      obtain ⟨e, ⟨g', hg', rfl⟩, hgg, hcount⟩ := hg
      rw [SceneRequestImp.infoOf_guid] at hgg
      subst hgg
      exact ⟨hg', (infoOf_counted s line g').mp hcount⟩
    · intro hg
      exact ⟨_, ⟨g, hg.1, rfl⟩, SceneRequestImp.infoOf_guid .., (infoOf_counted s line g).mpr hg.2⟩
  have hfreshAddress : ∀ g, ¬ s.Holds s.nextObject g := by
    intro g hg
    obtain ⟨p, hp, -⟩ := hg
    have := hl.bounded s.nextObject p hp
    omega
  have hholdsOld : ∀ b g, b ≠ s.nextObject → (s'.Holds b g ↔ s.Holds b g) :=
    fun b g hb => holds_of_pending (hold b hb) g
  have hcounts : Counts o s' := by
    refine ⟨fun g => if g ∈ guids ∧ s.references.requestPlayerFightDataFromLocate g ≠ none then
      n g + 1 else n g, ?_, ?_⟩
    · rw [href, hput]
      exact hlocated
    · intro g
      obtain ⟨holders, hby, hlen⟩ := hheld g
      have hnot : s.nextObject ∉ holders := fun hm => hfreshAddress g ((hby.mem _).mp hm)
      dsimp only
      by_cases hc : g ∈ guids ∧ s.references.requestPlayerFightDataFromLocate g ≠ none
      · -- the request holds one more
        rw [if_pos hc]
        refine ⟨s.nextObject :: holders, ⟨List.nodup_cons.mpr ⟨hnot, hby.nodup⟩, ?_⟩, ?_⟩
        · intro b
          rw [List.mem_cons]
          by_cases hb : b = s.nextObject
          · rw [hb, hholdsNew g]
            simp [hc]
          · rw [hholdsOld b g hb, hby.mem b]
            simp [hb]
        · rw [List.length_cons, hlen]
      · rw [if_neg hc]
        refine ⟨holders, ⟨hby.nodup, ?_⟩, hlen⟩
        intro b
        by_cases hb : b = s.nextObject
        · rw [hb, hholdsNew g]
          exact ⟨fun hm => absurd hm hnot, fun hc' => absurd hc' hc⟩
        · rw [hholdsOld b g hb, hby.mem b]
  -- who is not in the pool is held by nobody
  have hnobody : ∀ g ∈ guids, s.references.requestPlayerFightDataFromLocate g = none →
      ∀ b, ¬ s'.Holds b g := by
    intro g hg hnone b hb
    by_cases hbn : b = s.nextObject
    · rw [hbn] at hb
      exact ((hholdsNew g).mp hb).2 hnone
    · have hb' := (hholdsOld b g hbn).mp hb
      obtain ⟨holders, hby, hlen⟩ := hheld g
      have hpos : 0 < n g := by
        rw [← hlen]
        exact List.length_pos_of_mem ((hby.mem b).mpr hb')
      exact hexact.roster.locate (hplayer g hg) (hexact.present g hpos) hnone
  obtain ⟨hdone, hnone⟩ := complate_counts hposted hcounts (by
    intro p hp _ e he hcount
    rw [hnew] at hp
    obtain rfl := Option.some.inj hp
    obtain ⟨g, hg, rfl⟩ := List.mem_map.mp he
    rw [SceneRequestImp.infoOf_guid]
    refine hnobody g hg ?_
    by_contra hl'
    rw [(infoOf_counted s line g).mpr hl'] at hcount
    exact absurd hcount (by simp))
  rw [heq]
  refine ⟨hdone, ?_, ?_⟩
  · intro k hk
    refine hnone k ?_
    rw [href, hpool]
    exact hk
  · intro g hg
    obtain ⟨hasked, hloads, -⟩ := hposted.complate_frame
    unfold SceneRequestImp.inFlight at hg
    rw [hasked, hloads, hs'] at hg
    simp only [List.mem_append, List.mem_filter, decide_eq_true_eq] at hg
    have habsent : ∀ l, g ∈ guids → s.Asks line l g →
        guidType g = etPlayer ∧ s.references.pool.entityMap[g]? = none := by
      intro l hmem hask
      refine ⟨hplayer g hmem, ?_⟩
      by_contra hin
      exact hexact.roster.locate (hplayer g hmem) hin hask.1
    unfold SceneRequestImp.inFlight
    rcases hg with (h | ⟨hmem, hask⟩) | h | ⟨hmem, hask⟩
    · exact Or.inl (List.mem_append.mpr (Or.inl h))
    · exact Or.inr (habsent _ hmem hask)
    · exact Or.inl (List.mem_append.mpr (Or.inr h))
    · exact Or.inr (habsent _ hmem hask)

/-! ## §5. Runs. -/

/-- What the runs keep: players who are asked for are not in the pool. -/
structure Holding (o : Ownership) (s : SceneRequestImp) : Prop where
  linked : Linked s []
  counts : Counts o s
  absent : ∀ g ∈ s.inFlight, guidType g = etPlayer ∧ s.references.pool.entityMap[g]? = none

/-- **Every fair step** keeps the counts exact. -/
theorem Holding.step {act : Act} (h : Holding o s) (hc : FairStep o s act)
    (hst : Fight.step s act = some s') : Holding o s' := by
  have hlinked := h.linked.step hc.fresh hst
  match step_cases hc.fresh hst with
  | Or.inl heq =>
      rw [heq]
      exact h
  | Or.inr (Or.inl ⟨guids, line, _, hv, hfree, heq⟩) =>
      obtain ⟨hcounts, hnone, hfl⟩ := accept_counts h.linked h.counts line hv hfree
      rw [← heq] at hcounts hnone hfl
      refine ⟨hlinked, hcounts, ?_⟩
      intro g hg
      match hfl g hg with
      | Or.inl hold =>
          obtain ⟨hp, hin⟩ := h.absent g hold
          exact ⟨hp, hnone g hin⟩
      | Or.inr ⟨hp, hin⟩ => exact ⟨hp, hnone g hin⟩
  | Or.inr (Or.inr (Or.inl ⟨guid, info, sceneAsked, loads, hact, hp, heq⟩)) =>
      obtain ⟨htaken, hnot, requests, hreq, hnil, hn, hw⟩ := h.linked.taken hp
      obtain ⟨t, htold, hdone⟩ := htaken.answer_eq info hreq hn hw hnot
      obtain ⟨hplayer, hin⟩ := h.absent guid (hp.mem_iff.mp (List.mem_cons_self ..))
      have hcounts₀ : Counts o { s with sceneAsked := sceneAsked, loads := loads } :=
        h.counts.of_same rfl rfl fun _ _ => Iff.rfl
      have hcol : ∀ msgs, info = some msgs → Collected o s.references.pool guid msgs := by
        intro msgs hm
        rw [hm] at hact
        exact hc.supplied guid msgs hact
      have hcounts := told_counts htold hcounts₀ hw hnil hin hcol
      have hown := told_own htaken htold hw
        (fun a ha => hc.givesBack (guid, info) hact requests hreq a ha)
      obtain ⟨hcounts', hnone⟩ := foldl_complate_counts htold.linked hcounts hown
      rw [heq, hdone] at hlinked ⊢
      refine ⟨hlinked, hcounts'.of_same rfl rfl fun _ _ => Iff.rfl, ?_⟩
      intro g hg
      obtain ⟨hfl, -⟩ := foldl_complate_frame htold.linked
      have hg' : g ∈ sceneAsked ++ loads := by
        have hgt : g ∈ (requests.foldl SceneRequestImp.complateDataRequest t).inFlight := hg
        obtain ⟨objects, answers, ht⟩ := htold.frame
        rw [hfl, ht] at hgt
        exact hgt
      obtain ⟨hpg, hing⟩ := h.absent g (hp.mem_iff.mp (List.mem_cons_of_mem _ hg'))
      refine ⟨hpg, hnone g ?_⟩
      -- what was collected for the player does not contain another player
      obtain ⟨objects, answers, ht⟩ := htold.frame
      rw [show t.references = SceneRequestImp.toldReferences s.references guid
        requests.length info by rw [ht]]
      match info, hcol with
      | none, _ => exact hing
      | some msgs, hcol =>
          have hne : g ∉ guidVecOf msgs := by
            intro hmem
            have howner := ((hcol msgs rfl).keys g hmem).2.1
            rw [o.self g hpg] at howner
            exact hnot (howner ▸ hg')
          have hpool : ∀ (m : Nat) (r : References),
              (SceneRequestImp.repeated (·.addReferenceNo guid (guidVecOf msgs)) m r).pool =
                r.pool := by
            intro m
            induction m with
            | zero => intro r; rfl
            | succ m ih =>
                intro r
                refine (ih (r.addReferenceNo guid (guidVecOf msgs))).trans ?_
                unfold References.addReferenceNo
                split <;> rfl
          show (SceneRequestImp.repeated _ _ _).pool.entityMap[g]? = none
          rw [hpool]
          exact (addAll_other hne).1.trans hing
  | Or.inr (Or.inr (Or.inr ⟨guid, sceneAsked, loads, _, hp, heq⟩)) =>
      obtain ⟨objects, hclosed, hobj, hperm⟩ := h.linked.sceneFailed_eq hp
      rw [heq] at hlinked ⊢
      rw [hclosed] at hlinked ⊢
      have hholds : ∀ b g, SceneRequestImp.Holds
          { s with sceneAsked := sceneAsked, loads := loads ++ [guid], objects := objects } b g ↔
            s.Holds b g := by
        intro b g
        refine holds_of_pending ?_ g
        exact hobj b
      refine ⟨hlinked, h.counts.of_same rfl rfl hholds, ?_⟩
      intro g hg
      exact h.absent g (hperm.mem_iff.mp hg)

end

/-- **Every run** whose completed requests give back only what they counted keeps
fight data in the pool as long as a request uses it, and no longer. -/
theorem reachable_keptWhileHeld (o : Ownership) {s : SceneRequestImp}
    (hs : (heldSystem o).ReachableWhen (FairStep o) s) : KeptWhileHeld s := by
  have hinv : Holding o s := by
    refine hs.invariant ?_ ?_
    · intro s hs
      obtain ⟨pool, hroster, rfl⟩ := hs
      exact ⟨Linked.init pool, Counts.init hroster, fun g hg => absurd hg (by
        simp [SceneRequestImp.inFlight])⟩
    · intro s a s' h hc hst
      rw [heldSystem_step] at hst
      exact h.step hc hst
  exact hinv.counts.keptWhileHeld

/-! ## §6. Two runs. -/

/-- Every entity belongs to the player it is stored under. -/
def ownGuid : Ownership where
  owner := id
  self := fun _ _ => rfl

/-- The player of the runs below. -/
def playerC : UInt64 := 0x0100000000000003

/-- A player without roles. -/
def loneEntity (g : UInt64) : Entity := { guid := g, body := .player {} }

theorem roster_emptyPool (o : Ownership) : Roster o emptyPool where
  zero := rfl
  players := by
    intro g info _ he
    exact absurd he (by simp [emptyPool])

/-- What the cache has of a player without roles. -/
theorem collected_lone {pool : PoolImp Entity} {g : UInt64} (hg : g ≠ 0)
    (hpool : pool.dbEntityMap = {}) : Collected ownGuid pool g [(g, loneEntity g)] where
  head := by
    refine ⟨loneEntity g, [], {}, rfl, rfl, ?_⟩
    intro k hk hk0
    have hzero : k = 0 := by simpa using hk
    exact absurd hzero hk0
  keys := by
    intro k hk
    have hkg : k = g := by simpa [guidVecOf] using hk
    refine ⟨by rw [hkg]; exact hg, hkg, fun x => ?_⟩
    unfold PoolImp.isUpdating
    rw [hpool]
    rfl

/-- Who was obtained is in the pool while the request waits for somebody else. -/
theorem obtained_player_stays : ∃ s, KeptWhileHeld s ∧ s.Holds 0 playerA ∧
    s.references.pool.entityMap[playerA]? ≠ none := by
  let acts : List Act := [
    .request [playerA, playerB] fun _ => .offline,
    .cacheBack 0 (some [(playerA, loneEntity playerA)])]
  obtain ⟨s, hs, hheld, hput⟩ : ∃ s,
      (heldSystem ownGuid).run { references := { pool := emptyPool } } acts = some s ∧
        s.Holds 0 playerA ∧ s.put playerA = some [playerA] :=
    ⟨_, rfl, by decide +kernel, by decide +kernel⟩
  have hr : (heldSystem ownGuid).ReachableWhen (FairStep ownGuid) s := by
    refine TransSys.reachableWhen_of_run ⟨emptyPool, roster_emptyPool ownGuid, rfl⟩ ?_ hs
    refine ⟨⟨by intro _; decide, ?_, by decide⟩, _, rfl, ⟨trivial, ?_, by decide⟩, _, rfl, trivial⟩
    · intro g msgs h
      exact absurd h (by simp [Act.answers])
    · intro g msgs h
      obtain ⟨rfl, rfl⟩ : playerA = g ∧ [(playerA, loneEntity playerA)] = msgs := by
        have h' : some (playerA, some [(playerA, loneEntity playerA)]) = some (g, some msgs) := h
        simpa using h'
      exact collected_lone (by decide) rfl
  have hkept := reachable_keptWhileHeld ownGuid hr
  exact ⟨s, hkept, hheld, hkept.kept playerA [playerA] hput ⟨0, hheld⟩ playerA (by simp)⟩

/-- **The defect**: a request that failed for a player is completed while a later
one uses him, and takes his entities out of the pool. -/
theorem failed_request_takes_entities :
    ¬ ∀ (o : Ownership) (s : SceneRequestImp),
      (heldSystem o).ReachableWhen (Supplied o) s → KeptWhileHeld s := by
  intro hall
  let acts : List Act := [
    .request [playerA, playerB] fun _ => .offline,
    .cacheBack 0 none,
    .request [playerA, playerC] fun _ => .offline,
    .cacheBack 1 (some [(playerA, loneEntity playerA)]),
    .cacheBack 0 none]
  obtain ⟨s, hs, hheld, hput, hgone⟩ : ∃ s,
      (heldSystem ownGuid).run { references := { pool := emptyPool } } acts = some s ∧
        s.Holds 1 playerA ∧ s.put playerA = some [playerA] ∧
        (s.references.pool.entityMap[playerA]?).isNone = true :=
    ⟨_, rfl, by decide +kernel, by decide +kernel, by decide +kernel⟩
  have hr : (heldSystem ownGuid).ReachableWhen (Supplied ownGuid) s := by
    refine TransSys.reachableWhen_of_run ⟨emptyPool, roster_emptyPool ownGuid, rfl⟩ ?_ hs
    have hno : ∀ (t : SceneRequestImp) (i : Nat), Supplied ownGuid t (.cacheBack i none) := by
      intro t i g msgs h
      have h' : (t.loads[i]?).map (fun guid => (guid, (none : Option CollectMsgInfo))) =
          some (g, some msgs) := h
      obtain ⟨guid, -, heq⟩ := Option.map_eq_some_iff.mp h'
      exact absurd heq (by simp)
    have hask : ∀ (t : SceneRequestImp) guids line, Supplied ownGuid t (.request guids line) := by
      intro t guids line g msgs h
      exact absurd h (by simp [Act.answers])
    refine ⟨hask _ _ _, _, rfl, hno _ _, _, rfl, hask _ _ _, _, rfl, ?_, _, rfl, hno _ _, _, rfl,
      trivial⟩
    intro g msgs h
    obtain ⟨rfl, rfl⟩ : playerA = g ∧ [(playerA, loneEntity playerA)] = msgs := by
      have h' : some (playerA, some [(playerA, loneEntity playerA)]) = some (g, some msgs) := h
      simpa using h'
    exact collected_lone (by decide) rfl
  have hin := (hall ownGuid s hr).kept playerA [playerA] hput ⟨1, hheld⟩ playerA (by simp)
  exact hin (Option.isNone_iff_eq_none.mp hgone)

end Steppingstone.Fight
