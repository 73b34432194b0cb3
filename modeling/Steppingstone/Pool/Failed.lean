/-
  Steppingstone.Pool.Failed — what `add`, `remove` and `update` leave behind when they answer false.

  `add` enters the owner before it looks for a duplicate, and `remove` takes the player off the
  online players, and the owner out, before it knows that there is an entity.
-/
import Steppingstone.Pool.Marks

namespace Steppingstone.Pool

open Std (TreeMap TreeSet)
open NestedMap

variable {μ : Type}

/-! ## §1. The property. -/

/-- The two states have the same entities, owners and online players, and agree in all else. -/
structure Unchanged (s s' : PoolImp μ) : Prop where
  entities : ∀ g : UInt64, s'.entityMap[g]? = s.entityMap[g]?
  owners : ∀ g : UInt64, s'.guidOwnerguidMap[g]? = s.guidOwnerguidMap[g]?
  online : ∀ g : UInt64, s'.onlinePlayer.contains g = s.onlinePlayer.contains g
  rest : s' = { s with
    entityMap := s'.entityMap
    guidOwnerguidMap := s'.guidOwnerguidMap
    onlinePlayer := s'.onlinePlayer }

theorem Unchanged.refl (s : PoolImp μ) : Unchanged s s :=
  ⟨fun _ => rfl, fun _ => rfl, fun _ => rfl, rfl⟩

/-- **A failure changes nothing.** -/
def FailureKeeps (s : PoolImp μ) : Action μ → Prop
  | .add g message addToDb o =>
      (s.add g message addToDb o).2 = false → Unchanged s (s.add g message addToDb o).1
  | .remove g fromDb msg => (s.remove g fromDb msg).2 = false → Unchanged s (s.remove g fromDb msg).1
  | .updateGuid g => (s.updateGuid g).2 = false → Unchanged s (s.updateGuid g).1
  | _ => True

/-- An `add` of an entity of the pool names its recorded owner; a `remove` of an online player finds
    one. -/
def Harmless (s : PoolImp μ) : Action μ → Prop
  | .add g message _ o =>
      message.isSome = true → (s.entityMap[g]?).isSome = true → s.guidOwnerguidMap[g]? = some o
  | .remove g _ _ =>
      guidType g = etPlayer → s.onlinePlayer.contains g = true →
        (s.guidOwnerguidMap[g]?).isSome = true
  | _ => True

/-- Every guid with an owner has an entity, and none that is marked. -/
def Owned (s : PoolImp μ) : Prop :=
  ∀ (g : UInt64) (o : UInt64), s.guidOwnerguidMap[g]? = some o → s.mark g = some false

instance (s : PoolImp μ) : (a : Action μ) → Decidable (Harmless s a)
  | .add g message _ o => inferInstanceAs (Decidable (message.isSome = true →
      (s.entityMap[g]?).isSome = true → s.guidOwnerguidMap[g]? = some o))
  | .remove g _ _ => inferInstanceAs (Decidable (guidType g = etPlayer →
      s.onlinePlayer.contains g = true → (s.guidOwnerguidMap[g]?).isSome = true))
  | .updateGuid _ | .update | .reply .. | .clearUpdateEntity _ | .getWhileFlush _
  | .clearFlushState _ | .write .. | .playerIsOnline _ | .playerIsOffline _ | .commit _ =>
      inferInstanceAs (Decidable True)

/-! ## §2. One call. -/

variable {s : PoolImp μ}

/-- A refused `add` leaves its owner behind. -/
theorem add_failure_iff (g : UInt64) (message : Option μ) (addToDb : Bool) (o : UInt64) :
    FailureKeeps s (.add g message addToDb o) ↔ Harmless s (.add g message addToDb o) := by
  match message with
  | none => exact iff_of_true (fun _ => .refl s) fun hm => absurd hm (by simp)
  | some m =>
      match hg : s.entityMap[g]? with
      | none =>
          -- the `add` succeeds
          have hok : (s.add g (some m) addToDb o).2 = true := by
            rw [s.add_snd]
            simp [PoolImp.mark, hg]
          refine iff_of_true (fun hfail => ?_) fun _ hin => ?_
          · rw [hok] at hfail
            cases hfail
          · rw [hg] at hin
            cases hin
      | some info =>
          have hfail : (s.add g (some m) addToDb o).2 = false := by
            rw [s.add_snd]
            simp [PoolImp.mark, hg]
          have hin : (s.entityMap[g]?).isSome = true := by
            rw [hg]
            rfl
          have hstate := s.add_of_some hg m addToDb o
          have howner : ∀ k, (s.withOwner g o).guidOwnerguidMap[k]? =
              if k = g then some o else s.guidOwnerguidMap[k]? := by
            intro k
            rw [← hstate]
            exact s.add_owner g m addToDb o k
          constructor
          · intro hkeeps _ _
            have hsame := (hkeeps hfail).owners g
            rw [hstate, howner, if_pos rfl] at hsame
            exact hsame.symm
          · intro hharmless _
            rw [hstate]
            refine ⟨fun _ => rfl, ?_, fun _ => rfl, rfl⟩
            intro k
            rw [howner]
            by_cases hk : k = g
            · rw [if_pos hk, hk, hharmless rfl hin]
            · rw [if_neg hk]

/-- Taking a player off the online players changes nothing exactly when it was not on them. -/
theorem offline_unchanged_iff (g : UInt64) :
    Unchanged s (s.offline g) ↔ (guidType g = etPlayer → s.onlinePlayer.contains g = false) := by
  unfold PoolImp.offline
  by_cases hp : guidType g = etPlayer
  · rw [if_pos hp]
    constructor
    · intro h _
      rw [← h.online g]
      show (s.onlinePlayer.erase g).contains g = false
      simp
    · intro h
      refine ⟨fun _ => rfl, fun _ => rfl, ?_, rfl⟩
      intro k
      show (s.onlinePlayer.erase g).contains k = _
      rw [TreeSet.contains_erase]
      by_cases hk : k = g
      · simp [hk, h hp]
      · simp [Ne.symm hk]
  · rw [if_neg hp]
    exact iff_of_true (.refl s) fun h => absurd h hp

/-- A `remove` that finds no entity leaves its traces. -/
theorem remove_failure_iff (howned : Owned s) (g : UInt64) (fromDb msg : Bool) :
    FailureKeeps s (.remove g fromDb msg) ↔ Harmless s (.remove g fromDb msg) := by
  match ho : s.guidOwnerguidMap[g]? with
  | none =>
      have hremove := s.remove_of_no_owner fromDb msg ho
      have hkeeps : FailureKeeps s (.remove g fromDb msg) ↔ Unchanged s (s.offline g) := by
        show ((s.remove g fromDb msg).2 = false → Unchanged s (s.remove g fromDb msg).1) ↔ _
        rw [hremove]
        exact forall_prop_of_true rfl
      rw [hkeeps, offline_unchanged_iff]
      show _ ↔ (guidType g = etPlayer → s.onlinePlayer.contains g = true →
        (s.guidOwnerguidMap[g]?).isSome = true)
      rw [ho]
      apply forall_congr'
      intro _
      cases s.onlinePlayer.contains g with
      | false => simp
      | true => simp
  | some o =>
      -- with an owner there is an entity, and the removal succeeds
      have hok : (s.remove g fromDb msg).2 = true := by
        rw [s.remove_snd, ho, howned g o ho]
        rfl
      refine iff_of_true (fun hfail => ?_) fun _ _ => by rw [ho]; rfl
      rw [hok] at hfail
      cases hfail

/-- A failed `update` changes nothing. -/
theorem updateGuid_failure (g : UInt64) : FailureKeeps s (.updateGuid g) := by
  intro hfail
  obtain heq | ⟨o, info, ho, hg, -⟩ := s.updateGuid_cases g
  · rw [heq]
    exact .refl s
  · -- with an owner and an entity it succeeds
    have hok : (s.updateGuid g).2 = true := by
      unfold PoolImp.updateGuid
      split
      · rfl
      · simp only [ho, hg]
    rw [hok] at hfail
    cases hfail

theorem failureKeeps_iff (howned : Owned s) (a : Action μ) : FailureKeeps s a ↔ Harmless s a := by
  match a with
  | .add g message addToDb o => exact add_failure_iff g message addToDb o
  | .remove g fromDb msg => exact remove_failure_iff howned g fromDb msg
  | .updateGuid g => exact iff_of_true (updateGuid_failure g) trivial
  | .update => exact Iff.rfl
  | .reply .. => exact Iff.rfl
  | .clearUpdateEntity _ => exact Iff.rfl
  | .getWhileFlush _ => exact Iff.rfl
  | .clearFlushState _ => exact Iff.rfl
  | .write .. => exact Iff.rfl
  | .playerIsOnline _ => exact Iff.rfl
  | .playerIsOffline _ => exact Iff.rfl
  | .commit _ => exact Iff.rfl

/-! ## §3. Owners have entities. -/

/-- A step that meets the condition leaves every owner with an entity. -/
theorem Owned.step {s' : PoolImp μ} {a : Action μ} (hrec : Recorded s) (h : Owned s)
    (ha : Harmless s a) (hst : step s a = some s') : Owned s' := by
  intro g o ho
  by_cases hadd : a.Adds g
  · match a with
    | .add k (some m) addToDb o' =>
        obtain rfl : k = g := hadd.1
        obtain rfl := Option.some.inj hst
        rw [s.add_mark]
        match hk : s.entityMap[k]? with
        | none => rw [if_pos ⟨rfl, (s.mark_eq_none).mpr hk⟩]
        | some info =>
            -- the owner is recorded already
            have hin : (s.entityMap[k]?).isSome = true := by
              rw [hk]
              rfl
            have hmark := h k o' (ha rfl hin)
            rw [if_neg (by rw [hmark]; simp), hmark]
  · by_cases hremove : a.Removes g
    · match a with
      | .remove k fromDb msg =>
          obtain rfl : k = g := hremove
          obtain rfl := Option.some.inj hst
          rw [s.remove_owner, if_pos rfl] at ho
          cases ho
    · have hkept := step_keptAt hrec hst hadd hremove
      rw [hkept.owner] at ho
      have hmark := h g o ho
      obtain hsame | hgone := hkept.mark
      · exact hsame.trans hmark
      · have hboth := hmark.symm.trans hgone.1
        cases hboth

theorem owned_new (cfg : PoolCfg) : Owned ({ cfg } : PoolImp μ) := by
  intro g o h
  simp at h

/-- **Every guid with an owner has an entity**, in every run whose calls meet the condition. -/
theorem owned_of_harmless {cfg : PoolCfg} (hs : (system cfg).ReachableWhen Harmless s) :
    Recorded s ∧ Owned s := by
  apply hs.invariant
  · intro s hinit
    obtain rfl : s = { cfg } := hinit
    exact ⟨recorded_new cfg, owned_new cfg⟩
  · intro s a s' h ha hst
    exact ⟨h.1.step hst, h.2.step h.1 ha hst⟩

/-! ## §4. Every run. -/

/-- From a state with an entity for every owner, by induction on the run. -/
theorem runMeets_iff {cfg : PoolCfg} {as : List (Action μ)} (hrec : Recorded s) (h : Owned s) :
    (system cfg).RunMeets FailureKeeps s as ↔ (system cfg).RunMeets Harmless s as := by
  induction as generalizing s with
  | nil => exact Iff.rfl
  | cons a as ih =>
      constructor
      · intro hm
        obtain ⟨ha, t, hst, hrest⟩ := hm
        have hharmless := (failureKeeps_iff h a).mp ha
        exact ⟨hharmless, t, hst, (ih (hrec.step hst) (h.step hrec hharmless hst)).mp hrest⟩
      · intro hm
        obtain ⟨ha, t, hst, hrest⟩ := hm
        refine ⟨(failureKeeps_iff h a).mpr ha, t, hst, ?_⟩
        exact (ih (hrec.step hst) (h.step hrec ha hst)).mpr hrest

/-- **Failures change nothing** in exactly the runs whose calls meet the condition. -/
theorem failures_unchanged_iff (cfg : PoolCfg) (as : List (Action μ)) :
    (system cfg).RunMeets FailureKeeps { cfg } as ↔
      (system cfg).RunMeets Harmless { cfg } as :=
  runMeets_iff (recorded_new cfg) (owned_new cfg)

/-- **A refused `add` takes an entity over**: the update of the entity is then recorded under the
    owner that the refused call named. -/
theorem owner_taken_over :
    ∃ s ∈ (system ⟨1, false⟩ : TransSys (PoolImp Nat) (Action Nat)).run { cfg := ⟨1, false⟩ }
        [.add 0x0800000000000001 (some 5) false 0x0100000000000001],
      (s.add 0x0800000000000001 (some 6) true 0x0100000000000002).2 = false ∧
      s.guidOwnerguidMap[(0x0800000000000001 : UInt64)]? = some 0x0100000000000001 ∧
      (s.add 0x0800000000000001 (some 6) true 0x0100000000000002).1.guidOwnerguidMap[
        (0x0800000000000001 : UInt64)]? = some 0x0100000000000002 ∧
      (entry ((s.add 0x0800000000000001 (some 6) true 0x0100000000000002).1.updateGuid
        0x0800000000000001).1.dbEntityMap 0x0100000000000002 0x0800000000000001).isSome = true ∧
      ¬ FailureKeeps s (.add 0x0800000000000001 (some 6) true 0x0100000000000002) := by
  refine ⟨_, rfl, by decide +kernel, by decide +kernel, by decide +kernel, by decide +kernel, ?_⟩
  intro hkeeps
  have hsame := (hkeeps (by decide +kernel)).owners 0x0800000000000001
  exact absurd hsame (by decide +kernel)

end Steppingstone.Pool
