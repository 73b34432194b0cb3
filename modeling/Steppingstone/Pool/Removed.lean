/-
  Steppingstone.Pool.Removed — what becomes of an entity after `remove`.

  Once a removed entity is out of the map, it stays out until the next `add`, and what that adds
  stays: a late reply takes out marked entities only.  But `remove` leaves the entity in the map,
  marked, while its ADD is pending; neither `get` nor `add` look at the mark.
-/
import Steppingstone.Pool.Marks

namespace Steppingstone.Pool

variable {μ : Type}

/-! ## §1. The property. -/

/-- **The guid is gone**: `get` finds nothing until the next `add`, which succeeds, and what it adds
    stays until a `remove`, whatever else happens. -/
structure Gone (cfg : PoolCfg) (s : PoolImp μ) (g : UInt64) : Prop where
  absent : ∀ as t, (∀ a ∈ as, ¬ a.Adds g) → (system cfg).run s as = some t → t.get g = none
  readd : ∀ as t, (∀ a ∈ as, ¬ a.Adds g) → (system cfg).run s as = some t →
    ∀ m addToDb o, (t.add g (some m) addToDb o).2 = true
  stays : ∀ as t, (∀ a ∈ as, ¬ a.Adds g) → (system cfg).run s as = some t →
    ∀ m addToDb o bs u, (∀ b ∈ bs, ¬ b.Removes g) →
      (system cfg).run (t.add g (some m) addToDb o).1 bs = some u → (u.entityMap[g]?).isSome = true

/-! ## §2. Runs. -/

/-- A step that does not add the guid brings nothing under it. -/
theorem step_mark_none {s s' : PoolImp μ} {a : Action μ} {g : UInt64}
    (h : Recorded s ∧ s.mark g = none) (hadd : ¬ a.Adds g) (hst : step s a = some s') :
    Recorded s' ∧ s'.mark g = none := by
  refine ⟨h.1.step hst, ?_⟩
  by_cases hremove : a.Removes g
  · match a with
    | .remove k fromDb msg =>
        obtain rfl : k = g := hremove
        obtain rfl := Option.some.inj hst
        exact s.remove_mark_of_none h.2
  · obtain hmark | hmark := (step_keptAt h.1 hst hadd hremove).mark
    · exact hmark.trans h.2
    · exact hmark.2

/-- A step that does not remove the guid leaves the entity, if it is not marked. -/
theorem step_mark_false {s s' : PoolImp μ} {a : Action μ} {g : UInt64}
    (h : Recorded s ∧ s.mark g = some false) (hremove : ¬ a.Removes g)
    (hst : step s a = some s') : Recorded s' ∧ s'.mark g = some false := by
  refine ⟨h.1.step hst, ?_⟩
  by_cases hadd : a.Adds g
  · match a with
    | .add k (some m) addToDb o =>
        obtain rfl : k = g := hadd.1
        obtain rfl := Option.some.inj hst
        have hthere : ¬ (k = k ∧ s.mark k = none) := by
          rw [h.2]
          exact fun hc => absurd hc.2 (Option.some_ne_none false)
        rw [s.add_mark, if_neg hthere]
        exact h.2
  · obtain hmark | hmark := (step_keptAt h.1 hst hadd hremove).mark
    · exact hmark.trans h.2
    · -- only a marked entity goes
      have hboth := h.2.symm.trans hmark.1
      cases hboth

/-- What is not in the pool is gone. -/
theorem gone_of_mark {cfg : PoolCfg} {s : PoolImp μ} {g : UInt64} (hrec : Recorded s)
    (hmark : s.mark g = none) : Gone cfg s g := by
  have hrun : ∀ as t, (∀ a ∈ as, ¬ a.Adds g) → (system cfg).run s as = some t →
      Recorded t ∧ t.mark g = none := by
    intro as t has hr
    exact TransSys.run_invariant_of_forall (I := fun s => Recorded s ∧ s.mark g = none)
      (fun _ _ _ h ha hst => step_mark_none h ha hst) ⟨hrec, hmark⟩ has hr
  refine ⟨?_, ?_, ?_⟩
  · intro as t has hr
    exact t.get_of_mark (hrun as t has hr).2
  · intro as t has hr m addToDb o
    rw [t.add_snd, (hrun as t has hr).2]
    rfl
  · intro as t has hr m addToDb o bs u hbs hr'
    obtain ⟨hrec', hnone⟩ := hrun as t has hr
    have hadded : Recorded (t.add g (some m) addToDb o).1 :=
      hrec'.step (a := .add g (some m) addToDb o) rfl
    have hin : (t.add g (some m) addToDb o).1.mark g = some false := by
      rw [t.add_mark, if_pos ⟨rfl, hnone⟩]
    obtain ⟨-, hstays⟩ :=
      TransSys.run_invariant_of_forall (I := fun s => Recorded s ∧ s.mark g = some false)
        (fun _ _ _ h hb hst => step_mark_false h hb hst) ⟨hadded, hin⟩ hbs hr'
    obtain ⟨info, hinfo, -⟩ := Option.map_eq_some_iff.mp hstays
    rw [hinfo]
    rfl

/-! ## §3. Every removal. -/

/-- **A removed entity is gone**, and stays gone until it is added again, exactly when its removal
    is not put off for a pending ADD. -/
theorem removed_gone_iff [Inhabited μ] {cfg : PoolCfg} {s : PoolImp μ} {g : UInt64}
    {fromDb msg : Bool} (hs : (system cfg).Reachable s) (h : (s.remove g fromDb msg).2 = true) :
    Gone cfg (s.remove g fromDb msg).1 g ↔ ¬ s.Defers g fromDb := by
  have hrec : Recorded (s.remove g fromDb msg).1 :=
    (reachable_recorded hs).step (a := .remove g fromDb msg) rfl
  constructor
  · intro hgone hdefer
    -- the marked entity keeps the next one out
    have hadd := hgone.readd [] _ (fun _ ha => absurd ha List.not_mem_nil) rfl default true 0
    rw [PoolImp.add_snd, s.remove_mark_of_defers h hdefer] at hadd
    cases hadd
  · intro hno
    exact gone_of_mark hrec (s.remove_mark h hno)

/-- An entity that is written, removed from memory, and loaded again. -/
theorem removed_gone_written :
    ∃ s ∈ (system ⟨1, false⟩ : TransSys (PoolImp Nat) (Action Nat)).run { cfg := ⟨1, false⟩ }
        [.add 0x0800000000000001 (some 5) true 0x0100000000000001, .update,
          .reply 0 (.result true none)],
      Gone ⟨1, false⟩ (s.remove 0x0800000000000001 false true).1 0x0800000000000001 := by
  obtain ⟨s, hs, hremove, hno⟩ :
      ∃ s ∈ (system ⟨1, false⟩ : TransSys (PoolImp Nat) (Action Nat)).run { cfg := ⟨1, false⟩ }
          [.add 0x0800000000000001 (some 5) true 0x0100000000000001, .update,
            .reply 0 (.result true none)],
        (s.remove 0x0800000000000001 false true).2 = true ∧
        s.isUpdating 0x0100000000000001 0x0800000000000001 = false ∧
        s.guidOwnerguidMap[(0x0800000000000001 : UInt64)]? = some 0x0100000000000001 := by
    decide +kernel
  refine ⟨s, hs, (removed_gone_iff (TransSys.reachable_of_run rfl hs) hremove).mpr ?_⟩
  intro hdefer
  obtain ⟨-, o, ho, hup⟩ := hdefer
  obtain rfl : 0x0100000000000001 = o := Option.some.inj (hno.2.symm.trans ho)
  rw [hno.1] at hup
  cases hup

/-- **A removed entity is found, and keeps the next one out**: it is added and removed from memory
    before the next tick, as when a player leaves at once. -/
theorem removed_found :
    ∃ s ∈ (system ⟨1, false⟩ : TransSys (PoolImp Nat) (Action Nat)).run { cfg := ⟨1, false⟩ }
        [.add 0x0800000000000001 (some 5) true 0x0100000000000001],
      (s.remove 0x0800000000000001 false true).2 = true ∧
      (s.remove 0x0800000000000001 false true).1.get 0x0800000000000001 = some 5 ∧
      ((s.remove 0x0800000000000001 false true).1.add 0x0800000000000001 (some 6) true
        0x0100000000000001).2 = false ∧
      ¬ Gone ⟨1, false⟩ (s.remove 0x0800000000000001 false true).1 0x0800000000000001 := by
  refine ⟨_, rfl, by decide +kernel, by decide +kernel, by decide +kernel, ?_⟩
  intro hgone
  have hnone := hgone.absent [] _ (fun _ ha => absurd ha List.not_mem_nil) rfl
  exact absurd hnone (by decide +kernel)

end Steppingstone.Pool
