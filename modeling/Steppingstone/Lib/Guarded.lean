/-
  Steppingstone.Lib.Guarded — call chains over mutexes that are not recursive.

  A call runs on one thread, which holds some mutexes, and changes a state.  `withGuard` takes a
  mutex for a scope; a thread that takes one it holds waits for ever, and the call has no result.
  A call is `Ranked` when it takes mutexes of high rank only, and higher ones within the scope of
  one it has; such calls return, and so do calls made of them.
-/
import Mathlib.Logic.Basic

/-- A call on a thread that holds the mutexes of a list: what it returns and the state it leaves,
    or `none` where it waits for a mutex that the thread holds. -/
def Guarded (M S α : Type) : Type := List M → S → Option (α × S)

namespace Guarded

variable {M S α β : Type}

/-! ## §1. Calls. -/

instance : Monad (Guarded M S) where
  pure a := fun _ s => some (a, s)
  bind x f := fun held s => (x held s).bind fun r => f r.1 held r.2

/-- The state of the process. -/
def state : Guarded M S S := fun _ s => some (s, s)

/-- A call that changes the state and takes no mutex. -/
def update (f : S → S) : Guarded M S Unit := fun _ s => some ((), f s)

/-- `ACE_GUARD` for the rest of a scope -/
def withGuard [DecidableEq M] (m : M) (x : Guarded M S α) : Guarded M S α :=
  fun held s => if m ∈ held then none else x (m :: held) s

@[simp] theorem pure_apply (a : α) (held : List M) (s : S) :
    (pure a : Guarded M S α) held s = some (a, s) := rfl

@[simp] theorem bind_apply (x : Guarded M S α) (f : α → Guarded M S β) (held : List M) (s : S) :
    (x >>= f) held s = (x held s).bind fun r => f r.1 held r.2 := rfl

@[simp] theorem state_apply (held : List M) (s : S) :
    (state : Guarded M S S) held s = some (s, s) := rfl

@[simp] theorem update_apply (f : S → S) (held : List M) (s : S) :
    (update f : Guarded M S Unit) held s = some ((), f s) := rfl

/-- A guard blocks a thread that holds the mutex already. -/
theorem withGuard_apply [DecidableEq M] (m : M) (x : Guarded M S α) (held : List M) (s : S) :
    withGuard m x held s = if m ∈ held then none else x (m :: held) s := rfl

/-! ## §2. Calls that return. -/

/-- The call does not wait for a mutex that is held. -/
def Returns (x : Guarded M S α) (held : List M) (s : S) : Prop := (x held s).isSome = true

theorem returns_of_eq {x : Guarded M S α} {held : List M} {s : S} {r : α × S}
    (h : x held s = some r) : x.Returns held s := by
  unfold Returns
  rw [h]
  rfl

/-- A call returns when it has a result. -/
theorem returns_iff_exists {x : Guarded M S α} {held : List M} {s : S} :
    x.Returns held s ↔ ∃ r, x held s = some r := Option.isSome_iff_exists

theorem not_returns_iff {x : Guarded M S α} {held : List M} {s : S} :
    ¬ x.Returns held s ↔ x held s = none := by
  unfold Returns
  simp

/-- **A call in two parts** returns when the first one does, and the second one after it. -/
theorem returns_bind {x : Guarded M S α} {f : α → Guarded M S β} {held : List M} {s : S} :
    (x >>= f).Returns held s ↔
      ∃ a s', x held s = some (a, s') ∧ (f a).Returns held s' := by
  unfold Returns
  rw [bind_apply]
  match h : x held s with
  | none => simp
  | some (a, s') =>
      constructor
      · exact fun hf => ⟨a, s', rfl, hf⟩
      · intro hsome
        obtain ⟨b, t, heq, hf⟩ := hsome
        obtain ⟨rfl, rfl⟩ := Prod.mk.inj (Option.some.inj heq)
        exact hf

/-- The first part is known. -/
theorem returns_bind_of_eq {x : Guarded M S α} {f : α → Guarded M S β} {held : List M} {s s' : S}
    {a : α} (h : x held s = some (a, s')) : (x >>= f).Returns held s ↔ (f a).Returns held s' := by
  unfold Returns
  rw [bind_apply, h]
  rfl

/-! ## §3. Ranks. -/

/-- The call takes mutexes of rank `k` and up, in rising order. -/
def Ranked (rank : M → Nat) (k : Nat) (x : Guarded M S α) : Prop :=
  ∀ held s, (∀ m ∈ held, rank m < k) → x.Returns held s

variable {rank : M → Nat} {k : Nat}

/-- **A ranked call returns** where no mutex is held. -/
theorem Ranked.returns {x : Guarded M S α} (h : Ranked rank k x) (s : S) : x.Returns [] s :=
  h [] s fun _ hm => absurd hm List.not_mem_nil

/-- A call that is ranked is ranked lower. -/
theorem Ranked.mono {x : Guarded M S α} {j : Nat} (h : Ranked rank k x) (hjk : j ≤ k) :
    Ranked rank j x :=
  fun held s hheld => h held s fun m hm => Nat.lt_of_lt_of_le (hheld m hm) hjk

theorem Ranked.pure (a : α) : Ranked rank k (pure a : Guarded M S α) := fun _ _ _ => rfl

theorem Ranked.state : Ranked rank k (Guarded.state : Guarded M S S) := fun _ _ _ => rfl

theorem Ranked.update (f : S → S) : Ranked rank k (Guarded.update f : Guarded M S Unit) :=
  fun _ _ _ => rfl

/-- One ranked call after another. -/
theorem Ranked.bind {x : Guarded M S α} {f : α → Guarded M S β} (hx : Ranked rank k x)
    (hf : ∀ a, Ranked rank k (f a)) : Ranked rank k (x >>= f) := by
  intro held s hheld
  obtain ⟨⟨a, s'⟩, heq⟩ := returns_iff_exists.mp (hx held s hheld)
  exact (returns_bind_of_eq heq).mpr (hf a held s' hheld)

/-- A choice of ranked calls. -/
theorem Ranked.ite {c : Prop} [Decidable c] {x y : Guarded M S α} (hx : Ranked rank k x)
    (hy : Ranked rank k y) : Ranked rank k (if c then x else y) := by
  split
  · exact hx
  · exact hy

/-- **A scope**: its mutex has rank `k` or more, and what is called within takes higher ones. -/
theorem Ranked.withGuard [DecidableEq M] {m : M} {x : Guarded M S α} (hk : k ≤ rank m)
    (hx : Ranked rank (rank m + 1) x) : Ranked rank k (withGuard m x) := by
  intro held s hheld
  have hfree : m ∉ held := fun hm => absurd (hheld m hm) (Nat.not_lt.mpr hk)
  unfold Returns
  rw [withGuard_apply, if_neg hfree]
  apply hx
  intro m' hm'
  obtain rfl | hold := List.mem_cons.mp hm'
  · exact Nat.lt_succ_self _
  · exact Nat.lt_succ_of_lt (Nat.lt_of_lt_of_le (hheld m' hold) hk)

/-- What follows a call and is ranked does not decide whether the whole returns. -/
theorem returns_bind_ranked {x : Guarded M S α} {f : α → Guarded M S β} {s : S}
    (hf : ∀ a, Ranked rank 0 (f a)) : (x >>= f).Returns [] s ↔ x.Returns [] s := by
  rw [returns_bind]
  constructor
  · intro h
    obtain ⟨a, s', heq, _⟩ := h
    exact returns_of_eq heq
  · intro h
    obtain ⟨⟨a, s'⟩, heq⟩ := returns_iff_exists.mp h
    exact ⟨a, s', heq, (hf a).returns s'⟩

/-- Within the scope of a mutex it cannot be taken again. -/
theorem withGuard_held [DecidableEq M] {m : M} {x : Guarded M S α} {held : List M} {s : S}
    (h : m ∈ held) : withGuard m x held s = none := if_pos h

/-! ## §4. What a call leaves alone. -/

/-- Whatever the call returns, the state it leaves stands in this relation to the one it found. -/
def Leaves (R : S → S → Prop) (x : Guarded M S α) : Prop :=
  ∀ held s a s', x held s = some (a, s') → R s s'

variable {R : S → S → Prop}

theorem Leaves.pure (hR : ∀ s, R s s) (a : α) : Leaves R (pure a : Guarded M S α) := by
  intro held s b s' h
  obtain ⟨_, rfl⟩ := Prod.mk.inj (Option.some.inj h)
  exact hR s

theorem Leaves.state (hR : ∀ s, R s s) : Leaves R (Guarded.state : Guarded M S S) := by
  intro held s b s' h
  obtain ⟨_, rfl⟩ := Prod.mk.inj (Option.some.inj h)
  exact hR s

theorem Leaves.update {f : S → S} (hf : ∀ s, R s (f s)) :
    Leaves R (Guarded.update f : Guarded M S Unit) := by
  intro held s b s' h
  obtain ⟨_, rfl⟩ := Prod.mk.inj (Option.some.inj h)
  exact hf s

/-- One call after another leaves what both leave. -/
theorem Leaves.bind (hR : ∀ s t u, R s t → R t u → R s u) {x : Guarded M S α}
    {f : α → Guarded M S β} (hx : Leaves R x) (hf : ∀ a, Leaves R (f a)) : Leaves R (x >>= f) := by
  intro held s b s' h
  rw [bind_apply, Option.bind_eq_some_iff] at h
  obtain ⟨⟨a, t⟩, hat, hb⟩ := h
  exact hR s t s' (hx held s a t hat) (hf a held t b s' hb)

theorem Leaves.ite {c : Prop} [Decidable c] {x y : Guarded M S α} (hx : Leaves R x)
    (hy : Leaves R y) : Leaves R (if c then x else y) := by
  split
  · exact hx
  · exact hy

/-- A guard changes nothing. -/
theorem Leaves.withGuard [DecidableEq M] {m : M} {x : Guarded M S α} (hx : Leaves R x) :
    Leaves R (withGuard m x) := by
  intro held s a s' h
  rw [withGuard_apply] at h
  split at h
  · cases h
  · exact hx _ s a s' h

end Guarded
