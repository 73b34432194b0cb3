/-
  Steppingstone.Lib.Catchup — followers of a value that only grows.

  A leader publishes larger and larger values, and every follower takes them over in order, later.
  What a follower makes of a value is a move from the last one it used.
-/
import Mathlib.Algebra.BigOperators.Group.List.Basic
import Mathlib.Order.Basic
import Mathlib.Tactic.Common
import Mathlib.Tactic.Ring

namespace Catchup

variable {α : Type*}

/-! ## §1. Followers. -/

/-- The unread values lead upwards from the follower's value to the leader's. -/
def Behind [LT α] : α → List α → α → Prop
  | current, [], leader => current = leader
  | current, v :: unread, leader => current < v ∧ Behind v unread leader

/-- A new value of the leader is one more to be read. -/
theorem Behind.publish [LT α] {current leader v : α} {unread : List α}
    (h : Behind current unread leader) (hv : leader < v) : Behind current (unread ++ [v]) v := by
  induction unread generalizing current with
  | nil =>
      obtain rfl : current = leader := h
      exact ⟨hv, rfl⟩
  | cons w unread ih => exact ⟨h.1, ih h.2⟩

/-- A follower that reads one value is behind by the others. -/
theorem Behind.take [LT α] {current leader v : α} {unread : List α}
    (h : Behind current (v :: unread) leader) : current < v ∧ Behind v unread leader := h

/-- A follower never runs ahead. -/
theorem Behind.le [Preorder α] {current leader : α} {unread : List α}
    (h : Behind current unread leader) : current ≤ leader := by
  induction unread generalizing current with
  | nil => exact le_of_eq h
  | cons v unread ih => exact (le_of_lt h.1).trans (ih h.2)

/-! ## §2. Moves. -/

/-- From the value used last to another one. -/
structure Move (α : Type*) where
  before : α
  after : α
  deriving DecidableEq, Repr

/-- Each move starts where the one before it ended, and the newest, which is first, ended at
`last`. -/
def Linked : List (Move α) → α → Prop
  | [], _ => True
  | m :: ms, last => m.after = last ∧ Linked ms m.before

/-- Where the first of the moves started. -/
def origin : List (Move α) → α → α
  | [], last => last
  | m :: ms, _ => origin ms m.before

theorem Linked.after_le {β : Type*} [Preorder β] (f : α → β) {ms : List (Move α)} {last : α}
    (h : Linked ms last) (hforward : ∀ m ∈ ms, f m.before < f m.after) :
    ∀ m ∈ ms, f m.after ≤ f last := by
  induction ms generalizing last with
  | nil => exact List.forall_mem_nil _
  | cons m ms ih =>
      obtain ⟨rfl, hms⟩ := h
      obtain ⟨hm, hforward⟩ := List.forall_mem_cons.mp hforward
      refine List.forall_mem_cons.mpr ⟨le_refl _, ?_⟩
      intro n hn
      exact (ih hms hforward n hn).trans (le_of_lt hm)

/-- **No value is reached twice.** -/
theorem Linked.pairwise {β : Type*} [Preorder β] (f : α → β) {ms : List (Move α)} {last : α}
    (h : Linked ms last) (hforward : ∀ m ∈ ms, f m.before < f m.after) :
    ms.Pairwise (fun m n => f n.after < f m.after) := by
  induction ms generalizing last with
  | nil => exact List.Pairwise.nil
  | cons m ms ih =>
      obtain ⟨-, hms⟩ := h
      obtain ⟨hm, hforward⟩ := List.forall_mem_cons.mp hforward
      refine List.pairwise_cons.mpr ⟨?_, ih hms hforward⟩
      intro n hn
      exact lt_of_le_of_lt (hms.after_le f hforward n hn) hm

/-- **The lengths of the moves telescope.** -/
theorem Linked.sum_add (f : α → Nat) {ms : List (Move α)} {last : α} (h : Linked ms last)
    (hforward : ∀ m ∈ ms, f m.before ≤ f m.after) :
    (ms.map fun m => f m.after - f m.before).sum + f (origin ms last) = f last := by
  induction ms generalizing last with
  | nil =>
      show 0 + f last = f last
      omega
  | cons m ms ih =>
      obtain ⟨rfl, hms⟩ := h
      obtain ⟨hm, hforward⟩ := List.forall_mem_cons.mp hforward
      have hrest := ih hms hforward
      rw [List.map_cons, List.sum_cons]
      show f m.after - f m.before + _ + f (origin ms m.before) = f m.after
      omega

end Catchup
