/-
  Steppingstone.Lib.Outbox — a queue of bytes that is handed over bit by bit.

  Something is put behind what waits, and every now and then some of the front is taken: the
  abstract picture of an output that a socket accepts in parts.
-/
import Mathlib.Data.List.Basic

/-- What was handed over so far, and what waits. -/
structure Outbox (α : Type*) where
  handed : List α := []
  pending : List α := []
  deriving DecidableEq

namespace Outbox

variable {α : Type*}

/-- Behind what waits. -/
def put (o : Outbox α) (xs : List α) : Outbox α := { o with pending := o.pending ++ xs }

/-- From the front; at most what waits. -/
def take (o : Outbox α) (n : Nat) : Outbox α where
  handed := o.handed ++ o.pending.take n
  pending := o.pending.drop n

/-- All that was ever put. -/
def all (o : Outbox α) : List α := o.handed ++ o.pending

variable (o : Outbox α)

@[simp] theorem all_put (xs : List α) : (o.put xs).all = o.all ++ xs :=
  (List.append_assoc ..).symm

@[simp] theorem all_take (n : Nat) : (o.take n).all = o.all := by
  unfold all take
  rw [List.append_assoc, List.take_append_drop]

/-- Nothing is taken. -/
theorem take_zero : o.take 0 = o := by
  unfold take
  rw [List.take_zero, List.append_nil, List.drop_zero]

/-- What was taken is a prefix of what was put. -/
theorem handed_prefix : o.handed <+: o.all := List.prefix_append ..

/-- **Nothing waits** exactly when everything was handed over. -/
theorem handed_eq_all_iff : o.handed = o.all ↔ o.pending = [] := by
  unfold all
  rw [List.self_eq_append_right]

end Outbox
