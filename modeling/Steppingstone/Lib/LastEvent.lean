/-
  Steppingstone.Lib.LastEvent — the value that a history of events leaves.

  An event may set a value or clear it.  What holds after a history is the value of the last event
  that set one, when none after it set another or cleared it.
-/
import Mathlib.Data.List.Basic
import Mathlib.Data.List.Induction

namespace LastEvent

variable {E A : Type*} (sets : E → Option A) (clears : E → Prop)

/-- The last event that sets a value sets this one, and no later event clears it. -/
def Holds (events : List E) (a : A) : Prop :=
  ∃ pre e post, events = pre ++ e :: post ∧ sets e = some a ∧
    ∀ x ∈ post, sets x = none ∧ ¬ clears x

variable {sets clears} {events : List E} {e : E} {a b : A}

theorem not_holds_nil : ¬ Holds sets clears [] a := by
  intro h
  obtain ⟨pre, e, post, heq, -⟩ := h
  exact List.cons_ne_nil e post (List.append_eq_nil_iff.mp heq.symm).2

/-- **One more event** sets the value, or leaves what was there. -/
theorem holds_snoc : Holds sets clears (events ++ [e]) a ↔
    sets e = some a ∨ (sets e = none ∧ ¬ clears e ∧ Holds sets clears events a) := by
  constructor
  · intro h
    obtain ⟨pre, x, post, heq, hset, hpost⟩ := h
    -- the event that set the value is the last one, or it stands before it
    induction post using List.reverseRecOn with
    | nil =>
        have hx : e = x := (List.append_inj' heq rfl).2 |> List.singleton_inj.mp
        exact .inl (hx ▸ hset)
    | append_singleton post y _ =>
        have hsplit : events = pre ++ x :: post ∧ [e] = [y] := by
          apply List.append_inj'
          · rw [heq, List.append_assoc, List.cons_append]
          · rfl
        obtain rfl : e = y := List.singleton_inj.mp hsplit.2
        obtain ⟨hnone, hclear⟩ := hpost e (List.mem_append_right _ (List.mem_singleton_self e))
        refine .inr ⟨hnone, hclear, pre, x, post, hsplit.1, hset, ?_⟩
        intro z hz
        exact hpost z (List.mem_append_left _ hz)
  · intro h
    cases h with
    | inl hset => exact ⟨events, e, [], rfl, hset, fun x hx => absurd hx List.not_mem_nil⟩
    | inr hrest =>
        obtain ⟨hnone, hclear, pre, x, post, heq, hset, hpost⟩ := hrest
        refine ⟨pre, x, post ++ [e], ?_, hset, ?_⟩
        · rw [heq, List.append_assoc, List.cons_append]
        · intro z hz
          obtain hz | hz := List.mem_append.mp hz
          · exact hpost z hz
          · exact List.mem_singleton.mp hz ▸ ⟨hnone, hclear⟩

end LastEvent
