/-
  Steppingstone.Lib.StringPool — texts in one block, each ended by a terminator.

  A pool lists its texts with the offsets at which they will stand in the block.  The offsets are
  running totals, so each text is read back at its own, also when texts have come since.
-/
import Mathlib.Data.List.Basic

namespace StringPool

variable {α : Type*} [DecidableEq α] (z : α)

/-- The texts one after the other, each ended by `z`. -/
def block (texts : List (List α)) : List α :=
  texts.flatMap (· ++ [z])

/-- What stands at an offset, up to the terminator. -/
def readAt (buf : List α) (offset : Nat) : List α :=
  (buf.drop offset).takeWhile (· ≠ z)

/-- The offsets of a pool are those of its block, which has `size` places. -/
structure Packed (entries : List (List α × Nat)) (size : Nat) : Prop where
  offset : ∀ before text o after, entries = before ++ (text, o) :: after →
    o = (block z (before.map (·.1))).length
  size_eq : size = (block z (entries.map (·.1))).length

omit [DecidableEq α] in
theorem block_append (texts texts' : List (List α)) :
    block z (texts ++ texts') = block z texts ++ block z texts' := List.flatMap_append

omit [DecidableEq α] in
theorem Packed.empty : Packed z [] 0 := by
  constructor
  · intro before text o after h
    exact absurd h.symm (by simp)
  · rfl

omit [DecidableEq α] in
/-- **A new text stands where the block ends.** -/
theorem Packed.push {entries : List (List α × Nat)} {size : Nat} (h : Packed z entries size)
    (text : List α) : Packed z (entries ++ [(text, size)]) (size + text.length + 1) := by
  constructor
  · intro before t o after hsplit
    rcases List.eq_nil_or_concat after with hnil | ⟨init, last, hlast⟩
    · -- the new text itself
      rw [hnil] at hsplit
      have hpair := List.append_inj' hsplit rfl
      have ho : size = o := by
        have := List.head_eq_of_cons_eq hpair.2
        exact (Prod.mk.inj this).2
      rw [← ho, ← hpair.1]
      exact h.size_eq
    · rw [hlast, List.concat_eq_append, ← List.cons_append, ← List.append_assoc] at hsplit
      exact h.offset before t o init (List.append_inj' hsplit rfl).1
  · rw [List.map_append, block_append, List.length_append, ← h.size_eq]
    simp [block]
    omega

/-- A text before its terminator is read to its end. -/
theorem readAt_append {text : List α} (hz : z ∉ text) (before after : List α) :
    readAt z (before ++ (text ++ z :: after)) before.length = text := by
  unfold readAt
  rw [List.drop_left, List.takeWhile_append_of_pos, List.takeWhile_cons_of_neg (by simp),
    List.append_nil]
  intro c hc
  exact decide_eq_true fun he => hz (he ▸ hc)

/-- **At its offset a text is read back.** -/
theorem Packed.readAt {entries : List (List α × Nat)} {size : Nat} (h : Packed z entries size)
    {text : List α} {o : Nat} (hmem : (text, o) ∈ entries) (hz : z ∉ text) :
    readAt z (block z (entries.map (·.1))) o = text := by
  obtain ⟨before, after, hsplit⟩ := List.append_of_mem hmem
  rw [h.offset before text o after hsplit, hsplit]
  have hblock : block z ((before ++ (text, o) :: after).map (·.1))
      = block z (before.map (·.1)) ++ (text ++ z :: block z (after.map (·.1))) := by
    simp [block]
  rw [hblock]
  exact readAt_append z hz _ _

end StringPool
