/-
  Steppingstone.Lib.BlockHash — folding a message block by block, while it arrives.

  A state is changed by every block of `n` elements of a message; what is left over waits for the
  rest of its block.  This is how hash functions read a stream.
-/
import Steppingstone.Lib.Framing

namespace BlockHash

variable {α σ : Type*}

/-- Taking one block off the front. -/
def blocks (n : Nat) (hn : 0 < n) : Framer α (List α) where
  next := fun b => if n ≤ b.length then some (b.take n, b.drop n) else none
  shrinks := by
    intro b x r h
    split at h
    · obtain ⟨-, rfl⟩ := Prod.mk.inj (Option.some.inj h)
      rw [List.length_drop]
      omega
    · cases h
  extends_ := by
    intro b x r c h
    split at h
    · next hle =>
        obtain ⟨rfl, rfl⟩ := Prod.mk.inj (Option.some.inj h)
        rw [if_pos (by rw [List.length_append]; omega), List.take_append_of_le_length hle,
          List.drop_append_of_le_length hle]
    · cases h

variable (n : Nat) (hn : 0 < n) (compress : σ → List α → σ)

/-- The state after all whole blocks, and what is left over. -/
def absorb (s : σ) (data : List α) : σ × List α :=
  let p := (blocks n hn).parse data
  (p.1.foldl compress s, p.2)

/-- What was left over goes before what arrives. -/
def feed (s : σ × List α) (data : List α) : σ × List α := absorb n hn compress s.1 (s.2 ++ data)

variable {n hn compress} {s : σ} {data : List α}

/-- Less than a block is kept for later. -/
theorem absorb_of_lt (h : data.length < n) : absorb n hn compress s data = (s, data) := by
  have hnone : (blocks n hn).next data = none := if_neg (by omega)
  unfold absorb
  rw [(blocks n hn).parse_of_none hnone]
  rfl

/-- One block more. -/
theorem absorb_block {b : List α} (hb : b.length = n) :
    absorb n hn compress s (b ++ data) = absorb n hn compress (compress s b) data := by
  have hsome : (blocks n hn).next (b ++ data) = some (b, data) := by
    show (if n ≤ (b ++ data).length then _ else _) = _
    rw [if_pos (by rw [List.length_append]; omega), List.take_left' hb, List.drop_left' hb]
  unfold absorb
  rw [(blocks n hn).parse_of_some hsome]
  rfl

/-- **In two parts**: what is left over of the first goes before the second. -/
theorem absorb_append (s : σ) (xs ys : List α) :
    absorb n hn compress s (xs ++ ys) = feed n hn compress (absorb n hn compress s xs) ys := by
  unfold feed absorb
  rw [(blocks n hn).parse_append]
  dsimp only
  rw [List.foldl_append]

/-- **What waits** is as long as the length of the message says. -/
theorem absorb_left_length (s : σ) (data : List α) :
    (absorb n hn compress s data).2.length = data.length % n := by
  induction data using (blocks n hn).parse_induction generalizing s with
  | hnone b h =>
      have hlt : b.length < n := by
        by_contra hle
        have hsome : (blocks n hn).next b = some (b.take n, b.drop n) := if_pos (by omega)
        rw [hsome] at h
        cases h
      rw [absorb_of_lt hlt, Nat.mod_eq_of_lt hlt]
  | hsome b x r h ih =>
      have hnext : (if n ≤ b.length then some (b.take n, b.drop n) else none) = some (x, r) := h
      split at hnext
      · next hle =>
          obtain ⟨rfl, rfl⟩ := Prod.mk.inj (Option.some.inj hnext)
          have htake : (b.take n).length = n := List.length_take_of_le hle
          have hstep : absorb n hn compress s (b.take n ++ b.drop n)
              = absorb n hn compress (compress s (b.take n)) (b.drop n) := absorb_block htake
          rw [List.take_append_drop] at hstep
          rw [hstep, ih, List.length_drop]
          exact (Nat.mod_eq_sub_mod hle).symm
      · cases hnext

end BlockHash
