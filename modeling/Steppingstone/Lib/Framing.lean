/-
  Steppingstone.Lib.Framing — cutting a stream into frames while it arrives.

  A framer takes one frame off the front of what has arrived, or asks for more.
  It never changes its mind: what it takes off does not depend on what comes
  later.
-/
import Mathlib.Data.List.Basic

/-- Take one frame off the front, if it is there. -/
structure Framer (α β : Type*) where
  next : List α → Option (β × List α)
  shrinks : ∀ {b x r}, next b = some (x, r) → r.length < b.length
  extends_ : ∀ {b x r} (c : List α), next b = some (x, r) → next (b ++ c) = some (x, r ++ c)

namespace Framer

variable {α β : Type*} (F : Framer α β)

/-! ## §1. Taking all frames off. -/

/-- At most `n` frames, and what is left. -/
def drain : Nat → List α → List β × List α
  | 0, b => ([], b)
  | n + 1, b =>
      match F.next b with
      | none => ([], b)
      | some (x, r) => (x :: (drain n r).1, (drain n r).2)

/-- All frames, and what is left. -/
def parse (b : List α) : List β × List α := F.drain b.length b

/-- More fuel than elements changes nothing. -/
theorem drain_eq_parse {n : Nat} {b : List α} (h : b.length ≤ n) : F.drain n b = F.parse b := by
  have key : ∀ (m n : Nat) (b : List α), b.length ≤ m → b.length ≤ n →
      F.drain m b = F.drain n b := by
    intro m
    induction m with
    | zero =>
        intro n b hm hn
        have hb : b = [] := List.length_eq_zero_iff.mp (Nat.le_zero.mp hm)
        subst hb
        cases n with
        | zero => rfl
        | succ n =>
            show ([], []) = match F.next [] with | none => _ | some (x, r) => _
            match hx : F.next ([] : List α) with
            | none => rfl
            | some (x, r) => exact absurd (F.shrinks hx) (Nat.not_lt_zero _)
    | succ m ih =>
        intro n b hm hn
        match hx : F.next b with
        | none =>
            unfold drain
            rw [hx]
            cases n with
            | zero => rfl
            | succ n =>
                dsimp only
                rw [hx]
        | some (x, r) =>
            have hlt := F.shrinks hx
            cases n with
            | zero => omega
            | succ n =>
                unfold drain
                rw [hx]
                dsimp only
                rw [ih n r (by omega) (by omega)]
  exact key n b.length b h (Nat.le_refl _)

theorem parse_of_none {b : List α} (h : F.next b = none) : F.parse b = ([], b) := by
  rw [← F.drain_eq_parse (Nat.le_succ b.length)]
  unfold drain
  rw [h]

theorem parse_of_some {b r : List α} {x : β} (h : F.next b = some (x, r)) :
    F.parse b = (x :: (F.parse r).1, (F.parse r).2) := by
  have hlt := F.shrinks h
  rw [← F.drain_eq_parse (Nat.le_succ b.length)]
  unfold drain
  rw [h]
  dsimp only
  rw [F.drain_eq_parse (Nat.le_of_lt hlt)]

/-- Induction along the frames at the front. -/
theorem parse_induction {P : List α → Prop} (hnone : ∀ b, F.next b = none → P b)
    (hsome : ∀ b x r, F.next b = some (x, r) → P r → P b) (b : List α) : P b := by
  have key : ∀ (n : Nat) (b : List α), b.length ≤ n → P b := by
    intro n
    induction n with
    | zero =>
        intro b hb
        match hx : F.next b with
        | none => exact hnone b hx
        | some (x, r) =>
            have := F.shrinks hx
            omega
    | succ n ih =>
        intro b hb
        match hx : F.next b with
        | none => exact hnone b hx
        | some (x, r) =>
            have := F.shrinks hx
            exact hsome b x r hx (ih r (by omega))
  exact key b.length b (Nat.le_refl _)

/-- What is left holds no frame. -/
theorem next_parse (b : List α) : F.next (F.parse b).2 = none := by
  induction b using F.parse_induction with
  | hnone b h =>
      rw [F.parse_of_none h]
      exact h
  | hsome b x r h ih =>
      rw [F.parse_of_some h]
      exact ih

/-- **What arrives in two parts** parses as what arrives at once. -/
theorem parse_append (b c : List α) :
    F.parse (b ++ c) =
      ((F.parse b).1 ++ (F.parse ((F.parse b).2 ++ c)).1, (F.parse ((F.parse b).2 ++ c)).2) := by
  induction b using F.parse_induction with
  | hnone b h =>
      rw [F.parse_of_none h]
      rfl
  | hsome b x r h ih =>
      rw [F.parse_of_some h, F.parse_of_some (F.extends_ c h), ih]
      rfl

/-! ## §2. Encoded frames. -/

variable {F} {enc : β → List α}

/-- **Encoded frames** parse to themselves. -/
theorem parse_flatMap {xs : List β}
    (henc : ∀ x ∈ xs, ∀ r, F.next (enc x ++ r) = some (x, r)) (r : List α) :
    F.parse (xs.flatMap enc ++ r) = (xs ++ (F.parse r).1, (F.parse r).2) := by
  induction xs with
  | nil => rfl
  | cons x xs ih =>
      rw [List.flatMap_cons, List.append_assoc, F.parse_of_some (henc x (List.mem_cons_self ..) _),
        ih (fun y hy => henc y (List.mem_cons_of_mem _ hy))]
      rfl

theorem next_nil : F.next [] = none := by
  match hx : F.next [] with
  | none => rfl
  | some (x, r) => exact absurd (F.shrinks hx) (Nat.not_lt_zero _)

/-- A part of an encoded frame holds no frame. -/
theorem next_of_part {x : β} (hwhole : F.next (enc x) = some (x, [])) {b c : List α}
    (hc : c ≠ []) (h : b ++ c = enc x) : F.next b = none := by
  match hx : F.next b with
  | none => rfl
  | some (y, r) =>
      rw [← h, F.extends_ c hx] at hwhole
      obtain ⟨-, hr⟩ := Prod.mk.inj (Option.some.inj hwhole)
      exact absurd (List.append_eq_nil_iff.mp hr).2 hc

/-- **Any part of a stream of encoded frames** parses to the frames it holds, and
what is left is a proper part of the next one. -/
theorem parse_part {xs : List β} (henc : ∀ x ∈ xs, ∀ r, F.next (enc x ++ r) = some (x, r))
    {b c : List α} (h : b ++ c = xs.flatMap enc) :
    ∃ rest, xs = (F.parse b).1 ++ rest ∧
      b = (F.parse b).1.flatMap enc ++ (F.parse b).2 ∧
      (rest = [] → (F.parse b).2 = []) ∧
      ∀ x xs', rest = x :: xs' → (F.parse b).2.length < (enc x).length := by
  induction xs generalizing b with
  | nil =>
      have hb : b = [] := (List.append_eq_nil_iff.mp h).1
      subst hb
      rw [F.parse_of_none F.next_nil]
      exact ⟨[], rfl, rfl, fun _ => rfl, fun x xs' hc => absurd hc (by simp)⟩
  | cons x xs ih =>
      rw [List.flatMap_cons] at h
      have hx := henc x (List.mem_cons_self ..)
      by_cases hlen : (enc x).length ≤ b.length
      · -- the first frame is complete
        obtain ⟨b', rfl⟩ : enc x <+: b :=
          List.prefix_of_prefix_length_le (List.prefix_append ..) ⟨c, h⟩ hlen
        rw [List.append_assoc] at h
        obtain ⟨rest, hxs, hb, hnil, hcons⟩ := ih
          (fun y hy => henc y (List.mem_cons_of_mem _ hy)) (List.append_cancel_left h)
        rw [F.parse_of_some (hx b')]
        refine ⟨rest, congrArg (x :: ·) hxs, ?_, hnil, hcons⟩
        show enc x ++ b' = List.flatMap enc (x :: (F.parse b').1) ++ (F.parse b').2
        rw [List.flatMap_cons, List.append_assoc, ← hb]
      · -- the first frame is not complete
        obtain ⟨d, hsplit⟩ : b <+: enc x :=
          List.prefix_of_prefix_length_le ⟨c, h⟩ (List.prefix_append ..) (by omega)
        have hd : d ≠ [] := by
          rintro rfl
          rw [← hsplit, List.append_nil] at hlen
          exact hlen (Nat.le_refl _)
        have hwhole := hx []
        rw [List.append_nil] at hwhole
        rw [F.parse_of_none (next_of_part hwhole hd hsplit)]
        refine ⟨x :: xs, rfl, rfl, fun hc => absurd hc (by simp), ?_⟩
        intro y ys hy
        obtain ⟨rfl, -⟩ := List.cons.inj hy
        show b.length < _
        omega

/-! ## §3. A framer that waits for more than a frame. -/

/-- **A framer that looks at no fewer than `least` elements** leaves of a part of a stream less
than the next frame, or less than it looks at; and the last frame that it took had at least that
much, with what is left behind it. -/
theorem parse_part_least {least : Nat} (hleast : ∀ b, b.length < least → F.next b = none)
    {xs : List β}
    (henc : ∀ x ∈ xs, ∀ r, least ≤ (enc x ++ r).length → F.next (enc x ++ r) = some (x, r))
    {b c : List α} (h : b ++ c = xs.flatMap enc) :
    ∃ rest, xs = (F.parse b).1 ++ rest ∧ b = (F.parse b).1.flatMap enc ++ (F.parse b).2 ∧
      (∀ x ∈ rest.head?, (F.parse b).2.length < max least (enc x).length) ∧
      ∀ x ∈ (F.parse b).1.getLast?, least ≤ (enc x).length + (F.parse b).2.length := by
  induction xs generalizing b with
  | nil =>
      have hb : b = [] := (List.append_eq_nil_iff.mp h).1
      subst hb
      rw [F.parse_of_none F.next_nil]
      exact ⟨[], rfl, rfl, nofun, nofun⟩
  | cons x xs ih =>
      rw [List.flatMap_cons] at h
      have hx := henc x (List.mem_cons_self ..)
      by_cases hlen : max least (enc x).length ≤ b.length
      · -- the first frame is complete, and the framer looks at it
        obtain ⟨b', rfl⟩ : enc x <+: b :=
          List.prefix_of_prefix_length_le (List.prefix_append ..) ⟨c, h⟩ (by omega)
        rw [List.append_assoc] at h
        obtain ⟨rest, hxs, hb, hrest, hlast⟩ := ih
          (fun y hy => henc y (List.mem_cons_of_mem _ hy)) (List.append_cancel_left h)
        rw [F.parse_of_some (hx b' (by omega))]
        refine ⟨rest, congrArg (x :: ·) hxs, ?_, hrest, ?_⟩
        · show enc x ++ b' = List.flatMap enc (x :: (F.parse b').1) ++ (F.parse b').2
          rw [List.flatMap_cons, List.append_assoc, ← hb]
        · intro y hy
          dsimp only at hy ⊢
          by_cases hone : (F.parse b').1 = []
          · rw [hone] at hy hb
            obtain rfl : x = y := Option.some.inj hy
            rw [List.length_append] at hlen
            have hleft : b'.length = (F.parse b').2.length := congrArg List.length hb
            omega
          · rw [List.getLast?_cons_of_ne_nil hone] at hy
            exact hlast y hy
      · have hnone : F.next b = none := by
          by_cases hshort : b.length < least
          · exact hleast b hshort
          · -- a proper part of the first frame
            obtain ⟨d, hd⟩ : b <+: enc x :=
              List.prefix_of_prefix_length_le ⟨c, h⟩ (List.prefix_append ..) (by omega)
            have hne : d ≠ [] := by
              rintro rfl
              rw [List.append_nil] at hd
              subst hd
              omega
            have hwhole := hx [] (by rw [List.append_nil, ← hd, List.length_append]; omega)
            rw [List.append_nil] at hwhole
            exact next_of_part hwhole hne hd
        rw [F.parse_of_none hnone]
        refine ⟨x :: xs, rfl, rfl, ?_, nofun⟩
        intro y hy
        obtain rfl := Option.some.inj hy
        show b.length < _
        omega

end Framer
