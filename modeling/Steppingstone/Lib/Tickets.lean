/-
  Steppingstone.Lib.Tickets — work that is done in any order and handed on in one.

  Jobs are given out with numbered tickets.  Whoever holds a ticket works on its job and brings the
  result back; somebody else waits for the result of the next number, hands it on and goes to the
  number after it.  Numbers come round again, so that two jobs can have one number, and a result
  that comes back under a number that is taken is dropped.
-/
import Mathlib.Logic.Function.Iterate
import Mathlib.Data.List.Forall2
import Steppingstone.Lib.Lookup

/-! ## §1. Numbers. -/

/-- Numbers one after the other, of which as many as the period are different. -/
structure Serials (κ : Type*) where
  first : κ
  succ : κ → κ
  period : Nat
  apart : ∀ m n, m < n → n < m + period → succ^[m] first ≠ succ^[n] first

namespace Serials

variable {κ : Type*} (N : Serials κ)

/-- The number of a job. -/
def ticket (n : Nat) : κ := N.succ^[n] N.first

@[simp] theorem ticket_zero : N.ticket 0 = N.first := rfl

theorem ticket_succ (n : Nat) : N.ticket (n + 1) = N.succ (N.ticket n) :=
  Function.iterate_succ_apply' N.succ n N.first

/-- Among as many jobs as the period, a number belongs to one. -/
theorem ticket_inj {lo m n : Nat} (hm : lo ≤ m) (hn : lo ≤ n) (hm' : m < lo + N.period)
    (hn' : n < lo + N.period) (h : N.ticket m = N.ticket n) : m = n := by
  rcases Nat.lt_trichotomy m n with hlt | heq | hlt
  · exact absurd h (N.apart m n hlt (by omega))
  · exact heq
  · exact absurd h.symm (N.apart n m hlt (by omega))

end Serials

/-! ## §2. The desk. -/

/-- The number of the next ticket, the number that is waited for, who holds what and how far the
work is, what came back, and what was handed on. -/
structure Tickets (κ ω π β : Type*) where
  index : κ
  pos : κ
  held : ω → Option (κ × π)
  back : κ → Option (List β)
  handed : List β

namespace Tickets

variable {κ ω π β γ : Type*} [DecidableEq κ] [DecidableEq ω] (N : Serials κ)

/-- Nothing given out yet. -/
def start : Tickets κ ω π β where
  index := N.first
  pos := N.first
  held := fun _ => none
  back := fun _ => none
  handed := []

/-- What is under a key already stays. -/
def insertNew (m : κ → Option γ) (k : κ) (v : γ) : κ → Option γ :=
  if (m k).isSome then m else Function.update m k (some v)

/-- A ticket is drawn. -/
def draw (s : Tickets κ ω π β) (w : ω) (p : π) : Tickets κ ω π β :=
  { s with
    index := N.succ s.index
    held := Function.update s.held w (some (s.index, p)) }

/-- Whoever holds a ticket goes on with the work. -/
def work (s : Tickets κ ω π β) (w : ω) (k : κ) (p : π) : Tickets κ ω π β :=
  { s with held := Function.update s.held w (some (k, p)) }

/-- The result comes back. -/
def post (s : Tickets κ ω π β) (w : ω) (k : κ) (q : List β) : Tickets κ ω π β :=
  { s with
    held := Function.update s.held w none
    back := insertNew s.back k q }

/-- The result that was waited for is handed on as a whole. -/
def emit (s : Tickets κ ω π β) (q : List β) : Tickets κ ω π β :=
  { s with
    back := Function.update s.back s.pos none
    pos := N.succ s.pos
    handed := s.handed ++ q }

/-- Of the result that was waited for the first is handed on. -/
def emitOne (s : Tickets κ ω π β) (b : β) (q : List β) : Tickets κ ω π β :=
  if q.isEmpty then s.emit N [b]
  else
    { s with
      back := Function.update s.back s.pos (some q)
      handed := s.handed ++ [b] }

/-! ## §3. The jobs behind the numbers. -/

variable {ι : Type*} (progress : ι → π → Prop) (result : ι → List β → Prop)

/-- The jobs that were given out, in their order, and how many of them are done with. -/
structure Tracks (s : Tickets κ ω π β) (jobs : List ι) (pos : Nat) : Prop where
  index_eq : s.index = N.ticket jobs.length
  pos_eq : s.pos = N.ticket pos
  pos_le : pos ≤ jobs.length
  window : jobs.length ≤ pos + N.period
  held : ∀ w k p, s.held w = some (k, p) → s.back k = none ∧
    ∃ t j, pos ≤ t ∧ jobs[t]? = some j ∧ k = N.ticket t ∧ progress j p
  apart : ∀ w w' k p p', s.held w = some (k, p) → s.held w' = some (k, p') → w = w'
  back : ∀ k q, s.back k = some q →
    ∃ t j, pos ≤ t ∧ jobs[t]? = some j ∧ k = N.ticket t ∧ (t ≠ pos → result j q)
  waiting : ∀ t, pos ≤ t → t < jobs.length →
    (s.back (N.ticket t)).isSome ∨ ∃ w p, s.held w = some (N.ticket t, p)
  handed : ∃ rs cur, List.Forall₂ result (jobs.take pos) rs ∧ s.handed = rs.flatten ++ cur ∧
    (∀ q, s.back s.pos = some q → ∃ j, jobs[pos]? = some j ∧ result j (cur ++ q)) ∧
    (s.back s.pos = none → cur = [])

variable {N progress result} {s : Tickets κ ω π β} {jobs : List ι} {pos : Nat}

/-! ## §4. What an operation does to them. -/

omit [DecidableEq κ] [DecidableEq ω] in
theorem tracks_start : Tracks N progress result (start N : Tickets κ ω π β) [] 0 where
  index_eq := rfl
  pos_eq := rfl
  pos_le := Nat.le_refl 0
  window := Nat.zero_le _
  held := fun _ _ _ h => absurd h (Option.some_ne_none _).symm
  apart := fun _ _ _ _ _ h => absurd h (Option.some_ne_none _).symm
  back := fun _ _ h => absurd h (Option.some_ne_none _).symm
  waiting := fun _ _ h => absurd h (Nat.not_lt_zero _)
  handed := ⟨[], [], .nil, rfl, fun _ h => absurd h (Option.some_ne_none _).symm, fun _ => rfl⟩

theorem lt_length_of_getElem? {xs : List ι} {t : Nat} {j : ι} (h : xs[t]? = some j) :
    t < xs.length :=
  (List.getElem?_eq_some_iff.mp h).1

theorem getElem?_append_of_some {xs : List ι} {t : Nat} {j : ι} (h : xs[t]? = some j)
    (ys : List ι) : (xs ++ ys)[t]? = some j := by
  rw [List.getElem?_append_left (lt_length_of_getElem? h)]
  exact h

namespace Tracks

omit [DecidableEq κ] [DecidableEq ω] in
/-- Among the jobs that are not done with, a number belongs to one. -/
theorem ticket_eq (h : Tracks N progress result s jobs pos) {t t' : Nat} (ht : pos ≤ t)
    (ht' : pos ≤ t') (hlt : t < jobs.length) (hlt' : t' < jobs.length)
    (he : N.ticket t = N.ticket t') : t = t' := by
  have hwindow := h.window
  exact N.ticket_inj ht ht' (by omega) (by omega) he

omit [DecidableEq κ] [DecidableEq ω] in
/-- What came back under the number that is waited for belongs to the next job. -/
theorem back_pos (h : Tracks N progress result s jobs pos) {q : List β}
    (hq : s.back s.pos = some q) : pos < jobs.length := by
  obtain ⟨t, j, ht, hj, -, -⟩ := h.back s.pos q hq
  have hlt := lt_length_of_getElem? hj
  omega

omit [DecidableEq κ] in
/-- **Drawing** gives out one more job, as long as there are numbers left. -/
theorem draw (h : Tracks N progress result s jobs pos) {w : ω} {p : π} {j : ι}
    (hroom : jobs.length < pos + N.period) (hw : s.held w = none) (hp : progress j p) :
    Tracks N progress result (s.draw N w p) (jobs ++ [j]) pos := by
  have hpos := h.pos_le
  have hlen : (jobs ++ [j]).length = jobs.length + 1 := List.length_append
  have hlast : (jobs ++ [j])[jobs.length]? = some j := List.getElem?_concat_length
  -- the new number is none of those that are out
  have hnew : ∀ t i, pos ≤ t → jobs[t]? = some i → N.ticket t ≠ N.ticket jobs.length := by
    intro t i ht hi he
    have hlt := lt_length_of_getElem? hi
    have heq := N.ticket_inj ht hpos (by omega) hroom he
    omega
  have hback : s.back s.index = none := by
    rw [Option.eq_none_iff_forall_ne_some]
    intro q hq
    obtain ⟨t, i, ht, hi, hk, -⟩ := h.back _ _ hq
    exact hnew t i ht hi (hk ▸ h.index_eq)
  have hheld : ∀ w' p', s.held w' ≠ some (s.index, p') := by
    intro w' p' he
    obtain ⟨-, t, i, ht, hi, hk, -⟩ := h.held _ _ _ he
    exact hnew t i ht hi (hk ▸ h.index_eq)
  refine ⟨?_, h.pos_eq, ?_, ?_, ?_, ?_, ?_, ?_, ?_⟩
  · show N.succ s.index = N.ticket (jobs ++ [j]).length
    rw [hlen, N.ticket_succ, h.index_eq]
  · omega
  · omega
  · intro w' k p' hk
    rcases Lookup.update_some.mp hk with ⟨-, he⟩ | ⟨-, hold⟩
    · obtain ⟨rfl, rfl⟩ := Prod.mk.inj he
      exact ⟨hback, jobs.length, j, hpos, hlast, h.index_eq, hp⟩
    · obtain ⟨hb, t, i, ht, hi, hn, hpr⟩ := h.held _ _ _ hold
      exact ⟨hb, t, i, ht, getElem?_append_of_some hi _, hn, hpr⟩
  · intro w₁ w₂ k p₁ p₂ h₁ h₂
    rcases Lookup.update_some.mp h₁ with ⟨he₁, hk₁⟩ | ⟨-, hold₁⟩
    · rcases Lookup.update_some.mp h₂ with ⟨he₂, -⟩ | ⟨-, hold₂⟩
      · exact he₁.trans he₂.symm
      · obtain ⟨rfl, -⟩ := Prod.mk.inj hk₁
        exact absurd hold₂ (hheld w₂ p₂)
    · rcases Lookup.update_some.mp h₂ with ⟨-, hk₂⟩ | ⟨-, hold₂⟩
      · obtain ⟨rfl, -⟩ := Prod.mk.inj hk₂
        exact absurd hold₁ (hheld w₁ p₁)
      · exact h.apart _ _ _ _ _ hold₁ hold₂
  · intro k q hk
    obtain ⟨t, i, ht, hi, hn, hr⟩ := h.back _ _ hk
    exact ⟨t, i, ht, getElem?_append_of_some hi _, hn, hr⟩
  · intro t ht hlt
    by_cases hlast' : t = jobs.length
    · refine .inr ⟨w, p, ?_⟩
      rw [hlast', ← h.index_eq]
      exact Function.update_self ..
    · rcases h.waiting t ht (by omega) with hb | ⟨w', p', hw'⟩
      · exact .inl hb
      · refine .inr ⟨w', p', ?_⟩
        have hne : w' ≠ w := by
          intro he
          rw [he, hw] at hw'
          cases hw'
        exact (Function.update_of_ne hne ..).trans hw'
  · obtain ⟨rs, cur, hrs, hh, hnext, hcur⟩ := h.handed
    refine ⟨rs, cur, ?_, hh, ?_, hcur⟩
    · rw [List.take_append_of_le_length hpos]
      exact hrs
    · intro q hq
      obtain ⟨i, hi, hr⟩ := hnext q hq
      exact ⟨i, getElem?_append_of_some hi _, hr⟩

omit [DecidableEq κ] in
/-- **Working** on a job changes how far it is. -/
theorem work (h : Tracks N progress result s jobs pos) {w : ω} {k : κ} {p p' : π}
    (hw : s.held w = some (k, p)) (hp : ∀ j, progress j p → progress j p') :
    Tracks N progress result (s.work w k p') jobs pos where
  index_eq := h.index_eq
  pos_eq := h.pos_eq
  pos_le := h.pos_le
  window := h.window
  held := by
    intro w' k' p₁ hk
    rcases Lookup.update_some.mp hk with ⟨-, he⟩ | ⟨-, hold⟩
    · obtain ⟨rfl, rfl⟩ := Prod.mk.inj he
      obtain ⟨hb, t, j, ht, hj, hn, hpr⟩ := h.held _ _ _ hw
      exact ⟨hb, t, j, ht, hj, hn, hp j hpr⟩
    · exact h.held _ _ _ hold
  apart := by
    intro w₁ w₂ k' p₁ p₂ h₁ h₂
    rcases Lookup.update_some.mp h₁ with ⟨he₁, hk₁⟩ | ⟨-, hold₁⟩
    · rcases Lookup.update_some.mp h₂ with ⟨he₂, -⟩ | ⟨-, hold₂⟩
      · exact he₁.trans he₂.symm
      · obtain ⟨rfl, -⟩ := Prod.mk.inj hk₁
        exact he₁.trans (h.apart _ _ _ _ _ hw hold₂)
    · rcases Lookup.update_some.mp h₂ with ⟨he₂, hk₂⟩ | ⟨-, hold₂⟩
      · obtain ⟨rfl, -⟩ := Prod.mk.inj hk₂
        exact (h.apart _ _ _ _ _ hold₁ hw).trans he₂.symm
      · exact h.apart _ _ _ _ _ hold₁ hold₂
  back := h.back
  waiting := by
    intro t ht hlt
    rcases h.waiting t ht hlt with hb | ⟨w', p₁, hw'⟩
    · exact .inl hb
    · refine .inr ?_
      by_cases he : w' = w
      · subst he
        obtain ⟨rfl, -⟩ := Prod.mk.inj (Option.some.inj (hw.symm.trans hw'))
        exact ⟨w', p', Function.update_self ..⟩
      · exact ⟨w', p₁, (Function.update_of_ne he ..).trans hw'⟩
  handed := h.handed

/-- **A result that comes back** finds its number free. -/
theorem post (h : Tracks N progress result s jobs pos) {w : ω} {k : κ} {p : π} {q : List β}
    (hw : s.held w = some (k, p)) (hp : ∀ j, progress j p → result j q) :
    Tracks N progress result (s.post w k q) jobs pos := by
  obtain ⟨hfree, t₀, j₀, ht₀, hj₀, hk₀, hpr₀⟩ := h.held _ _ _ hw
  have hlt₀ := lt_length_of_getElem? hj₀
  have hinsert : insertNew s.back k q = Function.update s.back k (some q) := by
    unfold insertNew
    rw [hfree]
    rfl
  have hother : ∀ {w' k' p'}, w' ≠ w → s.held w' = some (k', p') → k' ≠ k := by
    intro w' k' p' hne hw' he
    subst he
    exact hne (h.apart _ _ _ _ _ hw' hw)
  unfold Tickets.post
  rw [hinsert]
  refine ⟨h.index_eq, h.pos_eq, h.pos_le, h.window, ?_, ?_, ?_, ?_, ?_⟩
  · intro w' k' p' hk
    obtain ⟨hne, hold⟩ := Lookup.update_none.mp hk
    obtain ⟨hb, hrest⟩ := h.held _ _ _ hold
    exact ⟨(Function.update_of_ne (hother hne hold) ..).trans hb, hrest⟩
  · intro w₁ w₂ k' p₁ p₂ h₁ h₂
    exact h.apart _ _ _ _ _ (Lookup.update_none.mp h₁).2 (Lookup.update_none.mp h₂).2
  · intro k' q' hk
    rcases Lookup.update_some.mp hk with ⟨rfl, rfl⟩ | ⟨-, hold⟩
    · exact ⟨t₀, j₀, ht₀, hj₀, hk₀, fun _ => hp j₀ hpr₀⟩
    · exact h.back _ _ hold
  · intro t ht hlt
    by_cases he : N.ticket t = k
    · left
      show (Function.update s.back k (some q) (N.ticket t)).isSome
      rw [he, Function.update_self]
      rfl
    · rcases h.waiting t ht hlt with hb | ⟨w', p', hw'⟩
      · left
        show (Function.update s.back k (some q) (N.ticket t)).isSome
        rw [Function.update_of_ne he]
        exact hb
      · refine .inr ⟨w', p', ?_⟩
        have hne : w' ≠ w := by
          intro heq
          rw [heq, hw] at hw'
          exact he (Prod.mk.inj (Option.some.inj hw')).1.symm
        exact (Function.update_of_ne hne ..).trans hw'
  · obtain ⟨rs, cur, hrs, hh, hnext, hcur⟩ := h.handed
    by_cases he : s.pos = k
    · -- the result that was waited for: nothing of it was handed on
      have hnil : cur = [] := hcur (he ▸ hfree)
      subst hnil
      refine ⟨rs, [], hrs, hh, ?_, fun _ => rfl⟩
      intro q' hq'
      rcases Lookup.update_some.mp hq' with ⟨-, rfl⟩ | ⟨hne, -⟩
      · have hpos : t₀ = pos := by
          have hticket : N.ticket t₀ = N.ticket pos := by rw [← hk₀, ← he, h.pos_eq]
          exact h.ticket_eq ht₀ (Nat.le_refl pos) hlt₀ (by omega) hticket
        exact ⟨j₀, hpos ▸ hj₀, hp j₀ hpr₀⟩
      · exact absurd he hne
    · refine ⟨rs, cur, hrs, hh, ?_, ?_⟩
      · intro q' hq'
        exact hnext q' ((Function.update_of_ne he ..).symm.trans hq')
      · intro hnone
        exact hcur ((Function.update_of_ne he ..).symm.trans hnone)

omit [DecidableEq ω] in
/-- **Handing on** the result that was waited for is done with its job. -/
theorem emit (h : Tracks N progress result s jobs pos) {q : List β}
    (hq : s.back s.pos = some q) : Tracks N progress result (s.emit N q) jobs (pos + 1) := by
  have hlt := h.back_pos hq
  have hwindow := h.window
  have hothers : ∀ {k t : _}, k ≠ s.pos → pos ≤ t → k = N.ticket t → pos + 1 ≤ t := by
    intro k t hne ht hk
    have hne' : t ≠ pos := by
      rintro rfl
      exact hne (hk.trans h.pos_eq.symm)
    omega
  refine ⟨h.index_eq, ?_, hlt, ?_, ?_, ?_, ?_, ?_, ?_⟩
  · show N.succ s.pos = N.ticket (pos + 1)
    rw [N.ticket_succ, h.pos_eq]
  · omega
  · intro w k p hw
    obtain ⟨hb, t, j, ht, hj, hk, hpr⟩ := h.held _ _ _ hw
    have hne : k ≠ s.pos := by
      rintro rfl
      rw [hq] at hb
      cases hb
    exact ⟨(Function.update_of_ne hne ..).trans hb, t, j, hothers hne ht hk, hj, hk, hpr⟩
  · exact h.apart
  · intro k q' hk
    obtain ⟨hne, hold⟩ := Lookup.update_none.mp hk
    obtain ⟨t, j, ht, hj, hn, hr⟩ := h.back _ _ hold
    have ht' := hothers hne ht hn
    exact ⟨t, j, ht', hj, hn, fun _ => hr (by omega)⟩
  · intro t ht hlt'
    have hne : N.ticket t ≠ s.pos := by
      intro he
      have heq := h.ticket_eq (by omega) (Nat.le_refl pos) hlt' hlt (he.trans h.pos_eq)
      omega
    rcases h.waiting t (by omega) hlt' with hb | hw
    · left
      show (Function.update s.back s.pos none (N.ticket t)).isSome
      rw [Function.update_of_ne hne]
      exact hb
    · exact .inr hw
  · obtain ⟨rs, cur, hrs, hh, hnext, -⟩ := h.handed
    obtain ⟨j, hj, hr⟩ := hnext q hq
    refine ⟨rs ++ [cur ++ q], [], ?_, ?_, ?_, fun _ => rfl⟩
    · rw [List.take_add_one, hj]
      exact List.rel_append hrs (.cons hr .nil)
    · show s.handed ++ q = _
      rw [hh]
      simp
    · -- what waits under the number after it is the whole result of the job after it
      intro q' hq'
      obtain ⟨hne, hold⟩ := Lookup.update_none.mp hq'
      obtain ⟨t, i, ht, hi, hn, hr'⟩ := h.back _ _ hold
      have ht' := hothers hne ht hn
      have hlt' := lt_length_of_getElem? hi
      have heq : t = pos + 1 := by
        refine N.ticket_inj ht' (Nat.le_refl (pos + 1)) (by omega) (by omega) ?_
        rw [← hn, N.ticket_succ, ← h.pos_eq]
        rfl
      subst heq
      exact ⟨i, hi, hr' (by omega)⟩

omit [DecidableEq ω] in
/-- **Handing on the first** of a result leaves the rest, and is done with the job at its last. -/
theorem emitOne (h : Tracks N progress result s jobs pos) {b : β} {q : List β}
    (hq : s.back s.pos = some (b :: q)) :
    Tracks N progress result (s.emitOne N b q) jobs (if q.isEmpty then pos + 1 else pos) := by
  unfold Tickets.emitOne
  cases q with
  | nil => exact h.emit hq
  | cons c q =>
      refine ⟨h.index_eq, h.pos_eq, h.pos_le, h.window, ?_, h.apart, ?_, ?_, ?_⟩
      · intro w k p hw
        obtain ⟨hb, hrest⟩ := h.held _ _ _ hw
        have hne : k ≠ s.pos := by
          rintro rfl
          rw [hq] at hb
          cases hb
        exact ⟨(Function.update_of_ne hne ..).trans hb, hrest⟩
      · intro k q' hk
        rcases Lookup.update_some.mp hk with ⟨rfl, -⟩ | ⟨-, hold⟩
        · obtain ⟨t, j, ht, hj, hn, -⟩ := h.back _ _ hq
          have hlt := lt_length_of_getElem? hj
          have heq : t = pos :=
            h.ticket_eq ht (Nat.le_refl pos) hlt (by omega) (hn.symm.trans h.pos_eq)
          exact ⟨t, j, ht, hj, hn, fun hne => absurd heq hne⟩
        · exact h.back _ _ hold
      · intro t ht hlt
        rcases h.waiting t ht hlt with hb | hw
        · left
          show (Function.update s.back s.pos (some (c :: q)) (N.ticket t)).isSome
          by_cases he : N.ticket t = s.pos
          · rw [he, Function.update_self]
            rfl
          · rw [Function.update_of_ne he]
            exact hb
        · exact .inr hw
      · obtain ⟨rs, cur, hrs, hh, hnext, -⟩ := h.handed
        refine ⟨rs, cur ++ [b], hrs, ?_, ?_, ?_⟩
        · show s.handed ++ [b] = _
          rw [hh, List.append_assoc]
        · intro q' hq'
          have hself : Function.update s.back s.pos (some (c :: q)) s.pos = some q' := hq'
          rw [Function.update_self] at hself
          obtain rfl : c :: q = q' := Option.some.inj hself
          obtain ⟨j, hj, hr⟩ := hnext _ hq
          refine ⟨j, hj, ?_⟩
          rw [List.append_assoc]
          exact hr
        · intro hnone
          have hself : Function.update s.back s.pos (some (c :: q)) s.pos = none := hnone
          rw [Function.update_self] at hself
          cases hself

/-! ## §5. Order. -/

omit [DecidableEq κ] [DecidableEq ω] in
/-- **In order**: what was handed on is the beginning of the results of the first jobs. -/
theorem in_order (h : Tracks N progress result s jobs pos) :
    ∃ rs, rs.length ≤ jobs.length ∧ List.Forall₂ result (jobs.take rs.length) rs ∧
      s.handed <+: rs.flatten := by
  obtain ⟨rs, cur, hrs, hh, hnext, hcur⟩ := h.handed
  have hpos := h.pos_le
  have hlen : rs.length = pos := by
    rw [← hrs.length_eq, List.length_take]
    omega
  cases hq : s.back s.pos with
  | none =>
      refine ⟨rs, by omega, hlen ▸ hrs, ?_⟩
      have hall : s.handed = rs.flatten := by rw [hh, hcur hq, List.append_nil]
      exact hall ▸ List.prefix_refl _
  | some q =>
      obtain ⟨j, hj, hr⟩ := hnext q hq
      have hlt := lt_length_of_getElem? hj
      have hlen' : (rs ++ [cur ++ q]).length = pos + 1 := by rw [List.length_append, hlen]; rfl
      refine ⟨rs ++ [cur ++ q], by omega, ?_, q, ?_⟩
      · rw [hlen', List.take_add_one, hj]
        exact List.rel_append hrs (.cons hr .nil)
      · rw [hh]
        simp

omit [DecidableEq κ] [DecidableEq ω] in
/-- **Everything**: with nothing held and nothing waiting, all results were handed on. -/
theorem all_handed (h : Tracks N progress result s jobs pos) (hheld : ∀ w, s.held w = none)
    (hback : ∀ k, s.back k = none) :
    ∃ rs, List.Forall₂ result jobs rs ∧ s.handed = rs.flatten := by
  have hpos := h.pos_le
  have hall : pos = jobs.length := by
    by_contra hne
    rcases h.waiting pos (Nat.le_refl pos) (by omega) with hb | ⟨w, p, hw⟩
    · rw [hback] at hb
      cases hb
    · rw [hheld] at hw
      cases hw
  obtain ⟨rs, cur, hrs, hh, -, hcur⟩ := h.handed
  refine ⟨rs, ?_, ?_⟩
  · rw [hall, List.take_length] at hrs
    exact hrs
  · rw [hh, hcur (hback _), List.append_nil]

omit [DecidableEq κ] [DecidableEq ω] in
/-- **Nobody waits for nothing**: as long as a job is not done with, the number that is waited for
came back or is held. -/
theorem next_is_held (h : Tracks N progress result s jobs pos) (hlt : pos < jobs.length) :
    s.back s.pos ≠ none ∨ ∃ w p, s.held w = some (s.pos, p) := by
  rcases h.waiting pos (Nat.le_refl pos) hlt with hb | ⟨w, p, hw⟩
  · left
    rw [h.pos_eq]
    exact Option.isSome_iff_ne_none.mp hb
  · exact .inr ⟨w, p, h.pos_eq ▸ hw⟩

omit [DecidableEq κ] [DecidableEq ω] in
/-- With all jobs done with, nothing is held and nothing waits. -/
theorem nothing_out (h : Tracks N progress result s jobs pos) (hall : jobs.length ≤ pos) :
    (∀ w, s.held w = none) ∧ ∀ k, s.back k = none := by
  constructor
  · intro w
    rw [Option.eq_none_iff_forall_ne_some]
    rintro ⟨k, p⟩ hp
    obtain ⟨-, t, j, ht, hj, -, -⟩ := h.held _ _ _ hp
    have hlt := lt_length_of_getElem? hj
    omega
  · intro k
    rw [Option.eq_none_iff_forall_ne_some]
    intro q hq
    obtain ⟨t, j, ht, hj, -, -⟩ := h.back _ _ hq
    have hlt := lt_length_of_getElem? hj
    omega

end Tracks

end Tickets
