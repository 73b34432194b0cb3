/-
  Steppingstone.Lib.HighWater — numbers that must not come again after a restart.

  A counter is kept in memory, and only a mark above it survives: the numbers up to the mark are
  leased at once, and a restart begins at the mark, whatever was not handed out of the lease.
-/
import Mathlib.Data.List.Pairwise
import Mathlib.Tactic.Common

/-- The numbers are handed out up to the limit; the mark is what survives. -/
structure HighWater where
  index : Nat
  limit : Nat
  mark : Nat
  issued : List Nat

namespace HighWater

/-- The next number. -/
def issue (h : HighWater) : HighWater :=
  { h with index := h.index + 1, issued := h.issued ++ [h.index + 1] }

/-- The mark is moved first. -/
def lease (h : HighWater) (n : Nat) : HighWater :=
  { h with limit := h.limit + n, mark := h.limit + n }

/-- What is left of the lease is lost. -/
def restart (h : HighWater) : HighWater :=
  { h with index := h.mark, limit := h.mark }

/-- The numbers increase, and none was handed out above the counter, nor one above the mark. -/
structure Sound (h : HighWater) : Prop where
  index_le : h.index ≤ h.limit
  limit_le : h.limit ≤ h.mark
  issued_le : ∀ n ∈ h.issued, n ≤ h.index
  increasing : h.issued.Pairwise (· < ·)

variable {h : HighWater}

/-- A number below the limit can be issued. -/
theorem Sound.issue (hs : h.Sound) (hroom : h.index < h.limit) : h.issue.Sound where
  index_le := hroom
  limit_le := hs.limit_le
  issued_le := by
    intro n hn
    obtain hn | hn := List.mem_append.mp hn
    · exact Nat.le_succ_of_le (hs.issued_le n hn)
    · exact Nat.le_of_eq (List.mem_singleton.mp hn)
  increasing := by
    refine List.pairwise_append.mpr ⟨hs.increasing, List.pairwise_singleton _ _, ?_⟩
    intro m hm n hn
    rw [List.mem_singleton.mp hn]
    exact Nat.lt_succ_of_le (hs.issued_le m hm)

/-- The limit can be raised at any time. -/
theorem Sound.lease (hs : h.Sound) (n : Nat) : (h.lease n).Sound where
  index_le := Nat.le_trans hs.index_le (Nat.le_add_right _ n)
  limit_le := Nat.le_refl _
  issued_le := hs.issued_le
  increasing := hs.increasing

/-- A restart begins at the limit that was stored. -/
theorem Sound.restart (hs : h.Sound) : h.restart.Sound where
  index_le := Nat.le_refl _
  limit_le := Nat.le_refl _
  issued_le := fun n hn =>
    Nat.le_trans (hs.issued_le n hn) (Nat.le_trans hs.index_le hs.limit_le)
  increasing := hs.increasing

/-! ## Several counters. -/

/-- Each key's entries are in order exactly when any two entries of one key are. -/
theorem pairwise_filter {κ α : Type*} [DecidableEq κ] {R : α → α → Prop} {l : List (κ × α)} :
    (∀ k, ((l.filter (·.1 = k)).map (·.2)).Pairwise R)
      ↔ l.Pairwise (fun a b => a.1 = b.1 → R a.2 b.2) := by
  induction l with
  | nil => simp
  | cons a l ih =>
      rw [List.pairwise_cons, ← ih]
      constructor
      · intro hall
        refine ⟨?_, ?_⟩
        · intro b hb hab
          have ha := hall a.1
          rw [List.filter_cons_of_pos (by simp), List.map_cons, List.pairwise_cons] at ha
          refine ha.1 b.2 (List.mem_map_of_mem (List.mem_filter.mpr ⟨hb, ?_⟩))
          exact decide_eq_true hab.symm
        · intro k
          refine (hall k).sublist (List.Sublist.map _ (List.Sublist.filter _ ?_))
          exact List.sublist_cons_self a l
      · rintro ⟨hhead, htail⟩ k
        by_cases hk : a.1 = k
        · rw [List.filter_cons_of_pos (by simpa using hk), List.map_cons, List.pairwise_cons]
          refine ⟨?_, htail k⟩
          intro x hx
          obtain ⟨b, hb, rfl⟩ := List.mem_map.mp hx
          obtain ⟨hb, hbk⟩ := List.mem_filter.mp hb
          exact hhead b hb (hk.trans (of_decide_eq_true hbk).symm)
        · rw [List.filter_cons_of_neg (by simpa using hk)]
          exact htail k

end HighWater
