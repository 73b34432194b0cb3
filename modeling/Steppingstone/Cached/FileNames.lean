/-
  Steppingstone.Cached.FileNames — the names of the record files (`FileNameGenerator`).

  A name is the local time at which the file was begun.  All its parts have a fixed width, so names
  are ordered as their times are: the tool that converts files by hand sorts the names.
-/
import Mathlib.Data.List.Basic

namespace Steppingstone.Cached

/-! ## §1. The name. -/

/-- `ACE_Date_Time` -/
structure DateTime where
  year : Nat
  month : Nat
  day : Nat
  hour : Nat
  minute : Nat
  second : Nat
  deriving DecidableEq, Repr

/-- `%d` -/
def sprintfD (n : Nat) : List Char := Nat.toDigits 10 n

/-- `%0.2d` -/
def sprintf02d (n : Nat) : List Char := List.replicate (2 - (sprintfD n).length) '0' ++ sprintfD n

/-- `"%d%0.2d%0.2d_%0.2d%0.2d%0.2d.sqlite"` -/
def fileName (ct : DateTime) : List Char :=
  sprintfD ct.year ++ (sprintf02d ct.month ++ (sprintf02d ct.day ++ ('_' ::
    (sprintf02d ct.hour ++ (sprintf02d ct.minute ++ (sprintf02d ct.second ++
      ['.', 's', 'q', 'l', 'i', 't', 'e']))))))

/-! ## §2. The order of times. -/

/-- A year of four digits, and all else of two. -/
structure DateTime.Valid (ct : DateTime) : Prop where
  year : 1000 ≤ ct.year ∧ ct.year < 10000
  month : ct.month < 100
  day : ct.day < 100
  hour : ct.hour < 100
  minute : ct.minute < 100
  second : ct.second < 100

instance (ct : DateTime) : Decidable ct.Valid :=
  decidable_of_iff ((1000 ≤ ct.year ∧ ct.year < 10000) ∧ ct.month < 100 ∧ ct.day < 100 ∧
    ct.hour < 100 ∧ ct.minute < 100 ∧ ct.second < 100) ⟨
      fun ⟨hy, hmo, hd, hh, hmi, hs⟩ => ⟨hy, hmo, hd, hh, hmi, hs⟩,
      fun ⟨hy, hmo, hd, hh, hmi, hs⟩ => ⟨hy, hmo, hd, hh, hmi, hs⟩⟩

/-- A time before another. -/
def DateTime.Before (a b : DateTime) : Prop :=
  a.year < b.year ∨ a.year = b.year ∧ (a.month < b.month ∨ a.month = b.month ∧
    (a.day < b.day ∨ a.day = b.day ∧ (a.hour < b.hour ∨ a.hour = b.hour ∧
      (a.minute < b.minute ∨ a.minute = b.minute ∧ a.second < b.second))))

instance (a b : DateTime) : Decidable (a.Before b) := inferInstanceAs (Decidable (_ ∨ _))

/-! ## §3. Digits. -/

theorem digitChar_lt_iff {i j : Nat} (hi : i < 10) (hj : j < 10) :
    (Nat.digitChar i < Nat.digitChar j ↔ i < j) ∧ (Nat.digitChar i = Nat.digitChar j ↔ i = j) := by
  have hall : ∀ i j : Fin 10, (Nat.digitChar i < Nat.digitChar j ↔ i.val < j.val) ∧
      (Nat.digitChar i = Nat.digitChar j ↔ i.val = j.val) := by decide
  exact hall ⟨i, hi⟩ ⟨j, hj⟩

/-- A number of two digits. -/
def twoDigits (n : Nat) : List Char := [Nat.digitChar (n / 10), Nat.digitChar (n % 10)]

theorem sprintf02d_eq {n : Nat} (hn : n < 100) : sprintf02d n = twoDigits n := by
  unfold sprintf02d sprintfD twoDigits
  by_cases hsmall : n < 10
  · rw [Nat.toDigits_of_lt_base hsmall, Nat.div_eq_of_lt hsmall, Nat.mod_eq_of_lt hsmall]
    rfl
  · have hle : 10 ≤ n := Nat.not_lt.mp hsmall
    rw [Nat.toDigits_of_base_le (by decide) hle,
      Nat.toDigits_of_lt_base (show n / 10 < 10 by omega)]
    rfl

/-- A number of four digits. -/
theorem sprintfD_eq {n : Nat} (hlow : 1000 ≤ n) (hhigh : n < 10000) :
    sprintfD n = twoDigits (n / 100) ++ twoDigits (n % 100) := by
  have h1 : n / 10 / 10 / 10 = n / 100 / 10 := by omega
  have h2 : n / 10 / 10 % 10 = n / 100 % 10 := by omega
  have h3 : n / 10 % 10 = n % 100 / 10 := by omega
  have h4 : n % 10 = n % 100 % 10 := by omega
  unfold sprintfD twoDigits
  rw [Nat.toDigits_of_base_le (by decide) (show 10 ≤ n by omega),
    Nat.toDigits_of_base_le (by decide) (show 10 ≤ n / 10 by omega),
    Nat.toDigits_of_base_le (by decide) (show 10 ≤ n / 10 / 10 by omega),
    Nat.toDigits_of_lt_base (show n / 10 / 10 / 10 < 10 by omega), h1, h2, h3, h4]
  rfl

/-- **Two digits** are compared first. -/
theorem twoDigits_append_lt_iff {m n : Nat} (hm : m < 100) (hn : n < 100) {l l' : List Char} :
    twoDigits m ++ l < twoDigits n ++ l' ↔ m < n ∨ m = n ∧ l < l' := by
  obtain ⟨hlt, heq⟩ := digitChar_lt_iff (show m / 10 < 10 by omega) (show n / 10 < 10 by omega)
  obtain ⟨hlt', heq'⟩ := digitChar_lt_iff (show m % 10 < 10 by omega) (show n % 10 < 10 by omega)
  show Nat.digitChar (m / 10) :: Nat.digitChar (m % 10) :: l
    < Nat.digitChar (n / 10) :: Nat.digitChar (n % 10) :: l' ↔ _
  rw [List.cons_lt_cons_iff, List.cons_lt_cons_iff, hlt, heq, hlt', heq']
  constructor
  · rintro (h | ⟨h, h' | ⟨h', hl⟩⟩)
    · exact .inl (by omega)
    · exact .inl (by omega)
    · exact .inr ⟨by omega, hl⟩
  · rintro (h | ⟨rfl, hl⟩)
    · by_cases hfirst : m / 10 < n / 10
      · exact .inl hfirst
      · exact .inr ⟨by omega, .inl (by omega)⟩
    · exact .inr ⟨rfl, .inr ⟨rfl, hl⟩⟩

/-- **Names are ordered** as the times they are made of. -/
theorem fileName_lt_iff {a b : DateTime} (ha : a.Valid) (hb : b.Valid) :
    fileName a < fileName b ↔ a.Before b := by
  unfold fileName DateTime.Before
  have hunder : ∀ l l' : List Char, '_' :: l < '_' :: l' ↔ l < l' := by
    intro l l'
    rw [List.cons_lt_cons_iff]
    simp
  have hend : ¬ (['.', 's', 'q', 'l', 'i', 't', 'e'] < ['.', 's', 'q', 'l', 'i', 't', 'e']) :=
    by decide
  rw [sprintfD_eq ha.year.1 ha.year.2, sprintfD_eq hb.year.1 hb.year.2,
    sprintf02d_eq ha.month, sprintf02d_eq hb.month, sprintf02d_eq ha.day, sprintf02d_eq hb.day,
    sprintf02d_eq ha.hour, sprintf02d_eq hb.hour, sprintf02d_eq ha.minute, sprintf02d_eq hb.minute,
    sprintf02d_eq ha.second, sprintf02d_eq hb.second, List.append_assoc, List.append_assoc,
    twoDigits_append_lt_iff (by have := ha.year; omega) (by have := hb.year; omega),
    twoDigits_append_lt_iff (Nat.mod_lt _ (by decide)) (Nat.mod_lt _ (by decide)),
    twoDigits_append_lt_iff ha.month hb.month, twoDigits_append_lt_iff ha.day hb.day, hunder,
    twoDigits_append_lt_iff ha.hour hb.hour, twoDigits_append_lt_iff ha.minute hb.minute,
    twoDigits_append_lt_iff ha.second hb.second]
  -- the year is compared in two halves
  have hyear : ∀ P : Prop, (a.year / 100 < b.year / 100 ∨ a.year / 100 = b.year / 100 ∧
      (a.year % 100 < b.year % 100 ∨ a.year % 100 = b.year % 100 ∧ P)) ↔
        (a.year < b.year ∨ a.year = b.year ∧ P) := by
    intro P
    constructor
    · rintro (h | ⟨h, h' | ⟨h', hP⟩⟩)
      · exact .inl (by omega)
      · exact .inl (by omega)
      · exact .inr ⟨by omega, hP⟩
    · rintro (h | ⟨h, hP⟩)
      · by_cases hfirst : a.year / 100 < b.year / 100
        · exact .inl hfirst
        · exact .inr ⟨by omega, .inl (by omega)⟩
      · exact .inr ⟨by omega, .inr ⟨by omega, hP⟩⟩
  rw [hyear]
  simp only [hend, and_false, or_false]

end Steppingstone.Cached
