/-
  Steppingstone.Dbc.Text — the text of a config table: integers, cells and lines.

  Says what a text of that form is, and that the loader takes it apart again: `atoi` reads the
  integer, splitting at the tabs gives the cells, and the loop over the memory meets the lines.
-/
import Mathlib.Data.Nat.Digits.Defs
import Mathlib.Tactic.Ring
import Steppingstone.Dbc.Model

namespace Steppingstone.Dbc

/-! ## §1. Integers. -/

/-- An integer without its sign. -/
def magnitude : Bytes → Bytes
  | 45 :: digits => digits
  | 43 :: digits => digits
  | digits => digits

/-- The integer that a text writes; 0 for the empty text. -/
def intValue (text : Bytes) : Int :=
  let value : Nat := Nat.ofDigits 10 ((magnitude text).reverse.map fun d => d.toNat - 48)
  if text.head? = some 45 then -(value : Int) else value

/-- The text is an integer in the range of `int`: a sign or none, and digits. -/
def IsInt (text : Bytes) : Prop :=
  magnitude text ≠ [] ∧ (∀ d ∈ magnitude text, isDigit d = true) ∧
    -2147483648 ≤ intValue text ∧ intValue text ≤ 2147483647

instance (text : Bytes) : Decidable (IsInt text) :=
  decidable_of_iff ((magnitude text).isEmpty = false ∧ (magnitude text).all isDigit = true ∧
    -2147483648 ≤ intValue text ∧ intValue text ≤ 2147483647) (by
      rw [List.all_eq_true, List.isEmpty_eq_false_iff]
      rfl)

theorem foldl_digits (digits : Bytes) (n : Nat) :
    digits.foldl (fun n d => n * 10 + (d.toNat - 48)) n
      = n * 10 ^ digits.length + Nat.ofDigits 10 (digits.reverse.map fun d => d.toNat - 48) := by
  induction digits generalizing n with
  | nil => simp
  | cons d digits ih =>
      rw [List.foldl_cons, ih, List.reverse_cons, List.map_append, Nat.ofDigits_append,
        List.map_singleton, Nat.ofDigits_singleton, List.length_map, List.length_reverse,
        List.length_cons]
      ring

/-- The value of digits, in Mathlib's terms. -/
theorem digitsValue_eq (digits : Bytes) :
    digitsValue digits = Nat.ofDigits 10 (digits.reverse.map fun d => d.toNat - 48) := by
  unfold digitsValue
  rw [foldl_digits, Nat.zero_mul, Nat.zero_add]

/-- Digits are read to their end. -/
theorem takeWhile_digits {digits : Bytes} (h : ∀ d ∈ digits, isDigit d = true) :
    digits.takeWhile isDigit = digits := by
  have happ : (digits ++ []).takeWhile isDigit = digits ++ [].takeWhile isDigit :=
    List.takeWhile_append_of_pos h
  rwa [List.append_nil, List.takeWhile_nil, List.append_nil] at happ

theorem not_space_of_digit {c : UInt8} (h : isDigit c = true) : ¬ isSpace c = true := by
  simp only [isDigit, isSpace, Bool.and_eq_true, Bool.or_eq_true, decide_eq_true_eq,
    UInt8.le_iff_toNat_le, ← UInt8.toNat_inj] at h ⊢
  have h9 : (9 : UInt8).toNat = 9 := rfl
  have h13 : (13 : UInt8).toNat = 13 := rfl
  have h32 : (32 : UInt8).toNat = 32 := rfl
  have h48 : (48 : UInt8).toNat = 48 := rfl
  omega

theorem magnitude_cons (c : UInt8) (rest : Bytes) :
    magnitude (c :: rest) = if c = 45 ∨ c = 43 then rest else c :: rest := by
  unfold magnitude
  split
  · rename_i he
    injection he with hc hrest
    rw [if_pos (.inl hc), hrest]
  · rename_i he
    injection he with hc hrest
    rw [if_pos (.inr hc), hrest]
  · rename_i h45 h43
    rw [if_neg]
    rintro (hc | hc)
    · exact h45 rest (by rw [hc])
    · exact h43 rest (by rw [hc])

/-- The first char of an integer is a sign or a digit. -/
theorem IsInt.head {text : Bytes} (h : IsInt text) :
    ∃ c rest, text = c :: rest ∧ (c = 45 ∨ c = 43 ∨ isDigit c = true) := by
  cases text with
  | nil => exact absurd rfl h.1
  | cons c rest =>
      refine ⟨c, rest, rfl, ?_⟩
      by_cases hsign : c = 45 ∨ c = 43
      · exact hsign.elim .inl fun hc => .inr (.inl hc)
      · have hc := h.2.1 c
        rw [magnitude_cons, if_neg hsign] at hc
        exact .inr (.inr (hc List.mem_cons_self))

/-- `atoi` of a text without blanks before it. -/
theorem atoi_eq_magnitude {text : Bytes} (hspace : text.dropWhile isSpace = text) :
    atoi text = (if text.head? = some 45
      then -(digitsValue ((magnitude text).takeWhile isDigit) : Int)
      else digitsValue ((magnitude text).takeWhile isDigit)).bmod 4294967296 := by
  unfold atoi
  rw [hspace]
  split
  · rfl
  · rfl
  · rename_i h45 h43
    cases text with
    | nil => rfl
    | cons c rest =>
        have hc45 : ¬ c = 45 := fun hc => h45 rest (by rw [hc])
        have hc43 : ¬ c = 43 := fun hc => h43 rest (by rw [hc])
        have hhead : ¬ (c :: rest).head? = some 45 := fun hc => hc45 (Option.some.inj hc)
        rw [if_neg hhead, magnitude_cons, if_neg (by simp [hc45, hc43])]

/-- **An integer is read.** -/
theorem atoi_eq {text : Bytes} (h : IsInt text) : atoi text = intValue text := by
  obtain ⟨c, rest, htext, hc⟩ := h.head
  -- nothing is skipped, and all digits are taken
  have hspace : text.dropWhile isSpace = text := by
    rw [htext]
    apply List.dropWhile_cons_of_neg
    obtain hc | hc | hc := hc
    · rw [hc]; decide
    · rw [hc]; decide
    · exact not_space_of_digit hc
  have hlow := h.2.2.1
  have hhigh := h.2.2.2
  rw [atoi_eq_magnitude hspace, takeWhile_digits h.2.1, digitsValue_eq]
  show (intValue text).bmod 4294967296 = intValue text
  exact Int.bmod_eq_of_le (by omega) (by omega)

/-! ## §2. Cells. -/

/-- A cell has no tab, no line end and no NUL. -/
def CellText (cell : Bytes) : Prop :=
  ∀ c ∈ cell, c ≠ 9 ∧ c ≠ 0 ∧ isLineEnd c = false

instance (cell : Bytes) : Decidable (CellText cell) :=
  decidable_of_iff (cell.all (fun c => c ≠ 9 ∧ c ≠ 0 ∧ isLineEnd c = false) = true) (by
    simp only [List.all_eq_true, decide_eq_true_eq]
    rfl)

/-- Cells in one line. -/
def joinCells (cells : List Bytes) : Bytes := [9].intercalate cells

/-- A line is split at its tabs. -/
theorem splitItems_eq (strSrc : Bytes) : splitItems [9] strSrc = strSrc.splitOn 9 := by
  fun_induction splitItems [9] strSrc with
  | case1 strSrc h =>
      have hnot : 9 ∉ strSrc := by
        intro hmem
        have := List.findIdx?_eq_none_iff.mp h 9 hmem
        simp at this
      rw [List.splitOn_eq_singleton hnot]
  | case2 strSrc nRight h ih =>
      -- the first tab is at `nRight`: there is none before it
      have hidx := List.findIdx?_eq_some_iff_getElem.mp h
      obtain ⟨hlt, hat, hbefore⟩ := hidx
      have hkey : strSrc[nRight] = 9 := by simpa using hat
      have hnot : 9 ∉ strSrc.take nRight := by
        intro hmem
        obtain ⟨i, hi, hat⟩ := List.mem_take_iff_getElem.mp hmem
        have := hbefore i (by omega)
        rw [hat] at this
        simp at this
      have hsplit : strSrc = strSrc.take nRight ++ 9 :: strSrc.drop (nRight + 1) := by
        rw [← hkey, List.getElem_cons_drop, List.take_append_drop]
      rw [ih]
      conv_rhs => rw [hsplit]
      rw [List.splitOn_append_cons_self_of_not_mem hnot]

/-- **The cells of a line come back**; where empty ones are left out, if there is none. -/
theorem convertStringToVector_join {cells : List Bytes} (hne : joinCells cells ≠ [])
    (htab : ∀ cell ∈ cells, 9 ∉ cell) {bIgnoreEmpty : Bool}
    (hempty : bIgnoreEmpty = true → ∀ cell ∈ cells, cell ≠ []) :
    convertStringToVector (joinCells cells) [9] bIgnoreEmpty = cells := by
  have hcells : cells ≠ [] := by
    intro he
    rw [he] at hne
    exact hne rfl
  unfold convertStringToVector
  rw [if_neg hne, splitItems_eq]
  unfold joinCells
  rw [List.splitOn_intercalate 9 htab hcells, List.filter_eq_self]
  intro cell hcell
  apply decide_eq_true
  by_cases hb : bIgnoreEmpty = true
  · exact .inl (hempty hb cell hcell)
  · exact .inr hb

/-! ## §3. Lines. -/

/-- A line has a char, fits into the buffer, and has no line end and no NUL. -/
def LineText (line : Bytes) : Prop :=
  line ≠ [] ∧ line.length < 10240 ∧ ∀ c ∈ line, c ≠ 0 ∧ isLineEnd c = false

instance (line : Bytes) : Decidable (LineText line) :=
  decidable_of_iff (line.isEmpty = false ∧ line.length < 10240 ∧
    line.all (fun c => c ≠ 0 ∧ isLineEnd c = false) = true) (by
      simp only [List.all_eq_true, decide_eq_true_eq, List.isEmpty_eq_false_iff]
      rfl)

/-- A text with these lines: after each but the last, one line end or more. -/
inductive LaidOut : List Bytes → Bytes → Prop where
  | nil : LaidOut [] []
  | last (line ends : Bytes) (hline : LineText line) (hends : ∀ c ∈ ends, isLineEnd c = true) :
      LaidOut [line] (line ++ ends)
  | cons (line ends : Bytes) (lines : List Bytes) (text : Bytes) (hline : LineText line)
      (hne : ends ≠ []) (hends : ∀ c ∈ ends, isLineEnd c = true) (hlines : LaidOut lines text) :
      LaidOut (line :: lines) (line ++ (ends ++ text))

/-- What stands behind a text: the end of the memory, or a NUL. -/
def Ended (tail : Bytes) : Prop := tail.head? = none ∨ tail.head? = some 0

theorem isLineEnd_zero : isLineEnd 0 = false := by decide

/-- A line begins with a char that is no line end and no NUL. -/
theorem LineText.head {line : Bytes} (h : LineText line) (rest : Bytes) :
    ∃ c, (line ++ rest).head? = some c ∧ c ≠ 0 ∧ isLineEnd c = false := by
  obtain ⟨c, cs, hc⟩ := List.exists_cons_of_ne_nil h.1
  subst hc
  exact ⟨c, rfl, h.2.2 c List.mem_cons_self⟩

theorem Ended.head {tail : Bytes} (h : Ended tail) {c : UInt8} (hc : tail.head? = some c) :
    c = 0 := by
  obtain hnone | hzero := h
  · exact absurd (hnone.symm.trans hc) (by simp)
  · exact (Option.some.inj (hzero.symm.trans hc)).symm

/-- After its lines a text goes on with no line end. -/
theorem LaidOut.head {lines : List Bytes} {text : Bytes} (h : LaidOut lines text) {tail : Bytes}
    (htail : Ended tail) {c : UInt8} (hc : (text ++ tail).head? = some c) :
    isLineEnd c = false := by
  have hline : ∀ {line rest : Bytes}, LineText line → (line ++ rest).head? = some c →
      isLineEnd c = false := by
    intro line rest hline hc
    obtain ⟨d, hd, _, hend⟩ := hline.head rest
    rw [← Option.some.inj (hd.symm.trans hc)]
    exact hend
  cases h with
  | nil =>
      rw [htail.head hc]
      exact isLineEnd_zero
  | last line ends hfirst hends =>
      rw [List.append_assoc] at hc
      exact hline hfirst hc
  | cons line ends lines text hfirst hne hends hlines =>
      rw [List.append_assoc] at hc
      exact hline hfirst hc

/-- The ends of a line are skipped. -/
theorem dropWhile_lineEnds {ends rest : Bytes} (hends : ∀ c ∈ ends, isLineEnd c = true)
    (hrest : ∀ c, rest.head? = some c → isLineEnd c = false) :
    (ends ++ rest).dropWhile isLineEnd = rest := by
  rw [List.dropWhile_append_of_pos hends]
  cases rest with
  | nil => rfl
  | cons c rest =>
      apply List.dropWhile_cons_of_neg
      rw [hrest c rfl]
      exact Bool.false_ne_true

/-- Behind a line the copying stops: at its end, or at the end of the memory. -/
theorem takeWhile_stopped {ends rest : Bytes} (hends : ∀ c ∈ ends, isLineEnd c = true)
    (hstop : ends = [] → Ended rest) (n : Nat) :
    ((ends ++ rest).take n).takeWhile (fun c => c ≠ 0 && !isLineEnd c) = [] := by
  have hhead : ∀ c, (ends ++ rest).head? = some c → c = 0 ∨ isLineEnd c = true := by
    intro c hc
    cases ends with
    | nil => exact .inl ((hstop rfl).head hc)
    | cons d ends =>
        rw [← Option.some.inj hc]
        exact .inr (hends d List.mem_cons_self)
  cases hafter : (ends ++ rest).take n with
  | nil => rfl
  | cons c after =>
      have hc : (ends ++ rest).head? = some c :=
        List.head?_eq_some_iff.mpr ⟨after ++ (ends ++ rest).drop n, by
          rw [← List.cons_append, ← hafter, List.take_append_drop]⟩
      apply List.takeWhile_cons_of_neg
      obtain hzero | hend := hhead c hc
      · simp [hzero]
      · simp [hend]

/-- **A line is read**, with the line ends after it. -/
theorem getLineFromMemory_line {line ends rest : Bytes} (hline : LineText line)
    (hends : ∀ c ∈ ends, isLineEnd c = true)
    (hrest : ∀ c, rest.head? = some c → isLineEnd c = false) (hstop : ends = [] → Ended rest) :
    getLineFromMemory 10240 (line ++ (ends ++ rest)) = some (line, rest) := by
  have hhead : ¬ ((line ++ (ends ++ rest)).head? = none ∨
      (line ++ (ends ++ rest)).head? = some 0) := by
    obtain ⟨c, hc, hzero, _⟩ := hline.head (ends ++ rest)
    rw [hc]
    simp [hzero]
  obtain ⟨_, hlength, hchars⟩ := hline
  -- the buffer takes the whole line, as it is shorter
  have htake : ((line ++ (ends ++ rest)).take (10240 - 1)).takeWhile
      (fun c => c ≠ 0 && !isLineEnd c) = line := by
    rw [List.take_append, List.take_of_length_le (by omega), List.takeWhile_append_of_pos,
      takeWhile_stopped hends hstop, List.append_nil]
    intro c hc
    simp [hchars c hc]
  unfold getLineFromMemory
  rw [if_neg hhead]
  simp only [htake, List.drop_left, dropWhile_lineEnds hends hrest]

/-- **The first line of a text is read**, and the others stay. -/
theorem LaidOut.getLine {line : Bytes} {lines : List Bytes} {text tail : Bytes}
    (h : LaidOut (line :: lines) text) (htail : Ended tail) :
    ∃ text', LaidOut lines text' ∧
      getLineFromMemory 10240 (text ++ tail) = some (line, text' ++ tail) := by
  cases h with
  | last _ ends hline hends =>
      have hstops : ∀ c, tail.head? = some c → isLineEnd c = false := fun c hc =>
        LaidOut.nil.head htail hc
      refine ⟨[], .nil, ?_⟩
      rw [List.append_assoc]
      exact getLineFromMemory_line hline hends hstops fun _ => htail
  | cons _ ends _ text hline hne hends hlines =>
      have hstops : ∀ c, (text ++ tail).head? = some c → isLineEnd c = false := fun c hc =>
        hlines.head htail hc
      refine ⟨text, hlines, ?_⟩
      rw [List.append_assoc, List.append_assoc]
      exact getLineFromMemory_line hline hends hstops fun he => absurd he hne

/-- No line is read behind the end. -/
theorem getLineFromMemory_ended {tail : Bytes} (htail : Ended tail) :
    getLineFromMemory 10240 tail = none := by
  unfold getLineFromMemory
  exact if_pos htail

theorem readRecords_ended (atof : Bytes → UInt32) (vFieldsType : List FieldType) {tail : Bytes}
    (htail : Ended tail) (l : Loading) : readRecords atof vFieldsType tail l = l := by
  rw [readRecords]
  split
  · rfl
  · rename_i hsome
    exact absurd ((getLineFromMemory_ended htail).symm.trans hsome) (by simp)

/-- A line is read, then the others. -/
theorem readRecords_line (atof : Bytes → UInt32) (vFieldsType : List FieldType)
    {mem line rest : Bytes} (hget : getLineFromMemory 10240 mem = some (line, rest))
    (l : Loading) :
    readRecords atof vFieldsType mem l
      = readRecords atof vFieldsType rest (l.readLine atof vFieldsType line) := by
  rw [readRecords]
  split
  · rename_i hnone
    exact absurd (hnone.symm.trans hget) (by simp)
  · rename_i hsome
    have hpair := Option.some.inj (hsome.symm.trans hget)
    rw [(Prod.mk.inj hpair).1, (Prod.mk.inj hpair).2]

/-- **The loop meets each line once, in order.** -/
theorem readRecords_laidOut (atof : Bytes → UInt32) (vFieldsType : List FieldType)
    {lines : List Bytes} {text tail : Bytes} (h : LaidOut lines text) (htail : Ended tail)
    (l : Loading) :
    readRecords atof vFieldsType (text ++ tail) l
      = lines.foldl (fun l line => l.readLine atof vFieldsType line) l := by
  induction lines generalizing text l with
  | nil =>
      cases h
      exact readRecords_ended atof vFieldsType htail l
  | cons line lines ih =>
      obtain ⟨text', hlines, hget⟩ := h.getLine htail
      rw [readRecords_line atof vFieldsType hget, ih hlines]
      rfl

end Steppingstone.Dbc
