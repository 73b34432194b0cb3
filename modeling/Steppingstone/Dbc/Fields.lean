/-
  Steppingstone.Dbc.Fields — what the loader's fields stand for.

  A field of an integer column holds the integer of its cell; one of a text column holds the place
  of its cell in the string buffer.  A text that comes later changes no place, so what was read
  stays right.
-/
import Mathlib.Data.List.Forall2
import Steppingstone.Dbc.Text

namespace Steppingstone.Dbc

/-! ## §1. Columns. -/

/-- The type of a column. -/
inductive Column where
  | int
  | string
  deriving DecidableEq, Repr

namespace Column

/-- The field type that the loader takes for the column. -/
def type : Column → FieldType
  | .int => .tInt
  | .string => .tString

/-- The word that stands in the type row. -/
def name : Column → Bytes
  | .int => typeInt
  | .string => typeString

/-- What a cell of the column may be. -/
def Fits : Column → Bytes → Prop
  | .int, cell => cell = [] ∨ IsInt cell
  | .string, cell => CellText cell

instance : (column : Column) → (cell : Bytes) → Decidable (column.Fits cell)
  | .int, cell => decidable_of_iff (cell.isEmpty = true ∨ IsInt cell) (by
      rw [List.isEmpty_iff]
      rfl)
  | .string, cell => inferInstanceAs (Decidable (CellText cell))

theorem fieldType_name (column : Column) : fieldType column.name = column.type := by
  cases column <;> decide

end Column

theorem isDigit_cell {c : UInt8} (h : isDigit c = true) : c ≠ 9 ∧ c ≠ 0 ∧ isLineEnd c = false := by
  have hspace := not_space_of_digit h
  simp only [isSpace, isLineEnd, isDigit, Bool.or_eq_true, Bool.and_eq_true, decide_eq_true_eq,
    Bool.or_eq_false_iff, decide_eq_false_iff_not, not_or] at hspace h ⊢
  refine ⟨?_, ?_, ?_, ?_⟩
  · rintro rfl
    exact hspace.2 (by decide)
  · rintro rfl
    exact absurd h.1 (by decide)
  · rintro rfl
    exact hspace.2 (by decide)
  · rintro rfl
    exact hspace.2 (by decide)

/-- An integer is text of a cell. -/
theorem IsInt.cellText {text : Bytes} (h : IsInt text) : CellText text := by
  obtain ⟨c, rest, htext, _⟩ := h.head
  subst htext
  have hdigits := h.2.1
  rw [magnitude_cons] at hdigits
  intro d hd
  by_cases hsign : c = 45 ∨ c = 43
  · rw [if_pos hsign] at hdigits
    obtain hd | hd := List.mem_cons.mp hd
    · obtain hc | hc := hsign
      · rw [hd, hc]; decide
      · rw [hd, hc]; decide
    · exact isDigit_cell (hdigits d hd)
  · rw [if_neg hsign] at hdigits
    exact isDigit_cell (hdigits d hd)

theorem Column.Fits.cellText {column : Column} {cell : Bytes} (h : column.Fits cell) :
    CellText cell := by
  cases column with
  | int =>
      obtain hnil | hint := h
      · rw [hnil]
        intro c hc
        exact absurd hc (by simp)
      · exact hint.cellText
  | string => exact h

/-! ## §2. Fields while the records are read. -/

/-- A field and its cell, by the texts so far and their offsets. -/
def Holds (vStringBuf : List (Bytes × Nat)) (column : Column) (cell : Bytes) (f : Field) : Prop :=
  f.isempty = decide (cell = []) ∧
    match column with
    | .int => f.value = .iValue (intValue cell)
    | .string => ∃ place : Nat, f.value = .iValue place ∧
        (cell = [] ∧ place = 0 ∨ ∃ o, (cell, o) ∈ vStringBuf ∧ place = o + 1)

/-- More texts change no place. -/
theorem Holds.extend {vStringBuf : List (Bytes × Nat)} {column : Column} {cell : Bytes} {f : Field}
    (h : Holds vStringBuf column cell f) (more : List (Bytes × Nat)) :
    Holds (vStringBuf ++ more) column cell f := by
  refine ⟨h.1, ?_⟩
  cases column with
  | int => exact h.2
  | string =>
      obtain ⟨place, hvalue, hplace⟩ := h.2
      refine ⟨place, hvalue, ?_⟩
      obtain hempty | ⟨o, hmem, ho⟩ := hplace
      · exact .inl hempty
      · exact .inr ⟨o, List.mem_append_left more hmem, ho⟩

namespace Loading

/-- The fields so far stand for these cells, and the strings are where they are said to be. -/
structure Represents (l : Loading) (items : List (Column × Bytes)) : Prop where
  packed : StringPool.Packed 0 l.vStringBuf l.nStringBufSize
  placed : ∀ (cell : Bytes) i, l.mapStringBuf[cell]? = some i →
    ∃ o, l.vStringBuf[i]? = some (cell, o)
  fields : List.Forall₂ (fun e f => Holds l.vStringBuf e.1 e.2 f) items l.vDataBuf

theorem represents_start : Represents { vDataBuf := [] } [] := by
  constructor
  · exact StringPool.Packed.empty 0
  · intro cell i h
    rw [Std.TreeMap.getElem?_emptyc] at h
    exact absurd h (by simp)
  · exact .nil

/-- A field that needs no new text. -/
theorem Represents.pushField {l : Loading} {items : List (Column × Bytes)}
    (h : l.Represents items) {column : Column} {cell : Bytes} {f : Field}
    (hf : Holds l.vStringBuf column cell f) :
    (l.pushField f).Represents (items ++ [(column, cell)]) := by
  constructor
  · exact h.packed
  · exact h.placed
  · exact List.rel_append h.fields (.cons hf .nil)

/-- **A text is pooled**: its field leads to it, and all the others to theirs. -/
theorem Represents.pushText {l : Loading} {items : List (Column × Bytes)}
    (h : l.Represents items) {cell : Bytes} (hne : cell ≠ []) :
    (l.pushText cell).Represents (items ++ [(.string, cell)]) := by
  have hempty : false = decide (cell = []) := (decide_eq_false hne).symm
  unfold Loading.pushText
  cases hfound : l.mapStringBuf[cell]? with
  | some second =>
      -- the text came before, and its entry says where it is
      obtain ⟨o, ho⟩ := h.placed cell second hfound
      apply h.pushField
      refine ⟨hempty, o + 1, ?_, .inr ⟨o, List.mem_of_getElem? ho, rfl⟩⟩
      show FieldValue.iValue ((l.vStringBuf.getD second ([], 0)).2 + 1) = _
      rw [List.getD_eq_getElem?_getD, ho]
      rfl
  | none =>
      constructor
      · exact h.packed.push 0 cell
      · -- the index of the new text is that of the new entry, the others stay
        intro text i hi
        show ∃ o, (l.vStringBuf ++ [(cell, l.nStringBufSize)])[i]? = some (text, o)
        change (l.mapStringBuf.insert cell l.vStringBuf.length)[text]? = some i at hi
        rw [Lookup.getElem?_insert] at hi
        by_cases htext : text = cell
        · rw [if_pos htext] at hi
          rw [← Option.some.inj hi, List.getElem?_concat_length, htext]
          exact ⟨_, rfl⟩
        · rw [if_neg htext] at hi
          obtain ⟨o, ho⟩ := h.placed text i hi
          exact ⟨o, by rw [List.getElem?_append_left (List.getElem?_eq_some_iff.mp ho).1, ho]⟩
      · -- the fields so far keep their texts, the new one gets the last
        have hold := h.fields.imp fun e f hf => Holds.extend hf [(cell, l.nStringBufSize)]
        refine List.rel_append hold (.cons ⟨hempty, l.nStringBufSize + 1, rfl, .inr ?_⟩ .nil)
        exact ⟨l.nStringBufSize, by simp, rfl⟩

/-- **A cell that is read adds its field.** -/
theorem Represents.readCell (atof : Bytes → UInt32) {l : Loading}
    {items : List (Column × Bytes)} (h : l.Represents items) {column : Column} {cell : Bytes}
    (hfits : column.Fits cell) :
    (l.readCell atof column.type cell).Represents (items ++ [(column, cell)]) := by
  unfold Loading.readCell
  by_cases hnil : cell = []
  · -- an empty cell of either type holds 0
    subst hnil
    cases column with
    | int => exact h.pushField ⟨rfl, rfl⟩
    | string => exact h.pushField ⟨rfl, 0, rfl, .inl ⟨rfl, rfl⟩⟩
  · cases column with
    | int =>
        have hint : IsInt cell := hfits.resolve_left hnil
        show (if cell = [] then _ else _ : Loading).Represents _
        rw [if_neg hnil, atoi_eq hint]
        exact h.pushField ⟨(decide_eq_false hnil).symm, rfl⟩
    | string =>
        -- the text goes to the pool
        show (if cell = [] then _ else _ : Loading).Represents _
        rw [if_neg hnil]
        exact h.pushText hnil

theorem nRecordsNum_readCell (atof : Bytes → UInt32) (l : Loading) (type : FieldType)
    (cell : Bytes) : (l.readCell atof type cell).nRecordsNum = l.nRecordsNum := by
  have htext : (l.pushText cell).nRecordsNum = l.nRecordsNum := by
    unfold Loading.pushText
    split <;> rfl
  unfold Loading.readCell
  cases type with
  | tInt => show (if _ then _ else _ : Loading).nRecordsNum = _; split <;> rfl
  | tFloat => show (if _ then _ else _ : Loading).nRecordsNum = _; split <;> rfl
  | tUnknow =>
      show (if _ then _ else _ : Loading).nRecordsNum = _
      split
      · rfl
      · exact htext
  | tString =>
      show (if _ then _ else _ : Loading).nRecordsNum = _
      split
      · rfl
      · exact htext

/-- The cells of a record, one after the other. -/
theorem Represents.readCells (atof : Bytes → UInt32) {columns : List Column} {cells : List Bytes}
    (hfits : List.Forall₂ Column.Fits columns cells) {l : Loading}
    {items : List (Column × Bytes)} (h : l.Represents items) :
    (((columns.map Column.type).zip cells).foldl (fun l e => l.readCell atof e.1 e.2) l).Represents
      (items ++ columns.zip cells) := by
  induction hfits generalizing l items with
  | nil =>
      rw [List.zip_nil_left, List.append_nil]
      exact h
  | @cons column cell columns cells hfit _ ih =>
      rw [List.map_cons, List.zip_cons_cons, List.foldl_cons, List.zip_cons_cons,
        ← List.singleton_append, ← List.append_assoc]
      exact ih (h.readCell atof hfit)

/-- **A record that is read adds its fields.** -/
theorem Represents.readRecord (atof : Bytes → UInt32) {columns : List Column}
    {cells : List Bytes} (hfits : List.Forall₂ Column.Fits columns cells) {l : Loading}
    {items : List (Column × Bytes)} (h : l.Represents items) :
    (l.readRecord atof (columns.map Column.type) cells).Represents
      (items ++ columns.zip cells) := by
  have hcells := h.readCells atof hfits
  exact ⟨hcells.packed, hcells.placed, hcells.fields⟩

theorem nRecordsNum_readRecord (atof : Bytes → UInt32) (vFieldsType : List FieldType)
    (vRet : List Bytes) (l : Loading) :
    (l.readRecord atof vFieldsType vRet).nRecordsNum = l.nRecordsNum + 1 := by
  have hfold : ∀ (es : List (FieldType × Bytes)) (l : Loading),
      (es.foldl (fun l e => l.readCell atof e.1 e.2) l).nRecordsNum = l.nRecordsNum := by
    intro es
    induction es with
    | nil =>
        intro l
        rfl
    | cons e es ih =>
        intro l
        rw [List.foldl_cons, ih, nRecordsNum_readCell]
  show ((vFieldsType.zip vRet).foldl _ l).nRecordsNum + 1 = _
  rw [hfold]

/-- The string block, as it is built at the end. -/
def stringBlock (l : Loading) : Bytes := 0 :: StringPool.block 0 (l.vStringBuf.map (·.1))

/-- **The field at a position**: its integer, or where its text stands in the string block. -/
theorem Represents.field {l : Loading} {items : List (Column × Bytes)} (h : l.Represents items)
    {p : Nat} {column : Column} {cell : Bytes} (hitem : items[p]? = some (column, cell))
    (hfits : column.Fits cell) :
    ∃ f, l.vDataBuf[p]? = some f ∧ f.isempty = decide (cell = []) ∧
      match column with
      | .int => f.value = .iValue (intValue cell)
      | .string => ∃ place : Nat, f.value = .iValue place ∧
          StringPool.readAt 0 l.stringBlock place = cell := by
  obtain ⟨hp, hget⟩ := List.getElem?_eq_some_iff.mp hitem
  have hlen := h.fields.length_eq
  have hholds := h.fields.get hp (hlen ▸ hp)
  rw [List.get_eq_getElem, hget] at hholds
  refine ⟨_, List.getElem?_eq_getElem (hlen ▸ hp), hholds.1, ?_⟩
  cases column with
  | int => exact hholds.2
  | string =>
      obtain ⟨place, hvalue, hplace⟩ := hholds.2
      refine ⟨place, hvalue, ?_⟩
      obtain ⟨hnil, hzero⟩ | ⟨o, hmem, ho⟩ := hplace
      · -- the blank string in front
        rw [show cell = [] from hnil, hzero]
        rfl
      · -- behind it the texts, at their offsets
        have hz : (0 : UInt8) ∉ cell := fun hin => (hfits.cellText 0 hin).2.1 rfl
        rw [ho]
        exact h.packed.readAt 0 hmem hz

end Loading

end Steppingstone.Dbc
