/-
  Steppingstone.Dbc.Table — a config table loads what its file says.

  A table is a line of types, a heading and the records, with comments between them.  After it is
  loaded every position shows its cell.  The index by the first column is filled up to the first
  repeated key, so a key that comes later for the first time is not found.
-/
import Steppingstone.Dbc.Fields

namespace Steppingstone.Dbc

/-! ## §1. Tables. -/

/-- A record of a table whose columns after the first are `others`: a key, and a cell for each of
them. -/
structure Record (others : List Column) where
  keyCell : Bytes
  cells : List Bytes
  keyInt : IsInt keyCell
  fits : List.Forall₂ Column.Fits others cells

namespace Record

variable {others : List Column} (r : Record others)

/-- All cells of the line, the key first. -/
def allCells : List Bytes := r.keyCell :: r.cells

/-- The number that stands in the key cell. -/
def key : Int := intValue r.keyCell

/-- The line as it stands in the file. -/
def line : Bytes := joinCells r.allCells

theorem fits_allCells : List.Forall₂ Column.Fits (.int :: others) r.allCells :=
  .cons (.inr r.keyInt) r.fits

theorem cellText {cell : Bytes} (h : cell ∈ r.allCells) : CellText cell := by
  have hall : ∀ {columns : List Column} {cells : List Bytes},
      List.Forall₂ Column.Fits columns cells → ∀ cell ∈ cells, CellText cell := by
    intro columns cells hfits
    induction hfits with
    | nil =>
        intro cell hcell
        exact absurd hcell (by simp)
    | cons hfit _ ih =>
        intro cell hcell
        obtain hhead | htail := List.mem_cons.mp hcell
        · rw [hhead]
          exact hfit.cellText
        · exact ih cell htail
  exact hall r.fits_allCells cell h

end Record

/-- A line after the heading. -/
inductive Row (others : List Column) where
  | comment (text : Bytes)
  | record (r : Record others)

namespace Row

variable {others : List Column}

/-- The line as it stands in the file; a comment begins with a hash. -/
def line : Row others → Bytes
  | .comment text => 35 :: text
  | .record r => r.line

/-- The record of a line that is no comment. -/
def record? : Row others → Option (Record others)
  | .comment _ => none
  | .record r => some r

theorem records_cons (r : Record others) (rows : List (Row others)) :
    (record r :: rows).filterMap record? = r :: rows.filterMap record? := rfl

end Row

/-- A table; its first column is one of integers. -/
structure Table where
  others : List Column
  heading : Bytes
  rows : List (Row others)

namespace Table

variable (t : Table)

/-- All columns, the key first. -/
def columns : List Column := .int :: t.others

/-- The row of the column types. -/
def typeRow : Bytes := joinCells (t.columns.map Column.name)

/-- All lines of the file. -/
def lines : List Bytes := t.typeRow :: t.heading :: t.rows.map Row.line

/-- The records, without the comments. -/
def records : List (Record t.others) := t.rows.filterMap Row.record?

/-- The keys of the records, in their order. -/
def keys : List Int := t.records.map Record.key

/-- All cells with their columns, record by record. -/
def items : List (Column × Bytes) := t.records.flatMap fun r => t.columns.zip r.allCells

/-- The memory holds the table, and nothing or a NUL after it. -/
def IsText (pMemory : Bytes) : Prop :=
  ∃ text tail, LaidOut t.lines text ∧ Ended tail ∧ pMemory = text ++ tail

end Table

/-- What is read at a position is the cell: its integer, or its text. -/
def DBCFile.Shows (f : DBCFile) (column : Column) (cell : Bytes) (p : Nat) : Prop :=
  ∃ field, f.vDataBuf[p]? = some field ∧ field.isempty = decide (cell = []) ∧
    match column with
    | .int => field.value = .iValue (intValue cell)
    | .string => ∃ address, field.value = .pString address ∧ f.cString address = cell

/-- **The table is loaded.** -/
structure DBCFile.LoadedAs (f : DBCFile) (t : Table) : Prop where
  cells : ∀ (j : Nat) r (i : Nat) column cell, t.records[j]? = some r →
    t.columns[i]? = some column → r.allCells[i]? = some cell →
    ∃ p, f.get j i = some p ∧ f.Shows column cell p
  keys : ∀ key : Int, f.getRecord key = (t.records.findIdx? fun r => r.key = key).bind fun j =>
    f.get j 0

/-! ## §2. Reading the lines. -/

/-- The line of a record begins with its key. -/
theorem Record.line_head {others : List Column} (r : Record others) :
    ∃ c rest, r.line = c :: rest ∧ r.keyCell.head? = some c := by
  obtain ⟨c, rest, hkey, _⟩ := r.keyInt.head
  unfold Record.line Record.allCells joinCells
  rw [hkey]
  cases r.cells with
  | nil => exact ⟨c, rest, by simp, rfl⟩
  | cons cell cells => exact ⟨c, rest ++ [9] ++ [9].intercalate (cell :: cells), by simp, rfl⟩

/-- The cells of a record are read from its line. -/
theorem Record.cells_of_line {others : List Column} (r : Record others) :
    convertStringToVector r.line [9] false = r.allCells := by
  obtain ⟨c, rest, hline, _⟩ := r.line_head
  apply convertStringToVector_join
  · show r.line ≠ []
    rw [hline]
    exact List.cons_ne_nil c rest
  · intro cell hcell htab
    exact (r.cellText hcell 9 htab).1 rfl
  · intro h
    exact absurd h (by simp)

/-- A comment is left out. -/
theorem readLine_comment (atof : Bytes → UInt32) (vFieldsType : List FieldType) (l : Loading)
    (text : Bytes) : l.readLine atof vFieldsType (35 :: text) = l := rfl

/-- A record is read, cell by cell. -/
theorem readLine_record (atof : Bytes → UInt32) {others : List Column} (r : Record others)
    (l : Loading) :
    l.readLine atof ((Column.int :: others).map Column.type) r.line
      = l.readRecord atof ((Column.int :: others).map Column.type) r.allCells := by
  obtain ⟨c, rest, hline, hkey⟩ := r.line_head
  -- no sign and no digit is a '#'
  have hcomment : ¬ r.line.head? = some 35 := by
    rw [hline]
    intro hc
    obtain ⟨d, ds, hd, hchar⟩ := r.keyInt.head
    rw [hd] at hkey
    rw [← Option.some.inj hkey] at hc
    rw [Option.some.inj hc] at hchar
    exact absurd hchar (by decide)
  -- there is a cell for each column, so none is added
  have hlen : ((Column.int :: others).map Column.type).length - r.allCells.length = 0 := by
    rw [List.length_map, r.fits_allCells.length_eq, Nat.sub_self]
  have hfirst : ¬ r.allCells.head? = some [] := by
    intro h
    have hne : r.keyCell = [] := Option.some.inj h
    exact absurd hne (by obtain ⟨d, ds, hd, _⟩ := r.keyInt.head; simp [hd])
  unfold Loading.readLine
  rw [if_neg hcomment, r.cells_of_line]
  show (if r.allCells = [] then l else _) = _
  rw [if_neg (show ¬ r.allCells = [] from List.cons_ne_nil _ _)]
  simp only [hlen, List.replicate_zero, List.append_nil]
  exact if_neg hfirst

/-- **The lines after the heading** add the cells of the records. -/
theorem represents_readRows (atof : Bytes → UInt32) {others : List Column}
    (rows : List (Row others)) {l : Loading} {items : List (Column × Bytes)}
    (h : l.Represents items) :
    ((rows.map Row.line).foldl
      (fun l line => l.readLine atof ((Column.int :: others).map Column.type) line) l).Represents
      (items ++ (rows.filterMap Row.record?).flatMap fun r =>
        (Column.int :: others).zip r.allCells) := by
  induction rows generalizing l items with
  | nil =>
      rw [List.filterMap_nil, List.flatMap_nil, List.append_nil]
      exact h
  | cons row rows ih =>
      cases row with
      | comment text =>
          show ((rows.map Row.line).foldl _ (l.readLine atof _ (35 :: text))).Represents _
          rw [readLine_comment]
          exact ih h
      | record r =>
          -- the fields of the record, and then those of the rows after it
          rw [Row.records_cons, List.flatMap_cons, ← List.append_assoc]
          apply ih
          show (l.readLine atof _ r.line).Represents _
          rw [readLine_record]
          exact h.readRecord atof r.fits_allCells

theorem nRecordsNum_readRows (atof : Bytes → UInt32) {others : List Column}
    (rows : List (Row others)) (l : Loading) :
    ((rows.map Row.line).foldl
      (fun l line => l.readLine atof ((Column.int :: others).map Column.type) line) l).nRecordsNum
      = l.nRecordsNum + (rows.filterMap Row.record?).length := by
  induction rows generalizing l with
  | nil => rfl
  | cons row rows ih =>
      cases row with
      | comment text =>
          show ((rows.map Row.line).foldl _ (l.readLine atof _ (35 :: text))).nRecordsNum = _
          rw [readLine_comment]
          exact ih l
      | record r =>
          rw [Row.records_cons, List.length_cons]
          refine (ih (l.readLine atof _ r.line)).trans ?_
          rw [readLine_record, Loading.nRecordsNum_readRecord]
          omega

/-- The types of the columns are read from the first line. -/
theorem typeRow_cells (t : Table) :
    (convertStringToVector t.typeRow [9] true).map fieldType = t.columns.map Column.type := by
  have hname : ∀ column : Column, column.name ≠ [] ∧ 9 ∉ column.name := by
    intro column
    cases column <;> decide
  have hcells : convertStringToVector t.typeRow [9] true = t.columns.map Column.name := by
    apply convertStringToVector_join
    · unfold Table.columns joinCells
      cases t.others with
      | nil => decide
      | cons column columns => simp [Column.name, typeInt]
    · intro cell hcell
      obtain ⟨column, _, hcolumn⟩ := List.mem_map.mp hcell
      rw [← hcolumn]
      exact (hname column).2
    · intro _ cell hcell
      obtain ⟨column, _, hcolumn⟩ := List.mem_map.mp hcell
      rw [← hcolumn]
      exact (hname column).1
  rw [hcells, List.map_map]
  exact List.map_congr_left fun column _ => column.fieldType_name

/-! ## §3. The loaded table. -/

/-- What is loaded, from what was read. -/
def Table.loaded (t : Table) (stringBufAt : Nat) (id : Int) (l : Loading) : DBCFile :=
  DBCFile.createIndex 0
    { id
      recordsNum := t.records.length
      fieldsNum := t.columns.length
      stringBufSize := l.nStringBufSize + 1
      theType := t.columns.map Column.type
      stringBuf := l.stringBlock
      stringBufAt
      vDataBuf := DBCFile.relocate (t.columns.map Column.type) t.records.length stringBufAt
        l.vDataBuf }

/-- **A table is loaded**, with fields that stand for its cells. -/
theorem open_table (atof : Bytes → UInt32) (stringBufAt : Nat) (id : Int) (t : Table)
    {pMemory : Bytes} (h : t.IsText pMemory) :
    ∃ l : Loading, l.Represents t.items ∧
      DBCFile.openFromMemoryImplText atof stringBufAt { id } pMemory
        = some (t.loaded stringBufAt id l) := by
  obtain ⟨text, tail, hlaid, htail, hmem⟩ := h
  -- the line of types, the heading, and the loop over what is left
  obtain ⟨text₁, hlaid₁, htypes⟩ := hlaid.getLine htail
  obtain ⟨text₂, hlaid₂, hheading⟩ := hlaid₁.getLine htail
  have hrep := represents_readRows atof t.rows Loading.represents_start
  have hnum := nRecordsNum_readRows atof t.rows { vDataBuf := [] }
  rw [← readRecords_laidOut atof _ hlaid₂ htail] at hrep hnum
  refine ⟨_, hrep, ?_⟩
  have hcells := typeRow_cells t
  have hne : ¬ convertStringToVector t.typeRow [9] true = [] := by
    intro he
    rw [he] at hcells
    exact absurd hcells (by simp [Table.columns])
  unfold DBCFile.openFromMemoryImplText
  rw [hmem, htypes]
  simp only [if_neg hne, hheading, hcells]
  have hcount : (readRecords atof (t.columns.map Column.type) (text₂ ++ tail)
      { vDataBuf := [] }).nRecordsNum = t.records.length := hnum.trans (Nat.zero_add _)
  rw [hcount, List.length_map]
  rfl

/-- Blocks of one length, one after the other. -/
theorem getElem?_flatMap_blocks {α β : Type*} (g : α → List β) {n : Nat} {as : List α}
    (hlen : ∀ a ∈ as, (g a).length = n) {j i : Nat} {a : α} (ha : as[j]? = some a) (hi : i < n) :
    (as.flatMap g)[j * n + i]? = (g a)[i]? := by
  induction as generalizing j with
  | nil => exact absurd ha (by simp)
  | cons b as ih =>
      have hb := hlen b List.mem_cons_self
      rw [List.flatMap_cons]
      cases j with
      | zero =>
          rw [List.getElem?_cons_zero] at ha
          rw [Nat.zero_mul, Nat.zero_add, List.getElem?_append_left (by omega), Option.some.inj ha]
      | succ j =>
          rw [List.getElem?_cons_succ] at ha
          rw [Nat.succ_mul, List.getElem?_append_right (by omega), hb,
            show j * n + n + i - n = j * n + i by omega]
          exact ih (fun a ha => hlen a (List.mem_cons_of_mem b ha)) ha

namespace Table

variable (t : Table)

theorem zip_length (r : Record t.others) :
    (t.columns.zip r.allCells).length = t.columns.length := by
  rw [List.length_zip, ← r.fits_allCells.length_eq]
  exact Nat.min_self _

/-- The cell at a position. -/
theorem items_at {j i : Nat} {r : Record t.others} {column : Column} {cell : Bytes}
    (hr : t.records[j]? = some r) (hcolumn : t.columns[i]? = some column)
    (hcell : r.allCells[i]? = some cell) :
    t.items[j * t.columns.length + i]? = some (column, cell) := by
  unfold items
  rw [getElem?_flatMap_blocks _ (fun a _ => t.zip_length a) hr
    (List.getElem?_eq_some_iff.mp hcolumn).1, List.getElem?_zip_eq_some]
  exact ⟨hcolumn, hcell⟩

theorem fits_at {i : Nat} {r : Record t.others} {column : Column} {cell : Bytes}
    (hcolumn : t.columns[i]? = some column) (hcell : r.allCells[i]? = some cell) :
    column.Fits cell := by
  obtain ⟨hi, hcolumn⟩ := List.getElem?_eq_some_iff.mp hcolumn
  obtain ⟨hi', hcell⟩ := List.getElem?_eq_some_iff.mp hcell
  have hfits := r.fits_allCells.get hi hi'
  rw [List.get_eq_getElem, List.get_eq_getElem] at hfits
  rw [← hcolumn, ← hcell]
  exact hfits

end Table

/-! ## §4. What is found. -/

section Loaded

variable (t : Table) (stringBufAt : Nat) (id : Int) {l : Loading}

/-- `CreateIndex(0)` is run for every table. -/
theorem hashIndex_loaded :
    (t.loaded stringBufAt id l).hashIndex
      = FirstIndex.fill ((List.range t.records.length).map fun i =>
        (((t.loaded stringBufAt id l).vDataBuf.getD (i * t.columns.length)
          { value := .iValue 0, isempty := true }).iValue, i * t.columns.length)) {} := by
  have hrun : ¬ ((0 : Int) < 0 ∨ (0 : Int) ≥ (t.columns.length : Int) ∨ (-1 : Int) = 0) := by
    have hcolumns : t.columns.length = t.others.length + 1 := rfl
    omega
  unfold Table.loaded DBCFile.createIndex
  simp only [if_neg hrun]

/-- The data of the loaded table. -/
theorem vDataBuf_loaded :
    (t.loaded stringBufAt id l).vDataBuf
      = DBCFile.relocate (t.columns.map Column.type) t.records.length stringBufAt l.vDataBuf := by
  unfold Table.loaded DBCFile.createIndex
  split <;> rfl

theorem fieldsNum_loaded : (t.loaded stringBufAt id l).fieldsNum = t.columns.length := by
  unfold Table.loaded DBCFile.createIndex
  split <;> rfl

/-- A string of the loaded table. -/
theorem cString_loaded (place : Nat) :
    (t.loaded stringBufAt id l).cString (stringBufAt + place)
      = StringPool.readAt 0 l.stringBlock place := by
  have hblock : (t.loaded stringBufAt id l).stringBuf = l.stringBlock ∧
      (t.loaded stringBufAt id l).stringBufAt = stringBufAt := by
    unfold Table.loaded DBCFile.createIndex
    split <;> exact ⟨rfl, rfl⟩
  unfold DBCFile.cString
  rw [hblock.1, hblock.2, Nat.add_sub_cancel_left]

/-- **Every position shows its cell.** -/
theorem shows_cell (h : l.Represents t.items) {j i : Nat} {r : Record t.others} {column : Column}
    {cell : Bytes} (hr : t.records[j]? = some r) (hcolumn : t.columns[i]? = some column)
    (hcell : r.allCells[i]? = some cell) :
    (t.loaded stringBufAt id l).Shows column cell (j * t.columns.length + i) := by
  obtain ⟨f, hf, hempty, hvalue⟩ := h.field (t.items_at hr hcolumn hcell) (t.fits_at hcolumn hcell)
  have hi : i < t.columns.length := (List.getElem?_eq_some_iff.mp hcolumn).1
  have hj : j < t.records.length := (List.getElem?_eq_some_iff.mp hr).1
  -- the position is in the column of the cell, and before the end of the records
  have htype : (t.columns.map Column.type)[(j * t.columns.length + i) % t.columns.length]?
      = some column.type := by
    rw [Nat.add_comm, Nat.add_mul_mod_self_right, Nat.mod_eq_of_lt hi, List.getElem?_map, hcolumn]
    rfl
  have hinside : j * t.columns.length + i < t.records.length * t.columns.length :=
    calc j * t.columns.length + i < (j + 1) * t.columns.length := by
          rw [Nat.succ_mul]
          omega
      _ ≤ t.records.length * t.columns.length := Nat.mul_le_mul_right _ hj
  unfold DBCFile.Shows
  rw [vDataBuf_loaded]
  unfold DBCFile.relocate
  rw [List.getElem?_mapIdx, hf, List.length_map, htype]
  cases column with
  | int =>
      -- not relocated
      exact ⟨f, by simp [Column.type], hempty, hvalue⟩
  | string =>
      obtain ⟨place, hplace, hread⟩ := hvalue
      have hat : f.iValue.toNat = place := by
        unfold Field.iValue
        rw [hplace]
        rfl
      refine ⟨{ f with value := .pString (stringBufAt + f.iValue.toNat) }, ?_, hempty, _, rfl, ?_⟩
      · exact congrArg some (if_pos ⟨hinside, rfl⟩)
      · rw [hat, cString_loaded]
        exact hread

/-- `Get(int, int)` leads to the position. -/
theorem get_loaded (h : l.Represents t.items) {j i : Nat} {r : Record t.others} {column : Column}
    {cell : Bytes} (hr : t.records[j]? = some r) (hcolumn : t.columns[i]? = some column)
    (hcell : r.allCells[i]? = some cell) :
    (t.loaded stringBufAt id l).get j i = some (j * t.columns.length + i) := by
  obtain ⟨f, hf, _⟩ := shows_cell t stringBufAt id h hr hcolumn hcell
  have hlt := (List.getElem?_eq_some_iff.mp hf).1
  have hpos : (j : Int) * (t.columns.length : Int) + (i : Int)
      = ((j * t.columns.length + i : Nat) : Int) := by
    rw [Int.natCast_add, Int.natCast_mul]
  unfold DBCFile.get
  rw [fieldsNum_loaded]
  simp only [hpos]
  rw [if_neg (by omega), Int.toNat_natCast]

/-- The first column, with the positions of the records. -/
theorem indexed_keys (h : l.Represents t.items) :
    ((List.range t.records.length).map fun i =>
        (((t.loaded stringBufAt id l).vDataBuf.getD (i * t.columns.length)
          { value := .iValue 0, isempty := true }).iValue, i * t.columns.length))
      = t.records.mapIdx fun j r => (r.key, j * t.columns.length) := by
  -- the first field of the j-th record holds its key
  apply List.ext_getElem?
  intro j
  rw [List.getElem?_map, List.getElem?_mapIdx]
  cases hr : t.records[j]? with
  | none =>
      have hj := List.getElem?_eq_none_iff.mp hr
      rw [List.getElem?_eq_none_iff.mpr (by rw [List.length_range]; exact hj)]
      rfl
  | some r =>
      have hj := (List.getElem?_eq_some_iff.mp hr).1
      obtain ⟨f, hf, _, hvalue⟩ := shows_cell t stringBufAt id h hr
        (show t.columns[0]? = some .int from rfl) (show r.allCells[0]? = some r.keyCell from rfl)
      rw [Nat.add_zero] at hf
      have hkey : ((t.loaded stringBufAt id l).vDataBuf.getD (j * t.columns.length)
          { value := .iValue 0, isempty := true }).iValue = r.key := by
        rw [List.getD_eq_getElem?_getD, hf, Option.getD_some]
        unfold Field.iValue
        simp only [hvalue]
        rfl
      rw [List.getElem?_range hj]
      show some (_, _) = some (_, _)
      rw [hkey]

/-- `Get(int)` finds what the index was filled with. -/
theorem getRecord_loaded (h : l.Represents t.items) (key : Int) :
    (t.loaded stringBufAt id l).getRecord key
      = (FirstIndex.fill (t.records.mapIdx fun j r => (r.key, j * t.columns.length)) {})[key]? := by
  unfold DBCFile.getRecord
  rw [hashIndex_loaded, indexed_keys t stringBufAt id h]

/-- **The first record of each key is found** exactly if no key is new after a repeated one. -/
theorem key_index_iff (h : l.Represents t.items) :
    (∀ key : Int, (t.loaded stringBufAt id l).getRecord key
      = (t.records.findIdx? fun r => r.key = key).bind fun j =>
        (t.loaded stringBufAt id l).get j 0) ↔
      FirstIndex.NoneNewAfterRepeat [] t.keys := by
  have hkeys : (t.records.mapIdx fun j r => (r.key, j * t.columns.length)).map (·.1) = t.keys := by
    apply List.ext_getElem?
    intro j
    rw [List.getElem?_map, List.getElem?_mapIdx, Option.map_map]
    exact List.getElem?_map.symm
  -- what should be found is the first position of the key
  have hfirst : ∀ key : Int, ((t.records.findIdx? fun r => r.key = key).bind fun j =>
      (t.loaded stringBufAt id l).get j 0)
      = FirstIndex.first (t.records.mapIdx fun j r => (r.key, j * t.columns.length)) key := by
    intro key
    rw [FirstIndex.first_mapIdx Record.key (fun j => j * t.columns.length)]
    cases hj : t.records.findIdx? fun r => r.key = key with
    | none => rfl
    | some j =>
        have hlt := (List.findIdx?_eq_some_iff_findIdx_eq.mp hj).1
        exact get_loaded t stringBufAt id h (i := 0) (List.getElem?_eq_getElem hlt) rfl rfl
  rw [← hkeys, ← FirstIndex.fill_first_iff]
  refine forall_congr' fun key => ?_
  rw [hfirst, getRecord_loaded t stringBufAt id h]

end Loaded

/-- **A table is loaded as its file says** exactly if no key is new after a repeated one.  All its
cells are there in any case. -/
theorem table_loads_iff (atof : Bytes → UInt32) (stringBufAt : Nat) (id : Int) (t : Table)
    (pMemory : Bytes) (h : t.IsText pMemory) :
    ∃ f, DBCFile.openFromMemoryImplText atof stringBufAt { id } pMemory = some f ∧
      (f.LoadedAs t ↔ FirstIndex.NoneNewAfterRepeat [] t.keys) := by
  obtain ⟨l, hrep, hopen⟩ := open_table atof stringBufAt id t h
  refine ⟨_, hopen, ?_⟩
  rw [← key_index_iff t stringBufAt id hrep]
  constructor
  · intro hloaded
    exact hloaded.keys
  · intro hkeys
    constructor
    · intro j r i column cell hr hcolumn hcell
      exact ⟨_, get_loaded t stringBufAt id hrep hr hcolumn hcell,
        shows_cell t stringBufAt id hrep hr hcolumn hcell⟩
    · exact hkeys

/-- Two columns, a comment, an empty cell and a key that comes again. -/
def goodsTable : Table where
  others := [.string]
  heading := [105, 100]
  rows := [.record ⟨[49], [[97]], by decide, .cons (by decide) .nil⟩, .comment [33],
    .record ⟨[45, 50], [[]], by decide, .cons (by decide) .nil⟩,
    .record ⟨[49], [[97, 98]], by decide, .cons (by decide) .nil⟩]

/-- The text of the table, byte by byte. -/
def goodsText : Bytes :=
  goodsTable.typeRow ++ ([13, 10] ++ ([105, 100] ++ ([10, 10] ++ ([49, 9, 97] ++ ([10] ++
    ([35, 33] ++ ([10] ++ ([45, 50, 9] ++ ([10] ++ ([49, 9, 97, 98] ++ []))))))))))

/-- The text is one of the table. -/
theorem goodsText_isText : goodsTable.IsText (goodsText ++ [0]) := by
  refine ⟨goodsText, [0], ?_, .inr rfl, rfl⟩
  iterate 5 apply LaidOut.cons _ _ _ _ (by decide) (by simp) (List.all_eq_true.mp rfl)
  exact LaidOut.last _ _ (by decide) (List.all_eq_true.mp rfl)

/-- The goods are loaded. -/
theorem table_loads_goodsTable :
    ∃ f, DBCFile.openFromMemoryImplText (fun _ => 0) 4096 { id := 1 } (goodsText ++ [0]) = some f ∧
      f.LoadedAs goodsTable := by
  obtain ⟨f, hopen, hiff⟩ := table_loads_iff (fun _ => 0) 4096 1 goodsTable _ goodsText_isText
  refine ⟨f, hopen, hiff.mpr ?_⟩
  show FirstIndex.NoneNewAfterRepeat [] [1, -2, 1]
  simp [FirstIndex.noneNewAfterRepeat_cons, FirstIndex.noneNewAfterRepeat_nil]

/-- A key that comes twice, and then another. -/
def repeatTable : Table where
  others := []
  heading := [105, 100]
  rows := [.record ⟨[49], [], by decide, .nil⟩, .record ⟨[49], [], by decide, .nil⟩,
    .record ⟨[50], [], by decide, .nil⟩]

/-- A table whose key 1 stands in two lines, before the key 2. -/
def repeatText : Bytes :=
  [73, 78, 84] ++ ([10] ++ ([105, 100] ++ ([10] ++ ([49] ++ ([10] ++ ([49] ++ ([10] ++
    ([50] ++ []))))))))

/-- **A key behind a repeated one** is not found. -/
theorem key_after_repeat_not_found :
    repeatTable.IsText repeatText ∧
      ¬ ∃ f, DBCFile.openFromMemoryImplText (fun _ => 0) 4096 { id := 1 } repeatText = some f ∧
        f.LoadedAs repeatTable := by
  constructor
  · refine ⟨repeatText, [], ?_, .inl rfl, (List.append_nil _).symm⟩
    iterate 4 apply LaidOut.cons _ _ _ _ (by decide) (by simp) (List.all_eq_true.mp rfl)
    exact LaidOut.last _ _ (by decide) (List.all_eq_true.mp rfl)
  · intro h
    obtain ⟨f, hopen, hloaded⟩ := h
    -- the third record is there, and the index ends with the first
    have hget : (DBCFile.openFromMemoryImplText (fun _ => 0) 4096 { id := 1 } repeatText).map
        (fun f => (f.getRecord 2, f.get 2 0)) = some (none, some 2) := by decide +kernel
    rw [hopen] at hget
    have hpair := Prod.mk.inj (Option.some.inj hget)
    have hkey := hloaded.keys 2
    rw [hpair.1] at hkey
    exact absurd (hkey.trans hpair.2) (by simp)

end Steppingstone.Dbc
