/-
  Steppingstone.Dbc.Model — loading a config table from text (`DBCFile`).

  A line of types, a line that is skipped, and the records, one a line and their cells separated by
  tabs.  All texts of all records stand in one buffer; a field of a text column holds its place
  there.  An index leads from the first column to the records.

  The memory is what stands from `pMemory` on before `pDeadEnd`, a pointer into it is what stands
  from there on, and a pointer to a field is its position in `m_vDataBuf`.
-/
import Steppingstone.Lib.FirstIndex
import Steppingstone.Lib.StringPool

namespace Steppingstone.Dbc

open Std (TreeMap)

/-- The chars of a text. -/
abbrev Bytes := List UInt8

/-! ## §1. Lines and cells. -/

/-- The loop of `_ConvertStringToVector`: `find_first_of` from the last key on. -/
def splitItems (szKey strSrc : Bytes) : List Bytes :=
  match h : strSrc.findIdx? (· ∈ szKey) with
  | none => [strSrc]
  | some nRight => strSrc.take nRight :: splitItems szKey (strSrc.drop (nRight + 1))
termination_by strSrc.length
decreasing_by
  have hlt := (List.findIdx?_eq_some_iff_findIdx_eq.mp h).1
  rw [List.length_drop]
  omega

/-- `_ConvertStringToVector`, with `bOneOfKey` as in both calls. -/
def convertStringToVector (strSrc szKey : Bytes) (bIgnoreEmpty : Bool) : List Bytes :=
  if strSrc = [] then []
  else (splitItems szKey strSrc).filter fun strItem => strItem ≠ [] ∨ ¬ bIgnoreEmpty

/-- `'\r'` or `'\n'` -/
def isLineEnd (c : UInt8) : Bool := c = 13 || c = 10

/-- `_GetLineFromMemory`: the line, and the memory from the next one on. -/
def getLineFromMemory (nBufSize : Nat) (pMemory : Bytes) : Option (Bytes × Bytes) :=
  if pMemory.head? = none ∨ pMemory.head? = some 0 then none
  else
    let line := (pMemory.take (nBufSize - 1)).takeWhile fun c => c ≠ 0 && !isLineEnd c
    some (line, (pMemory.drop line.length).dropWhile isLineEnd)

/-- `isspace` -/
def isSpace (c : UInt8) : Bool := c = 32 || 9 ≤ c && c ≤ 13

/-- `isdigit` -/
def isDigit (c : UInt8) : Bool := 48 ≤ c && c ≤ 57

/-- The digits' value, from the first on. -/
def digitsValue (digits : Bytes) : Nat :=
  digits.foldl (fun n d => n * 10 + (d.toNat - 48)) 0

/-- `atoi`.  The standard leaves open what it returns for a value that is no `int`. -/
def atoi (str : Bytes) : Int :=
  match str.dropWhile isSpace with
  | 45 :: str => (-(digitsValue (str.takeWhile isDigit) : Int)).bmod 4294967296
  | 43 :: str => (digitsValue (str.takeWhile isDigit) : Int).bmod 4294967296
  | str => (digitsValue (str.takeWhile isDigit) : Int).bmod 4294967296

/-! ## §2. The table. -/

/-- `FIELD_TYPE` -/
inductive FieldType where
  | tInt
  | tFloat
  | tString
  | tUnknow
  deriving DecidableEq, Repr

/-- `"INT"`, `"FLOAT"` and `"STRING"` -/
def typeInt : Bytes := ['I', 'N', 'T'].map Char.toUInt8
/-- The word of a float column. -/
def typeFloat : Bytes := ['F', 'L', 'O', 'A', 'T'].map Char.toUInt8
/-- The word of a text column. -/
def typeString : Bytes := ['S', 'T', 'R', 'I', 'N', 'G'].map Char.toUInt8

/-- The type that a cell of the first line names. -/
def fieldType (cell : Bytes) : FieldType :=
  if cell = typeInt then .tInt
  else if cell = typeFloat then .tFloat
  else if cell = typeString then .tString
  else .tUnknow

/-- The `union` of a `FIELD`, with the member that was written last. -/
inductive FieldValue where
  | iValue (value : Int)
  | fValue (bits : UInt32)
  | pString (address : Nat)
  deriving DecidableEq, Repr

/-- `FIELD` -/
structure Field where
  value : FieldValue
  isempty : Bool
  deriving DecidableEq, Repr

/-- `iValue` of a `FIELD`: of another member, its lower four bytes. -/
def Field.iValue (f : Field) : Int :=
  match f.value with
  | .iValue value => value
  | .fValue bits => (bits.toNat : Int).bmod 4294967296
  | .pString address => (address : Int).bmod 4294967296

/-- `DBCFile` -/
structure DBCFile where
  id : Int
  theType : List FieldType := []
  recordsNum : Nat := 0
  fieldsNum : Nat := 0
  vDataBuf : List Field := []
  /-- What `m_pStringBuf` points to, and where it does. -/
  stringBuf : Bytes := []
  stringBufAt : Nat := 0
  stringBufSize : Nat := 0
  hashIndex : TreeMap Int Nat := {}
  nIndexColum : Int := -1

/-! ## §3. Reading the records. -/

/-- What `OpenFromMemoryImpl_Text` fills while it reads. -/
structure Loading where
  vDataBuf : List Field
  nRecordsNum : Nat := 0
  vStringBuf : List (Bytes × Nat) := []
  mapStringBuf : TreeMap Bytes Nat := {}
  nStringBufSize : Nat := 0

namespace Loading

/-- A cell that was read is appended to the table. -/
def pushField (l : Loading) (newField : Field) : Loading :=
  { l with vDataBuf := l.vDataBuf ++ [newField] }

/-- A text that came before keeps its place, a new one goes to the end of the buffer. -/
def pushText (l : Loading) (cell : Bytes) : Loading :=
  match l.mapStringBuf[cell]? with
  | none =>
      { l.pushField { value := .iValue (l.nStringBufSize + 1), isempty := false } with
        vStringBuf := l.vStringBuf ++ [(cell, l.nStringBufSize)]
        mapStringBuf := l.mapStringBuf.insert cell l.vStringBuf.length
        nStringBufSize := l.nStringBufSize + cell.length + 1 }
  | some second =>
      l.pushField
        { value := .iValue ((l.vStringBuf.getD second ([], 0)).2 + 1), isempty := false }

/-- One cell, `switch(vFieldsType[i])`; `atof` is the bits of `(float)atof(..)`. -/
def readCell (atof : Bytes → UInt32) (l : Loading) (type : FieldType) (cell : Bytes) : Loading :=
  match type with
  | .tInt =>
      if cell = [] then l.pushField { value := .iValue 0, isempty := true }
      else l.pushField { value := .iValue (atoi cell), isempty := false }
  | .tFloat =>
      if cell = [] then l.pushField { value := .fValue 0, isempty := true }
      else l.pushField { value := .fValue (atof cell), isempty := false }
  | .tUnknow | .tString =>
      if cell = [] then l.pushField { value := .iValue 0, isempty := true }
      else l.pushText cell

/-- The cells of a record. -/
def readRecord (atof : Bytes → UInt32) (vFieldsType : List FieldType) (vRet : List Bytes)
    (l : Loading) : Loading :=
  let l := (vFieldsType.zip vRet).foldl (fun l e => l.readCell atof e.1 e.2) l
  { l with nRecordsNum := l.nRecordsNum + 1 }

/-- One round of the loop, with the line that was read: comments, lines without cells and records
with an empty first cell are left out, and cells that lack at the end are empty. -/
def readLine (atof : Bytes → UInt32) (vFieldsType : List FieldType) (l : Loading)
    (szLine : Bytes) : Loading :=
  if szLine.head? = some 35 then l
  else
    let vRet := convertStringToVector szLine [9] false
    if vRet = [] then l
    else
      let vRet := vRet ++ List.replicate (vFieldsType.length - vRet.length) []
      if vRet.head? = some [] then l
      else l.readRecord atof vFieldsType vRet

end Loading

/-- A line is taken from the memory. -/
theorem getLineFromMemory_length {nBufSize : Nat} {pMemory szLine pMem : Bytes}
    (hsize : 1 < nBufSize) (h : getLineFromMemory nBufSize pMemory = some (szLine, pMem)) :
    pMem.length < pMemory.length := by
  unfold getLineFromMemory at h
  split at h
  · exact absurd h (by simp)
  · rename_i hhead
    cases pMemory with
    | nil => exact absurd (Or.inl rfl) hhead
    | cons c pMemory =>
        obtain ⟨m, hm⟩ : ∃ m, nBufSize - 1 = m + 1 := ⟨nBufSize - 2, by omega⟩
        -- the first char is skipped as a line end, or it goes to the line
        have hc : c ≠ 0 := fun he => hhead (Or.inr (congrArg some he))
        injection h with h
        injection h with hline hrest
        rw [← hrest, hm, List.take_succ_cons]
        by_cases hend : isLineEnd c = true
        · -- the line is empty, and its end is skipped
          rw [List.takeWhile_cons_of_neg (by simp [hend]), List.length_nil, List.drop_zero,
            List.dropWhile_cons_of_pos hend, List.length_cons]
          have hle := (List.dropWhile_sublist isLineEnd (l := pMemory)).length_le
          omega
        · rw [List.takeWhile_cons_of_pos (by simp [hc, hend]), List.length_cons,
            List.drop_succ_cons, List.length_cons]
          have hle := (List.dropWhile_sublist isLineEnd
            (l := pMemory.drop ((pMemory.take m).takeWhile
              fun c => c ≠ 0 && !isLineEnd c).length)).length_le
          rw [List.length_drop] at hle
          omega

/-- The loop over the lines, with the buffer `szLine[1024*10]`. -/
def readRecords (atof : Bytes → UInt32) (vFieldsType : List FieldType) (pMem : Bytes)
    (l : Loading) : Loading :=
  match _ : getLineFromMemory 10240 pMem with
  | none => l
  | some (szLine, pMem') =>
      readRecords atof vFieldsType pMem' (l.readLine atof vFieldsType szLine)
termination_by pMem.length
decreasing_by exact getLineFromMemory_length (by omega : 1 < 10240) ‹_›

/-! ## §4. The loaded table. -/

namespace DBCFile

/-- `CreateIndex`: the records by the first field, up to the first repeated key. -/
def createIndex (nColum : Int) (f : DBCFile) : DBCFile :=
  if nColum < 0 ∨ nColum ≥ f.fieldsNum ∨ f.nIndexColum = nColum then f
  else
    { f with
      hashIndex := FirstIndex.fill ((List.range f.recordsNum).map fun i =>
        ((f.vDataBuf.getD (i * f.fieldsNum) { value := .iValue 0, isempty := true }).iValue,
          i * f.fieldsNum)) {} }

/-- The fields of the `T_STRING` columns become pointers into the string block. -/
def relocate (vFieldsType : List FieldType) (nRecordsNum stringBufAt : Nat)
    (vDataBuf : List Field) : List Field :=
  vDataBuf.mapIdx fun p theField =>
    if p < nRecordsNum * vFieldsType.length ∧
        vFieldsType[p % vFieldsType.length]? = some .tString then
      { theField with value := .pString (stringBufAt + theField.iValue.toNat) }
    else theField

/-- `OpenFromMemoryImpl_Text`; `stringBufAt` is where `new` puts the string block, and `none` is
`false`. -/
def openFromMemoryImplText (atof : Bytes → UInt32) (stringBufAt : Nat) (f : DBCFile)
    (pMemory : Bytes) : Option DBCFile :=
  match getLineFromMemory 10240 pMemory with
  | none => none
  | some (szLine, pMem) =>
      let vRet := convertStringToVector szLine [9] true
      if vRet = [] then none
      else
        let vFieldsType := vRet.map fieldType
        match getLineFromMemory 10240 pMem with
        | none => none
        | some (_, pMem) =>
            let l := readRecords atof vFieldsType pMem { vDataBuf := f.vDataBuf }
            some (createIndex 0
              { f with
                recordsNum := l.nRecordsNum
                fieldsNum := vFieldsType.length
                stringBufSize := l.nStringBufSize + 1
                theType := vFieldsType
                stringBuf := 0 :: StringPool.block 0 (l.vStringBuf.map (·.1))
                stringBufAt
                vDataBuf := relocate vFieldsType l.nRecordsNum stringBufAt l.vDataBuf })

/-- `Get(int)`: the first field of a record. -/
def getRecord (f : DBCFile) (iIndex : Int) : Option Nat :=
  f.hashIndex[iIndex]?

/-- `Get(int, int)` -/
def get (f : DBCFile) (nRecordLine nColumNum : Int) : Option Nat :=
  let nPosition := nRecordLine * f.fieldsNum + nColumNum
  if nPosition < 0 ∨ nPosition ≥ f.vDataBuf.length then none else some nPosition.toNat

/-- The text that a `const char*` points to. -/
def cString (f : DBCFile) (pString : Nat) : Bytes :=
  StringPool.readAt 0 f.stringBuf (pString - f.stringBufAt)

end DBCFile

end Steppingstone.Dbc
