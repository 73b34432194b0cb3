/-
  Steppingstone.Converter.Record — the records the cache logs and the
  converter writes to the database (`Serialize.h`, `ManageSQLiteFile.cpp`).

  `Record` carries the fields of the C++ structure under their own names; the
  stream type is a parameter, since the converter only stores and copies it.
  The database is a map from guid to row, and `rowAfter` is what the SQL
  statement of `writeRecordToDb` does to the row of the record's guid.
-/
import Mathlib.Logic.Function.Basic
import Steppingstone.Lib.KeyedFold

namespace Steppingstone.Converter

/-! ## §1. Records (`Serialize.h`). -/

/-- `enum RecordType`. -/
inductive RecordType where
  | base | insert | load | query | update | flush | remove | insertWithFlush
  deriving Repr, DecidableEq

/-- `struct Record`; the defaults are those of its constructor. -/
structure Record (σ : Type*) where
  guid : UInt64 := 0
  objectGuid : UInt64 := 0
  ownerGuid : UInt64 := 0
  opcode : Int := 0
  streamSize : Int := 0
  stream : σ
  optype : RecordType := .base
  lastModifyTime : UInt64 := 0
  transactionIndex : UInt32 := 0
  transactionNum : UInt32 := 0
  transactionId : UInt32 := 0
  lineId : UInt32 := 0
  lastIsFlush : Bool := false
  cacheAddr : String := ""
  entityName : String := ""
  deriving Repr, DecidableEq

/-- The five types `writeRecordToDb` has a statement for; the others are
reported as unknown. -/
def RecordType.isWritten : RecordType → Bool
  | .insert | .update | .flush | .remove | .insertWithFlush => true
  | .base | .load | .query => false

/-! ## §2. The database behind `writeRecordToDb`. -/

/-- One row per entity guid, holding the entity's stream. -/
abbrev Database (σ : Type*) := UInt64 → Option σ

variable {σ : Type*}

/-- The row of `record->object_guid` after the statement of `writeRecordToDb`:
an insert needs the row absent, an update needs it present. -/
def rowAfter (row : Option σ) (record : Record σ) : Option σ :=
  match record.optype with
  | .insert | .insertWithFlush => some (row.getD record.stream)
  | .update | .flush => row.map (fun _ => record.stream)
  | .remove => none
  | .base | .load | .query => row

/-- `writeRecordToDb` for a record that can be written: the entity parses
and the statement runs. -/
def writeRecordToDb (db : Database σ) (record : Record σ) : Database σ :=
  Function.update db record.objectGuid (rowAfter (db record.objectGuid) record)

theorem writeRecordToDb_keyed :
    KeyedStep Record.objectGuid id (@writeRecordToDb σ) rowAfter where
  at_key db r := by simp [writeRecordToDb]
  frame db r g hg := by simp [writeRecordToDb, hg]

/-- The records applied one at a time, in their order. -/
def applyInOrder (db : Database σ) (records : List (Record σ)) : Database σ :=
  records.foldl writeRecordToDb db

end Steppingstone.Converter
