/-
  Steppingstone.Dynamic.Model — the dynamic parser: a message to SQL text, and a row back to a message.

  Modelled: `load`, `update` and `insert` of a `CacheAssistantx` (dynamicparseimp.cpp), over the
  descriptor of any message type, with the `ADD_REPEATED_NUMBER` and `SERIALIZE_REPEATED_NUMBER`
  macros, and the column defaults of the tables that `checkEntity` makes.  A nested message is a
  value with a `SerializeAsString` and a `ParseFromString`; floating values, booleans and enums are
  opaque bits.
-/
import Steppingstone.Lib.SqlText
import Steppingstone.Lib.LittleEndian

namespace Steppingstone.Dynamic

open SqlText

/-! ## §1. Descriptors and messages. -/

/-- `FieldDescriptor::Type`. -/
inductive FieldType
  | double | float | int64 | uint64 | int32 | fixed64 | fixed32 | bool | string | group | message
  | bytes | uint32 | enum | sfixed32 | sfixed64 | sint32 | sint64
  deriving DecidableEq, Repr

/-- `FieldDescriptor::Label`. -/
inductive Label
  | optional | required | repeated
  deriving DecidableEq, Repr

/-- `FieldDescriptor` -/
structure Field where
  name : String
  label : Label
  type : FieldType
  deriving DecidableEq, Repr

/-- The column that every table is keyed by. -/
def guidKey : Text := word "guid"

/-- `Descriptor`: the fields of a message type that has a guid. -/
structure Descriptor where
  typeName : String
  fields : List Field
  typeName_ok : blank ∉ word typeName
  name_ok : ∀ f ∈ fields, IsName (word f.name) ∧ word f.name ≠ []
  distinct : (fields.map fun f => word f.name).Nodup
  guid_mem : guidKey ∈ fields.map fun f => word f.name
  guid_type : ∀ f ∈ fields, word f.name = guidKey → f.label ≠ .repeated ∧ f.type = .uint64

/-- One value of a field. -/
inductive Scalar (Sub : Type)
  | int (n : Int)
  | raw (bits : Nat)
  | data (bytes : List UInt8)
  | sub (s : Sub)

/-- A message: the values of each field, none for a singular field that is not set. -/
abbrev Message (Sub : Type) := Field → List (Scalar Sub)

/-- `SerializeAsString` and `ParseFromString` of the nested messages. -/
structure Codec (Sub : Type) where
  serialize : Sub → List UInt8
  parse : List UInt8 → Sub

section

variable {Sub : Type}

/-- `GetInt32` and its kin. -/
def Scalar.getInt : Scalar Sub → Int
  | .int n => n
  | _ => 0

/-- `GetString` -/
def Scalar.getString : Scalar Sub → List UInt8
  | .data bytes => bytes
  | _ => []

/-- `GetRepeatedMessage`, serialized -/
def Scalar.serialized (C : Codec Sub) : Scalar Sub → List UInt8
  | .sub s => C.serialize s
  | _ => []

/-- The value of a singular field, its default when it is not set. -/
def getInt (m : Message Sub) (f : Field) : Int := ((m f).head?.map Scalar.getInt).getD 0

/-- `Reflection::GetString` of a singular field. -/
def getString (m : Message Sub) (f : Field) : List UInt8 :=
  ((m f).head?.map Scalar.getString).getD []

/-! ## §2. Writing. -/

/-- The field is written as quoted text. -/
def FieldType.isString (t : FieldType) : Prop := t = .string ∨ t = .bytes

instance (t : FieldType) : Decidable t.isString := inferInstanceAs (Decidable (_ ∨ _))

/-- `sizeof` of the four number types that are handled. -/
def FieldType.width? : FieldType → Option Nat
  | .int32 | .uint32 => some 4
  | .int64 | .uint64 => some 8
  | _ => none

/-- The field is read as a signed number. -/
def FieldType.signed : FieldType → Bool
  | .int32 | .int64 => true
  | _ => false

/-- The bytes of a `uint32`. -/
def uint32Bytes (n : Nat) : List UInt8 := LittleEndian.toBytes 4 n

/-- The number of values, then each with its length, which counts the terminating zero. -/
def writeStrings (vs : List (List UInt8)) : List UInt8 :=
  uint32Bytes vs.length ++ vs.flatMap fun v => uint32Bytes (v.length + 1) ++ (v ++ [0])

/-- `SERIALIZE_REPEATED_NUMBER` -/
def writeNumbers (width : Nat) (vs : List Int) : List UInt8 :=
  uint32Bytes vs.length ++ vs.flatMap fun v => LittleEndian.toBytes width (v % 256 ^ width).toNat

/-- The text of one column, `none` where protobuf aborts: `FieldSize` of a field that is not
    repeated is a fatal error. -/
def columnText (C : Codec Sub) (m : Message Sub) (f : Field) : Option Text :=
  if f.label = .repeated ∨ f.type = .message then
    if f.type.isString then some [.quoted (writeStrings ((m f).map Scalar.getString))]
    else if f.type = .message then
      if f.label = .repeated then some [.quoted (writeStrings ((m f).map (Scalar.serialized C)))]
      else none
    else
      match f.type.width? with
      | some width => some [.quoted (writeNumbers width ((m f).map Scalar.getInt))]
      | none => some []
  else if f.type.isString then some [.quoted (getString m f)]
  else
    match f.type.width? with
    | some _ => some (number (getInt m f))
    -- booleans, enums, floating values: the `default` of the switch writes nothing
    | none => some []

/-- The loop over the fields, the same in `update` and in `insert`. -/
def setText (C : Codec Sub) (m : Message Sub) : List Field → Option Text
  | [] => some []
  | f :: fs =>
      (columnText C m f).bind fun t =>
        (setText C m fs).map fun rest => word f.name ++ equals :: (t ++ rest)

/-- `CacheAssistantx::update` -/
def updateText (C : Codec Sub) (d : Descriptor) (m : Message Sub) : Option Text :=
  (setText C m d.fields).map fun t => word "UPDATE " ++ (word d.typeName ++ (word " SET " ++ t))

/-- `CacheAssistantx::insert` -/
def insertText (C : Codec Sub) (d : Descriptor) (m : Message Sub) : Option Text :=
  (setText C m d.fields).map fun t =>
    word "INSERT INTO " ++ (word d.typeName ++ (word " SET " ++ t))

/-! ## §3. Loading. -/

/-- `CACHE_ASSISTANT_ERROR` with its text, or an abort inside protobuf. -/
inductive LoadError
  | notFound (text : String)
  | internal
  | aborted
  deriving DecidableEq, Repr

/-- The column list of the query; `col` counts the columns written so far. -/
def columnList (col : Nat) : List Field → Text
  | [] => []
  | f :: fs =>
      (if col + 1 ≠ 1 then [comma] else []) ++ (word f.name ++ (word " " ++ columnList (col + 1) fs))

/-- The query of `load`. -/
def loadText (d : Descriptor) (myguid : UInt64) : Text :=
  word "SELECT " ++ (columnList 0 d.fields ++ (word " FROM " ++ (word d.typeName ++
    (word " WHERE guid=" ++ number myguid.toNat))))

/-- `colVal.data()`: a NULL reads as the text `NULL`. -/
def cellBytes : Cell → List UInt8
  | .null => [78, 85, 76, 76]
  | .int n => (number n).filterMap fun s =>
      match s with
      | .chr c => some (UInt8.ofNat c.toNat)
      | .quoted _ => none
  | .bytes bs => bs

/-- `ssm.read` of a `uint32`; past the end the bytes that are missing stay 0. -/
def readUint32 (bs : List UInt8) : Nat := LittleEndian.ofBytes (bs.take 4)

/-- A number of `width` bytes as its type reads it. -/
def toNumber (width : Nat) (signed : Bool) (v : Nat) : Int :=
  if signed ∧ 2 * v ≥ 256 ^ width then (v : Int) - 256 ^ width else v

/-- The values of `ADD_REPEATED_NUMBER`. -/
def readNumbers (width : Nat) (signed : Bool) : Nat → List UInt8 → List Int
  | 0, _ => []
  | n + 1, bs =>
      toNumber width signed (LittleEndian.ofBytes (bs.take width)) ::
        readNumbers width signed n (bs.drop width)

/-- The buffers that the loops over strings and messages fill: each has the length written before
    it, zeros where the column ends early. -/
def readBuffers : Nat → List UInt8 → List (List UInt8)
  | 0, _ => []
  | n + 1, bs =>
      let size := readUint32 bs
      let rest := bs.drop 4
      (rest.take size ++ List.replicate (size - rest.length) 0) :: readBuffers n (rest.drop size)

/-- One column into its field. -/
def loadColumn (C : Codec Sub) (f : Field) (colVal : Cell) :
    Except LoadError (List (Scalar Sub)) :=
  let bytes := cellBytes colVal
  let num := readUint32 bytes
  if f.label = .repeated ∨ f.type = .message then
    if f.type.isString then
      -- the buffer is read and dropped: what is added is the column
      .ok ((readBuffers num (bytes.drop 4)).map fun _ => .data bytes)
    else if f.type = .message then
      if f.label = .repeated then
        .ok ((readBuffers num (bytes.drop 4)).map fun buf => .sub (C.parse buf))
      -- `AddMessage` to a field that is not repeated
      else if num = 0 then .ok [] else .error .aborted
    else
      match f.type.width? with
      | some width => .ok ((readNumbers width f.type.signed num (bytes.drop 4)).map .int)
      | none => .ok []
  else if f.type.isString then .ok [.data bytes]
  else
    match f.type.width?, colVal with
    | some _, .int n => .ok [.int n]
    -- `BadConversion`
    | some _, _ => .error .internal
    | none, _ => .ok []

/-- The loop over the fields; the columns come in the order of the query. -/
def loadFields (C : Codec Sub) : List Field → List Cell → Message Sub →
    Except LoadError (Message Sub)
  | [], _, m => .ok m
  | _ :: _, [], _ => .error .internal
  | f :: fs, c :: cs, m =>
      match loadColumn C f c with
      | .ok vs => loadFields C fs cs (Function.update m f vs)
      | .error e => .error e

/-- `getTableFieldDefault` and `getTableFieldIsNull`: numbers and booleans default to 0; another
    column defaults to NULL unless its field is required. -/
def columnDefault (f : Field) : Option Cell :=
  if f.label ≠ .repeated ∧ (f.type.width?.isSome ∨ f.type = .bool) then some (.int 0)
  else if f.label = .required then none else some .null

/-- The table of a message type. -/
def Descriptor.schema (d : Descriptor) (table : Text) : List Column :=
  if table = word d.typeName then d.fields.map fun f => ⟨word f.name, columnDefault f⟩ else []

/-- `CacheAssistantx::load` into a fresh message. -/
def load (E : Engine guidKey) (C : Codec Sub) (d : Descriptor) (db : Database) (myguid : UInt64) :
    Except LoadError (Message Sub) :=
  match select E d.schema db (loadText d myguid) with
  | none => .error .internal
  | some [] =>
      .error (.notFound ("Cannot find " ++ d.typeName ++ "<<" ++ toString myguid ++ ">>"))
  | some (row :: _) => loadFields C d.fields row fun _ => []

end

end Steppingstone.Dynamic
