/-
  Steppingstone.Cached.Serialize — the records on their way through the SQLite
  file (`ManageSerialize.cpp`, `SQLiteSerialize.cpp`, `processSqliteFile`).

  The field list is repeated in the record builder, the insert statement with its
  bindings, and the select statement with its column reader.  The engine stores
  what it is given: a row maps the columns of the insert statement to the values
  bound at their positions, and the reader takes values from the positions of the
  select statement.
-/
import Mathlib.Tactic.Ring
import Steppingstone.Cached.Logged
import Steppingstone.Lib.Paging

namespace Steppingstone.Cached

open Converter (Record RecordType)

/-! ## §1. The record of a request. -/

/-- `DataRequestInfo`, as `writeRecord` sees it; its `owner_guid` is the one of the
`db_data_request`. -/
structure LoggedRequest where
  opcode : Int32
  guid : UInt64
  dataRequest : DbDataRequest
  lastModifyTime : UInt64

/-- `size()` of a stream, as an `int`. -/
def intSize (stream : List UInt8) : Int32 := Int32.ofNat stream.length

/-- `ManageSerialize::writeRecord`; `guid` is the next of `getGUID`. -/
def serializeRecord (guid : UInt64) (info : LoggedRequest) (recordType : RecordType) :
    Record (List UInt8) where
  guid := guid
  objectGuid := info.guid
  ownerGuid := info.dataRequest.ownerGuid
  opcode := info.opcode.toInt
  stream := info.dataRequest.dataStream
  streamSize := (intSize info.dataRequest.dataStream).toInt
  optype := recordType
  lastModifyTime := info.lastModifyTime
  transactionIndex := info.dataRequest.transactionIndex
  transactionNum := info.dataRequest.transactionNum
  transactionId := info.dataRequest.transactionId
  lineId := info.dataRequest.lineId

/-- The records of the requests; the last guid in use is `guidIndex`. -/
def serializeRecords (guidIndex : UInt64) :
    List (LoggedRequest × RecordType) → List (Record (List UInt8))
  | [] => []
  | (info, recordType) :: rest =>
      serializeRecord (guidIndex + 1) info recordType :: serializeRecords (guidIndex + 1) rest

/-- The server's record of a packet is the record of its request; only its stream is
the entity that the stream holds. -/
theorem recordOf_eq {μ : Type} {parser : Parser μ} {packet : Packet} {now : UInt64}
    {info : DataRequestInfo μ} {dataRequest : DbDataRequest}
    (h : readPacket parser packet now = some info)
    (hr : parser.parseRequest packet.body = some dataRequest)
    (guid : UInt64) (opcode : Int32) (recordType : RecordType) :
    let record := serializeRecord guid ⟨opcode, packet.guid, dataRequest, now⟩ recordType
    recordOf info recordType =
      { objectGuid := record.objectGuid, ownerGuid := record.ownerGuid, stream := info.entityMsg,
        optype := record.optype, lastModifyTime := record.lastModifyTime,
        transactionIndex := record.transactionIndex, transactionNum := record.transactionNum,
        transactionId := record.transactionId, lineId := record.lineId } := by
  obtain ⟨dataRequest', _, hr', rfl⟩ := readPacket_eq h
  obtain rfl : dataRequest = dataRequest' := Option.some.inj (hr.symm.trans hr')
  rfl

/-! ## §2. The table. -/

/-- The columns of `CREATE_RECORD_TABLE`. -/
inductive Column
  | guid | objectGuid | ownerGuid | opcode | streamSize | stream | optype | lastModifyTime
  | transIndex | transNum | transId | lineId
  deriving Repr, DecidableEq

/-- What SQLite stores. -/
inductive Value
  | null
  | integer (i : Int64)
  | blob (bytes : List UInt8)
  deriving Repr, DecidableEq

/-- A row of the table `record`. -/
abbrev Row := Column → Value

/-- `sqlite3_bind_int`. -/
def bindInt (i : Int32) : Value := .integer i.toInt64

/-- `sqlite3_bind_int64`. -/
def bindInt64 (i : Int64) : Value := .integer i

/-- `sqlite3_bind_blob`; nothing is bound for a negative length. -/
def bindBlob (bytes : List UInt8) (n : Int32) : Value :=
  if n < 0 then .null else .blob (bytes.take n.toNatClampNeg)

/-- `sqlite3_column_int64`; a null is zero. -/
def Value.columnInt64 : Value → Int64
  | .integer i => i
  | _ => 0

/-- `sqlite3_column_int`: the lower half. -/
def Value.columnInt (v : Value) : Int32 := v.columnInt64.toInt32

/-- `sqlite3_column_blob`: no pointer for a null or an empty blob. -/
def Value.columnBlob : Value → Option (List UInt8)
  | .blob bytes => if bytes.isEmpty then none else some bytes
  | _ => none

/-- `std::string(ptr, n)`: undefined past the end or for a negative length. -/
def stdString (ptr : Option (List UInt8)) (n : Int32) : Option (List UInt8) :=
  let bytes := ptr.getD []
  if n < 0 ∨ bytes.length < n.toNatClampNeg then none else some (bytes.take n.toNatClampNeg)

end Steppingstone.Cached

namespace Steppingstone.Converter

/-- The value of `enum RecordType`. -/
def RecordType.toInt32 : RecordType → Int32
  | .base => 0
  | .insert => 1
  | .load => 2
  | .query => 3
  | .update => 4
  | .flush => 5
  | .remove => 6
  | .insertWithFlush => 7

/-- The member of `enum RecordType`; no other value is ever written. -/
def RecordType.ofInt32 (i : Int32) : RecordType :=
  if i = 1 then .insert else if i = 2 then .load else if i = 3 then .query
  else if i = 4 then .update else if i = 5 then .flush else if i = 6 then .remove
  else if i = 7 then .insertWithFlush else .base

@[simp] theorem RecordType.ofInt32_toInt32 (t : RecordType) : ofInt32 t.toInt32 = t := by
  cases t <;> rfl

end Steppingstone.Converter

namespace Steppingstone.Cached

open Converter (Record RecordType)

/-! ## §3. `SQLiteSerialize::write`. -/

/-- The columns of `insert_record_sql`. -/
def insertColumns : List Column :=
  [.guid, .objectGuid, .ownerGuid, .opcode, .streamSize, .stream, .optype, .lastModifyTime,
    .transIndex, .transNum, .transId, .lineId]

/-- The bindings of `write`, position by position. -/
def bindings (record : Record (List UInt8)) : List Value :=
  [bindInt64 record.guid.toInt64,
    bindInt64 record.objectGuid.toInt64,
    bindInt64 record.ownerGuid.toInt64,
    bindInt (Int32.ofInt record.opcode),
    bindInt (Int32.ofInt record.streamSize),
    bindBlob record.stream (intSize record.stream),
    bindInt record.optype.toInt32,
    bindInt64 record.lastModifyTime.toInt64,
    bindInt record.transactionIndex.toInt32,
    bindInt record.transactionNum.toInt32,
    bindInt record.transactionId.toInt32,
    bindInt record.lineId.toInt32]

/-- `SQLiteSerialize::write`: the row that is inserted. -/
def insertRow (record : Record (List UInt8)) : Row := fun column =>
  ((insertColumns.zip (bindings record)).lookup column).getD .null

/-! ## §4. `SQLiteSerialize::read`. -/

/-- The columns of the select statement. -/
def selectColumns : List Column :=
  [.guid, .objectGuid, .opcode, .streamSize, .stream, .optype, .lastModifyTime, .transIndex,
    .transNum, .transId, .lineId]

/-- The value at a position of the result row. -/
def Row.column (row : Row) (i : Nat) : Value := (selectColumns[i]?).elim .null row

/-- The record that `read` makes of a row. -/
def readRow (row : Row) : Option (Record (List UInt8)) :=
  let streamSize := (row.column 3).columnInt
  (stdString (row.column 4).columnBlob streamSize).map fun stream =>
    { guid := (row.column 0).columnInt64.toUInt64
      objectGuid := (row.column 1).columnInt64.toUInt64
      opcode := (row.column 2).columnInt.toInt
      streamSize := streamSize.toInt
      stream
      optype := RecordType.ofInt32 (row.column 5).columnInt
      lastModifyTime := (row.column 6).columnInt64.toUInt64
      transactionIndex := (row.column 7).columnInt.toUInt32
      transactionNum := (row.column 8).columnInt.toUInt32
      transactionId := (row.column 9).columnInt.toUInt32
      lineId := (row.column 10).columnInt.toUInt32 }

/-- The guid of a row, as the engine compares it. -/
def Row.key (row : Row) : Int := (row .guid).columnInt64.toInt

/-- `read` with the condition of `processSqliteFile`: the first rows above the guid, in
the order of their guids. -/
def read (readNumber : Nat) (guid : UInt64) (table : List Row) :
    Option (List (Record (List UInt8))) :=
  (Paging.page Row.key readNumber guid.toNat table).mapM readRow

/-- `once_read_no`. -/
def onceReadNo : Nat := 10000

/-- The loop of `processSqliteFile`, which hands every record it reads to
`processRecordSet`. -/
def readLoop : Nat → UInt64 → List Row → Option (List (Record (List UInt8)))
  | 0, _, _ => none
  | fuel + 1, guid, table => do
      let recordSet ← read onceReadNo guid table
      let guid := (recordSet.getLast?.map (·.guid)).getD guid
      if recordSet.length < onceReadNo then some recordSet
      else
        let rest ← readLoop fuel guid table
        return recordSet ++ rest

/-- The records that the converter reads from a file, in their order. -/
def processSqliteFile (table : List Row) : Option (List (Record (List UInt8))) :=
  readLoop (table.length + 1) 0 table

/-! ## §5. What survives. -/

/-- The record carries what the request did. -/
structure Survives (request : LoggedRequest × RecordType) (record : Record (List UInt8)) :
    Prop where
  objectGuid : record.objectGuid = request.1.guid
  optype : record.optype = request.2
  stream : record.stream = request.1.dataRequest.dataStream
  lastModifyTime : record.lastModifyTime = request.1.lastModifyTime
  transactionIndex : record.transactionIndex = request.1.dataRequest.transactionIndex
  transactionNum : record.transactionNum = request.1.dataRequest.transactionNum
  transactionId : record.transactionId = request.1.dataRequest.transactionId
  lineId : record.lineId = request.1.dataRequest.lineId
  ownerGuid : record.ownerGuid = request.1.dataRequest.ownerGuid
  entityName : record.entityName = request.1.dataRequest.entityName

/-- **What a row gives back of a record**: all but the owner and the entity name, if
the stream fits. -/
theorem readRow_insertRow (record : Record (List UInt8))
    (hsize : record.streamSize = (intSize record.stream).toInt) :
    readRow (insertRow record) =
      (stdString (bindBlob record.stream (intSize record.stream)).columnBlob
        (intSize record.stream)).map fun stream =>
          { record with
            ownerGuid := 0, entityName := "", cacheAddr := "", lastIsFlush := false,
            opcode := (Int32.ofInt record.opcode).toInt, stream } := by
  have hcolumns : ((insertRow record).column 3).columnInt = intSize record.stream := by
    show (Int32.ofInt record.streamSize).toInt64.toInt32 = _
    rw [Int32.toInt32_toInt64, hsize, Int32.ofInt_toInt]
  have htype : RecordType.ofInt32 ((insertRow record).column 5).columnInt = record.optype := by
    show RecordType.ofInt32 record.optype.toInt32.toInt64.toInt32 = _
    rw [Int32.toInt32_toInt64, RecordType.ofInt32_toInt32]
  have hint (x : UInt32) : (bindInt x.toInt32).columnInt.toUInt32 = x := by
    show x.toInt32.toInt64.toInt32.toUInt32 = x
    rw [Int32.toInt32_toInt64, UInt32.toUInt32_toInt32]
  unfold readRow
  rw [hcolumns, htype]
  refine congrArg₂ Option.map (funext fun stream => ?_) rfl
  show ({ guid := _, objectGuid := _, opcode := _, streamSize := _, stream, optype := _,
          lastModifyTime := _, transactionIndex := (bindInt _).columnInt.toUInt32,
          transactionNum := (bindInt _).columnInt.toUInt32,
          transactionId := (bindInt _).columnInt.toUInt32,
          lineId := (bindInt _).columnInt.toUInt32 } : Record (List UInt8)) = _
  rw [hint, hint, hint, hint, hsize]
  have hop : ((insertRow record).column 2).columnInt = Int32.ofInt record.opcode :=
    Int32.toInt32_toInt64 _
  rw [hop]
  rfl

/-- A stream comes back as it was exactly when its size is a positive `int`. -/
theorem stdString_bindBlob (stream : List UInt8) :
    stdString (bindBlob stream (intSize stream)).columnBlob (intSize stream) = some stream ↔
      stream.length < 2 ^ 31 := by
  have hbound := Int32.toNatClampNeg_lt (intSize stream)
  constructor
  · intro h
    unfold stdString at h
    dsimp only at h
    split at h
    · cases h
    · have hlen := congrArg List.length (Option.some.inj h)
      rw [List.length_take] at hlen
      omega
  · intro hlt
    have hnat : (intSize stream).toNatClampNeg = stream.length :=
      Int32.toNatClampNeg_ofNat_of_lt hlt
    have hpos : ¬ intSize stream < 0 := by
      rw [Int32.lt_iff_toInt_lt]
      have hint : (intSize stream).toInt = stream.length := Int32.toInt_ofNat_of_lt hlt
      rw [hint]
      exact Int.not_lt.mpr (Int.natCast_nonneg _)
    have hblob : (bindBlob stream (intSize stream)).columnBlob.getD [] = stream := by
      unfold bindBlob
      rw [if_neg hpos, hnat, List.take_length]
      unfold Value.columnBlob
      cases stream <;> rfl
    unfold stdString
    dsimp only
    rw [hblob, hnat, if_neg (not_or.mpr ⟨hpos, Nat.lt_irrefl _⟩), List.take_length]

/-! ## §6. The pages of the reader. -/

/-- The guid of a record is the key of its row, when that is not negative. -/
theorem readRow_guid {row : Row} {record : Record (List UInt8)} (h : readRow row = some record)
    (hkey : 0 ≤ row.key) : (record.guid.toNat : Int) = row.key := by
  obtain ⟨stream, _, rfl⟩ := Option.map_eq_some_iff.mp h
  show ((row .guid).columnInt64.toUInt64.toNat : Int) = (row .guid).columnInt64.toInt
  have hkey' : 0 ≤ (row .guid).columnInt64.toInt := hkey
  have hle : 0 ≤ (row .guid).columnInt64 := Int64.le_iff_toInt_le.mpr hkey'
  rw [Int64.toNat_toUInt64_of_le hle, ← Int64.toNat_toInt]
  exact Int.toNat_of_nonneg hkey'

/-- The loop moves on from the last key of the page. -/
theorem readLoop_next {rows : List Row} {guid : UInt64} {records : List (Record (List UInt8))}
    (h : read onceReadNo guid rows = some records) :
    ((((records.getLast?.map (·.guid)).getD guid).toNat : Nat) : Int)
      = Paging.nextBound Row.key guid.toNat (Paging.page Row.key onceReadNo guid.toNat rows) := by
  have hall := Paging.mapM_eq_some.mp h
  have hpos : ∀ row ∈ Paging.page Row.key onceReadNo guid.toNat rows, 0 ≤ row.key := by
    intro row hrow
    have hlt := (Paging.mem_rowsAbove.mp (List.mem_of_mem_take hrow)).2
    omega
  generalize Paging.page Row.key onceReadNo guid.toNat rows = p at hall hpos
  unfold Paging.nextBound
  clear h
  -- the last row became the last record
  induction hall with
  | nil => rfl
  | cons hr htail ih =>
      rename_i row record rows records
      cases htail with
      | nil => exact readRow_guid hr (hpos row List.mem_cons_self)
      | cons hr' htail' =>
          exact ih (fun x hx => hpos x (List.mem_cons_of_mem row hx))

/-- **The converter reads the pages of the table**, one record a row. -/
theorem readLoop_eq (table : List Row) (fuel : Nat) (guid : UInt64)
    (hfuel : (table.filter (fun row => (guid.toNat : Int) < row.key)).length < fuel) :
    readLoop fuel guid table =
      (Paging.readPages Row.key onceReadNo fuel guid.toNat table).mapM readRow := by
  -- page by page: both loops move on from the same key
  induction fuel generalizing guid with
  | zero => omega
  | succ fuel ih =>
      have hshrink := Paging.length_above_nextBound Row.key onceReadNo guid.toNat table
      have hpages : Paging.readPages Row.key onceReadNo (fuel + 1) guid.toNat table =
          if (Paging.page Row.key onceReadNo guid.toNat table).length < onceReadNo then
            Paging.page Row.key onceReadNo guid.toNat table
          else Paging.page Row.key onceReadNo guid.toNat table ++
            Paging.readPages Row.key onceReadNo fuel (Paging.nextBound Row.key guid.toNat
              (Paging.page Row.key onceReadNo guid.toNat table)) table := rfl
      rw [hpages]
      unfold readLoop
      match hread : read onceReadNo guid table with
      | none =>
          have hnone : (Paging.page Row.key onceReadNo guid.toNat table).mapM readRow = none := hread
          split
          · exact hnone.symm
          · rw [List.mapM_append, hnone]
            rfl
      | some records =>
          have hsome : (Paging.page Row.key onceReadNo guid.toNat table).mapM readRow = some records :=
            hread
          have hlen : records.length = (Paging.page Row.key onceReadNo guid.toNat table).length :=
            (Paging.mapM_eq_some.mp hsome).length_eq.symm
          have hnext := readLoop_next hread
          show (if records.length < onceReadNo then some records else _) = _
          rw [hlen]
          split
          · exact hsome.symm
          · rename_i hfull
            have hpage : 0 < (Paging.page Row.key onceReadNo guid.toNat table).length := by
              have : 0 < onceReadNo := by decide
              omega
            rw [List.mapM_append, hsome, ← hnext]
            show ((readLoop fuel _ table).bind fun rest => some (records ++ rest)) = _
            rw [ih]
            · rfl
            · rw [hnext]
              omega

/-! ## §7. Files. -/

/-- What a row of the file needs to give its request back. -/
def LoggedRequest.Fits (info : LoggedRequest) : Prop :=
  info.dataRequest.ownerGuid = 0 ∧ info.dataRequest.entityName = "" ∧
    info.dataRequest.dataStream.length < 2 ^ 31

/-- **One request survives** exactly when its fields fit: the owner is not read, the
entity name not written. -/
theorem row_survives_iff (guid : UInt64) (info : LoggedRequest) (recordType : RecordType) :
    (∃ record, readRow (insertRow (serializeRecord guid info recordType)) = some record ∧
      Survives (info, recordType) record) ↔ info.Fits := by
  have hread := readRow_insertRow (serializeRecord guid info recordType) rfl
  constructor
  · intro h
    obtain ⟨record, hrecord, hsurvives⟩ := h
    rw [hread] at hrecord
    obtain ⟨stream, hstream, rfl⟩ := Option.map_eq_some_iff.mp hrecord
    obtain rfl : stream = info.dataRequest.dataStream := hsurvives.stream
    exact ⟨hsurvives.ownerGuid.symm, hsurvives.entityName.symm, (stdString_bindBlob _).mp hstream⟩
  · intro h
    obtain ⟨howner, hname, hsize⟩ := h
    refine ⟨_, hread.trans (congrArg _ ((stdString_bindBlob _).mpr hsize)), ?_⟩
    exact ⟨rfl, rfl, rfl, rfl, rfl, rfl, rfl, rfl, howner.symm, hname.symm⟩

/-- The rows of a file. -/
def fileRows (guidIndex : UInt64) (requests : List (LoggedRequest × RecordType)) : List Row :=
  (serializeRecords guidIndex requests).map insertRow

theorem length_fileRows (guidIndex : UInt64) (requests : List (LoggedRequest × RecordType)) :
    (fileRows guidIndex requests).length = requests.length := by
  induction requests generalizing guidIndex with
  | nil => rfl
  | cons request requests ih =>
      show (fileRows (guidIndex + 1) requests).length + 1 = requests.length + 1
      rw [ih]

/-- A guid below 2^63 is its own key. -/
theorem key_insertRow {record : Record (List UInt8)} (h : record.guid.toNat < 2 ^ 63) :
    (insertRow record).key = record.guid.toNat := by
  show record.guid.toBitVec.toInt = record.guid.toNat
  exact BitVec.toInt_eq_toNat_of_lt (by show 2 * record.guid.toNat < 2 ^ 64; omega)

/-- A guid from 2^63 on is a negative key, and not read. -/
theorem key_insertRow_nonpos {record : Record (List UInt8)}
    (h : record.guid.toNat = 0 ∨ 2 ^ 63 ≤ record.guid.toNat) : (insertRow record).key ≤ 0 := by
  show record.guid.toBitVec.toInt ≤ 0
  have hlt := record.guid.toNat_lt
  rw [BitVec.toInt_eq_toNat_cond]
  show (if 2 * record.guid.toNat < 2 ^ 64 then (record.guid.toNat : Int)
    else (record.guid.toNat : Int) - (2 ^ 64 : Nat)) ≤ 0
  split
  · omega
  · omega

theorem toNat_succ (guidIndex : UInt64) :
    (guidIndex + 1).toNat = guidIndex.toNat + 1 ∨
      (guidIndex + 1).toNat = 0 ∧ guidIndex.toNat + 1 = 2 ^ 64 := by
  have hlt := guidIndex.toNat_lt
  rw [UInt64.toNat_add]
  show (guidIndex.toNat + 1) % 2 ^ 64 = _ ∨ (guidIndex.toNat + 1) % 2 ^ 64 = 0 ∧ _
  omega

/-- The keys of a file increase, as long as the guids stay below 2^63. -/
theorem fileRows_increasing {guidIndex : UInt64} {requests : List (LoggedRequest × RecordType)}
    (h : guidIndex.toNat + requests.length < 2 ^ 63) :
    (fileRows guidIndex requests).Pairwise (fun a b => a.key < b.key) ∧
      ∀ row ∈ fileRows guidIndex requests, (guidIndex.toNat : Int) < row.key := by
  induction requests generalizing guidIndex with
  | nil => exact ⟨.nil, nofun⟩
  | cons request requests ih =>
      rw [List.length_cons] at h
      have hnext : (guidIndex + 1).toNat = guidIndex.toNat + 1 := by
        have := toNat_succ guidIndex
        omega
      have hkey : (insertRow (serializeRecord (guidIndex + 1) request.1 request.2)).key
          = (guidIndex + 1).toNat :=
        key_insertRow (by show (guidIndex + 1).toNat < 2 ^ 63; omega)
      have hrest : (guidIndex + 1).toNat + requests.length < 2 ^ 63 := by omega
      obtain ⟨hsorted, habove⟩ := ih hrest
      refine ⟨List.pairwise_cons.mpr ⟨fun row hrow => ?_, hsorted⟩, fun row hrow => ?_⟩
      · rw [hkey]
        exact habove row hrow
      · obtain rfl | hrow := List.mem_cons.mp hrow
        · rw [hkey]
          omega
        · have := habove row hrow
          omega

/-- Past 2^63 some row of the file has no positive key. -/
theorem exists_nonpos {guidIndex : UInt64} {requests : List (LoggedRequest × RecordType)}
    (hne : requests ≠ []) (h : ¬ guidIndex.toNat + requests.length < 2 ^ 63) :
    ∃ row ∈ fileRows guidIndex requests, row.key ≤ 0 := by
  induction requests generalizing guidIndex with
  | nil => exact absurd rfl hne
  | cons request requests ih =>
      rw [List.length_cons] at h
      have hnext := toNat_succ guidIndex
      by_cases hbig : (guidIndex + 1).toNat = 0 ∨ 2 ^ 63 ≤ (guidIndex + 1).toNat
      · exact ⟨_, List.mem_cons_self, key_insertRow_nonpos hbig⟩
      · have hrest : requests ≠ [] := by
          intro hnil
          rw [hnil, List.length_nil] at h
          omega
        have hge : ¬ (guidIndex + 1).toNat + requests.length < 2 ^ 63 := by omega
        obtain ⟨row, hrow, hkey⟩ := ih hrest hge
        exact ⟨row, List.mem_cons_of_mem _ hrow, hkey⟩

/-- The converter reads the pages of a file. -/
theorem processSqliteFile_eq (table : List Row) :
    processSqliteFile table =
      (Paging.readPages Row.key onceReadNo (table.length + 1) 0 table).mapM readRow :=
  readLoop_eq table (table.length + 1) 0 (Nat.lt_succ_of_le (List.length_filter_le _ _))

/-- A file whose guids stay below 2^63 is read as a whole, in its order. -/
theorem fileRows_pages {guidIndex : UInt64} {requests : List (LoggedRequest × RecordType)}
    (h : requests = [] ∨ guidIndex.toNat + requests.length < 2 ^ 63) :
    Paging.readPages Row.key onceReadNo ((fileRows guidIndex requests).length + 1) 0
      (fileRows guidIndex requests) = fileRows guidIndex requests := by
  have hincreasing : (fileRows guidIndex requests).Pairwise (fun a b => a.key < b.key) ∧
      ∀ row ∈ fileRows guidIndex requests, 0 < row.key := by
    obtain rfl | hlt := h
    · exact ⟨.nil, nofun⟩
    · obtain ⟨hsorted, habove⟩ := fileRows_increasing hlt
      refine ⟨hsorted, fun row hrow => ?_⟩
      have := habove row hrow
      omega
  exact Paging.readPages_of_increasing (by decide) (List.nil_append _).symm hincreasing.1 nofun
    hincreasing.2 (Nat.lt_succ_self _)

/-- Row by row, the requests survive when they fit. -/
theorem rows_survive_iff (guidIndex : UInt64) (requests : List (LoggedRequest × RecordType)) :
    (∃ records, (fileRows guidIndex requests).mapM readRow = some records ∧
      List.Forall₂ Survives requests records) ↔ ∀ request ∈ requests, request.1.Fits := by
  simp only [Paging.mapM_eq_some]
  induction requests generalizing guidIndex with
  | nil => exact iff_of_true ⟨[], .nil, .nil⟩ nofun
  | cons request requests ih =>
      have hrow := row_survives_iff (guidIndex + 1) request.1 request.2
      rw [List.forall_mem_cons, ← ih (guidIndex + 1), ← hrow]
      constructor
      · intro h
        obtain ⟨_, hread, hsurvive⟩ := h
        obtain ⟨record, records, hr, hrs, rfl⟩ := List.forall₂_cons_left_iff.mp hread
        obtain ⟨hs, hss⟩ := List.forall₂_cons.mp hsurvive
        exact ⟨⟨record, hr, hs⟩, records, hrs, hss⟩
      · intro h
        obtain ⟨⟨record, hr, hs⟩, records, hrs, hss⟩ := h
        exact ⟨record :: records, .cons hr hrs, .cons hs hss⟩

/-- **When the records of a file survive**: the converter reads a record for each
request, in order, with the request's fields, exactly when no request names an owner or
an entity, every stream is shorter than 2^31, and the guids stay below 2^63. -/
theorem file_survives_iff (guidIndex : UInt64) (requests : List (LoggedRequest × RecordType)) :
    (∃ records, processSqliteFile (fileRows guidIndex requests) = some records ∧
      List.Forall₂ Survives requests records) ↔
      (∀ request ∈ requests, request.1.Fits) ∧
        (requests = [] ∨ guidIndex.toNat + requests.length < 2 ^ 63) := by
  rw [processSqliteFile_eq]
  by_cases hrange : requests = [] ∨ guidIndex.toNat + requests.length < 2 ^ 63
  · rw [fileRows_pages hrange, rows_survive_iff, and_iff_left hrange]
  · refine iff_of_false ?_ fun h => hrange h.2
    intro h
    obtain ⟨records, hread, hsurvive⟩ := h
    obtain ⟨hne, hge⟩ := not_or.mp hrange
    obtain ⟨row, hrow, hkey⟩ := exists_nonpos hne hge
    -- that row is never read, so there are too few records
    have hlen := (Paging.mapM_eq_some.mp hread).length_eq
    have hle : (Paging.readPages Row.key onceReadNo ((fileRows guidIndex requests).length + 1) 0
        (fileRows guidIndex requests)).length
          ≤ ((fileRows guidIndex requests).filter (fun row => (0 : Int) < row.key)).length :=
      Paging.length_readPages_le _ 0
    have hlt : ((fileRows guidIndex requests).filter (fun row => (0 : Int) < row.key)).length
        < (fileRows guidIndex requests).length :=
      List.length_filter_lt_length_iff_exists.mpr ⟨row, hrow, by simpa using hkey⟩
    have hrows := length_fileRows guidIndex requests
    have hsame := hsurvive.length_eq
    omega

/-! ## §8. A coin. -/

/-- An update of the coin 7 of the player 9. -/
def coinUpdate : LoggedRequest where
  opcode := 4
  guid := 7
  dataRequest :=
    { transactionIndex := 1, transactionNum := 1, transactionId := 3, lineId := 1,
      dataStream := coinBytes 6, ownerGuid := 9, entityName := "Coin" }
  lastModifyTime := 100

/-- **The coin arrives without its owner and its entity name.** -/
theorem coin_record_loses_name :
    ∃ records, processSqliteFile (fileRows 0 [(coinUpdate, .update)]) = some records ∧
      records.map (fun r => (r.ownerGuid, r.entityName)) = [(0, "")] ∧
      ¬ List.Forall₂ Survives [(coinUpdate, .update)] records := by
  refine ⟨[{ serializeRecord 1 coinUpdate .update with ownerGuid := 0 }], ?_, rfl, ?_⟩
  · rw [processSqliteFile_eq, fileRows_pages (.inr (by decide))]
    rfl
  · intro h
    obtain ⟨record, records, hsurvives, _, heq⟩ := List.forall₂_cons_left_iff.mp h
    obtain ⟨rfl, rfl⟩ := List.cons.inj heq
    have hname : "" = "Coin" := hsurvives.entityName
    exact absurd hname (by decide)

end Steppingstone.Cached
