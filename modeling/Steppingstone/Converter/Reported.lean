/-
  Steppingstone.Converter.Reported — what the converter reports of a file
  (`ManageSqliteFile::processSqliteFile`).

  Results are passed up through four functions, and none of them is that of a write:
  `checkMergeRecord`, which writes the merged records, returns nothing, and `processRecord`
  is always successful.  Above it the results are joined by "or", from a result that is true.

  What is written, and in which order, does not depend on the database: it is a plan that the file
  and what earlier files left behind decide.  The conversion follows it.
-/
import Steppingstone.Converter.Merge
import Steppingstone.Converter.Collect
import Steppingstone.Cached.Serialize

namespace Steppingstone.Converter

open Cached (Row)

/-! ## §1. What is passed up. -/

/-- What the thread of a cache works on: the groups that wait, `ManageSqliteFile` itself, and the
calls of `writeRecordToDb` so far with their results. -/
structure Conversion where
  lineTransRecord : LineTransRecord Unit (List UInt8) := fun _ => none
  manage : ManageSqliteFile (List UInt8)
  writes : List (Record (List UInt8) × Bool) := []

/-- What the database makes of the `n`-th write. -/
abbrev WriteResults := Nat → Record (List UInt8) → Bool

/-- A file: whether it opens, its table, and whether the select statement that starts above a guid
runs to its end. -/
structure SqliteFile where
  opens : Bool
  table : List Row
  selects : UInt64 → Bool

/-- `SQLiteSerialize::read` with the condition of `processSqliteFile`. -/
def SqliteFile.read (file : SqliteFile) (guid : UInt64) : Option (List (Record (List UInt8))) :=
  if file.selects guid then Cached.read Cached.onceReadNo guid file.table else none

namespace Conversion

/-- The loop of `checkMergeRecord`. -/
def writeRecord (results : WriteResults) (c : Conversion) (record : Record (List UInt8)) :
    Conversion :=
  let opr := results c.writes.length record
  { c with
    manage := writeEntry (fun _ => opr) c.manage record
    writes := c.writes ++ [(record, opr)] }

/-- `checkMergeRecord`; the map is a `std::map`. -/
def checkMergeRecord (results : WriteResults) (fileProcessFinish : Bool) (c : Conversion) :
    Conversion :=
  if !fileProcessFinish && c.manage.mergeRecordMap.entries.length < maxMergeRecordNumber then c
  else
    let order := c.manage.mergeRecordMap.records.mergeSort (fun a b => a.objectGuid ≤ b.objectGuid)
    let c := order.foldl (writeRecord results) c
    { c with manage := { c.manage with mergeRecordMap := ∅ } }

/-- `processRecord`. -/
def processRecord (results : WriteResults) (cacheAddr : String) (c : Conversion)
    (record : Record (List UInt8)) : Conversion × Bool :=
  let merged := mergeRecord cacheAddr c.manage.mergeRecordMap record
  (checkMergeRecord results false { c with manage := { c.manage with mergeRecordMap := merged } },
    true)

/-- `collectTransaction`: the records that it hands over, in their order, with the results of all
of them. -/
def collectTransaction (results : WriteResults) (cacheAddr : String) (c : Conversion)
    (record : Record (List UInt8)) : Conversion × Bool :=
  let groups :=
    Converter.collectTransaction { lineTransRecord := c.lineTransRecord } ⟨(), record⟩
  groups.processed.foldl
    (fun (c, result) sent =>
      let (c, opr) := processRecord results cacheAddr c sent.record
      -- the results of a group are joined by "and"
      (c, opr && result))
    ({ c with lineTransRecord := groups.lineTransRecord }, true)

/-- `processRecordSet`. -/
def processRecordSet (results : WriteResults) (cacheAddr : String) (c : Conversion)
    (recordSet : List (Record (List UInt8))) : Conversion × Bool :=
  recordSet.foldl
    (fun (c, result) record =>
      let (c, opr) := collectTransaction results cacheAddr c record
      -- those of the records by "or"
      (c, opr || result))
    (c, true)

/-- The loop of `processSqliteFile`; `none` without fuel. -/
def readLoop (results : WriteResults) (cacheAddr : String) (file : SqliteFile) :
    Nat → UInt64 → Conversion → Bool → Option (Conversion × Bool)
  | 0, _, _, _ => none
  | fuel + 1, guid, c, opr =>
      match file.read guid with
      | none => some (c, false)
      | some recordSet =>
          let guid := (recordSet.getLast?.map (·.guid)).getD guid
          let (c, result) := processRecordSet results cacheAddr c recordSet
          -- the result so far is true from the start on
          let opr := result || opr
          if recordSet.length < Cached.onceReadNo then
            some (checkMergeRecord results true c, opr)
          else readLoop results cacheAddr file fuel guid c opr

/-- **`processSqliteFile`.** -/
def processSqliteFile (results : WriteResults) (cacheAddr : String) (file : SqliteFile)
    (c : Conversion) : Option (Conversion × Bool) :=
  let c := { c with writes := [] }
  if file.opens then readLoop results cacheAddr file (file.table.length + 1) 0 c true
  else some (c, false)

end Conversion

/-! ## §2. No result is a failure. -/

section Results

variable (results : WriteResults) (cacheAddr : String) (c : Conversion)

theorem processRecordSet_result (recordSet : List (Record (List UInt8))) :
    (c.processRecordSet results cacheAddr recordSet).2 = true := by
  unfold Conversion.processRecordSet
  induction recordSet generalizing c with
  | nil => rfl
  | cons record recordSet ih =>
      rw [List.foldl_cons]
      dsimp only
      rw [Bool.or_true]
      exact ih _

end Results

/-! ## §3. What a file calls for. -/

/-- The records of the map, as the iterator meets them. -/
def inOrder (merged : MergeRecordMap (List UInt8)) : List (Record (List UInt8)) :=
  merged.records.mergeSort (fun a b => a.objectGuid ≤ b.objectGuid)

/-- The conversion without the database: the groups that wait, the merge map, and the records that
are to be written so far. -/
structure Plan where
  lineTransRecord : LineTransRecord Unit (List UInt8)
  merged : MergeRecordMap (List UInt8)
  written : List (Record (List UInt8)) := []

namespace Plan

/-- A record is merged, and a full map is written. -/
def merge (cacheAddr : String) (p : Plan) (record : Record (List UInt8)) : Plan :=
  let merged := mergeRecord cacheAddr p.merged record
  if merged.entries.length < maxMergeRecordNumber then { p with merged }
  else { p with merged := ∅, written := p.written ++ inOrder merged }

/-- A record of the file: what its group hands over is merged. -/
def collect (cacheAddr : String) (p : Plan) (record : Record (List UInt8)) : Plan :=
  let groups := collectTransaction { lineTransRecord := p.lineTransRecord } ⟨(), record⟩
  groups.processed.foldl (fun p sent => p.merge cacheAddr sent.record)
    { p with lineTransRecord := groups.lineTransRecord }

/-- At the end of the file what is left in the map is written. -/
def finish (p : Plan) : List (Record (List UInt8)) := p.written ++ inOrder p.merged

end Plan

/-- The records that are read page by page; `none` if a page cannot be read, or without fuel. -/
def SqliteFile.pages (file : SqliteFile) : Nat → UInt64 → Option (List (Record (List UInt8)))
  | 0, _ => none
  | fuel + 1, guid =>
      match file.read guid with
      | none => none
      | some recordSet =>
          if recordSet.length < Cached.onceReadNo then some recordSet
          else (file.pages fuel ((recordSet.getLast?.map (·.guid)).getD guid)).map (recordSet ++ ·)

/-- The records of a file that opens and can be read to its end. -/
def SqliteFile.records (file : SqliteFile) : Option (List (Record (List UInt8))) :=
  if file.opens then file.pages (file.table.length + 1) 0 else none

/-- The file opens and can be read to its end. -/
def SqliteFile.Readable (file : SqliteFile) : Prop := file.records.isSome = true

/-- **The writes that a file calls for**, with the groups and the map that earlier files left. -/
def SqliteFile.writes (file : SqliteFile) (cacheAddr : String) (c : Conversion) :
    List (Record (List UInt8)) :=
  ((file.records.getD []).foldl (Plan.collect cacheAddr)
    { lineTransRecord := c.lineTransRecord, merged := c.manage.mergeRecordMap }).finish

/-! ## §4. The conversion follows the plan. -/

/-- The writes of a plan, with what the database makes of each. -/
def answeredBy (results : WriteResults) (written : List (Record (List UInt8))) :
    List (Record (List UInt8) × Bool) :=
  written.mapIdx fun n record => (record, results n record)

/-- The conversion is where the plan is, and each of its writes has got its result. -/
structure Conversion.Follows (results : WriteResults) (c : Conversion) (p : Plan) : Prop where
  lineTransRecord : c.lineTransRecord = p.lineTransRecord
  merged : c.manage.mergeRecordMap = p.merged
  writes : c.writes = answeredBy results p.written

section Follows

variable {results : WriteResults} {c : Conversion} {p : Plan}

/-- The loop over the merged records writes each of them once. -/
theorem foldl_writeRecord {written : List (Record (List UInt8))}
    (h : c.writes = answeredBy results written) (order : List (Record (List UInt8))) :
    (order.foldl (Conversion.writeRecord results) c).lineTransRecord = c.lineTransRecord ∧
      (order.foldl (Conversion.writeRecord results) c).writes
        = answeredBy results (written ++ order) := by
  -- the number of a write is how many came before it
  induction order generalizing c written with
  | nil =>
      rw [List.append_nil]
      exact ⟨rfl, h⟩
  | cons record order ih =>
      have hnumber : c.writes.length = written.length := by
        rw [h]
        exact List.length_mapIdx
      have hnext : (c.writeRecord results record).writes
          = answeredBy results (written ++ [record]) := by
        show c.writes ++ [(record, results c.writes.length record)] = _
        rw [hnumber, h]
        exact List.mapIdx_concat.symm
      obtain ⟨hgroups, hwrites⟩ := ih hnext
      rw [List.append_cons]
      exact ⟨hgroups, hwrites⟩

/-- The map is written. -/
theorem Conversion.Follows.written (h : c.Follows results p) {fileProcessFinish : Bool}
    (hfull : (!fileProcessFinish &&
      decide (p.merged.entries.length < maxMergeRecordNumber)) = false) :
    (c.checkMergeRecord results fileProcessFinish).Follows results
      { p with merged := ∅, written := p.written ++ inOrder p.merged } := by
  obtain ⟨hgroups, hwrites⟩ := foldl_writeRecord h.writes (inOrder c.manage.mergeRecordMap)
  unfold Conversion.checkMergeRecord
  rw [← h.merged] at hfull
  rw [hfull, if_neg Bool.false_ne_true]
  exact ⟨hgroups.trans h.lineTransRecord, rfl, h.merged ▸ hwrites⟩

theorem Conversion.Follows.processRecord (h : c.Follows results p) (cacheAddr : String)
    (record : Record (List UInt8)) :
    (c.processRecord results cacheAddr record).1.Follows results (p.merge cacheAddr record) := by
  have hmerged : ({ c with manage := { c.manage with
      mergeRecordMap := mergeRecord cacheAddr c.manage.mergeRecordMap record } } :
        Conversion).Follows results
      { p with merged := mergeRecord cacheAddr p.merged record } :=
    ⟨h.lineTransRecord, congrArg (mergeRecord cacheAddr · record) h.merged, h.writes⟩
  unfold Conversion.processRecord Plan.merge
  dsimp only
  by_cases hroom : (mergeRecord cacheAddr p.merged record).entries.length < maxMergeRecordNumber
  · -- the map is not full yet
    have hleft : (!false && decide ((mergeRecord cacheAddr c.manage.mergeRecordMap
        record).entries.length < maxMergeRecordNumber)) = true := by
      rw [h.merged, decide_eq_true hroom]
      rfl
    rw [if_pos hroom]
    unfold Conversion.checkMergeRecord
    rw [if_pos hleft]
    exact hmerged
  · rw [if_neg hroom]
    refine hmerged.written ?_
    rw [decide_eq_false hroom]
    rfl

theorem Conversion.Follows.collectTransaction (h : c.Follows results p) (cacheAddr : String)
    (record : Record (List UInt8)) :
    (c.collectTransaction results cacheAddr record).1.Follows results
      (p.collect cacheAddr record) := by
  unfold Conversion.collectTransaction Plan.collect
  rw [h.lineTransRecord]
  dsimp only
  generalize Converter.collectTransaction { lineTransRecord := p.lineTransRecord }
    (⟨(), record⟩ : Sent Unit (List UInt8)) = groups
  obtain ⟨waiting, handed⟩ := groups
  have hstart : ({ c with lineTransRecord := waiting } : Conversion).Follows results
      { p with lineTransRecord := waiting } := ⟨rfl, h.merged, h.writes⟩
  dsimp only
  generalize ({ c with lineTransRecord := waiting } : Conversion) = c at hstart ⊢
  generalize ({ p with lineTransRecord := waiting } : Plan) = p at hstart ⊢
  generalize true = result
  -- one record of the group after the other
  induction handed generalizing c p result with
  | nil => exact hstart
  | cons sent handed ih =>
      rw [List.foldl_cons, List.foldl_cons]
      exact ih _ _ (hstart.processRecord cacheAddr sent.record) _

theorem Conversion.Follows.processRecordSet (h : c.Follows results p) (cacheAddr : String)
    (recordSet : List (Record (List UInt8))) :
    (c.processRecordSet results cacheAddr recordSet).1.Follows results
      (recordSet.foldl (Plan.collect cacheAddr) p) := by
  unfold Conversion.processRecordSet
  generalize true = result
  induction recordSet generalizing c p result with
  | nil => exact h
  | cons record recordSet ih =>
      rw [List.foldl_cons, List.foldl_cons]
      exact ih (h.collectTransaction cacheAddr record) _

/-- At the end of the file everything that is planned has been written. -/
theorem Conversion.Follows.finish (h : c.Follows results p) :
    (c.checkMergeRecord results true).writes = answeredBy results p.finish :=
  (h.written rfl).writes

end Follows

/-! ## §5. The pages of a file. -/

theorem SqliteFile.read_eq_some {file : SqliteFile} {guid : UInt64}
    {recordSet : List (Record (List UInt8))} (h : file.read guid = some recordSet) :
    Cached.read Cached.onceReadNo guid file.table = some recordSet := by
  unfold SqliteFile.read at h
  split at h
  · exact h
  · cases h

/-- **The loop ends**, since every full page moves the guid on.  It reports a failure exactly if a
page cannot be read, and else it has followed the plan to its end. -/
theorem readLoop_follows {results : WriteResults} (cacheAddr : String) (file : SqliteFile)
    {fuel : Nat} {guid : UInt64} {c : Conversion} {p : Plan} (h : c.Follows results p)
    (hfuel : (file.table.filter (fun row => (guid.toNat : Int) < row.key)).length < fuel) :
    ∃ c', c.readLoop results cacheAddr file fuel guid true
        = some (c', (file.pages fuel guid).isSome) ∧
      ∀ records, file.pages fuel guid = some records →
        c'.writes = answeredBy results (records.foldl (Plan.collect cacheAddr) p).finish := by
  induction fuel generalizing guid c p with
  | zero => omega
  | succ fuel ih =>
      unfold Conversion.readLoop SqliteFile.pages
      cases hread : file.read guid with
      | none => exact ⟨c, rfl, fun _ hnone => by cases hnone⟩
      | some recordSet =>
          have hpage := SqliteFile.read_eq_some hread
          have hresult := processRecordSet_result results cacheAddr c recordSet
          have hset := h.processRecordSet cacheAddr recordSet
          dsimp only
          rw [Bool.or_true]
          by_cases hlast : recordSet.length < Cached.onceReadNo
          · rw [if_pos hlast, if_pos hlast]
            refine ⟨_, rfl, fun records hrecords => ?_⟩
            obtain rfl := Option.some.inj hrecords
            exact hset.finish
          · rw [if_neg hlast, if_neg hlast]
            -- a full page takes rows away, so the fuel goes down with them
            have hshrink : (file.table.filter (fun row =>
                ((((recordSet.getLast?.map (·.guid)).getD guid).toNat : Nat) : Int)
                  < row.key)).length < fuel := by
              have hleft :=
                Paging.length_above_nextBound Row.key Cached.onceReadNo guid.toNat file.table
              have hlength : recordSet.length
                  = (Paging.page Row.key Cached.onceReadNo guid.toNat file.table).length :=
                (Paging.mapM_eq_some.mp hpage).length_eq.symm
              have hpos : 0 < Cached.onceReadNo := by decide
              rw [Cached.readLoop_next hpage]
              omega
            obtain ⟨c', hloop, hwrites⟩ := ih hset hshrink
            rw [Option.isSome_map]
            refine ⟨c', hloop, fun records hrecords => ?_⟩
            obtain ⟨rest, hrest, rfl⟩ := Option.map_eq_some_iff.mp hrecords
            rw [List.foldl_append]
            exact hwrites rest hrest

/-- **The result of a file is that of its reading**, and a file that can be read makes the writes
that it calls for. -/
theorem processSqliteFile_follows (results : WriteResults) (cacheAddr : String)
    (file : SqliteFile) (c : Conversion) :
    ∃ c', c.processSqliteFile results cacheAddr file = some (c', file.records.isSome) ∧
      (file.Readable → c'.writes = answeredBy results (file.writes cacheAddr c)) := by
  unfold Conversion.processSqliteFile SqliteFile.Readable SqliteFile.writes SqliteFile.records
  dsimp only
  by_cases hopens : file.opens = true
  · rw [if_pos hopens, if_pos hopens]
    have hstart : ({ c with writes := [] } : Conversion).Follows results
        { lineTransRecord := c.lineTransRecord, merged := c.manage.mergeRecordMap } :=
      ⟨rfl, rfl, rfl⟩
    have hfuel : (file.table.filter (fun row => ((0 : UInt64).toNat : Int) < row.key)).length
        < file.table.length + 1 := Nat.lt_succ_of_le (List.length_filter_le ..)
    obtain ⟨c', hloop, hwrites⟩ := readLoop_follows cacheAddr file hstart hfuel
    refine ⟨c', hloop, fun hreadable => ?_⟩
    obtain ⟨records, hrecords⟩ := Option.isSome_iff_exists.mp hreadable
    rw [hrecords]
    exact hwrites records hrecords
  · rw [if_neg hopens, if_neg hopens]
    exact ⟨_, rfl, fun hreadable => by cases hreadable⟩

/-! ## §6. The report. -/

/-- **The report agrees with the writes**, and tells of a file that can be read as converted when
all of them succeeded. -/
structure Conversion.Reported (c : Conversion) (file : SqliteFile) (result : Bool) : Prop where
  failed : (∃ w ∈ c.writes, w.2 = false) → result = false
  succeeded : file.Readable → (∀ w ∈ c.writes, w.2 = true) → result = true

/-- The results are true, write by write. -/
theorem answeredBy_all {results : WriteResults} {written : List (Record (List UInt8))} :
    (∀ w ∈ answeredBy results written, w.2 = true) ↔
      ∀ n record, written[n]? = some record → results n record = true := by
  unfold answeredBy
  constructor
  · intro h n record hrecord
    obtain ⟨hn, rfl⟩ := List.getElem?_eq_some_iff.mp hrecord
    exact h _ (List.mem_mapIdx.mpr ⟨n, hn, rfl⟩)
  · intro h w hw
    obtain ⟨n, hn, rfl⟩ := List.mem_mapIdx.mp hw
    exact h n _ (List.getElem?_eq_getElem hn)

/-- **The report of a file is right exactly if it cannot be read, or the database takes every write
that it calls for.** -/
theorem reported_iff (results : WriteResults) (cacheAddr : String) (file : SqliteFile)
    (c : Conversion) :
    ∃ c' result, c.processSqliteFile results cacheAddr file = some (c', result) ∧
      (c'.Reported file result ↔ (file.Readable →
        ∀ n record, (file.writes cacheAddr c)[n]? = some record → results n record = true)) := by
  obtain ⟨c', hprocess, hwrites⟩ := processSqliteFile_follows results cacheAddr file c
  refine ⟨c', _, hprocess, ?_⟩
  by_cases hreadable : file.Readable
  · have hresult : file.records.isSome = true := hreadable
    rw [forall_prop_of_true hreadable, ← answeredBy_all, ← hwrites hreadable, hresult]
    constructor
    · intro h w hw
      rw [← Bool.not_eq_false]
      intro hbad
      cases h.failed ⟨w, hw, hbad⟩
    · intro hgood
      refine ⟨fun hbad => ?_, fun _ _ => rfl⟩
      obtain ⟨w, hw, hbad⟩ := hbad
      rw [hgood w hw] at hbad
      cases hbad
  · have hresult : file.records.isSome = false := Bool.eq_false_iff.mpr hreadable
    rw [hresult]
    exact iff_of_true ⟨fun _ => rfl, fun h => absurd h hreadable⟩ fun h => absurd h hreadable

/-! ## §7. A file of one record. -/

/-- The insert of one entity, committed on its own. -/
def loneInsert : Record (List UInt8) :=
  { guid := 1, objectGuid := 5, streamSize := 2, stream := [7, 9], optype := .insert,
    transactionIndex := 1, transactionNum := 1, transactionId := 1, lineId := 1 }

/-- A file with one insert in it. -/
def oneRecordFile : SqliteFile := ⟨true, [Cached.insertRow loneInsert], fun _ => true⟩

/-- A converter that has just been started, with an empty database. -/
def freshConversion : Conversion := { manage := { database := fun _ => none } }

/-- The database takes the record. -/
theorem write_reported :
    ∃ c', freshConversion.processSqliteFile (fun _ _ => true) "" oneRecordFile
        = some (c', true) ∧
      c'.writes.map Prod.snd = [true] ∧ c'.Reported oneRecordFile true := by
  have hrun : (freshConversion.processSqliteFile (fun _ _ => true) "" oneRecordFile).map
      (fun p => (p.1.writes.map Prod.snd, p.2)) = some ([true], true) := by decide +kernel
  obtain ⟨c', result, hprocess, hiff⟩ :=
    reported_iff (fun _ _ => true) "" oneRecordFile freshConversion
  rw [hprocess] at hrun
  obtain ⟨hwrites, rfl⟩ := Prod.mk.inj (Option.some.inj hrun)
  exact ⟨c', hprocess, hwrites, hiff.mpr fun _ _ _ _ => rfl⟩

/-- **The database does not take the record, and the file is reported as converted.** -/
theorem write_fails_unreported :
    ∃ c', freshConversion.processSqliteFile (fun _ _ => false) "" oneRecordFile
        = some (c', true) ∧
      c'.writes.map Prod.snd = [false] ∧ ¬ c'.Reported oneRecordFile true := by
  have hrun : (freshConversion.processSqliteFile (fun _ _ => false) "" oneRecordFile).map
      (fun p => (p.1.writes.map Prod.snd, p.2)) = some ([false], true) := by decide +kernel
  obtain ⟨⟨c', result⟩, hprocess, hpair⟩ := Option.map_eq_some_iff.mp hrun
  obtain ⟨hwrites, rfl⟩ := Prod.mk.inj hpair
  refine ⟨c', hprocess, hwrites, fun h => ?_⟩
  have hmem : false ∈ c'.writes.map Prod.snd := by
    rw [hwrites]
    exact List.mem_singleton_self _
  obtain ⟨w, hw, hbad⟩ := List.mem_map.mp hmem
  cases h.failed ⟨w, hw, hbad⟩

end Steppingstone.Converter
