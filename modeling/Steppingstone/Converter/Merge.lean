/-
  Steppingstone.Converter.Merge — `mergeRecord` and `checkMergeRecord`
  (`ManageSQLiteFile.cpp`).

  Records of one object guid are merged into the first of them, in place;
  `checkMergeRecord` later writes every merged record once.  The merge map is
  keyed by object guid, so everything happens guid by guid (`mergeRecord_keyed`),
  and for one guid the code follows the abstract rule `Change.merge`
  (`mergeEntry_refines`).
-/
import Mathlib.Data.List.AList
import Steppingstone.Converter.Record
import Steppingstone.Converter.Change

namespace Steppingstone.Converter

variable {σ : Type*}

/-! ## §1. `mergeRecord`. -/

/-- `MergeRecordMap_t`: object guid to the record merged so far. -/
abbrev MergeRecordMap (σ : Type*) := AList (fun _ : UInt64 => Record σ)

/-- The `switch` of `mergeRecord`: the first record after taking in the
second one; `none` when it is erased. -/
def mergeInto (first second : Record σ) : Option (Record σ) :=
  let first := { first with stream := second.stream, streamSize := second.streamSize }
  match first.optype with
  | .insert =>
      match second.optype with
      | .flush =>
          some { first with lastModifyTime := second.lastModifyTime, lastIsFlush := true }
      | .remove => none
      | _ => some first
  | .update =>
      match second.optype with
      | .flush =>
          some { first with
            optype := second.optype
            lastModifyTime := second.lastModifyTime
            lastIsFlush := true }
      | .remove => some { first with optype := second.optype }
      | _ => some first
  | .flush =>
      match second.optype with
      | .update => some { first with lastIsFlush := true }
      | .flush =>
          some { first with lastModifyTime := second.lastModifyTime, lastIsFlush := true }
      | .remove => some { first with optype := second.optype, lastIsFlush := true }
      | _ => some first
  | .remove => some first
  | .insertWithFlush =>
      let first := { first with lastIsFlush := true }
      match second.optype with
      | .flush => some { first with lastModifyTime := second.lastModifyTime }
      | .remove => none
      | _ => some first
  | .base | .load | .query => some first

/-- The record that opens an entry of the merge map. -/
def openEntry (cacheAddr : String) (record : Record σ) : Record σ :=
  { record with
    cacheAddr := cacheAddr
    lastIsFlush := if record.optype = .flush then true else record.lastIsFlush }

/-- `mergeRecord`. -/
def mergeRecord (cacheAddr : String) (m : MergeRecordMap σ) (record : Record σ) :
    MergeRecordMap σ :=
  match m.lookup record.objectGuid with
  | some first =>
      match mergeInto first record with
      | some merged => m.insert record.objectGuid merged
      | none => m.erase record.objectGuid
  | none => m.insert record.objectGuid (openEntry cacheAddr record)

/-- `mergeRecord` for each record of the sequence. -/
def mergeRecords (cacheAddr : String) (m : MergeRecordMap σ) (records : List (Record σ)) :
    MergeRecordMap σ :=
  records.foldl (mergeRecord cacheAddr) m

/-- What `mergeRecord` does to the entry of the record's own guid. -/
def mergeEntry (cacheAddr : String) (entry : Option (Record σ)) (record : Record σ) :
    Option (Record σ) :=
  match entry with
  | some first => mergeInto first record
  | none => some (openEntry cacheAddr record)

/-- A record concerns the entry of its guid only. -/
theorem mergeRecord_keyed (cacheAddr : String) :
    KeyedStep Record.objectGuid (fun (m : MergeRecordMap σ) g => m.lookup g)
      (mergeRecord cacheAddr) (mergeEntry cacheAddr) where
  at_key m r := by
    unfold mergeRecord mergeEntry
    cases m.lookup r.objectGuid with
    | none => simp
    | some first => cases h : mergeInto first r <;> simp [h]
  frame m r g hg := by
    unfold mergeRecord
    cases m.lookup r.objectGuid with
    | none => simp [hg]
    | some first => cases h : mergeInto first r <;> simp [h, hg, AList.lookup_erase_ne]

/-! ## §2. `checkMergeRecord`. -/

/-- `MAX_MERGE_RECORD_NUMBER`. -/
def maxMergeRecordNumber : Nat := 100000

/-- `msg_binary_record` in its packet, and the cache it is sent to. -/
structure BinaryRecord where
  cacheAddr : String
  packetGuid : UInt64
  guid : UInt64
  lastModifyTime : UInt64
  deriving Repr, DecidableEq

/-- What `ManageSqliteFile` works on: the merge map, the database behind the
connection, and the acknowledgements handed to `m_handle_output`. -/
structure ManageSqliteFile (σ : Type*) where
  mergeRecordMap : MergeRecordMap σ := ∅
  database : Database σ
  output : List BinaryRecord := []

/-- The body of the loop of `checkMergeRecord`; `written r` is the result
of `writeRecordToDb`. -/
def writeEntry (written : Record σ → Bool) (st : ManageSqliteFile σ) (record : Record σ) :
    ManageSqliteFile σ :=
  if written record then
    { st with
      database := writeRecordToDb st.database record
      output :=
        if record.lastIsFlush then
          st.output ++
            [⟨record.cacheAddr, record.guid, record.objectGuid, record.lastModifyTime⟩]
        else st.output }
  else st

/-- The records of the map. -/
def MergeRecordMap.records (m : MergeRecordMap σ) : List (Record σ) :=
  m.entries.map Sigma.snd

/-- `checkMergeRecord`; `order` lists the records of the map as the iterator
meets them. -/
def checkMergeRecord (written : Record σ → Bool) (order : List (Record σ))
    (fileProcessFinish : Bool) (st : ManageSqliteFile σ) : ManageSqliteFile σ :=
  if !fileProcessFinish && st.mergeRecordMap.entries.length < maxMergeRecordNumber then st
  else { order.foldl (writeEntry written) st with mergeRecordMap := ∅ }

theorem writeEntry_foldl_database (order : List (Record σ)) (st : ManageSqliteFile σ) :
    (order.foldl (writeEntry (fun _ => true)) st).database
      = order.foldl writeRecordToDb st.database := by
  induction order generalizing st with
  | nil => rfl
  | cons r order ih => rw [List.foldl_cons, List.foldl_cons, ih]; rfl

/-! ## §3. Entries sit under their own guid. -/

/-- The entry of a guid is a record of that guid. -/
def MergeRecordMap.Keyed (m : MergeRecordMap σ) : Prop :=
  ∀ g r, m.lookup g = some r → r.objectGuid = g

/-- A merged record has the guid of the first. -/
theorem mergeInto_objectGuid {first second merged : Record σ}
    (h : mergeInto first second = some merged) : merged.objectGuid = first.objectGuid := by
  unfold mergeInto at h
  cases h1 : first.optype <;> cases h2 : second.optype <;> simp [h1, h2] at h <;> simp [← h]

theorem mergeRecord_preserves_keyed (cacheAddr : String) {m : MergeRecordMap σ}
    (hm : m.Keyed) (r : Record σ) : (mergeRecord cacheAddr m r).Keyed := by
  intro g e he
  by_cases hg : g = r.objectGuid
  · subst hg
    rw [(mergeRecord_keyed cacheAddr).at_key m r] at he
    cases hl : m.lookup r.objectGuid with
    | none =>
        rw [hl] at he
        obtain rfl : openEntry cacheAddr r = e := by simpa [mergeEntry] using he
        rfl
    | some first =>
        rw [hl] at he
        rw [mergeInto_objectGuid he, hm _ _ hl]
  · rw [(mergeRecord_keyed cacheAddr).frame m r g hg] at he
    exact hm g e he

theorem mergeRecords_keyed (cacheAddr : String) (records : List (Record σ)) :
    (mergeRecords cacheAddr ∅ records).Keyed := by
  have key : ∀ (rs : List (Record σ)) (m : MergeRecordMap σ), m.Keyed →
      (mergeRecords cacheAddr m rs).Keyed := by
    intro rs
    induction rs with
    | nil => intro m hm; exact hm
    | cons r rs ih => intro m hm; exact ih _ (mergeRecord_preserves_keyed cacheAddr hm r)
  exact key records ∅ (by intro g r h; simp at h)

/-- The records of the map are its entries. -/
theorem MergeRecordMap.mem_records {m : MergeRecordMap σ} (hm : m.Keyed) {r : Record σ} :
    r ∈ m.records ↔ m.lookup r.objectGuid = some r := by
  constructor
  · intro h
    obtain ⟨⟨g, r'⟩, hmem, rfl⟩ := List.mem_map.mp h
    have hl : m.lookup g = some r' := AList.mem_lookup_iff.mpr hmem
    rw [hm g r' hl]
    exact hl
  · intro h
    exact List.mem_map.mpr ⟨⟨r.objectGuid, r⟩, AList.mem_lookup_iff.mp h, rfl⟩

/-- Every guid has one record. -/
theorem MergeRecordMap.nodup_objectGuid {m : MergeRecordMap σ} (hm : m.Keyed) :
    (m.records.map Record.objectGuid).Nodup := by
  have hkeys : m.records.map Record.objectGuid = m.keys := by
    rw [MergeRecordMap.records, List.map_map]
    refine List.map_congr_left ?_
    rintro ⟨g, r⟩ hmem
    exact hm g r (AList.mem_lookup_iff.mpr hmem)
  rw [hkeys]
  exact m.keys_nodup

/-- Writing the entries, in whatever order the map is walked, applies to the
row of each guid the entry of that guid. -/
theorem write_entries_row {m : MergeRecordMap σ} (hm : m.Keyed) {order : List (Record σ)}
    (ho : order.Perm m.records) (db : Database σ) (g : UInt64) :
    order.foldl writeRecordToDb db g
      = match m.lookup g with
        | some r => rowAfter (db g) r
        | none => db g := by
  cases hl : m.lookup g with
  | none =>
      refine writeRecordToDb_keyed.foldl_of_forall_ne db ?_
      intro r hr hg
      have hr' := (MergeRecordMap.mem_records hm).mp (ho.mem_iff.mp hr)
      rw [hg, hl] at hr'
      exact Option.some_ne_none r hr'.symm
  | some r =>
      have hg : r.objectGuid = g := hm g r hl
      subst hg
      have hnd : (order.map Record.objectGuid).Nodup :=
        (ho.map _).nodup_iff.mpr (MergeRecordMap.nodup_objectGuid hm)
      exact writeRecordToDb_keyed.foldl_of_nodup hnd db
        (ho.mem_iff.mpr ((MergeRecordMap.mem_records hm).mpr hl))

/-! ## §4. One guid: the code follows the abstract rule. -/

/-- The change a record asks of its row; the three types without a statement
ask for nothing. -/
def Record.change (r : Record σ) : Option (Change σ) :=
  match r.optype with
  | .insert | .insertWithFlush => some (.create r.stream)
  | .update | .flush => some (.overwrite r.stream)
  | .remove => some .delete
  | .base | .load | .query => none

/-- The changes of one guid, in the order of its records. -/
def changesOf (g : UInt64) (records : List (Record σ)) : List (Change σ) :=
  (records.filter (fun r => r.objectGuid = g)).filterMap Record.change

theorem change_of_isWritten {r : Record σ} (h : r.optype.isWritten = true) :
    ∃ c, r.change = some c := by
  unfold Record.change
  cases hr : r.optype <;> simp_all [RecordType.isWritten]

/-- Writing a record applies its change. -/
theorem rowAfter_eq_apply {r : Record σ} {c : Change σ} (hc : r.change = some c)
    (row : Option σ) : rowAfter row r = c.apply row := by
  unfold Record.change at hc
  unfold rowAfter
  cases hr : r.optype <;> simp [hr] at hc <;> subst hc <;> rfl

/-- The entry of a guid is absent or of a type the database has a statement for. -/
def EntryWritten (entry : Option (Record σ)) : Prop :=
  ∀ r, entry = some r → r.optype.isWritten = true

/-- **The `switch` refines the merging rule.** -/
theorem mergeEntry_refines (cacheAddr : String) {entry : Option (Record σ)}
    (he : EntryWritten entry) {r : Record σ} {c : Change σ} (hc : r.change = some c) :
    (mergeEntry cacheAddr entry r).bind Record.change
      = Change.merge (entry.bind Record.change) c := by
  cases entry with
  | none =>
      show (openEntry cacheAddr r).change = some c
      rw [← hc]
      rfl
  | some first =>
      have hf := he first rfl
      unfold Record.change at hc
      show (mergeInto first r).bind Record.change = _
      unfold mergeInto
      cases h1 : first.optype <;> cases h2 : r.optype <;>
        simp_all [RecordType.isWritten] <;> subst hc <;> simp [Record.change, h1, Change.merge]

theorem mergeEntry_written (cacheAddr : String) {entry : Option (Record σ)}
    (he : EntryWritten entry) {r : Record σ} (hr : r.optype.isWritten = true) :
    EntryWritten (mergeEntry cacheAddr entry r) := by
  intro merged hm
  cases entry with
  | none =>
      obtain rfl : openEntry cacheAddr r = merged := by simpa [mergeEntry] using hm
      exact hr
  | some first =>
      have hf := he first rfl
      simp only [mergeEntry, mergeInto] at hm
      cases h1 : first.optype <;> cases h2 : r.optype <;>
        simp [h1, h2] at hm <;> simp_all [RecordType.isWritten] <;> simp [← hm]

/-- The fold of the entry refines the fold of the rule. -/
theorem mergeEntry_foldl_refines (cacheAddr : String) {records : List (Record σ)}
    (hw : ∀ r ∈ records, r.optype.isWritten = true) {entry : Option (Record σ)}
    (he : EntryWritten entry) :
    (records.foldl (mergeEntry cacheAddr) entry).bind Record.change
      = Change.mergeAll (entry.bind Record.change) (records.filterMap Record.change) := by
  induction records generalizing entry with
  | nil => rfl
  | cons r records ih =>
      have hr := hw r List.mem_cons_self
      obtain ⟨c, hc⟩ := change_of_isWritten hr
      rw [List.foldl_cons, List.filterMap_cons_some hc, Change.mergeAll_cons,
        ih (fun x hx => hw x (List.mem_cons_of_mem r hx)) (mergeEntry_written cacheAddr he hr),
        mergeEntry_refines cacheAddr he hc]

theorem mergeEntry_foldl_written (cacheAddr : String) {records : List (Record σ)}
    (hw : ∀ r ∈ records, r.optype.isWritten = true) {entry : Option (Record σ)}
    (he : EntryWritten entry) : EntryWritten (records.foldl (mergeEntry cacheAddr) entry) := by
  induction records generalizing entry with
  | nil => exact he
  | cons r records ih =>
      exact ih (fun x hx => hw x (List.mem_cons_of_mem r hx))
        (mergeEntry_written cacheAddr he (hw r List.mem_cons_self))

/-- Applying the records of a guid one at a time is applying their changes. -/
theorem rowAfter_foldl {records : List (Record σ)}
    (hw : ∀ r ∈ records, r.optype.isWritten = true) (row : Option σ) :
    records.foldl rowAfter row = Change.applyAll row (records.filterMap Record.change) := by
  induction records generalizing row with
  | nil => rfl
  | cons r records ih =>
      obtain ⟨c, hc⟩ := change_of_isWritten (hw r List.mem_cons_self)
      rw [List.foldl_cons, List.filterMap_cons_some hc, Change.applyAll_cons,
        ih (fun x hx => hw x (List.mem_cons_of_mem r hx)), rowAfter_eq_apply hc]

/-! ## §5. Merging and writing against applying one by one. -/

/-- The records of the sequence merged into an empty map, and every entry of
the map written with success, the map being walked in `order`. -/
def mergeThenCheck (cacheAddr : String) (order : List (Record σ)) (db : Database σ)
    (records : List (Record σ)) : ManageSqliteFile σ :=
  checkMergeRecord (fun _ => true) order true
    { mergeRecordMap := mergeRecords cacheAddr ∅ records, database := db }

/-- The row of a guid after merging and writing. -/
theorem merge_then_check_row (cacheAddr : String) {records order : List (Record σ)}
    (hw : ∀ r ∈ records, r.optype.isWritten = true)
    (ho : order.Perm (mergeRecords cacheAddr ∅ records).records) (db : Database σ)
    (g : UInt64) :
    (mergeThenCheck cacheAddr order db records).database g
      = Change.applyPending (db g) (Change.mergeAll none (changesOf g records)) := by
  have hwg : ∀ r ∈ records.filter (fun r => r.objectGuid = g), r.optype.isWritten = true :=
    fun r hr => hw r (List.mem_of_mem_filter hr)
  have hnone : @EntryWritten σ none := by intro r hr; cases hr
  have hdb : (mergeThenCheck cacheAddr order db records).database
      = order.foldl writeRecordToDb db := writeEntry_foldl_database order _
  have hlook : (mergeRecords cacheAddr ∅ records).lookup g
      = (records.filter (fun r => r.objectGuid = g)).foldl (mergeEntry cacheAddr) none :=
    (mergeRecord_keyed cacheAddr).foldl records ∅ g
  have href := mergeEntry_foldl_refines cacheAddr hwg hnone
  have hout := mergeEntry_foldl_written cacheAddr hwg hnone
  rw [hdb, write_entries_row (mergeRecords_keyed cacheAddr records) ho db g, hlook]
  rw [Option.bind_none] at href
  unfold changesOf
  rw [← href]
  cases hent : (records.filter (fun r => r.objectGuid = g)).foldl (mergeEntry cacheAddr) none with
  | none => rfl
  | some r =>
      obtain ⟨c, hc⟩ := change_of_isWritten (hout r hent)
      simp only [Option.bind_some, hc, Change.applyPending]
      exact rowAfter_eq_apply hc (db g)

/-- Records applied in order apply the changes of each guid. -/
theorem apply_in_order_row {records : List (Record σ)}
    (hw : ∀ r ∈ records, r.optype.isWritten = true) (db : Database σ) (g : UInt64) :
    applyInOrder db records g = Change.applyAll (db g) (changesOf g records) := by
  have hwg : ∀ r ∈ records.filter (fun r => r.objectGuid = g), r.optype.isWritten = true :=
    fun r hr => hw r (List.mem_of_mem_filter hr)
  have hfold : applyInOrder db records g
      = (records.filter (fun r => r.objectGuid = g)).foldl rowAfter (db g) :=
    writeRecordToDb_keyed.foldl records db g
  rw [hfold, rowAfter_foldl hwg]
  rfl

/-- **Exactness of the converter's merging**: for every sequence of records of
the five written types, every database and every order in which the merge map
is walked, merging and writing ends in the database of the one-by-one
application if and only if `MergeExact` holds of each guid's row and records. -/
theorem merge_then_check_exact_iff [DecidableEq σ] (cacheAddr : String)
    (records order : List (Record σ)) (db : Database σ)
    (hw : ∀ r ∈ records, r.optype.isWritten = true)
    (ho : order.Perm (mergeRecords cacheAddr ∅ records).records) :
    (mergeThenCheck cacheAddr order db records).database = applyInOrder db records ↔
      ∀ g, Change.MergeExact (db g) (changesOf g records) = true := by
  rw [funext_iff]
  refine forall_congr' fun g => ?_
  rw [merge_then_check_row cacheAddr hw ho, apply_in_order_row hw]
  exact Change.mergeAll_exact_iff (db g) (changesOf g records)

/-- An insert and an update of one guid, an update of another: exact. -/
theorem merge_then_check_exact_insert_update :
    let records : List (Record String) :=
      [{ objectGuid := 1, stream := "a", optype := .insert },
       { objectGuid := 2, stream := "b", optype := .update },
       { objectGuid := 1, stream := "c", optype := .update }]
    let order : List (Record String) :=
      [{ objectGuid := 1, stream := "c", optype := .insert, cacheAddr := "cache" },
       { objectGuid := 2, stream := "b", optype := .update, cacheAddr := "cache" }]
    let db : Database String := fun g => if g = 2 then some "z" else none
    (mergeThenCheck "cache" order db records).database = applyInOrder db records := by
  intro records order db
  refine (merge_then_check_exact_iff "cache" records order db (by decide) (by decide)).mpr ?_
  intro g
  by_cases h1 : g = 1
  · subst h1; decide
  by_cases h2 : g = 2
  · subst h2; decide
  have hnil : changesOf g records = [] := by
    simp [changesOf, records, Ne.symm h1, Ne.symm h2]
  rw [hnil]
  cases db g <;> rfl

/-- **A remove followed by an insert loses the insert**: the pending remove
absorbs it, and the row that should hold the new value is gone. -/
theorem merge_then_check_loses_insert :
    ¬ ∀ (records order : List (Record String)) (db : Database String),
      (∀ r ∈ records, r.optype.isWritten = true) →
      order.Perm (mergeRecords "cache" ∅ records).records →
      (mergeThenCheck "cache" order db records).database = applyInOrder db records := by
  intro h
  have h1 := congrFun
    (h [{ objectGuid := 1, stream := "old", optype := .remove },
        { objectGuid := 1, stream := "new", optype := .insert }]
      [{ objectGuid := 1, stream := "new", optype := .remove, cacheAddr := "cache" }]
      (fun g => if g = 1 then some "old" else none) (by decide) (by decide)) 1
  exact absurd h1 (by decide)

end Steppingstone.Converter
