/-
  Steppingstone.Converter.Acknowledge — the acknowledgements of
  `checkMergeRecord`.

  The cache keeps an expired copy of a flushed entity until the converter
  acknowledges the flush.  A batch is what is merged between two checks; a run
  merges records, checks with any pattern of failed writes, and goes on to the
  next file.  Every check that writes leaves a `Round`: the batch, the guids whose
  merged write succeeded, the database before and after, and what was sent.
-/
import Steppingstone.Converter.Merge
import Steppingstone.Lib.TransSys

namespace Steppingstone.Converter

variable {σ : Type*}

/-! ## §1. Rounds. -/

/-- RT_FLUSH and RT_INSERT_WITH_FLUSH. -/
def Record.isFlush (r : Record σ) : Bool :=
  r.optype = .flush ∨ r.optype = .insertWithFlush

/-- `f` is the last flush of the records, with what comes before and after it. -/
structure LastFlush (records pre : List (Record σ)) (f : Record σ) (post : List (Record σ)) :
    Prop where
  split : records = pre ++ f :: post
  isFlush : f.isFlush = true
  last : ∀ r ∈ post, r.isFlush = false

/-- The row holds the value of the flush `f`, or what some of the records after it
have made of it. -/
def FlushedIn (f : Record σ) (post : List (Record σ)) (row : Option σ) : Prop :=
  ∃ later, later <+: post ∧ row = later.foldl rowAfter (some f.stream)

/-- One check that wrote, with the batch it wrote. -/
structure Round (σ : Type*) where
  cacheAddr : String
  batch : List (Record σ)
  /-- The guids whose merged write succeeded. -/
  succeeded : List UInt64
  after : Database σ
  acks : List BinaryRecord

/-- The records of a guid. -/
def recordsOfGuid (batch : List (Record σ)) (g : UInt64) : List (Record σ) :=
  batch.filter (fun r => r.objectGuid = g)

/-- **A round acknowledges what it has written.** -/
structure Round.Acknowledged (round : Round σ) : Prop where
  /-- A flushed guid whose merged write succeeded is acknowledged once, to its
  cache, with the time stamp of its last flush. -/
  once : ∀ g pre f post, LastFlush (recordsOfGuid round.batch g) pre f post →
    g ∈ round.succeeded →
      ∃ a, round.acks.filter (fun a => a.guid = g) = [a] ∧ a.cacheAddr = round.cacheAddr ∧
        a.lastModifyTime = f.lastModifyTime
  /-- What is acknowledged was flushed in the batch, and is in the database. -/
  written : ∀ a ∈ round.acks, ∃ pre f post,
    LastFlush (recordsOfGuid round.batch a.guid) pre f post ∧
      FlushedIn f post (round.after a.guid)

/-! ## §2. The system. -/

/-- The converter at work on the files of its caches; `batch` and `rounds` are
history. -/
structure Progress (σ : Type*) where
  file : ManageSqliteFile σ
  cacheAddr : String
  batch : List (Record σ) := []
  rounds : List (Round σ) := []

/-- What the converter does with the files, in the order in which it does it. -/
inductive ProgressAction (σ : Type*)
  /-- The next file; each file ends with a check. -/
  | processFile (cacheAddr : String)
  | mergeRecord (record : Record σ)
  | checkMergeRecord (written : Record σ → Bool) (order : List (Record σ))
      (fileProcessFinish : Bool)

/-- The writes that can succeed: of a type that has a statement, and an insert only
of a row that is absent. -/
def CanSucceed (db : Database σ) (written : Record σ → Bool) (order : List (Record σ)) : Prop :=
  ∀ r ∈ order, written r = true →
    r.optype.isWritten = true ∧
      (r.optype = .insert ∨ r.optype = .insertWithFlush → db r.objectGuid = none)

instance (db : Database σ) (written : Record σ → Bool) (order : List (Record σ)) :
    Decidable (CanSucceed db written order) := by
  have (g : UInt64) : Decidable (db g = none) := decidable_of_iff _ Option.isNone_iff_eq_none
  unfold CanSucceed
  exact List.decidableBAll _ order

/-- The round of a check that writes. -/
def Progress.round (w : Progress σ) (written : Record σ → Bool) (order : List (Record σ))
    (file : ManageSqliteFile σ) : Round σ where
  cacheAddr := w.cacheAddr
  batch := w.batch
  succeeded := (order.filter written).map Record.objectGuid
  after := file.database
  acks := file.output.drop w.file.output.length

/-- Whether the check writes the map. -/
def Progress.writes (w : Progress σ) (fileProcessFinish : Bool) : Bool :=
  fileProcessFinish || maxMergeRecordNumber ≤ w.file.mergeRecordMap.entries.length

variable [DecidableEq σ]

/-- One step.  A record comes as `SQLiteSerialize::read` makes it, of one of the five
types the cache logs; the map is walked in some order of its records. -/
def Progress.step (w : Progress σ) : ProgressAction σ → Option (Progress σ)
  | .processFile cacheAddr => if w.batch.isEmpty then some { w with cacheAddr } else none
  | .mergeRecord record =>
      if record.optype.isWritten ∧ record.lastIsFlush = false then
        some { w with
          file := { w.file with
            mergeRecordMap := Converter.mergeRecord w.cacheAddr w.file.mergeRecordMap record }
          batch := w.batch ++ [record] }
      else none
  | .checkMergeRecord written order fileProcessFinish =>
      if !w.writes fileProcessFinish then some w
      else if order.Perm w.file.mergeRecordMap.records ∧
          CanSucceed w.file.database written order then
        let file := Converter.checkMergeRecord written order fileProcessFinish w.file
        some { w with file, batch := [], rounds := w.rounds ++ [w.round written order file] }
      else none

/-- The converter starts with an empty map over any database. -/
def progressSystem : TransSys (Progress σ) (ProgressAction σ) where
  init w := ∃ (db : Database σ) (cacheAddr : String),
    w = { file := { database := db }, cacheAddr }
  step := Progress.step

/-! ## §3. The condition. -/

/-- The records are all updates. -/
def OnlyUpdates (records : List (Record σ)) : Prop := ∀ r ∈ records, r.optype = .update

/-- **When the last flush of a guid is carried to its write.**  `pending` is the
merged change before it, `row` the row before the round.  An INSERT_WITH_FLUSH must
open the entry and have updates after it; a FLUSH must not find a pending remove;
after it come updates, and, if the entry is no insert, perhaps a remove with
anything after that; a written update needs its row. -/
def Carried (pending : Option (Change σ)) (f : Record σ) (post : List (Record σ))
    (row : Option σ) : Prop :=
  match f.optype, pending with
  | .insertWithFlush, none => post ≠ [] ∧ OnlyUpdates post
  | .insertWithFlush, some _ => False
  | _, some .delete => False
  | _, some (.create _) => OnlyUpdates post
  | _, _ =>
      (OnlyUpdates post ∧ row.isSome) ∨
        ∃ updates r rest, post = updates ++ r :: rest ∧ OnlyUpdates updates ∧ r.optype = .remove

/-- The last flush of each guid whose merged write succeeds is carried to it. -/
def Progress.InOrder (w : Progress σ) : ProgressAction σ → Prop
  | .checkMergeRecord written order fileProcessFinish =>
      w.writes fileProcessFinish → ∀ e ∈ order, written e = true → ∀ pre f post,
        LastFlush (recordsOfGuid w.batch e.objectGuid) pre f post →
          Carried (Change.mergeAll none (pre.filterMap Record.change)) f post
            (w.file.database e.objectGuid)
  | _ => True

/-! ## §4. One guid: the entry carries the flag and the time stamp. -/

section Entry

omit [DecidableEq σ]

/-- The entry will be acknowledged for `f`, to this cache. -/
structure Carries (cacheAddr : String) (f e : Record σ) : Prop where
  lastIsFlush : e.lastIsFlush = true
  lastModifyTime : e.lastModifyTime = f.lastModifyTime
  cacheAddr : e.cacheAddr = cacheAddr

variable {cacheAddr : String} {f e : Record σ} {row : Option σ}

/-- Every entry is sent to the cache of the file. -/
theorem mergeEntry_cacheAddr {entry : Option (Record σ)} {r : Record σ}
    (he : ∀ e, entry = some e → e.cacheAddr = cacheAddr) :
    ∀ e, mergeEntry cacheAddr entry r = some e → e.cacheAddr = cacheAddr := by
  intro e h
  match entry with
  | none =>
      obtain rfl : openEntry cacheAddr r = e := Option.some.inj h
      rfl
  | some first =>
      have hfirst := he first rfl
      have h' : mergeInto first r = some e := h
      unfold mergeInto at h'
      cases h1 : first.optype <;> cases h2 : r.optype <;> simp [h1, h2] at h' <;>
        simp [← h', hfirst]

theorem mergeEntries_cacheAddr (records : List (Record σ)) (entry : Option (Record σ))
    (he : ∀ e, entry = some e → e.cacheAddr = cacheAddr) :
    ∀ e, records.foldl (mergeEntry cacheAddr) entry = some e → e.cacheAddr = cacheAddr := by
  induction records generalizing entry with
  | nil => exact he
  | cons r records ih => exact ih _ (mergeEntry_cacheAddr he)

/-- Without a flush the flag is not set. -/
theorem mergeEntry_unflagged {entry : Option (Record σ)} {r : Record σ}
    (hr : r.isFlush = false) (hread : r.lastIsFlush = false)
    (he : ∀ e, entry = some e → e.lastIsFlush = false ∧ e.isFlush = false) :
    ∀ e, mergeEntry cacheAddr entry r = some e → e.lastIsFlush = false ∧ e.isFlush = false := by
  intro e h
  match entry with
  | none =>
      obtain rfl : openEntry cacheAddr r = e := Option.some.inj h
      have hne : r.optype ≠ .flush := fun heq => by simp [Record.isFlush, heq] at hr
      exact ⟨by simp [openEntry, hne, hread], hr⟩
  | some first =>
      obtain ⟨hflag, hfirst⟩ := he first rfl
      have h' : mergeInto first r = some e := h
      unfold mergeInto at h'
      cases h1 : first.optype <;> simp [Record.isFlush, h1] at hfirst <;>
        cases h2 : r.optype <;> simp [Record.isFlush, h2] at hr <;> simp [h1, h2] at h' <;>
        simp [← h', hflag, Record.isFlush]

theorem mergeEntries_unflagged (records : List (Record σ)) (entry : Option (Record σ))
    (hr : ∀ r ∈ records, r.isFlush = false ∧ r.lastIsFlush = false)
    (he : ∀ e, entry = some e → e.lastIsFlush = false ∧ e.isFlush = false) :
    ∀ e, records.foldl (mergeEntry cacheAddr) entry = some e →
      e.lastIsFlush = false ∧ e.isFlush = false := by
  induction records generalizing entry with
  | nil => exact he
  | cons r records ih =>
      obtain ⟨hflush, hread⟩ := hr r List.mem_cons_self
      exact ih _ (fun x hx => hr x (List.mem_cons_of_mem r hx))
        (mergeEntry_unflagged hflush hread he)

/-- An update changes the stream and nothing else of an entry that carries a flush. -/
theorem mergeInto_update {u : Record σ} (hu : u.optype = .update)
    (ht : e.optype = .insert ∨ e.optype = .flush ∨ e.optype = .insertWithFlush)
    (h : Carries cacheAddr f e) :
    ∃ e', mergeInto e u = some e' ∧ Carries cacheAddr f e' ∧ e'.optype = e.optype ∧
      e'.stream = u.stream := by
  obtain ⟨hflag, htime, haddr⟩ := h
  unfold mergeInto
  obtain h1 | h1 | h1 := ht <;> simp only [h1, hu] <;>
    exact ⟨_, rfl, ⟨by simp [hflag], htime, haddr⟩, rfl, rfl⟩

/-- **Updates after the flush** keep the entry, whose stream becomes what they make
of the flushed value. -/
theorem mergeEntries_updates {updates : List (Record σ)} (hu : OnlyUpdates updates)
    (ht : e.optype = .insert ∨ e.optype = .flush ∨ e.optype = .insertWithFlush)
    (h : Carries cacheAddr f e) :
    ∃ e', updates.foldl (mergeEntry cacheAddr) (some e) = some e' ∧ Carries cacheAddr f e' ∧
      e'.optype = e.optype ∧ updates.foldl rowAfter (some e.stream) = some e'.stream := by
  induction updates generalizing e with
  | nil => exact ⟨e, rfl, h, rfl, rfl⟩
  | cons u updates ih =>
      have hup := hu u List.mem_cons_self
      obtain ⟨e₁, he₁, hcarry₁, htype₁, hstream₁⟩ := mergeInto_update hup ht h
      obtain ⟨e₂, he₂, hcarry₂, htype₂, hstream₂⟩ :=
        ih (fun r hr => hu r (List.mem_cons_of_mem u hr)) (htype₁ ▸ ht) hcarry₁
      have hrow : rowAfter (some e.stream) u = some e₁.stream := by
        simp [rowAfter, hup, hstream₁]
      refine ⟨e₂, ?_, hcarry₂, htype₂.trans htype₁, ?_⟩
      · show updates.foldl (mergeEntry cacheAddr) (mergeInto e u) = some e₂
        rw [he₁]
        exact he₂
      · show updates.foldl rowAfter (rowAfter (some e.stream) u) = some e₂.stream
        rw [hrow]
        exact hstream₂

/-- A pending remove takes in everything, and keeps what it carries. -/
theorem mergeEntries_removed (records : List (Record σ)) (ht : e.optype = .remove)
    (h : Carries cacheAddr f e) :
    ∃ e', records.foldl (mergeEntry cacheAddr) (some e) = some e' ∧ Carries cacheAddr f e' ∧
      e'.optype = .remove := by
  induction records generalizing e with
  | nil => exact ⟨e, rfl, h, ht⟩
  | cons r records ih =>
      have hmerge : mergeInto e r =
          some { e with stream := r.stream, streamSize := r.streamSize } := by
        unfold mergeInto
        simp only [ht]
      show ∃ e', records.foldl (mergeEntry cacheAddr) (mergeInto e r) = some e' ∧ _
      rw [hmerge]
      exact ih ht ⟨h.lastIsFlush, h.lastModifyTime, h.cacheAddr⟩

/-- A flush that is merged into an entry other than a remove: an insert stays one. -/
theorem mergeEntry_flush {entry : Option (Record σ)} (hf : f.optype = .flush)
    (hw : EntryWritten entry) (haddr : ∀ e, entry = some e → e.cacheAddr = cacheAddr)
    (hne : entry.bind Record.change ≠ some .delete) :
    ∃ e, mergeEntry cacheAddr entry f = some e ∧ Carries cacheAddr f e ∧ e.stream = f.stream ∧
      ((e.optype = .flush ∧ ∀ v, entry.bind Record.change ≠ some (.create v)) ∨
        ((e.optype = .insert ∨ e.optype = .insertWithFlush) ∧
          ∃ v, entry.bind Record.change = some (.create v))) := by
  match entry with
  | none => exact ⟨_, rfl, ⟨by simp [openEntry, hf], rfl, rfl⟩, rfl, .inl ⟨hf, nofun⟩⟩
  | some first =>
      have hwritten := hw first rfl
      have haddr' := haddr first rfl
      show ∃ e, mergeInto first f = some e ∧ _
      have hchange : first.change ≠ some .delete := hne
      show ∃ e, _ ∧ _ ∧ _ ∧ ((_ ∧ ∀ v, first.change ≠ some (.create v)) ∨
        _ ∧ ∃ v, first.change = some (.create v))
      unfold mergeInto
      unfold Record.change at hchange ⊢
      cases h1 : first.optype with
      | insert | insertWithFlush =>
          simp only [hf]
          exact ⟨_, rfl, ⟨rfl, rfl, haddr'⟩, rfl, .inr ⟨by simp, _, rfl⟩⟩
      | update | flush =>
          simp only [hf]
          exact ⟨_, rfl, ⟨rfl, rfl, haddr'⟩, rfl, .inl ⟨rfl, by simp⟩⟩
      | remove => simp [h1] at hchange
      | base | load | query => simp [h1, RecordType.isWritten] at hwritten

variable (cacheAddr) in
/-- The first update after an INSERT_WITH_FLUSH that opened its entry sets the flag. -/
theorem mergeInto_opened {u : Record σ} (hf : f.optype = .insertWithFlush)
    (hu : u.optype = .update) :
    ∃ e, mergeInto (openEntry cacheAddr f) u = some e ∧ Carries cacheAddr f e ∧
      e.optype = .insertWithFlush ∧ e.stream = u.stream := by
  unfold mergeInto
  have htype : (openEntry cacheAddr f).optype = .insertWithFlush := hf
  simp only [htype, hu]
  exact ⟨_, rfl, ⟨rfl, rfl, rfl⟩, rfl, rfl⟩

/-- What the written entry of a flushed guid is. -/
structure Kept (cacheAddr : String) (f : Record σ) (post : List (Record σ)) (row : Option σ)
    (e : Record σ) : Prop where
  carries : Carries cacheAddr f e
  /-- Written over a row that its statement finds as it needs it, it leaves the
  flushed value or what came of it. -/
  flushed : (e.optype = .insert ∨ e.optype = .insertWithFlush → row = none) →
    FlushedIn f post (rowAfter row e)

/-- With updates only after the flush, the write leaves what they make of its value. -/
theorem Kept.of_updates {post : List (Record σ)} (h : Carries cacheAddr f e)
    (hstream : post.foldl rowAfter (some f.stream) = some e.stream)
    (ht : e.optype = .insert ∨ e.optype = .flush ∨ e.optype = .insertWithFlush)
    (hrow : e.optype = .flush → row.isSome) : Kept cacheAddr f post row e where
  carries := h
  flushed := by
    intro hins
    refine ⟨post, List.prefix_rfl, ?_⟩
    rw [hstream]
    obtain h1 | h1 | h1 := ht
    · simp [rowAfter, h1, hins (.inl h1)]
    · obtain ⟨v, hv⟩ := Option.isSome_iff_exists.mp (hrow h1)
      simp [rowAfter, h1, hv]
    · simp [rowAfter, h1, hins (.inr h1)]

/-- The condition for a FLUSH whose entry is no insert. -/
theorem Carried.of_flush {pending : Option (Change σ)} {post : List (Record σ)}
    (hf : f.optype = .flush) (hp : ∀ v, pending ≠ some (.create v))
    (h : Carried pending f post row) :
    (OnlyUpdates post ∧ row.isSome) ∨
      ∃ updates r rest, post = updates ++ r :: rest ∧ OnlyUpdates updates ∧ r.optype = .remove := by
  unfold Carried at h
  rw [hf] at h
  match pending with
  | none => exact h
  | some (.create v) => exact absurd rfl (hp v)
  | some (.overwrite v) => exact h
  | some .delete => exact h.elim

/-- **The last flush reaches its write**: under the condition the entry of the guid
carries it. -/
theorem Carried.entry {records pre post : List (Record σ)}
    (hw : ∀ r ∈ records, r.optype.isWritten = true) (hlast : LastFlush records pre f post)
    (h : Carried (Change.mergeAll none (pre.filterMap Record.change)) f post row) :
    ∃ e, records.foldl (mergeEntry cacheAddr) none = some e ∧ Kept cacheAddr f post row e := by
  obtain ⟨rfl, hflush, _⟩ := hlast
  have hpre : ∀ r ∈ pre, r.optype.isWritten = true :=
    fun r hr => hw r (List.mem_append_left _ hr)
  have hnone : @EntryWritten σ none := fun _ h => absurd h (Option.some_ne_none _).symm
  -- the entry before the flush, as the merging rule has it
  have hpending := mergeEntry_foldl_refines cacheAddr hpre hnone
  have hwritten := mergeEntry_foldl_written cacheAddr hpre hnone
  have haddr : ∀ e, pre.foldl (mergeEntry cacheAddr) none = some e → e.cacheAddr = cacheAddr :=
    mergeEntries_cacheAddr pre none fun _ h => absurd h (Option.some_ne_none _).symm
  rw [List.foldl_append, List.foldl_cons]
  generalize pre.foldl (mergeEntry cacheAddr) none = entry at hpending hwritten haddr ⊢
  rw [Option.bind_none] at hpending
  rw [← hpending] at h
  have hf : f.optype = .flush ∨ f.optype = .insertWithFlush := by
    simpa [Record.isFlush] using hflush
  obtain hf | hf := hf
  · have hne : entry.bind Record.change ≠ some .delete := by
      intro heq
      simp [Carried, hf, heq] at h
    obtain ⟨e, he, hcarry, hstream, htype⟩ := mergeEntry_flush hf hwritten haddr hne
    rw [he]
    have htype' : e.optype = .insert ∨ e.optype = .flush ∨ e.optype = .insertWithFlush := by
      obtain h1 | ⟨h1 | h1, _⟩ := htype <;> simp [h1]
    -- updates only
    have hupdates : OnlyUpdates post → (e.optype = .flush → row.isSome) →
        ∃ e', post.foldl (mergeEntry cacheAddr) (some e) = some e' ∧
          Kept cacheAddr f post row e' := by
      intro hu hrow
      obtain ⟨e', he', hcarry', ht', hstream'⟩ := mergeEntries_updates hu htype' hcarry
      rw [hstream] at hstream'
      exact ⟨e', he', .of_updates hcarry' hstream' (ht' ▸ htype') (ht' ▸ hrow)⟩
    obtain ⟨hflush, hp⟩ | ⟨hins, v, hv⟩ := htype
    · obtain ⟨hu, hrow⟩ | ⟨updates, r, rest, rfl, hu, hr⟩ := h.of_flush hf hp
      · exact hupdates hu fun _ => hrow
      -- the remove takes the entry over, and the row is gone
      · obtain ⟨e₁, he₁, hcarry₁, ht₁, hstream₁⟩ := mergeEntries_updates hu htype' hcarry
        have hremove : mergeInto e₁ r = some { e₁ with
            stream := r.stream, streamSize := r.streamSize, optype := .remove,
            lastIsFlush := true } := by
          unfold mergeInto
          simp only [ht₁.trans hflush, hr]
        have hcarried : Carries cacheAddr f { e₁ with
            stream := r.stream, streamSize := r.streamSize, optype := .remove,
            lastIsFlush := true } := ⟨rfl, hcarry₁.lastModifyTime, hcarry₁.cacheAddr⟩
        obtain ⟨e₂, he₂, hcarry₂, ht₂⟩ := mergeEntries_removed rest rfl hcarried
        refine ⟨e₂, ?_, hcarry₂, fun _ => ⟨updates ++ [r], ?_, ?_⟩⟩
        · rw [List.foldl_append, he₁]
          show rest.foldl (mergeEntry cacheAddr) (mergeInto e₁ r) = some e₂
          rw [hremove]
          exact he₂
        · exact ⟨rest, by simp⟩
        · rw [List.foldl_append]
          simp [rowAfter, ht₂, hr]
    · have hu : OnlyUpdates post := by simpa [Carried, hf, hv] using h
      refine hupdates hu fun hflush => ?_
      rw [hflush] at hins
      simp at hins
  · -- an INSERT_WITH_FLUSH opens the entry, and the first update sets the flag
    unfold Carried at h
    rw [hf] at h
    have hentry : entry = none := by
      match entry with
      | none => rfl
      | some first =>
          obtain ⟨c, hc⟩ := change_of_isWritten (hwritten first rfl)
          have hbind : (some first).bind Record.change = some c := hc
          rw [hbind] at h
          exact h.elim
    subst hentry
    obtain ⟨hne, hu⟩ := h
    match post with
    | [] => exact absurd rfl hne
    | u :: post =>
        have hup := hu u List.mem_cons_self
        have hpost : OnlyUpdates post := fun r hr => hu r (List.mem_cons_of_mem u hr)
        obtain ⟨e₁, he₁, hcarry₁, ht₁, hstream₁⟩ := mergeInto_opened cacheAddr hf hup
        obtain ⟨e₂, he₂, hcarry₂, ht₂, hstream₂⟩ :=
          mergeEntries_updates hpost (.inr (.inr ht₁)) hcarry₁
        refine ⟨e₂, ?_, .of_updates hcarry₂ ?_ (.inr (.inr (ht₂.trans ht₁))) ?_⟩
        · show post.foldl (mergeEntry cacheAddr) (mergeInto (openEntry cacheAddr f) u) = some e₂
          rw [he₁]
          exact he₂
        · have hrow : rowAfter (some f.stream) u = some e₁.stream := by
            simp [rowAfter, hup, hstream₁]
          show post.foldl rowAfter (rowAfter (some f.stream) u) = some e₂.stream
          rw [hrow]
          exact hstream₂
        · intro hflush
          rw [ht₂, ht₁] at hflush
          cases hflush

end Entry

/-! ## §5. One round. -/

section Check

omit [DecidableEq σ]

/-- The acknowledgement of a record. -/
def Record.ack (r : Record σ) : BinaryRecord :=
  ⟨r.cacheAddr, r.guid, r.objectGuid, r.lastModifyTime⟩

/-- The loop of `checkMergeRecord` writes the records that succeed, and acknowledges
those of them that are flagged. -/
theorem writeEntry_foldl (written : Record σ → Bool) (order : List (Record σ))
    (st : ManageSqliteFile σ) :
    (order.foldl (writeEntry written) st).database
        = (order.filter written).foldl writeRecordToDb st.database ∧
      (order.foldl (writeEntry written) st).output
        = st.output ++ ((order.filter written).filter (·.lastIsFlush)).map Record.ack := by
  induction order generalizing st with
  | nil => exact ⟨rfl, (List.append_nil _).symm⟩
  | cons r order ih =>
      obtain ⟨hdb, hout⟩ := ih (writeEntry written st r)
      rw [List.foldl_cons, hdb, hout]
      unfold writeEntry
      cases hwr : written r <;> cases hfl : r.lastIsFlush <;>
        simp [hwr, hfl, Record.ack]

variable {m : MergeRecordMap σ} {order : List (Record σ)} {written : Record σ → Bool}

/-- The row of a record whose write succeeded is what its statement makes of it. -/
theorem written_row (hm : m.Keyed) (ho : order.Perm m.records) (db : Database σ) {e : Record σ}
    (he : e ∈ order) (hwr : written e = true) :
    (order.filter written).foldl writeRecordToDb db e.objectGuid
      = rowAfter (db e.objectGuid) e := by
  have hnd : ((order.filter written).map Record.objectGuid).Nodup :=
    ((ho.map _).nodup_iff.mpr (MergeRecordMap.nodup_objectGuid hm)).sublist
      (List.filter_sublist.map _)
  exact writeRecordToDb_keyed.foldl_of_nodup hnd db (List.mem_filter.mpr ⟨he, hwr⟩)

/-- **Exactly one acknowledgement** for a flagged record whose write succeeded. -/
theorem acks_of_guid (hm : m.Keyed) (ho : order.Perm m.records) {e : Record σ}
    (he : e ∈ order) (hwr : written e = true) (hflag : e.lastIsFlush = true) :
    (((order.filter written).filter (·.lastIsFlush)).map Record.ack).filter
      (fun a => a.guid = e.objectGuid) = [e.ack] := by
  have hnd : (((order.filter written).filter (·.lastIsFlush)).map Record.objectGuid).Nodup :=
    ((ho.map _).nodup_iff.mpr (MergeRecordMap.nodup_objectGuid hm)).sublist
      ((List.filter_sublist.trans List.filter_sublist).map _)
  rw [List.filter_map]
  have hmem : e ∈ (order.filter written).filter (·.lastIsFlush) :=
    List.mem_filter.mpr ⟨List.mem_filter.mpr ⟨he, hwr⟩, hflag⟩
  exact congrArg (List.map Record.ack) (filter_key_of_nodup hnd hmem)

/-- A list with a flush has a last one. -/
theorem exists_lastFlush {records : List (Record σ)} (h : ∃ r ∈ records, r.isFlush = true) :
    ∃ pre f post, LastFlush records pre f post := by
  induction records with
  | nil => simp at h
  | cons r records ih =>
      by_cases htail : ∃ x ∈ records, x.isFlush = true
      · obtain ⟨pre, f, post, hsplit, hf, hlast⟩ := ih htail
        exact ⟨r :: pre, f, post, by rw [hsplit]; rfl, hf, hlast⟩
      · have hr : r.isFlush = true := by
          obtain ⟨x, hx, hxf⟩ := h
          obtain rfl | hmem := List.mem_cons.mp hx
          · exact hxf
          · exact absurd ⟨x, hmem, hxf⟩ htail
        exact ⟨[], r, records, rfl, hr, fun x hx =>
          Bool.eq_false_iff.mpr fun hxf => htail ⟨x, hx, hxf⟩⟩

end Check

/-- The map is made of the batch, whose records are as they are read; every round so far
acknowledges what it has written. -/
structure Progress.Inv (w : Progress σ) : Prop where
  map : w.file.mergeRecordMap = mergeRecords w.cacheAddr ∅ w.batch
  read : ∀ r ∈ w.batch, r.optype.isWritten = true ∧ r.lastIsFlush = false
  rounds : ∀ round ∈ w.rounds, round.Acknowledged

variable {w w' : Progress σ} {written : Record σ → Bool} {order : List (Record σ)}

omit [DecidableEq σ] in
/-- The entry of a guid comes from the guid's own records. -/
theorem Progress.Inv.lookup (h : w.Inv) (g : UInt64) :
    w.file.mergeRecordMap.lookup g
      = (recordsOfGuid w.batch g).foldl (mergeEntry w.cacheAddr) none := by
  rw [h.map]
  exact (mergeRecord_keyed w.cacheAddr).foldl w.batch ∅ g

omit [DecidableEq σ] in
/-- **A check in order acknowledges what it has written.** -/
theorem Progress.Inv.round_acknowledged (h : w.Inv)
    (ho : order.Perm w.file.mergeRecordMap.records)
    (hcan : CanSucceed w.file.database written order)
    (hin : ∀ e ∈ order, written e = true → ∀ pre f post,
      LastFlush (recordsOfGuid w.batch e.objectGuid) pre f post →
        Carried (Change.mergeAll none (pre.filterMap Record.change)) f post
          (w.file.database e.objectGuid)) :
    (w.round written order
      { order.foldl (writeEntry written) w.file with mergeRecordMap := ∅ }).Acknowledged := by
  have hkeyed : w.file.mergeRecordMap.Keyed := h.map ▸ mergeRecords_keyed w.cacheAddr w.batch
  obtain ⟨hdb, hout⟩ := writeEntry_foldl written order w.file
  have hacks : (w.round written order
      { order.foldl (writeEntry written) w.file with mergeRecordMap := ∅ }).acks
        = ((order.filter written).filter (·.lastIsFlush)).map Record.ack := by
    show (order.foldl (writeEntry written) w.file).output.drop w.file.output.length = _
    rw [hout, List.drop_left]
  have hentry : ∀ e ∈ order, (recordsOfGuid w.batch e.objectGuid).foldl
      (mergeEntry w.cacheAddr) none = some e := by
    intro e he
    rw [← h.lookup]
    exact (MergeRecordMap.mem_records hkeyed).mp (ho.mem_iff.mp he)
  -- what the condition says of a record whose write succeeded
  have hkept : ∀ e ∈ order, written e = true → ∀ pre f post,
      LastFlush (recordsOfGuid w.batch e.objectGuid) pre f post →
        Kept w.cacheAddr f post (w.file.database e.objectGuid) e := by
    intro e he hwr pre f post hlast
    have hw : ∀ r ∈ recordsOfGuid w.batch e.objectGuid, r.optype.isWritten = true :=
      fun r hr => (h.read r (List.mem_of_mem_filter hr)).1
    obtain ⟨e', he', hkept⟩ := (hin e he hwr pre f post hlast).entry hw hlast
    obtain rfl : e = e' := Option.some.inj ((hentry e he).symm.trans he')
    exact hkept
  refine ⟨?_, ?_⟩
  · intro g pre f post hlast hg
    obtain ⟨e, he, rfl⟩ := List.mem_map.mp hg
    obtain ⟨he, hwr⟩ := List.mem_filter.mp he
    obtain ⟨hcarry, _⟩ := hkept e he hwr pre f post hlast
    refine ⟨e.ack, ?_, hcarry.cacheAddr, hcarry.lastModifyTime⟩
    rw [hacks]
    exact acks_of_guid hkeyed ho he hwr hcarry.lastIsFlush
  · rw [hacks]
    intro a ha
    obtain ⟨e, he, rfl⟩ := List.mem_map.mp ha
    obtain ⟨he, hflag⟩ := List.mem_filter.mp he
    obtain ⟨he, hwr⟩ := List.mem_filter.mp he
    -- a flagged entry had a flush
    have hflush : ∃ r ∈ recordsOfGuid w.batch e.objectGuid, r.isFlush = true := by
      by_contra hno
      have hall : ∀ r ∈ recordsOfGuid w.batch e.objectGuid,
          r.isFlush = false ∧ r.lastIsFlush = false := by
        intro r hr
        exact ⟨Bool.eq_false_iff.mpr fun hf => hno ⟨r, hr, hf⟩,
          (h.read r (List.mem_of_mem_filter hr)).2⟩
      have hflag' := (mergeEntries_unflagged _ none hall
        (fun _ h => absurd h (Option.some_ne_none _).symm) e (hentry e he)).1
      rw [hflag] at hflag'
      cases hflag'
    obtain ⟨pre, f, post, hlast⟩ := exists_lastFlush hflush
    refine ⟨pre, f, post, hlast, ?_⟩
    show FlushedIn f post ((order.foldl (writeEntry written) w.file).database e.objectGuid)
    rw [hdb, written_row hkeyed ho _ he hwr]
    exact (hkept e he hwr pre f post hlast).flushed (hcan e he hwr).2

/-! ## §6. Runs. -/

omit [DecidableEq σ] in
/-- A check that writes empties the map. -/
theorem Progress.checkMergeRecord_of_writes {fileProcessFinish : Bool}
    (h : w.writes fileProcessFinish = true) :
    Converter.checkMergeRecord written order fileProcessFinish w.file
      = { order.foldl (writeEntry written) w.file with mergeRecordMap := ∅ } := by
  have hnot : (!fileProcessFinish &&
      decide (w.file.mergeRecordMap.entries.length < maxMergeRecordNumber)) = false := by
    unfold Progress.writes at h
    cases fileProcessFinish with
    | true => rfl
    | false =>
        have hle := of_decide_eq_true (Bool.false_or _ ▸ h)
        simpa using hle
  unfold Converter.checkMergeRecord
  rw [hnot]
  rfl

theorem Progress.Inv.step (h : w.Inv) {a : ProgressAction σ} (hin : w.InOrder a)
    (hst : w.step a = some w') : w'.Inv := by
  cases a with
  | processFile cacheAddr =>
      have hst' : (if w.batch.isEmpty then some { w with cacheAddr } else none) = some w' := hst
      split at hst'
      · rename_i hempty
        obtain rfl := Option.some.inj hst'
        have hbatch : w.batch = [] := List.isEmpty_iff.mp hempty
        refine ⟨?_, h.read, h.rounds⟩
        have hmap := h.map
        rw [hbatch] at hmap
        show w.file.mergeRecordMap = mergeRecords cacheAddr ∅ w.batch
        rw [hmap, hbatch]
        rfl
      · cases hst'
  | mergeRecord record =>
      obtain ⟨hread, heq⟩ := Option.ite_none_right_eq_some.mp hst
      obtain rfl := Option.some.inj heq
      refine ⟨?_, ?_, h.rounds⟩
      · show Converter.mergeRecord w.cacheAddr w.file.mergeRecordMap record
          = mergeRecords w.cacheAddr ∅ (w.batch ++ [record])
        rw [h.map]
        unfold mergeRecords
        rw [List.foldl_append]
        rfl
      · intro r hr
        obtain hr | hr := List.mem_append.mp hr
        · exact h.read r hr
        · obtain rfl := List.mem_singleton.mp hr
          exact hread
  -- a check that writes ends the round: the map is empty, and the round is noted
  | checkMergeRecord written order fileProcessFinish =>
      have hst' : (if !w.writes fileProcessFinish then some w else if _ then _ else none)
        = some w' := hst
      cases hwr : w.writes fileProcessFinish with
      | false =>
          simp only [hwr, Bool.not_false, ↓reduceIte] at hst'
          exact Option.some.inj hst' ▸ h
      | true =>
          simp only [hwr, Bool.not_true, Bool.false_eq_true, ↓reduceIte] at hst'
          obtain ⟨⟨ho, hcan⟩, heq⟩ := Option.ite_none_right_eq_some.mp hst'
          obtain rfl := Option.some.inj heq
          rw [Progress.checkMergeRecord_of_writes hwr]
          refine ⟨rfl, fun _ h => absurd h List.not_mem_nil, ?_⟩
          intro round hround
          obtain hround | hround := List.mem_append.mp hround
          · exact h.rounds round hround
          · obtain rfl := List.mem_singleton.mp hround
            exact h.round_acknowledged ho hcan (hin hwr)

/-- **What was written is acknowledged**: in every run whose checks carry the last
flushes to their writes, every round acknowledges each flushed guid that it wrote
once, with the time stamp of its last flush, and nothing that is not in the database. -/
theorem reachable_acknowledged {w : Progress σ}
    (hw : progressSystem.ReachableWhen Progress.InOrder w) :
    ∀ round ∈ w.rounds, round.Acknowledged := by
  have hinv : w.Inv := by
    refine hw.invariant ?_ ?_
    · intro w hinit
      obtain ⟨db, cacheAddr, rfl⟩ := hinit
      exact ⟨rfl, fun _ h => absurd h List.not_mem_nil, fun _ h => absurd h List.not_mem_nil⟩
    · intro w a w' h hin hst
      exact h.step hin hst
  exact hinv.rounds

/-! ## §7. An INSERT_WITH_FLUSH, with and without an update after it. -/

/-- The converter on a file of one cache, over an empty database. -/
def freshProgress : Progress String where
  file := { database := fun _ => none }
  cacheAddr := "cache"

/-- `handleNewEntityWithFlush` logged the entity 1. -/
def newWithFlush : Record String :=
  { objectGuid := 1, stream := "new", optype := .insertWithFlush, lastModifyTime := 10 }

/-- `handleUpdateEntity` logged it again. -/
def updateAfter : Record String :=
  { objectGuid := 1, stream := "newer", optype := .update, lastModifyTime := 11 }

/-- Both records, and the check at the end of the file. -/
def updatedActs : List (ProgressAction String) :=
  [.mergeRecord newWithFlush, .mergeRecord updateAfter,
    .checkMergeRecord (fun _ => true)
      [{ newWithFlush with stream := "newer", lastIsFlush := true, cacheAddr := "cache" }] true]

theorem reachable_acknowledged_update :
    ∃ w, progressSystem.run freshProgress updatedActs = some w ∧
      w.rounds.length = 1 ∧ ∀ round ∈ w.rounds, round.Acknowledged := by
  obtain ⟨w, hw, hlen⟩ : ∃ w, progressSystem.run freshProgress updatedActs = some w ∧
      w.rounds.length = 1 := ⟨_, rfl, rfl⟩
  refine ⟨w, hw, hlen, reachable_acknowledged
    (TransSys.reachableWhen_of_run ⟨fun _ => none, "cache", rfl⟩ ?_ hw)⟩
  refine ⟨trivial, _, rfl, trivial, _, rfl, ?_, _, rfl, trivial⟩
  intro _ e he _ pre f post hlast
  obtain rfl := List.mem_singleton.mp he
  obtain ⟨hsplit, hf, _⟩ := hlast
  have hsplit' : [newWithFlush, updateAfter] = pre ++ f :: post := hsplit
  match pre with
  | [] =>
      simp only [List.nil_append, List.cons.injEq] at hsplit'
      obtain ⟨rfl, rfl⟩ := hsplit'
      exact ⟨List.cons_ne_nil _ _, fun r hr => List.mem_singleton.mp hr ▸ rfl⟩
  | [x] =>
      simp only [List.cons_append, List.nil_append, List.cons.injEq] at hsplit'
      obtain ⟨rfl, rfl, rfl⟩ := hsplit'
      exact absurd hf nofun
  | _ :: _ :: _ => simp at hsplit'

/-- **A single INSERT_WITH_FLUSH** is written and never acknowledged. -/
theorem lone_insert_unacknowledged :
    ∃ w, progressSystem.run freshProgress
        [.mergeRecord newWithFlush,
          .checkMergeRecord (fun _ => true) [{ newWithFlush with cacheAddr := "cache" }] true]
          = some w ∧
      w.file.database 1 = some "new" ∧ w.file.output = [] ∧
      ¬ ∀ round ∈ w.rounds, round.Acknowledged := by
  refine ⟨_, rfl, rfl, rfl, ?_⟩
  intro h
  obtain ⟨a, ha, _⟩ := (h _ (List.mem_singleton.mpr rfl)).once 1 [] newWithFlush []
    ⟨rfl, rfl, fun _ h => absurd h List.not_mem_nil⟩ (List.mem_singleton.mpr rfl)
  exact absurd ha nofun

end Steppingstone.Converter
