/-
  Steppingstone.Cached.Files — the record files of a cache, one after the other.

  `ManageSerialize::svc` writes the records to the current file.  When the file is old enough it
  begins a new one and gives the old one to `ManageConvertSession`, which names it to the converter
  as soon as one is connected.  Opening a file that exists goes on in it.

  What can fail is part of the steps.  SQLite may not open a file or not store a record: the thread
  logs the one and ignores the other, and the record is gone.  The pool may have no open session for
  a packet: the name in it is gone.  `Served` says that none of this happens.
-/
import Mathlib.Logic.Function.Basic
import Mathlib.Tactic.Ring
import Steppingstone.Cached.FileNames
import Steppingstone.Lib.Progress

namespace Steppingstone.Cached

/-! ## §1. The two threads. -/

/-- A file name with its directory. -/
abbrev Path := List Char

/-- `BINARY_DIR` as `system_complete` gives it, and the number of `SERIALIZE_INTERVAL`. -/
structure FileCfg where
  binaryDir : Path
  serializeInterval : Int

/-- `m_generate_interval` -/
def FileCfg.generateInterval (cfg : FileCfg) : Int :=
  if 0 < cfg.serializeInterval then cfg.serializeInterval else 5 * 30

/-- `ManageSerialize` and `ManageConvertSession`, with the files that the first has made. -/
structure Files (R : Type) where
  /-- `m_record_set` -/
  recordSet : List R := []
  /-- `m_last_generate_time`, in microseconds -/
  lastGenerateTime : Int
  /-- The local time of `m_last_generate_time`. -/
  lastDate : DateTime
  /-- `m_serialize->getFileName()` -/
  current : Path
  /-- `m_db` has the current file open, with its table `record`. -/
  ready : Bool := true
  /-- The tables `record` of the files. -/
  disk : Path → Option (List R)
  /-- `m_file_path_vec` -/
  filePathVec : List Path := []
  /-- The `file_path_vec` of `ManageConvertSession::svc`. -/
  transferVec : List Path := []
  /-- `m_convert_is_available` -/
  convertIsAvailable : Bool := false
  /-- The `DCMSG_BINARY_FILE` packets that a session was given. -/
  sent : List Path := []
  /-- Ghost: the files, as they were begun. -/
  begun : List Path
  /-- Ghost: the records of `writeRecord`. -/
  written : List R := []

namespace Files

variable {R : Type} (cfg : FileCfg) (s : Files R)

/-- `ManageSerialize::initSerialize`: `sqlite3_open_v2` makes the file if there is none, and
`create table` the table.  With `opens` both are there afterwards; without, that is only logged. -/
def initSerialize (path : Path) (opens : Bool) : Files R :=
  { s with
    current := path
    ready := opens
    disk := if opens then Function.update s.disk path (some ((s.disk path).getD [])) else s.disk
    begun := s.begun ++ [path] }

/-- `FileNameGenerator::expire` -/
def expire (now : Int) : Bool := cfg.generateInterval ≤ (now - s.lastGenerateTime).tdiv 1000000

/-- `getFileName` with the time that it reads, and what follows when the file is too old. -/
def rotate (gen : Int) (ct : DateTime) (opens : Bool) : Files R :=
  { ({ s with lastGenerateTime := gen, lastDate := ct }).initSerialize
      (cfg.binaryDir ++ fileName ct) opens with
    filePathVec := s.filePathVec ++ [s.current] }

/-- `doWritingRecord` for all records that were taken over, in one transaction.  The result of
`write` is ignored and the record deleted: one that the engine does not store is gone. -/
def writeAll (stores : R → Bool) : Files R :=
  { s with
    disk :=
      if s.ready then
        Function.update s.disk s.current
          (some ((s.disk s.current).getD [] ++ s.recordSet.filter stores))
      else s.disk
    recordSet := [] }

/-- A round of `ManageSerialize::svc`. -/
def round (now gen : Int) (ct : DateTime) (opens : Bool) (stores : R → Bool) : Files R :=
  (if s.expire cfg now then s.rotate cfg gen ct opens else s).writeAll stores

/-- A round of `ManageConvertSession::svc`, with `transferBinaryFile`.  `SessionPoolImp::output`
gives the packet to a session, if `getSession` still finds one and it is open. -/
def transfer (takes : Path → Bool) : Files R :=
  let transferVec := s.transferVec ++ s.filePathVec
  if s.convertIsAvailable then
    { s with filePathVec := [], transferVec := [], sent := s.sent ++ transferVec.filter takes }
  else { s with filePathVec := [], transferVec }

end Files

/-- What the threads do, with what the clock, SQLite and the pool of the sessions answer. -/
inductive FileAct (R : Type) where
  /-- `ManageSerialize::writeRecord` -/
  | writeRecord (record : R)
  /-- A round of `ManageSerialize::svc`; `now` is the time of `expire`, `gen` and `ct` are those of
  `getFileName`. -/
  | round (now gen : Int) (ct : DateTime) (opens : Bool) (stores : R → Bool)
  /-- A round of `ManageConvertSession::svc` -/
  | transfer (takes : Path → Bool)
  /-- `ManageConvertSession::sessionOpen` and `sessionClosed` -/
  | sessions (available : Bool)

/-- `ManageSerialize::open` at a time, on an empty disk.  Where `initSerialize` fails the cache does
not start. -/
def opened {R : Type} (cfg : FileCfg) (gen : Int) (ct : DateTime) : Files R where
  lastGenerateTime := gen
  lastDate := ct
  current := cfg.binaryDir ++ fileName ct
  disk := Function.update (fun _ => none) (cfg.binaryDir ++ fileName ct) (some [])
  begun := [cfg.binaryDir ++ fileName ct]

/-- The serialize thread, the convert thread and the callers of `writeRecord`. -/
def fileSystem (R : Type) (cfg : FileCfg) : TransSys (Files R) (FileAct R) where
  init := fun s => ∃ gen ct, DateTime.Valid ct ∧ s = opened cfg gen ct
  step := fun s a => some <|
    match a with
    | .writeRecord record =>
        { s with recordSet := s.recordSet ++ [record], written := s.written ++ [record] }
    | .round now gen ct opens stores => s.round cfg now gen ct opens stores
    | .transfer takes => s.transfer takes
    | .sessions available => { s with convertIsAvailable := available }

/-- A new file is begun at a later local time than the last: the clock was not put back, not by
daylight saving either. -/
def Advances {R : Type} (cfg : FileCfg) (s : Files R) : FileAct R → Prop
  | .round now _ ct _ _ => s.expire cfg now = true → s.lastDate.Before ct ∧ ct.Valid
  | _ => True

instance {R : Type} (cfg : FileCfg) (s : Files R) (a : FileAct R) :
    Decidable (Advances cfg s a) := by
  cases a <;> simp only [Advances] <;> infer_instance

/-- SQLite opens a new file and stores every record, and a session is given every packet. -/
def Served {R : Type} (cfg : FileCfg) (s : Files R) : FileAct R → Prop
  | .round now _ _ opens stores =>
      (s.expire cfg now = true → opens = true) ∧ ∀ record ∈ s.recordSet, stores record = true
  | .transfer takes =>
      s.convertIsAvailable = true → ∀ path ∈ s.transferVec ++ s.filePathVec, takes path = true
  | _ => True

instance {R : Type} (cfg : FileCfg) (s : Files R) (a : FileAct R) :
    Decidable (Served cfg s a) := by
  cases a <;> simp only [Served] <;> infer_instance

/-- Nothing goes wrong with the clock, the files or the packets. -/
def Undisturbed {R : Type} (cfg : FileCfg) (s : Files R) (a : FileAct R) : Prop :=
  Advances cfg s a ∧ Served cfg s a

instance {R : Type} (cfg : FileCfg) (s : Files R) (a : FileAct R) :
    Decidable (Undisturbed cfg s a) :=
  inferInstanceAs (Decidable (_ ∧ _))

/-! ## §2. Paths. -/

theorem append_lt_append_iff {dir a b : Path} : dir ++ a < dir ++ b ↔ a < b := by
  induction dir with
  | nil => rfl
  | cons c dir ih =>
      rw [List.cons_append, List.cons_append, List.cons_lt_cons_iff, ih]
      constructor
      · rintro (h | ⟨-, h⟩)
        · exact absurd h (Char.lt_irrefl c)
        · exact h
      · exact fun h => .inr ⟨rfl, h⟩

/-! ## §3. Every run. -/

variable {R : Type} {cfg : FileCfg} {s s' : Files R}

/-- What the files hold. -/
def Files.contents (s : Files R) (paths : List Path) : List R :=
  paths.flatMap fun path => (s.disk path).getD []

/-- **The invariant** of the files and their names. -/
structure Filed (cfg : FileCfg) (s : Files R) : Prop where
  /-- The names came one after the other, and the last is that of the current time. -/
  ordered : s.begun.Pairwise (· < ·)
  last : ∃ earlier, s.begun = earlier ++ [s.current] ∧
    s.sent ++ s.transferVec ++ s.filePathVec = earlier
  current : s.current = cfg.binaryDir ++ fileName s.lastDate
  valid : s.lastDate.Valid
  ready : s.ready = true
  /-- There are no other files. -/
  begun : ∀ path, (s.disk path).isSome = true → path ∈ s.begun
  records : s.written = s.contents s.begun ++ s.recordSet

theorem filed_opened {gen : Int} {ct : DateTime} (h : ct.Valid) :
    Filed cfg (opened cfg gen ct : Files R) where
  ordered := List.pairwise_singleton _ _
  last := ⟨[], rfl, rfl⟩
  current := rfl
  valid := h
  ready := rfl
  begun := by
    intro path hpath
    by_cases hp : path = cfg.binaryDir ++ fileName ct
    · exact List.mem_singleton.mpr hp
    · exact absurd hpath (by simp [opened, Function.update_of_ne hp])
  records := by simp [opened, Files.contents]

/-- A later name is new, and after all the others. -/
theorem Filed.fresh (h : Filed cfg s) {ct : DateTime} (hct : ct.Valid)
    (hbefore : s.lastDate.Before ct) : ∀ path ∈ s.begun, path < cfg.binaryDir ++ fileName ct := by
  have hcurrent : s.current < cfg.binaryDir ++ fileName ct := by
    rw [h.current, append_lt_append_iff]
    exact (fileName_lt_iff h.valid hct).mpr hbefore
  intro path hpath
  obtain ⟨earlier, hbegun, -⟩ := h.last
  have hordered := h.ordered
  rw [hbegun] at hpath hordered
  obtain hpath | hpath := List.mem_append.mp hpath
  · have hlt := (List.pairwise_append.mp hordered).2.2 path hpath _ (List.mem_singleton.mpr rfl)
    exact List.lt_trans hlt hcurrent
  · rw [List.mem_singleton.mp hpath]
    exact hcurrent

/-- A file that is not one of those holds nothing of theirs. -/
theorem contents_update {paths : List Path} {path : Path} (hnot : path ∉ paths)
    (v : Option (List R)) :
    paths.flatMap (fun p => (Function.update s.disk path v p).getD []) = s.contents paths := by
  refine List.flatMap_congr fun p hp => ?_
  rw [Function.update_of_ne]
  rintro rfl
  exact hnot hp

/-- **A new file** is begun. -/
theorem Filed.rotate (h : Filed cfg s) {gen : Int} {ct : DateTime} (hct : ct.Valid)
    (hbefore : s.lastDate.Before ct) : Filed cfg (s.rotate cfg gen ct true) := by
  have hfresh := h.fresh hct hbefore
  have hnot : cfg.binaryDir ++ fileName ct ∉ s.begun := fun hin =>
    List.lt_irrefl _ (hfresh _ hin)
  have hnone : s.disk (cfg.binaryDir ++ fileName ct) = none := by
    cases hd : s.disk (cfg.binaryDir ++ fileName ct) with
    | none => rfl
    | some rs => exact absurd (h.begun _ (by rw [hd]; rfl)) hnot
  obtain ⟨earlier, hbegun, hnames⟩ := h.last
  refine ⟨?_, ?_, rfl, hct, rfl, ?_, ?_⟩
  · refine List.pairwise_append.mpr ⟨h.ordered, List.pairwise_singleton _ _, ?_⟩
    intro path hpath path' hpath'
    rw [List.mem_singleton.mp hpath']
    exact hfresh path hpath
  · refine ⟨s.begun, rfl, ?_⟩
    show s.sent ++ s.transferVec ++ (s.filePathVec ++ [s.current]) = s.begun
    rw [← List.append_assoc, hnames, hbegun]
  · intro path hpath
    by_cases hp : path = cfg.binaryDir ++ fileName ct
    · exact List.mem_append_right _ (List.mem_singleton.mpr hp)
    · refine List.mem_append_left _ (h.begun path ?_)
      have hsame : (s.rotate cfg gen ct true).disk path = s.disk path :=
        Function.update_of_ne hp ..
      rwa [hsame] at hpath
  · show s.written = List.flatMap (fun p => (Function.update s.disk (cfg.binaryDir ++ fileName ct)
      (some ((s.disk (cfg.binaryDir ++ fileName ct)).getD [])) p).getD [])
        (s.begun ++ [cfg.binaryDir ++ fileName ct]) ++ s.recordSet
    rw [List.flatMap_append, contents_update hnot, List.flatMap_singleton, Function.update_self,
      hnone]
    simpa using h.records

/-- With every record stored, the current file is the only one that changes. -/
theorem Filed.writeAll_eq (h : Filed cfg s) {stores : R → Bool}
    (hstores : ∀ record ∈ s.recordSet, stores record = true) :
    s.writeAll stores =
      { s with
        disk := Function.update s.disk s.current
          (some ((s.disk s.current).getD [] ++ s.recordSet))
        recordSet := [] } := by
  unfold Files.writeAll
  rw [h.ready, if_pos rfl, List.filter_eq_self.mpr hstores]

/-- **The records** go to the current file. -/
theorem Filed.writeAll (h : Filed cfg s) {stores : R → Bool}
    (hstores : ∀ record ∈ s.recordSet, stores record = true) : Filed cfg (s.writeAll stores) := by
  rw [h.writeAll_eq hstores]
  obtain ⟨earlier, hbegun, hnames⟩ := h.last
  have hnot : s.current ∉ earlier := by
    intro hin
    have hordered := h.ordered
    rw [hbegun] at hordered
    exact List.lt_irrefl _
      ((List.pairwise_append.mp hordered).2.2 _ hin _ (List.mem_singleton.mpr rfl))
  refine ⟨h.ordered, ⟨earlier, hbegun, hnames⟩, h.current, h.valid, h.ready, ?_, ?_⟩
  · intro path hpath
    by_cases hp : path = s.current
    · show path ∈ s.begun
      rw [hbegun, hp]
      exact List.mem_append_right _ (List.mem_singleton.mpr rfl)
    · refine h.begun path ?_
      have hsame : Function.update s.disk s.current
          (some ((s.disk s.current).getD [] ++ s.recordSet)) path = s.disk path :=
        Function.update_of_ne hp ..
      rw [← hsame]
      exact hpath
  · have hrecords := h.records
    unfold Files.contents at hrecords
    rw [hbegun, List.flatMap_append, List.flatMap_singleton] at hrecords
    show s.written = List.flatMap (fun p => (Function.update s.disk s.current
      (some ((s.disk s.current).getD [] ++ s.recordSet)) p).getD []) s.begun ++ []
    rw [hbegun, List.flatMap_append, contents_update hnot, List.flatMap_singleton,
      Function.update_self, hrecords]
    simp [Files.contents]

/-- **The names** go to the converter, or wait. -/
theorem Filed.transfer (h : Filed cfg s) {takes : Path → Bool}
    (htakes : s.convertIsAvailable = true →
      ∀ path ∈ s.transferVec ++ s.filePathVec, takes path = true) :
    Filed cfg (s.transfer takes) := by
  obtain ⟨earlier, hbegun, hnames⟩ := h.last
  unfold Files.transfer
  split
  · next havailable =>
      refine ⟨h.ordered, ⟨earlier, hbegun, ?_⟩, h.current, h.valid, h.ready, h.begun, h.records⟩
      show s.sent ++ (s.transferVec ++ s.filePathVec).filter takes ++ [] ++ [] = earlier
      rw [List.filter_eq_self.mpr (htakes havailable)]
      simpa using hnames
  · refine ⟨h.ordered, ⟨earlier, hbegun, ?_⟩, h.current, h.valid, h.ready, h.begun, h.records⟩
    simpa using hnames

/-- **A step** keeps the files in order. -/
theorem filed_step {a : FileAct R} (h : Filed cfg s) (hc : Undisturbed cfg s a)
    (hst : (fileSystem R cfg).step s a = some s') : Filed cfg s' := by
  obtain ⟨hadvances, hserved⟩ := hc
  obtain rfl := Option.some.inj hst
  cases a with
  | writeRecord record =>
      refine ⟨h.ordered, h.last, h.current, h.valid, h.ready, h.begun, ?_⟩
      show s.written ++ [record] = s.contents s.begun ++ (s.recordSet ++ [record])
      rw [h.records, List.append_assoc]
  | round now gen ct opens stores =>
      obtain ⟨hopens, hstores⟩ := hserved
      show Filed cfg
        ((if s.expire cfg now then s.rotate cfg gen ct opens else s).writeAll stores)
      by_cases hold : s.expire cfg now = true
      · obtain ⟨hbefore, hct⟩ := hadvances hold
        rw [if_pos hold, hopens hold]
        exact (h.rotate hct hbefore).writeAll hstores
      · rw [if_neg hold]
        exact h.writeAll hstores
  | transfer takes => exact h.transfer hserved
  | sessions available => exact ⟨h.ordered, h.last, h.current, h.valid, h.ready, h.begun, h.records⟩

/-! ## §4. Files that were given away. -/

/-- A file that was begun before the current one stays as it is. -/
structure Fixed (paths : List Path) (s s' : Files R) : Prop where
  earlier : ∃ rest, s'.begun = paths ++ rest ∧ rest ≠ []
  same : ∀ path ∈ paths, s'.disk path = s.disk path

theorem Filed.round_earlier (h : Filed cfg s) {now gen : Int} {ct : DateTime}
    {opens : Bool} {stores : R → Bool}
    (hc : Undisturbed cfg s (.round now gen ct opens stores)) {paths rest : List Path}
    (hbegun : s.begun = paths ++ rest) (hrest : rest ≠ []) :
    (∃ rest', (s.round cfg now gen ct opens stores).begun = paths ++ rest' ∧ rest' ≠ []) ∧
      ∀ path ∈ paths, (s.round cfg now gen ct opens stores).disk path = s.disk path := by
  obtain ⟨hadvances, hopens, hstores⟩ := hc
  -- the current file is none of these
  have hcurrent : s.current ∉ paths := by
    intro hin
    obtain ⟨earlier, hlast, -⟩ := h.last
    have hordered := h.ordered
    have hmem : s.current ∈ rest := by
      have hget := congrArg List.getLast? (hlast.symm.trans hbegun)
      rw [List.getLast?_append, List.getLast?_append] at hget
      cases hr : rest.getLast? with
      | none => exact absurd (List.getLast?_eq_none_iff.mp hr) hrest
      | some x =>
          rw [hr] at hget
          obtain rfl : s.current = x := by simpa using hget
          exact List.mem_of_getLast? hr
    rw [hbegun] at hordered
    exact List.lt_irrefl _ ((List.pairwise_append.mp hordered).2.2 _ hin _ hmem)
  unfold Files.round
  split
  · next hold =>
      obtain ⟨hbefore, hct⟩ := hadvances hold
      rw [hopens hold, (h.rotate hct hbefore).writeAll_eq hstores]
      have hnot : cfg.binaryDir ++ fileName ct ∉ paths := fun hin =>
        List.lt_irrefl _ (h.fresh hct hbefore _ (hbegun ▸ List.mem_append_left _ hin))
      refine ⟨⟨rest ++ [cfg.binaryDir ++ fileName ct], ?_, by simp⟩, ?_⟩
      · show s.begun ++ _ = _
        rw [hbegun, List.append_assoc]
      · intro path hpath
        have hne : path ≠ cfg.binaryDir ++ fileName ct := fun he => hnot (he ▸ hpath)
        exact (Function.update_of_ne hne ..).trans (Function.update_of_ne hne ..)
  · rw [h.writeAll_eq hstores]
    refine ⟨⟨rest, hbegun, hrest⟩, ?_⟩
    intro path hpath
    have hne : path ≠ s.current := fun he => hcurrent (he ▸ hpath)
    exact Function.update_of_ne hne ..

/-- **What was given away** does not change any more. -/
theorem Filed.leads_fixed (h : Filed cfg s) {paths rest : List Path}
    (hbegun : s.begun = paths ++ rest) (hrest : rest ≠ [])
    (hl : (fileSystem R cfg).Leads (Undisturbed cfg) s s') :
    ∀ path ∈ paths, s'.disk path = s.disk path := by
  have hkept : Filed cfg s' ∧ Fixed paths s s' := by
    refine hl.invariant (I := fun m => Filed cfg m ∧ Fixed paths s m) ?_
      ⟨h, ⟨rest, hbegun, hrest⟩, fun _ _ => rfl⟩
    rintro m a m' ⟨hm, ⟨rest', hbegun', hrest'⟩, hsame⟩ hc hst
    refine ⟨filed_step hm hc hst, ?_⟩
    obtain rfl := Option.some.inj hst
    cases a with
    | writeRecord record => exact ⟨⟨rest', hbegun', hrest'⟩, hsame⟩
    | round now gen ct opens stores =>
        obtain ⟨hnext, hdisk⟩ := hm.round_earlier hc hbegun' hrest'
        exact ⟨hnext, fun path hpath => (hdisk path hpath).trans (hsame path hpath)⟩
    | transfer takes =>
        show Fixed paths s (m.transfer takes)
        unfold Files.transfer
        split
        · exact ⟨⟨rest', hbegun', hrest'⟩, hsame⟩
        · exact ⟨⟨rest', hbegun', hrest'⟩, hsame⟩
    | sessions available => exact ⟨⟨rest', hbegun', hrest'⟩, hsame⟩
  exact hkept.2.same

/-- **Every record is in one file**: the records so far are those of the files, in the order of
their names, and those that wait; the names told to the converter and those that will be are all
but that of the current file; and a file whose name was told stays as it is in every further run. -/
theorem records_filed (hr : (fileSystem R cfg).ReachableWhen (Undisturbed cfg) s) :
    s.written = s.contents s.begun ++ s.recordSet ∧ s.begun.Pairwise (· < ·) ∧
      s.begun = s.sent ++ s.transferVec ++ s.filePathVec ++ [s.current] ∧
      ∀ s', (fileSystem R cfg).Leads (Undisturbed cfg) s s' →
        ∀ path ∈ s.sent, s'.disk path = s.disk path := by
  have h : Filed cfg s := by
    refine hr.invariant ?_ fun s a s' hs hc hst => filed_step hs hc hst
    rintro s ⟨gen, ct, hct, rfl⟩
    exact filed_opened hct
  obtain ⟨earlier, hbegun, hnames⟩ := h.last
  refine ⟨h.records, h.ordered, by rw [hnames, hbegun], ?_⟩
  intro s' hl
  have hsplit : s.begun = s.sent ++ (s.transferVec ++ s.filePathVec ++ [s.current]) := by
    rw [hbegun, ← hnames]
    simp
  exact h.leads_fixed hsplit (by simp) hl

/-- Two files, and a record for each; the converter connects late. -/
def twoFilesRun : List (FileAct Nat) :=
  [.writeRecord 7, .round 1000000 1000000 ⟨2014, 3, 9, 23, 59, 58⟩ true fun _ => true,
    .transfer fun _ => true, .writeRecord 8,
    .round 4000000 4000000 ⟨2014, 3, 10, 0, 0, 1⟩ true fun _ => true,
    .transfer fun _ => true, .sessions true, .transfer fun _ => true]

theorem records_filed_two :
    ∃ s, (fileSystem Nat ⟨['/'], 2⟩).run (opened ⟨['/'], 2⟩ 0 ⟨2014, 3, 9, 23, 59, 57⟩) twoFilesRun
        = some s ∧
      s.written = s.contents s.begun ++ s.recordSet ∧ s.begun.Pairwise (· < ·) ∧
        s.begun = s.sent ++ s.transferVec ++ s.filePathVec ++ [s.current] ∧
        ∀ s', (fileSystem Nat ⟨['/'], 2⟩).Leads (Undisturbed ⟨['/'], 2⟩) s s' →
          ∀ path ∈ s.sent, s'.disk path = s.disk path := by
  have hvalid : DateTime.Valid ⟨2014, 3, 9, 23, 59, 57⟩ := by decide
  have hsome : ((fileSystem Nat ⟨['/'], 2⟩).run (opened ⟨['/'], 2⟩ 0 ⟨2014, 3, 9, 23, 59, 57⟩)
      twoFilesRun).isSome = true := by decide +kernel
  have hmeets : (fileSystem Nat ⟨['/'], 2⟩).RunMeets (Undisturbed ⟨['/'], 2⟩)
      (opened ⟨['/'], 2⟩ 0 ⟨2014, 3, 9, 23, 59, 57⟩) twoFilesRun := by decide +kernel
  obtain ⟨s, hrun⟩ := Option.isSome_iff_exists.mp hsome
  exact ⟨s, hrun, records_filed (TransSys.reachableWhen_of_run ⟨0, _, hvalid, rfl⟩ hmeets hrun)⟩

end Steppingstone.Cached
