/-
  Steppingstone.Cross.Load — what a cross server reads of its disk.

  The loop over the lines of a platform puts each line behind the line before it, so only the line
  that is listed first is read.  The player of a directory is the last entity in it whose guid is
  that of a player.
-/
import Steppingstone.Cross.Archive

namespace Steppingstone.Cross

open Std (TreeMap)
open FileTree (Disk Listing Name Path resolve IsName IsDirText)
open ManageCrossPlayerData
open Pool (guidType etPlayer)

variable {E : Type} {codec : Codec E} {list : Listing} {tree : Disk Bytes}
  {saved : Text → Option (CrossPlayerDataInfo E)}

/-! ## §1. Directories. -/

/-- A directory is on the way to some player. -/
theorem Layout.find_dir (h : Layout codec tree saved) {p : Path} :
    tree.find p = some none ↔ p = [] ∨ ∃ k info, saved k = some info ∧
      p = (playerPath info.triple).take p.length := by
  rw [h]
  constructor
  · intro hp
    obtain ⟨hnil, -⟩ | ⟨k, info, hk, ⟨-, n, hn⟩ | ⟨g, entity, -, -, hv⟩⟩ := hp
    · exact Or.inl hnil
    · have hstart : p <+: playerPath info.triple := hn ▸ List.take_prefix _ _
      exact Or.inr ⟨k, info, hk, List.prefix_iff_eq_take.mp hstart⟩
    · cases hv
  · intro hp
    obtain hnil | ⟨k, info, hk, hn⟩ := hp
    · exact Or.inl ⟨hnil, rfl⟩
    · cases p with
      | nil => exact Or.inl ⟨rfl, rfl⟩
      | cons a p => exact Or.inr ⟨k, info, hk, Or.inl ⟨rfl, p.length, hn⟩⟩

theorem Layout.length_le (h : Layout codec tree saved) {p : Path}
    (hfind : tree.find p = some none) : p.length ≤ 4 := by
  obtain rfl | ⟨k, info, -, hp⟩ := h.find_dir.mp hfind
  · exact Nat.zero_le 4
  · have hlen := congrArg List.length hp
    rw [List.length_take] at hlen
    have hfour : (playerPath info.triple).length = 4 := rfl
    omega

/-- A directory is in a directory. -/
theorem Layout.parent (h : Layout codec tree saved) {p : Path} {n : Name}
    (hfind : tree.find (p ++ [n]) = some none) : tree.find p = some none := by
  rw [h.find_dir] at hfind ⊢
  obtain hnil | ⟨k, info, hk, hn⟩ := hfind
  · exact absurd hnil (by simp)
  · have hstart : p ++ [n] <+: playerPath info.triple := List.prefix_iff_eq_take.mpr hn
    have hp : p <+: playerPath info.triple := (List.prefix_append p [n]).trans hstart
    exact Or.inr ⟨k, info, hk, List.prefix_iff_eq_take.mp hp⟩

/-- What a search for directories finds: any order, and none outside. -/
theorem mem_searchDir {d : Text} {n : Name} :
    n ∈ searchDir list tree d ↔
      tree.find (resolve d) = some none ∧ tree.find (resolve d ++ [n]) = some none := by
  have hdef : searchDir list tree d = if tree.isDirectory (resolve d) then
      (list.order (resolve d) (tree.entries (resolve d))).filter
        fun n => tree.isDirectory (resolve d ++ [n]) else [] := rfl
  rw [hdef, ← FileTree.Disk.isDirectory_eq_true, ← FileTree.Disk.isDirectory_eq_true]
  by_cases hdir : tree.isDirectory (resolve d) = true
  · rw [if_pos hdir, List.mem_filter, (list.perm _ _).mem_iff, FileTree.Disk.mem_entries]
    refine ⟨fun hn => ⟨hdir, hn.2⟩, fun hn => ⟨?_, hn.2⟩⟩
    rw [FileTree.Disk.isDirectory_eq_true.mp hn.2]
    rfl
  · rw [if_neg hdir]
    exact ⟨fun hn => absurd hn List.not_mem_nil, fun hn => absurd hn.1 hdir⟩

theorem Layout.mem_searchDir (h : Layout codec tree saved) {d : Text} {n : Name} :
    n ∈ searchDir list tree d ↔ ∃ k info, saved k = some info ∧
      resolve d ++ [n] = (playerPath info.triple).take (resolve d ++ [n]).length := by
  rw [Cross.mem_searchDir, h.find_dir (p := resolve d ++ [n])]
  constructor
  · intro hn
    exact hn.2.resolve_left (by simp)
  · intro hn
    exact ⟨h.parent (h.find_dir.mpr (Or.inr hn)), Or.inr hn⟩

theorem Layout.mem_platforms (h : Layout codec tree saved) {n : Name} :
    n ∈ searchDir list tree crossPlayerPath ↔ ∃ k info, saved k = some info ∧ info.platform = n := by
  rw [h.mem_searchDir, resolve_crossPlayerPath]
  constructor
  · intro hn
    obtain ⟨k, info, hk, hp⟩ := hn
    have hp : [crossDir, n] = [crossDir, info.platform] := hp
    exact ⟨k, info, hk, (List.cons.inj (List.cons.inj hp).2).1.symm⟩
  · intro hn
    obtain ⟨k, info, hk, rfl⟩ := hn
    exact ⟨k, info, hk, rfl⟩

theorem Layout.mem_lines (h : Layout codec tree saved) {platform n : Name}
    (hplatform : IsName platform) :
    n ∈ searchDir list tree (crossPlayerPath ++ platform) ↔
      ∃ k info, saved k = some info ∧ info.platform = platform ∧ info.lineId = n := by
  rw [h.mem_searchDir, resolve_platform hplatform]
  constructor
  · intro hn
    obtain ⟨k, info, hk, hp⟩ := hn
    have hp : [crossDir, platform, n] = [crossDir, info.platform, info.lineId] := hp
    simp only [List.cons.injEq, true_and, and_true] at hp
    exact ⟨k, info, hk, hp.1.symm, hp.2.symm⟩
  · intro hn
    obtain ⟨k, info, hk, rfl, rfl⟩ := hn
    exact ⟨k, info, hk, rfl⟩

theorem Layout.mem_players (h : Layout codec tree saved) {platform lineId n : Name}
    (hplatform : IsName platform) (hline : IsName lineId) :
    n ∈ searchDir list tree (lineDirText platform lineId) ↔
      ∃ k info, saved k = some info ∧ info.platform = platform ∧ info.lineId = lineId ∧
        lexicalCast info.playerGuid = n := by
  rw [h.mem_searchDir, resolve_lineDirText hplatform hline]
  constructor
  · intro hn
    obtain ⟨k, info, hk, hp⟩ := hn
    have hp : [crossDir, platform, lineId, n]
        = [crossDir, info.platform, info.lineId, lexicalCast info.playerGuid] := hp
    simp only [List.cons.injEq, true_and, and_true] at hp
    exact ⟨k, info, hk, hp.1.symm, hp.2.1.symm, hp.2.2.symm⟩
  · intro hn
    obtain ⟨k, info, hk, rfl, rfl, rfl⟩ := hn
    exact ⟨k, info, hk, rfl⟩

/-- Below the players there are no directories. -/
theorem Layout.searchDir_deep (h : Layout codec tree saved) {d : Text}
    (hd : 4 ≤ (resolve d).length) : searchDir list tree d = [] := by
  apply List.eq_nil_iff_forall_not_mem.mpr
  intro n hn
  have hlen := h.length_le (Cross.mem_searchDir.mp hn).2
  rw [List.length_append] at hlen
  have hone : [n].length = 1 := rfl
  omega

/-- The saved infos: their names are file names, each is under the key of its triple, and its
    entities are read back. -/
structure Stored (codec : Codec E) (saved : Text → Option (CrossPlayerDataInfo E)) : Prop where
  names : ∀ k info, saved k = some info → IsName info.platform ∧ IsName info.lineId
  keyed : ∀ k info, saved k = some info → info.triple.key = k
  parsed : ∀ k info, saved k = some info → ∀ (g : UInt64) entity, info.msgMap[g]? = some entity →
    codec.extractEntity g (codec.serializeAsString entity) = some entity

/-! ## §2. The files of one player. -/

/-- The player of a directory: the last guid of a player. -/
def playerOf (gs : List UInt64) : UInt64 :=
  gs.foldl (fun player g => if guidType g = etPlayer then g else player) 0

/-- The player directory of an info is read as `info`. -/
def Reads (list : Listing) (tree : Disk Bytes) (i x : CrossPlayerDataInfo E) : Prop :=
  x.platform = i.platform ∧ x.lineId = i.lineId ∧ (∀ g : UInt64, x.msgMap[g]? = i.msgMap[g]?) ∧
    ∃ gs : List UInt64, list.order (playerPath i.triple) (tree.entries (playerPath i.triple))
        = gs.map entityFile ∧
      (∀ g, g ∈ gs ↔ (i.msgMap[g]?).isSome = true) ∧ x.playerGuid = playerOf gs

/-- The info that is read from a player directory. -/
def readPlayer (codec : Codec E) (list : Listing) (tree : Disk Bytes)
    (platform lineId linePath : Text) : Option (CrossPlayerDataInfo E) :=
  (searchFileByExt list tree linePath dataExt).foldlM (loadFile codec tree) { platform, lineId }

variable {k : Text} {i : CrossPlayerDataInfo E}

/-- The entries of a player directory are the files of its entities. -/
theorem Layout.find_file (h : Layout codec tree saved) (hs : Stored codec saved)
    (hk : saved k = some i) {n : Name} {v : Option Bytes} :
    tree.find (playerPath i.triple ++ [n]) = some v ↔ ∃ g entity, i.msgMap[g]? = some entity ∧
      n = entityFile g ∧ v = some (codec.serializeAsString entity) := by
  rw [h]
  constructor
  · intro hp
    obtain ⟨hnil, -⟩ | ⟨k', i', hk', ⟨-, m, hm⟩ | ⟨g, entity, hg, hp, rfl⟩⟩ := hp
    · exact absurd hnil (by simp)
    · have hlen := congrArg List.length hm
      rw [List.length_append, List.length_take] at hlen
      have hfour : (playerPath i.triple).length = 4 := rfl
      have hfour' : (playerPath i'.triple).length = 4 := rfl
      have hone : [n].length = 1 := rfl
      omega
    · have htriple := playerPath_injective (List.append_inj_left' hp rfl)
      have hname := List.append_inj_right' hp rfl
      have hsame : k = k' := by
        rw [← hs.keyed k i hk, ← hs.keyed k' i' hk', htriple]
      rw [hsame, hk'] at hk
      obtain rfl := Option.some.inj hk
      exact ⟨g, entity, hg, (List.cons.inj hname).1, rfl⟩
  · intro hp
    obtain ⟨g, entity, hg, rfl, rfl⟩ := hp
    exact Or.inr ⟨k, i, hk, Or.inr ⟨g, entity, hg, rfl, rfl⟩⟩

/-- The listing of a player directory, as guids. -/
theorem Layout.listing (h : Layout codec tree saved) (hs : Stored codec saved)
    (hk : saved k = some i) (list : Listing) :
    ∃ gs : List UInt64, list.order (playerPath i.triple) (tree.entries (playerPath i.triple))
        = gs.map entityFile ∧ ∀ g, g ∈ gs ↔ (i.msgMap[g]?).isSome = true := by
  have hmem : ∀ n, n ∈ list.order (playerPath i.triple) (tree.entries (playerPath i.triple)) ↔
      ∃ g, entityFile g = n ∧ (i.msgMap[g]?).isSome = true := by
    intro n
    rw [(list.perm _ _).mem_iff, FileTree.Disk.mem_entries, Option.isSome_iff_exists]
    constructor
    · intro hn
      obtain ⟨v, hv⟩ := hn
      obtain ⟨g, entity, hg, rfl, -⟩ := (h.find_file hs hk).mp hv
      exact ⟨g, rfl, by rw [hg]; rfl⟩
    · intro hn
      obtain ⟨g, rfl, hg⟩ := hn
      obtain ⟨entity, hentity⟩ := Option.isSome_iff_exists.mp hg
      exact ⟨_, (h.find_file hs hk).mpr ⟨g, entity, hentity, rfl, rfl⟩⟩
  have hlift : ∀ ns : List Name, (∀ n ∈ ns, ∃ g, entityFile g = n) →
      ∃ gs : List UInt64, ns = gs.map entityFile := by
    intro ns
    induction ns with
    | nil => exact fun _ => ⟨[], rfl⟩
    | cons n ns ih =>
        intro hns
        obtain ⟨g, rfl⟩ := hns n List.mem_cons_self
        obtain ⟨gs, rfl⟩ := ih fun x hx => hns x (List.mem_cons_of_mem _ hx)
        exact ⟨g :: gs, rfl⟩
  obtain ⟨gs, hgs⟩ := hlift _ fun n hn =>
    (hmem n).mp hn |>.imp fun _ hg => hg.1
  refine ⟨gs, hgs, ?_⟩
  intro g
  rw [← List.mem_map_of_injective entityFile_injective, ← hgs, hmem]
  constructor
  · intro hg
    obtain ⟨g', he, hg'⟩ := hg
    exact entityFile_injective he ▸ hg'
  · exact fun hg => ⟨g, rfl, hg⟩

/-- The loop over the files, at the texts of the files. -/
theorem foldlM_loadFile (h : Layout codec tree saved) (hs : Stored codec saved)
    (hk : saved k = some i) {dir : Text} (hdir : resolve dir = playerPath i.triple)
    {gs : List UInt64} (hgs : ∀ g ∈ gs, (i.msgMap[g]?).isSome = true)
    (x : CrossPlayerDataInfo E) :
    ∃ y, (gs.map fun g => dir ++ ['/'] ++ entityFile g).foldlM (loadFile codec tree) x = some y ∧
      y.platform = x.platform ∧ y.lineId = x.lineId ∧
      y.playerGuid
        = gs.foldl (fun player g => if guidType g = etPlayer then g else player) x.playerGuid ∧
      ∀ g : UInt64, y.msgMap[g]? = if g ∈ gs then i.msgMap[g]? else x.msgMap[g]? := by
  -- file by file; a file of a player sets the guid, too
  induction gs generalizing x with
  | nil => exact ⟨x, rfl, rfl, rfl, rfl, fun g => (if_neg List.not_mem_nil).symm⟩
  | cons g gs ih =>
      obtain ⟨entity, hentity⟩ := Option.isSome_iff_exists.mp (hgs g List.mem_cons_self)
      have hdirText : IsDirText (dir ++ ['/']) := FileTree.isDirText_append dir
      have hpath : resolve (dir ++ ['/'] ++ entityFile g) = playerPath i.triple ++ [entityFile g] := by
        rw [FileTree.resolve_append hdirText (isName_entityFile g),
          FileTree.resolve_append_slash, hdir]
      have hload : loadStream tree (dir ++ ['/'] ++ entityFile g)
          = codec.serializeAsString entity := by
        rw [loadStream, hpath, FileTree.Disk.readFile,
          (h.find_file hs hk).mpr ⟨g, entity, hentity, rfl, rfl⟩]
        rfl
      have hguid : extractGuid (filename (dir ++ ['/'] ++ entityFile g)) = some g := by
        rw [filename_append hdirText (isName_entityFile g).2.1, extractGuid_entityFile]
      have hstep : loadFile codec tree x (dir ++ ['/'] ++ entityFile g) = some { x with
          playerGuid := if guidType g = etPlayer then g else x.playerGuid
          msgMap := x.msgMap.insert g entity } := by
        rw [loadFile, hguid, hload]
        simp only [hs.parsed k i hk g entity hentity, Option.map_some]
      obtain ⟨y, hy, hplatform, hline, hplayer, hmap⟩ :=
        ih (fun g' hg' => hgs g' (List.mem_cons_of_mem g hg')) { x with
          playerGuid := if guidType g = etPlayer then g else x.playerGuid
          msgMap := x.msgMap.insert g entity }
      refine ⟨y, ?_, hplatform, hline, hplayer, ?_⟩
      · rw [List.map_cons, List.foldlM_cons, hstep]
        exact hy
      · intro g'
        rw [hmap, Lookup.getElem?_insert]
        by_cases hin : g' ∈ gs
        · rw [if_pos hin, if_pos (List.mem_cons_of_mem g hin)]
        · rw [if_neg hin]
          by_cases hgg : g' = g
          · rw [if_pos hgg, if_pos (by rw [hgg]; exact List.mem_cons_self), hgg, hentity]
          · rw [if_neg hgg, if_neg]
            intro hmem
            exact (List.mem_cons.mp hmem).elim hgg hin

/-- **One player directory** is read as its info. -/
theorem Layout.readPlayer_eq (h : Layout codec tree saved) (hs : Stored codec saved)
    (hk : saved k = some i) (list : Listing) :
    ∃ x, readPlayer codec list tree i.platform i.lineId
        (lineDirText i.platform i.lineId ++ lexicalCast i.playerGuid) = some x ∧
      Reads list tree i x := by
  obtain ⟨hplatform, hline⟩ := hs.names k i hk
  obtain ⟨gs, hlist, hgs⟩ := h.listing hs hk list
  have hdir : resolve (lineDirText i.platform i.lineId ++ lexicalCast i.playerGuid)
      = playerPath i.triple := by
    rw [FileTree.resolve_append (isDirText_lineDirText _ _) (isName_lexicalCast _),
      resolve_lineDirText hplatform hline]
    rfl
  have hisDir : tree.isDirectory (playerPath i.triple) = true :=
    FileTree.Disk.isDirectory_eq_true.mpr (h.find_dir.mpr (Or.inr ⟨k, i, hk, rfl⟩))
  -- only the files of entities are in the directory of a player
  have hfiles : searchFileByExt list tree
      (lineDirText i.platform i.lineId ++ lexicalCast i.playerGuid) dataExt
      = gs.map fun g => lineDirText i.platform i.lineId ++ lexicalCast i.playerGuid ++ ['/'] ++
          entityFile g := by
    unfold searchFileByExt
    simp only [hdir, hisDir, if_true, hlist]
    rw [List.filter_eq_self.mpr, List.map_map]
    · rfl
    · intro n hn
      obtain ⟨g, hg, rfl⟩ := List.mem_map.mp hn
      obtain ⟨entity, hentity⟩ := Option.isSome_iff_exists.mp ((hgs g).mp hg)
      have hfile := (h.find_file hs hk).mpr ⟨g, entity, hentity, rfl, rfl⟩
      rw [FileTree.Disk.isDirectory_of_find hfile, extension_entityFile]
      rfl
  obtain ⟨x, hx, hxp, hxl, hxg, hxm⟩ := foldlM_loadFile h hs hk hdir (fun g hg => (hgs g).mp hg)
    { platform := i.platform, lineId := i.lineId }
  refine ⟨x, ?_, hxp, hxl, ?_, gs, hlist, hgs, hxg⟩
  · rw [readPlayer, hfiles]
    exact hx
  · intro g
    rw [hxm]
    by_cases hg : g ∈ gs
    · rw [if_pos hg]
    · rw [if_neg hg]
      have hnone : i.msgMap[g]? = none := by
        cases hm : i.msgMap[g]? with
        | none => rfl
        | some e => exact absurd ((hgs g).mpr (by rw [hm]; rfl)) hg
      rw [hnone]
      rfl

/-! ## §3. The loops. -/

/-- The player directories that are read: those of the line that is listed first. -/
def visits (list : Listing) (tree : Disk Bytes) : List (Name × Name × Name) :=
  (searchDir list tree crossPlayerPath).flatMap fun platform =>
    match searchDir list tree (crossPlayerPath ++ platform) with
    | [] => []
    | lineId :: _ =>
        (searchDir list tree (lineDirText platform lineId)).map fun player =>
          (platform, lineId, player)

/-- What is read from a visit. -/
def readVisit (codec : Codec E) (list : Listing) (tree : Disk Bytes) (v : Name × Name × Name) :
    Option (CrossPlayerDataInfo E) :=
  readPlayer codec list tree v.1 v.2.1 (lineDirText v.1 v.2.1 ++ v.2.2)

/-- An info is put under its key, with platform and line id the other way round. -/
def put (m : ManageCrossPlayerData E) (x : CrossPlayerDataInfo E) : ManageCrossPlayerData E :=
  let key := getKey x.platform x.lineId x.playerGuid
  { infoMap := m.infoMap.insert key x, guidInfoMap := m.guidInfoMap.insert x.playerGuid key }

theorem loadPlayer_eq (codec : Codec E) (list : Listing) (tree : Disk Bytes)
    (platform lineId linePath : Text) (m : ManageCrossPlayerData E) :
    loadPlayer codec list tree platform lineId linePath m
      = (readPlayer codec list tree platform lineId linePath).map (put m) := rfl

/-- Behind a line there is nothing to read. -/
theorem loadLines_deep (h : Layout codec tree saved) (platform : Text) (lines : List Name)
    (hlines : ∀ n ∈ lines, IsName n) {linePath : Text} (hpath : IsDirText linePath)
    (hdeep : 3 ≤ (resolve linePath).length) (m : ManageCrossPlayerData E) :
    loadLines codec list tree platform lines linePath m = some m := by
  induction lines generalizing linePath with
  | nil => rfl
  | cons line lines ih =>
      have hresolve : resolve (linePath ++ line ++ ['/']) = resolve linePath ++ [line] :=
        FileTree.resolve_append_dir hpath (hlines line List.mem_cons_self)
      have hlen : 4 ≤ (resolve (linePath ++ line ++ ['/'])).length := by
        rw [hresolve, List.length_append]
        exact Nat.succ_le_succ hdeep
      unfold loadLines
      simp only [h.searchDir_deep hlen, List.foldlM_nil]
      exact ih (fun n hn => hlines n (List.mem_cons_of_mem line hn)) (FileTree.isDirText_append _)
        (Nat.le_of_succ_le hlen)

/-- The line that is listed first is the one that is read. -/
theorem loadLines_eq (h : Layout codec tree saved) (hs : Stored codec saved) {platform : Name}
    (hplatform : IsName platform) (m : ManageCrossPlayerData E) :
    loadLines codec list tree platform (searchDir list tree (crossPlayerPath ++ platform))
        (crossPlayerPath ++ platform ++ ['/']) m
      = (match searchDir list tree (crossPlayerPath ++ platform) with
          | [] => []
          | lineId :: _ => (searchDir list tree (lineDirText platform lineId)).map fun player =>
              (platform, lineId, player)).foldlM
            (fun m v => (readVisit codec list tree v).map (put m)) m := by
  have hnames : ∀ n ∈ searchDir list tree (crossPlayerPath ++ platform), IsName n := by
    intro n hn
    obtain ⟨k, info, hk, -, rfl⟩ := (h.mem_lines hplatform).mp hn
    exact (hs.names k info hk).2
  cases hlines : searchDir list tree (crossPlayerPath ++ platform) with
  | nil => rfl
  | cons line lines =>
      rw [hlines] at hnames
      have hline : IsName line := hnames line List.mem_cons_self
      have hdeep : 3 ≤ (resolve (lineDirText platform line)).length := by
        rw [resolve_lineDirText hplatform hline]
        exact Nat.le_refl 3
      have hrest : ∀ m, loadLines codec list tree platform lines (lineDirText platform line) m
          = some m := loadLines_deep h platform lines
            (fun n hn => hnames n (List.mem_cons_of_mem line hn)) (isDirText_lineDirText _ _) hdeep
      show Option.bind (List.foldlM (m := Option) _ m
          (searchDir list tree (lineDirText platform line)))
        (fun m => loadLines codec list tree platform lines (lineDirText platform line) m) = _
      rw [funext hrest, Option.bind_fun_some, List.foldlM_map]
      rfl

/-- The three loops are one. -/
theorem load_eq (h : Layout codec tree saved) (hs : Stored codec saved) (list : Listing) :
    loadCrossPlayerData codec list tree
      = (visits list tree).foldlM (fun m v => (readVisit codec list tree v).map (put m)) {} := by
  have hnames : ∀ n ∈ searchDir list tree crossPlayerPath, IsName n := by
    intro n hn
    obtain ⟨k, info, hk, rfl⟩ := h.mem_platforms.mp hn
    exact (hs.names k info hk).1
  unfold loadCrossPlayerData visits
  generalize ({} : ManageCrossPlayerData E) = m
  generalize searchDir list tree crossPlayerPath = platforms at hnames ⊢
  induction platforms generalizing m with
  | nil => rfl
  | cons platform platforms ih =>
      rw [List.foldlM_cons, List.flatMap_cons, List.foldlM_append,
        ← loadLines_eq h hs (hnames platform List.mem_cons_self)]
      refine congrArg _ (funext fun m' => ?_)
      exact ih m' fun n hn => hnames n (List.mem_cons_of_mem platform hn)

/-- A visit is to the directory of a saved info. -/
theorem Layout.mem_visits (h : Layout codec tree saved) (hs : Stored codec saved)
    {v : Name × Name × Name} :
    v ∈ visits list tree ↔ ∃ k i, saved k = some i ∧
      v = (i.platform, i.lineId, lexicalCast i.playerGuid) ∧
      (searchDir list tree (crossPlayerPath ++ i.platform)).head? = some i.lineId := by
  unfold visits
  rw [List.mem_flatMap]
  constructor
  · intro hv
    obtain ⟨platform, hplatform, hv⟩ := hv
    obtain ⟨k₀, i₀, hk₀, rfl⟩ := h.mem_platforms.mp hplatform
    have hname := (hs.names k₀ i₀ hk₀).1
    -- of the lines of a platform only the first is visited
    cases hlines : searchDir list tree (crossPlayerPath ++ i₀.platform) with
    | nil =>
        rw [hlines] at hv
        exact absurd hv List.not_mem_nil
    | cons line lines =>
        rw [hlines] at hv
        obtain ⟨player, hplayer, rfl⟩ := List.mem_map.mp hv
        have hline : line ∈ searchDir list tree (crossPlayerPath ++ i₀.platform) := by
          rw [hlines]
          exact List.mem_cons_self
        obtain ⟨k₁, i₁, hk₁, -, rfl⟩ := (h.mem_lines hname).mp hline
        obtain ⟨k, i, hk, hip, hil, rfl⟩ :=
          (h.mem_players hname (hs.names k₁ i₁ hk₁).2).mp hplayer
        refine ⟨k, i, hk, by rw [hip, hil], ?_⟩
        rw [hip, hlines, hil]
        rfl
  · intro hv
    obtain ⟨k, i, hk, rfl, hhead⟩ := hv
    obtain ⟨hplatform, hline⟩ := hs.names k i hk
    refine ⟨i.platform, h.mem_platforms.mpr ⟨k, i, hk, rfl⟩, ?_⟩
    cases hlines : searchDir list tree (crossPlayerPath ++ i.platform) with
    | nil =>
        rw [hlines] at hhead
        cases hhead
    | cons line lines =>
        rw [hlines] at hhead
        obtain rfl := Option.some.inj hhead
        exact List.mem_map.mpr ⟨_, (h.mem_players hplatform hline).mpr ⟨k, i, hk, rfl, rfl, rfl⟩, rfl⟩

/-- Infos that are put one after the other: each is under its key, unless a later one took it. -/
theorem foldlM_put {V : Type} {read : V → Option (CrossPlayerDataInfo E)} {vs : List V}
    (hread : ∀ v ∈ vs, ∃ x, read v = some x) (m : ManageCrossPlayerData E) :
    ∃ m', vs.foldlM (fun m v => (read v).map (put m)) m = some m' ∧
      (∀ k x, m'.infoMap[k]? = some x → m.infoMap[k]? = some x ∨
        (k = getKey x.platform x.lineId x.playerGuid ∧ ∃ v ∈ vs, read v = some x)) ∧
      (∀ k : Text, (m.infoMap[k]?).isSome = true → (m'.infoMap[k]?).isSome = true) ∧
      ∀ v ∈ vs, ∀ x, read v = some x →
        (m'.infoMap[getKey x.platform x.lineId x.playerGuid]?).isSome = true := by
  -- a later player may take the place of an earlier one under the same key
  induction vs generalizing m with
  | nil =>
      exact ⟨m, rfl, fun _ _ hk => Or.inl hk, fun _ hk => hk, fun _ hv => absurd hv List.not_mem_nil⟩
  | cons v vs ih =>
      obtain ⟨x, hx⟩ := hread v List.mem_cons_self
      obtain ⟨m', hm', hfrom, hkeep, hthere⟩ :=
        ih (fun w hw => hread w (List.mem_cons_of_mem v hw)) (put m x)
      have hput : ∀ k : Text, (put m x).infoMap[k]?
          = if k = getKey x.platform x.lineId x.playerGuid then some x else m.infoMap[k]? :=
        fun k => Lookup.getElem?_insert _ _ _ _
      refine ⟨m', ?_, ?_, ?_, ?_⟩
      · rw [List.foldlM_cons, hx]
        exact hm'
      · intro k y hy
        obtain hy | ⟨hk, w, hw, hwy⟩ := hfrom k y hy
        · rw [hput] at hy
          split at hy
          next hk =>
              obtain rfl := Option.some.inj hy
              exact Or.inr ⟨hk, v, List.mem_cons_self, hx⟩
          next => exact Or.inl hy
        · exact Or.inr ⟨hk, w, List.mem_cons_of_mem v hw, hwy⟩
      · intro k hk
        apply hkeep
        rw [hput]
        split
        next => rfl
        next => exact hk
      · intro w hw y hy
        obtain rfl | hw := List.mem_cons.mp hw
        · obtain rfl : x = y := Option.some.inj (hx.symm.trans hy)
          apply hkeep
          rw [hput, if_pos rfl]
          rfl
        · exact hthere w hw y hy

/-- The line of the info is the one that is listed first on its platform. -/
def FirstLine (list : Listing) (tree : Disk Bytes) (i : CrossPlayerDataInfo E) : Prop :=
  (searchDir list tree (crossPlayerPath ++ i.platform)).head? = some i.lineId

/-- **What is read of the saved infos.** -/
theorem load_spec (h : Layout codec tree saved) (hs : Stored codec saved) (list : Listing) :
    ∃ m, loadCrossPlayerData codec list tree = some m ∧
      (∀ k x, m.infoMap[k]? = some x → k = getKey x.platform x.lineId x.playerGuid ∧
        ∃ k' i, saved k' = some i ∧ Reads list tree i x ∧ FirstLine list tree i) ∧
      ∀ k i, saved k = some i → FirstLine list tree i → ∃ x, Reads list tree i x ∧
        (m.infoMap[getKey x.platform x.lineId x.playerGuid]?).isSome = true := by
  have hread : ∀ v ∈ visits list tree, ∃ x, readVisit codec list tree v = some x := by
    intro v hv
    obtain ⟨k, i, hk, rfl, -⟩ := (h.mem_visits hs).mp hv
    obtain ⟨x, hx, -⟩ := h.readPlayer_eq hs hk list
    exact ⟨x, hx⟩
  obtain ⟨m, hm, hfrom, -, hthere⟩ := foldlM_put hread {}
  refine ⟨m, (load_eq h hs list).trans hm, ?_, ?_⟩
  · intro k x hx
    obtain hx | ⟨hk, v, hv, hvx⟩ := hfrom k x hx
    · cases hx
    · obtain ⟨k', i, hk', rfl, hfirst⟩ := (h.mem_visits hs).mp hv
      obtain ⟨y, hy, hreads⟩ := h.readPlayer_eq hs hk' list
      obtain rfl : x = y := Option.some.inj (hvx.symm.trans hy)
      exact ⟨hk, k', i, hk', hreads, hfirst⟩
  · intro k i hk hfirst
    obtain ⟨x, hx, hreads⟩ := h.readPlayer_eq hs hk list
    have hv : (i.platform, i.lineId, lexicalCast i.playerGuid) ∈ visits list tree :=
      (h.mem_visits hs).mpr ⟨k, i, hk, rfl, hfirst⟩
    exact ⟨x, hreads, hthere _ hv x hx⟩

end Steppingstone.Cross
