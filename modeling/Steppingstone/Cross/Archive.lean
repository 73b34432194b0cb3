/-
  Steppingstone.Cross.Archive — what is on the disk of a cross server.

  `Layout` says of a tree that it holds the directories and files of the saved infos and nothing
  else; the infos in memory are ahead of the saved ones until the next finish.
-/
import Mathlib.Data.List.Induction
import Steppingstone.Cross.Model
import Steppingstone.Lib.Lookup

namespace Steppingstone.Cross

open Std (TreeMap)
open FileTree (Disk Listing Name Path resolve IsName IsDirText)
open ManageCrossPlayerData

variable {E : Type} {codec : Codec E}

/-! ## §1. Names and numbers. -/

/-- `cross_player_data`. -/
def crossDir : Name :=
  ['c', 'r', 'o', 's', 's', '_', 'p', 'l', 'a', 'y', 'e', 'r', '_', 'd', 'a', 't', 'a']

theorem resolve_crossPlayerPath : resolve crossPlayerPath = [crossDir] := by decide

theorem isDirText_crossPlayerPath : IsDirText crossPlayerPath :=
  ⟨crossPlayerPath.dropLast, by decide⟩

theorem isDigit_of_mem_lexicalCast {g : UInt64} {c : Char} (hc : c ∈ lexicalCast g) :
    c.isDigit = true :=
  Nat.isDigit_of_mem_toDigits (by decide) (by decide) hc

theorem lexicalCast_ne_nil (g : UInt64) : lexicalCast g ≠ [] := Nat.toDigits_ne_nil

theorem not_mem_lexicalCast {g : UInt64} {c : Char} (hc : c.isDigit = false) :
    c ∉ lexicalCast g := by
  intro hm
  rw [isDigit_of_mem_lexicalCast hm] at hc
  cases hc

/-- A number is known by its digits. -/
theorem lexicalCast_injective : Function.Injective lexicalCast := by
  intro g g' h
  apply UInt64.toNat_inj.mp
  calc
    g.toNat = Nat.ofDigitChars 10 (lexicalCast g) 0 := Nat.ofDigitChars_ten_toDigits.symm
    _ = Nat.ofDigitChars 10 (lexicalCast g') 0 := by rw [h]
    _ = g'.toNat := Nat.ofDigitChars_ten_toDigits

/-- A number is read back. -/
theorem lexicalCastUInt64_lexicalCast (g : UInt64) : lexicalCastUInt64 (lexicalCast g) = some g := by
  have hcast : castDigits (lexicalCast g) = some g := by
    have hvalue : Nat.ofDigitChars 10 (lexicalCast g) 0 = g.toNat := Nat.ofDigitChars_ten_toDigits
    have hall : (lexicalCast g).all Char.isDigit = true :=
      List.all_eq_true.mpr fun _ => isDigit_of_mem_lexicalCast
    rw [castDigits, if_pos ⟨lexicalCast_ne_nil g, hall⟩, hvalue, if_pos g.toNat_lt_size]
    exact congrArg some UInt64.ofNat_toNat
  cases hs : lexicalCast g with
  | nil => exact absurd hs (lexicalCast_ne_nil g)
  | cons c cs =>
      have hdigit : c.isDigit = true := isDigit_of_mem_lexicalCast (hs ▸ List.mem_cons_self)
      rw [hs] at hcast
      unfold lexicalCastUInt64
      split
      next heq => cases heq; cases hdigit
      next heq => cases heq; cases hdigit
      next => exact hcast

/-- A name made of digits and letters, with at least one digit in front. -/
theorem isName_lexicalCast (g : UInt64) : IsName (lexicalCast g) := by
  refine ⟨lexicalCast_ne_nil g, not_mem_lexicalCast (by decide), ?_, ?_⟩
  · intro he
    exact not_mem_lexicalCast (g := g) (c := '.') (by decide) (he ▸ List.mem_cons_self)
  · intro he
    exact not_mem_lexicalCast (g := g) (c := '.') (by decide) (he ▸ List.mem_cons_self)

/-- The file of an entity. -/
def entityFile (g : UInt64) : Name := lexicalCast g ++ dataExt

/-- An entity is known by its file. -/
theorem entityFile_injective : Function.Injective entityFile := by
  intro g g' h
  exact lexicalCast_injective (List.append_cancel_right h)

theorem isName_entityFile (g : UInt64) : IsName (entityFile g) := by
  have hlen : 5 ≤ (entityFile g).length := by
    show 5 ≤ (lexicalCast g ++ dataExt).length
    rw [List.length_append]
    exact Nat.le_add_left 5 _
  refine ⟨?_, ?_, ?_, ?_⟩
  · intro he
    rw [he] at hlen
    cases hlen
  · intro hm
    obtain hm | hm := List.mem_append.mp hm
    · exact not_mem_lexicalCast (by decide) hm
    · revert hm
      decide
  · intro he
    rw [he] at hlen
    exact absurd hlen (by decide)
  · intro he
    rw [he] at hlen
    exact absurd hlen (by decide)

theorem extension_entityFile (g : UInt64) : extension (entityFile g) = dataExt := by
  have hdot : '.' ∈ entityFile g := List.mem_append_right _ (by decide)
  rw [extension, if_pos hdot]
  have hrev : (entityFile g).reverse = ['a', 't', 'a', 'd', '.'] ++ (lexicalCast g).reverse :=
    List.reverse_append
  rw [hrev]
  rfl

/-- The guid in the name of a file. -/
theorem extractGuid_entityFile (g : UInt64) : extractGuid (entityFile g) = some g := by
  have hsplit : (entityFile g).splitOn '.' = [lexicalCast g, ['d', 'a', 't', 'a']] := by
    show (lexicalCast g ++ '.' :: ['d', 'a', 't', 'a']).splitOn '.' = _
    rw [List.splitOn_append_cons_self,
      List.splitOn_eq_singleton (not_mem_lexicalCast (by decide))]
    rfl
  rw [extractGuid, hsplit]
  exact lexicalCastUInt64_lexicalCast g

/-- The last component of a path text. -/
theorem filename_append {d : Text} (hd : IsDirText d) {n : Name} (hn : '/' ∉ n) :
    filename (d ++ n) = n := by
  obtain ⟨b, rfl⟩ := hd
  have hrev : (b ++ ['/'] ++ n).reverse = n.reverse ++ '/' :: b.reverse := by simp
  have hall : ∀ c ∈ n.reverse, decide (c ≠ '/') = true := by
    intro c hc
    apply decide_eq_true
    intro he
    exact hn (he ▸ List.mem_reverse.mp hc)
  rw [filename, hrev, List.takeWhile_append_of_pos hall]
  simp

/-! ## §2. The places of an info. -/

/-- The platform, the line and the player of an info. -/
def CrossPlayerDataInfo.triple (info : CrossPlayerDataInfo E) : Triple :=
  ⟨info.platform, info.lineId, info.playerGuid⟩

/-- The directory of a triple. -/
def playerPath (t : Triple) : Path := [crossDir, t.platform, t.lineId, lexicalCast t.playerGuid]

/-- A player is known by his path. -/
theorem playerPath_injective : Function.Injective playerPath := by
  intro t t' h
  obtain ⟨platform, lineId, playerGuid⟩ := t
  obtain ⟨platform', lineId', playerGuid'⟩ := t'
  simp only [playerPath, List.cons.injEq, and_true, true_and] at h
  obtain ⟨rfl, rfl, hguid⟩ := h
  rw [lexicalCast_injective hguid]

/-- The info has `v` at the path: a directory on the way to its files, or a file. -/
def CrossPlayerDataInfo.Has (codec : Codec E) (info : CrossPlayerDataInfo E) (p : Path)
    (v : Option Bytes) : Prop :=
  (v = none ∧ ∃ n, p = (playerPath info.triple).take (n + 1)) ∨
    ∃ g entity, info.msgMap[g]? = some entity ∧ p = playerPath info.triple ++ [entityFile g] ∧
      v = some (codec.serializeAsString entity)

/-- The tree holds the saved infos and nothing else. -/
def Layout (codec : Codec E) (tree : Disk Bytes) (saved : Text → Option (CrossPlayerDataInfo E)) :
    Prop :=
  ∀ p v, tree.find p = some v ↔
    (p = [] ∧ v = none) ∨ ∃ k info, saved k = some info ∧ info.Has codec p v

/-! ## §3. Saving. -/

/-- A directory that is there already, or for which there is room. -/
theorem find_createDir (tree : Disk Bytes) (p : Path) (hparent : tree.find p.dropLast = some none)
    (hroom : ∀ v, tree.find p = some v → v = none) :
    ∃ tree', tree.createDirectory p = some tree' ∧
      ∀ q, tree'.find q = if q = p then some none else tree.find q := by
  obtain ⟨tree', hmake, hfind⟩ := FileTree.Disk.find_createDirectory hparent
  refine ⟨tree', hmake, ?_⟩
  intro q
  rw [hfind]
  by_cases hq : q = p
  · rw [if_pos hq, hq]
    cases hp : tree.find p with
    | none => rw [if_pos ⟨rfl, rfl⟩]
    | some v => rw [if_neg (fun h => nomatch h.2), hroom v hp]
  · rw [if_neg hq, if_neg (fun h => hq h.1)]

/-- The files of the entities `es` in a directory. -/
theorem find_writeFiles {tree : Disk Bytes} {base : Path} {es : List (UInt64 × E)}
    (hbase : tree.find base = some none)
    (hroom : ∀ g, tree.find (base ++ [entityFile g]) ≠ some none)
    (hnodup : (es.map Prod.fst).Nodup) (q : Path) (v : Option Bytes) :
    (es.foldl (fun tree e => tree.writeFile (base ++ [entityFile e.1])
        (codec.serializeAsString e.2)) tree).find q = some v ↔
      (∃ e ∈ es, q = base ++ [entityFile e.1] ∧ v = some (codec.serializeAsString e.2)) ∨
        (tree.find q = some v ∧ ∀ e ∈ es, q ≠ base ++ [entityFile e.1]) := by
  induction es generalizing tree with
  | nil => simp
  | cons e es ih =>
      rw [List.map_cons, List.nodup_cons] at hnodup
      have hfind : ∀ q, (tree.writeFile (base ++ [entityFile e.1])
          (codec.serializeAsString e.2)).find q =
            if q = base ++ [entityFile e.1] then some (some (codec.serializeAsString e.2))
            else tree.find q := by
        intro q
        apply FileTree.Disk.find_writeFile
        · rw [List.dropLast_concat]
          exact hbase
        · exact hroom e.1
      have hbase' : base ≠ base ++ [entityFile e.1] := by
        intro he
        have := congrArg List.length he
        rw [List.length_append] at this
        exact absurd this (Nat.ne_of_lt (Nat.lt_succ_self _))
      rw [List.foldl_cons, ih (by rw [hfind, if_neg hbase', hbase]) ?_ hnodup.2, hfind]
      · constructor
        · intro h
          obtain ⟨x, hx, hq, hv⟩ | ⟨hq, hne⟩ := h
          · exact Or.inl ⟨x, List.mem_cons_of_mem e hx, hq, hv⟩
          · by_cases hqe : q = base ++ [entityFile e.1]
            · rw [if_pos hqe] at hq
              exact Or.inl ⟨e, List.mem_cons_self, hqe, (Option.some.inj hq).symm⟩
            · rw [if_neg hqe] at hq
              refine Or.inr ⟨hq, ?_⟩
              intro x hx
              obtain rfl | hx := List.mem_cons.mp hx
              · exact hqe
              · exact hne x hx
        · intro h
          obtain ⟨x, hx, hq, hv⟩ | ⟨hq, hne⟩ := h
          · obtain rfl | hx := List.mem_cons.mp hx
            · refine Or.inr ⟨by rw [if_pos hq, hv], ?_⟩
              -- a later entity has another guid, and so another file
              intro y hy he
              have hfile := List.append_cancel_left (hq.symm.trans he)
              have hguid := entityFile_injective (List.cons.inj hfile).1
              exact hnodup.1 (hguid ▸ List.mem_map_of_mem hy)
            · exact Or.inl ⟨x, hx, hq, hv⟩
          · refine Or.inr ⟨?_, fun x hx => hne x (List.mem_cons_of_mem e hx)⟩
            rw [if_neg (hne e List.mem_cons_self), hq]
      · intro g
        rw [hfind]
        split
        next => exact fun h => nomatch h
        next => exact hroom g

theorem nodup_keys (msgMap : TreeMap UInt64 E) : (msgMap.toList.map Prod.fst).Nodup := by
  rw [TreeMap.map_fst_toList_eq_keys]
  apply TreeMap.distinct_keys.imp
  intro a b hab he
  rw [he] at hab
  exact hab Std.ReflCmp.compare_self

/-- Room for the directories and files of a triple. -/
def Room (tree : Disk Bytes) (t : Triple) : Prop :=
  (∀ n v, tree.find ((playerPath t).take (n + 1)) = some v → v = none) ∧
    ∀ g, tree.find (playerPath t ++ [entityFile g]) ≠ some none

/-- The directory texts in `saveData`. -/
def lineDirText (platform lineId : Text) : Text :=
  crossPlayerPath ++ platform ++ ['/'] ++ lineId ++ ['/']

/-- The text of a player's directory, as `saveData` puts it together. -/
def playerDirText (t : Triple) : Text :=
  lineDirText t.platform t.lineId ++ lexicalCast t.playerGuid ++ ['/']

theorem isDirText_lineDirText (platform lineId : Text) : IsDirText (lineDirText platform lineId) :=
  FileTree.isDirText_append _

theorem isDirText_playerDirText (t : Triple) : IsDirText (playerDirText t) :=
  FileTree.isDirText_append _

theorem resolve_platform {platform : Text} (h : IsName platform) :
    resolve (crossPlayerPath ++ platform) = [crossDir, platform] := by
  rw [FileTree.resolve_append isDirText_crossPlayerPath h, resolve_crossPlayerPath]
  rfl

theorem resolve_lineDirText {platform lineId : Text} (h : IsName platform) (h' : IsName lineId) :
    resolve (lineDirText platform lineId) = [crossDir, platform, lineId] := by
  rw [lineDirText, FileTree.resolve_append_dir (FileTree.isDirText_append _) h',
    FileTree.resolve_append_slash, resolve_platform h]
  rfl

/-- The path of a player's directory. -/
theorem resolve_playerDirText {t : Triple} (h : IsName t.platform) (h' : IsName t.lineId) :
    resolve (playerDirText t) = playerPath t := by
  rw [playerDirText, FileTree.resolve_append_dir (isDirText_lineDirText _ _)
    (isName_lexicalCast _), resolve_lineDirText h h']
  rfl

/-- The four directories. -/
theorem find_createDirs {tree : Disk Bytes} {t : Triple} (h : IsName t.platform)
    (h' : IsName t.lineId) (hdirs : ∀ n v, tree.find ((playerPath t).take (n + 1)) = some v → v = none) :
    ∃ tree', ((createDir tree crossPlayerPath).bind fun tree =>
        (createDir tree (crossPlayerPath ++ t.platform)).bind fun tree =>
          (createDir tree (lineDirText t.platform t.lineId)).bind fun tree =>
            createDir tree (playerDirText t)) = some tree' ∧
      (∀ n, tree'.find ((playerPath t).take (n + 1)) = some none) ∧
      ∀ q, (∀ n, q ≠ (playerPath t).take (n + 1)) → tree'.find q = tree.find q := by
  simp only [createDir, resolve_crossPlayerPath, resolve_platform h, resolve_lineDirText h h',
    resolve_playerDirText h h']
  -- one level after the other; below a new directory nothing was in the way
  obtain ⟨tree1, hmake1, hfind1⟩ := find_createDir tree [crossDir] rfl (hdirs 0)
  obtain ⟨tree2, hmake2, hfind2⟩ := find_createDir tree1 [crossDir, t.platform]
    ((hfind1 _).trans (if_pos rfl)) (by
      intro v hv
      rw [hfind1, if_neg (by simp)] at hv
      exact hdirs 1 v hv)
  obtain ⟨tree3, hmake3, hfind3⟩ :=
    find_createDir tree2 [crossDir, t.platform, t.lineId]
      ((hfind2 _).trans (if_pos rfl)) (by
        intro v hv
        rw [hfind2, if_neg (by simp), hfind1, if_neg (by simp)] at hv
        exact hdirs 2 v hv)
  obtain ⟨tree4, hmake4, hfind4⟩ := find_createDir tree3 (playerPath t)
    ((hfind3 _).trans (if_pos rfl)) (by
      intro v hv
      rw [hfind3, if_neg (by simp [playerPath]), hfind2, if_neg (by simp [playerPath]), hfind1,
        if_neg (by simp [playerPath])] at hv
      exact hdirs 3 v hv)
  refine ⟨tree4, ?_, ?_, ?_⟩
  · rw [hmake1]
    show (tree1.createDirectory _).bind _ = _
    rw [hmake2]
    show (tree2.createDirectory _).bind _ = _
    rw [hmake3]
    exact hmake4
  · intro n
    rw [hfind4, hfind3, hfind2, hfind1]
    match n with
    | 0 | 1 | 2 => simp [playerPath]
    | n + 3 => simp [playerPath]
  · intro q hne
    have h4 : q ≠ playerPath t := hne 3
    have h3 : q ≠ [crossDir, t.platform, t.lineId] := hne 2
    have h2 : q ≠ [crossDir, t.platform] := hne 1
    have h1 : q ≠ [crossDir] := hne 0
    rw [hfind4, if_neg h4, hfind3, if_neg h3, hfind2, if_neg h2, hfind1, if_neg h1]

/-- A file is none of the directories. -/
theorem file_ne_dir (t : Triple) (g : UInt64) (n : Nat) :
    playerPath t ++ [entityFile g] ≠ (playerPath t).take (n + 1) := by
  intro he
  have hlen := congrArg List.length he
  rw [List.length_append, List.length_take] at hlen
  have hmin : min (n + 1) (playerPath t).length ≤ (playerPath t).length := Nat.min_le_right ..
  have hone : [entityFile g].length = 1 := rfl
  omega

/-- **Saving an info** adds its directories and files. -/
theorem find_saveData (codec : Codec E) {tree : Disk Bytes} {info : CrossPlayerDataInfo E}
    (hplatform : IsName info.platform) (hline : IsName info.lineId)
    (hroom : Room tree info.triple) :
    ∃ tree', saveData codec tree info = some tree' ∧ ∀ q v, tree'.find q = some v ↔
      info.Has codec q v ∨ (tree.find q = some v ∧ ∀ v', ¬ info.Has codec q v') := by
  obtain ⟨hdirs, hfiles⟩ := hroom
  obtain ⟨tree4, hmake, hdir, hother⟩ :=
    find_createDirs (t := info.triple) hplatform hline hdirs
  have hsave : saveData codec tree info
      = some (info.msgMap.toList.foldl (fun tree e =>
          tree.writeFile (playerPath info.triple ++ [entityFile e.1])
            (codec.serializeAsString e.2)) tree4) := by
    -- the path that a file name of the source resolves to
    have hfile : ∀ g, resolve (playerDirText info.triple ++ lexicalCast g ++ dataExt)
        = playerPath info.triple ++ [entityFile g] := by
      intro g
      have hassoc : playerDirText info.triple ++ lexicalCast g ++ dataExt
          = playerDirText info.triple ++ entityFile g := List.append_assoc ..
      rw [hassoc, FileTree.resolve_append (isDirText_playerDirText _) (isName_entityFile g),
        resolve_playerDirText hplatform hline]
    have hstep : (fun (tree : Disk Bytes) (e : UInt64 × E) =>
          saveFile tree (playerDirText info.triple ++ lexicalCast e.1) (codec.serializeAsString e.2))
        = fun tree e => tree.writeFile (playerPath info.triple ++ [entityFile e.1])
            (codec.serializeAsString e.2) := by
      funext tree e
      rw [saveFile, hfile]
    -- the directories come first, then the files
    have hbind : saveData codec tree info = ((createDir tree crossPlayerPath).bind fun tree =>
        (createDir tree (crossPlayerPath ++ info.triple.platform)).bind fun tree =>
          (createDir tree (lineDirText info.triple.platform info.triple.lineId)).bind fun tree =>
            createDir tree (playerDirText info.triple)).bind fun tree =>
              some (info.msgMap.toList.foldl (fun tree e => saveFile tree
                (playerDirText info.triple ++ lexicalCast e.1) (codec.serializeAsString e.2))
                tree) := by
      simp only [Option.bind_assoc]
      rfl
    rw [hbind, hmake, hstep]
    rfl
  refine ⟨_, hsave, ?_⟩
  have hbase : tree4.find (playerPath info.triple) = some none := hdir 3
  have hroom4 : ∀ g, tree4.find (playerPath info.triple ++ [entityFile g]) ≠ some none := by
    intro g
    rw [hother _ (file_ne_dir _ g)]
    exact hfiles g
  intro q v
  rw [find_writeFiles hbase hroom4 (nodup_keys info.msgMap)]
  unfold CrossPlayerDataInfo.Has
  by_cases hd : ∃ n, q = (playerPath info.triple).take (n + 1)
  · -- a directory
    obtain ⟨n, rfl⟩ := hd
    rw [hdir n]
    constructor
    · intro h
      obtain ⟨e, he, hq, hv⟩ | ⟨hq, -⟩ := h
      · exact absurd hq.symm (file_ne_dir _ e.1 n)
      · exact Or.inl (Or.inl ⟨(Option.some.inj hq).symm, n, rfl⟩)
    · intro h
      obtain (⟨rfl, -⟩ | ⟨g, entity, -, hq, -⟩) | ⟨-, hne⟩ := h
      · exact Or.inr ⟨rfl, fun e _ he => file_ne_dir _ e.1 n he.symm⟩
      · exact absurd hq.symm (file_ne_dir _ g n)
      · exact absurd (Or.inl ⟨rfl, n, rfl⟩) (hne none)
  · rw [hother q (fun n he => hd ⟨n, he⟩)]
    constructor
    · intro h
      obtain ⟨e, he, hq, hv⟩ | ⟨hq, hne⟩ := h
      · exact Or.inl (Or.inr ⟨e.1, e.2, TreeMap.mem_toList_iff_getElem?_eq_some.mp he, hq, hv⟩)
      · refine Or.inr ⟨hq, ?_⟩
        intro v' hv'
        obtain ⟨-, hd'⟩ | ⟨g, entity, hg, hq', -⟩ := hv'
        · exact hd hd'
        · exact hne (g, entity) (TreeMap.mem_toList_iff_getElem?_eq_some.mpr hg) hq'
    · intro h
      obtain (⟨-, hd'⟩ | ⟨g, entity, hg, hq, hv⟩) | ⟨hq, hne⟩ := h
      · exact absurd hd' hd
      · exact Or.inl ⟨(g, entity), TreeMap.mem_toList_iff_getElem?_eq_some.mpr hg, hq, hv⟩
      · refine Or.inr ⟨hq, ?_⟩
        intro e he hqe
        exact hne _ (Or.inr ⟨e.1, e.2, TreeMap.mem_toList_iff_getElem?_eq_some.mp he, hqe, rfl⟩)

/-! ## §4. What was collected. -/

theorem outstanding_snoc (p : CrossCall → Bool) (calls : List CrossCall) (c : CrossCall) :
    outstanding p (calls ++ [c]) = if p c then c.isCollect else outstanding p calls := by
  unfold outstanding
  rw [List.foldl_append]
  rfl

theorem entitiesOf_snoc_finish (p : CrossCall → Bool) (calls : List CrossCall) (t : Triple) :
    entitiesOf codec p (calls ++ [.finish t]) = entitiesOf codec p calls := by
  unfold entitiesOf
  rw [List.foldl_append]
  rfl

theorem entitiesOf_snoc_collect (p : CrossCall → Bool) (calls : List CrossCall) (t : Triple)
    (g : UInt64) (stream : Bytes) :
    entitiesOf codec p (calls ++ [.collect t g stream]) =
      if p (.collect t g stream) then
        match codec.extractEntity g stream with
        | some entity => Function.update (entitiesOf codec p calls) g (some entity)
        | none => entitiesOf codec p calls
      else entitiesOf codec p calls := by
  unfold entitiesOf
  rw [List.foldl_append]
  rfl

theorem delivered_snoc {calls : List CrossCall} {c : CrossCall} {t : Triple} :
    Delivered (calls ++ [c]) t ↔ Delivered calls t ∨ (c.isCollect = true ∧ c.triple = t) := by
  constructor
  · intro h
    obtain ⟨x, hx, hcollect, ht⟩ := h
    obtain hx | hx := List.mem_append.mp hx
    · exact Or.inl ⟨x, hx, hcollect, ht⟩
    · obtain rfl := List.mem_singleton.mp hx
      exact Or.inr ⟨hcollect, ht⟩
  · intro h
    obtain ⟨x, hx, hcollect, ht⟩ | ⟨hcollect, ht⟩ := h
    · exact ⟨x, List.mem_append_left _ hx, hcollect, ht⟩
    · exact ⟨c, List.mem_append_right _ List.mem_cons_self, hcollect, ht⟩

/-- A key that is outstanding is so for one of its triples. -/
theorem exists_outstanding {calls : List CrossCall} {k : Text}
    (h : outstanding (fun c => c.triple.key = k) calls = true) :
    ∃ t : Triple, t.key = k ∧ outstanding (fun c => c.triple = t) calls = true := by
  induction calls using List.reverseRecOn with
  | nil => cases h
  | append_singleton calls c ih =>
      rw [outstanding_snoc] at h
      by_cases hk : c.triple.key = k
      · rw [if_pos (decide_eq_true hk)] at h
        refine ⟨c.triple, hk, ?_⟩
        rw [outstanding_snoc, if_pos (decide_eq_true rfl)]
        exact h
      · rw [if_neg (fun hd => hk (of_decide_eq_true hd))] at h
        obtain ⟨t, ht, hout⟩ := ih h
        refine ⟨t, ht, ?_⟩
        have hne : c.triple ≠ t := fun he => hk (he ▸ ht)
        rw [outstanding_snoc, if_neg (fun hd => hne (of_decide_eq_true hd))]
        exact hout

/-- What more calls deliver is there too. -/
theorem entitiesOf_mono {p q : CrossCall → Bool} {calls : List CrossCall}
    (hpq : ∀ c, p c = true → q c = true) {g : UInt64}
    (h : (entitiesOf codec p calls g).isSome = true) :
    (entitiesOf codec q calls g).isSome = true := by
  induction calls using List.reverseRecOn with
  | nil => cases h
  | append_singleton calls c ih =>
      cases c with
      | finish t =>
          rw [entitiesOf_snoc_finish] at h ⊢
          exact ih h
      | collect t x stream =>
          rw [entitiesOf_snoc_collect] at h ⊢
          cases hx : codec.extractEntity x stream with
          | none =>
              simp only [hx, ite_self] at h ⊢
              exact ih h
          | some entity =>
              simp only [hx] at h ⊢
              by_cases hp : p (.collect t x stream) = true
              · rw [if_pos (hpq _ hp)]
                rw [if_pos hp] at h
                by_cases hg : g = x
                · rw [hg, Function.update_self]
                  rfl
                · rw [Function.update_of_ne hg] at h ⊢
                  exact ih h
              · rw [if_neg hp] at h
                by_cases hq : q (.collect t x stream) = true
                · rw [if_pos hq]
                  by_cases hg : g = x
                  · rw [hg, Function.update_self]
                    rfl
                  · rw [Function.update_of_ne hg]
                    exact ih h
                · rw [if_neg hq]
                  exact ih h

/-- Calls that are picked alike deliver alike. -/
theorem entitiesOf_congr {p q : CrossCall → Bool} {calls : List CrossCall}
    (hpq : ∀ c ∈ calls, c.isCollect = true → p c = q c) :
    entitiesOf codec p calls = entitiesOf codec q calls := by
  induction calls using List.reverseRecOn with
  | nil => rfl
  | append_singleton calls c ih =>
      have hih := ih fun x hx => hpq x (List.mem_append_left _ hx)
      cases c with
      | finish t => rw [entitiesOf_snoc_finish, entitiesOf_snoc_finish, hih]
      | collect t x stream =>
          have hc : p (.collect t x stream) = q (.collect t x stream) :=
            hpq _ (List.mem_append_right _ List.mem_cons_self) rfl
          rw [entitiesOf_snoc_collect, entitiesOf_snoc_collect, hih, hc]

/-! ## §5. Every run. -/

/-- What the manager and the disk have after the calls; `saved` are the infos as they were at the
    last finish of their key. -/
structure Archived (codec : Codec E) (calls : List CrossCall) (m : ManageCrossPlayerData E)
    (tree : Disk Bytes) (saved : Text → Option (CrossPlayerDataInfo E)) : Prop where
  info : ∀ k info, m.infoMap[k]? = some info → info.triple.key = k ∧ Delivered calls info.triple ∧
    ∀ g : UInt64, info.msgMap[g]? = entitiesOf codec (fun c => c.triple.key = k) calls g
  present : ∀ t, Delivered calls t → (m.infoMap[t.key]?).isSome = true
  layout : Layout codec tree saved
  old : ∀ k info, saved k = some info → ∃ now, m.infoMap[k]? = some now ∧
    now.triple = info.triple ∧ ∀ g : UInt64, (info.msgMap[g]?).isSome = true → (now.msgMap[g]?).isSome = true
  clean : ∀ k, outstanding (fun c => c.triple.key = k) calls = false → saved k = m.infoMap[k]?

variable {calls : List CrossCall} {m : ManageCrossPlayerData E} {tree : Disk Bytes}
  {saved : Text → Option (CrossPlayerDataInfo E)}

/-- Nothing is there under a key without deliveries. -/
theorem entitiesOf_absent (h : Archived codec calls m tree saved) {k : Text}
    (hk : m.infoMap[k]? = none) (x : UInt64) :
    entitiesOf codec (fun c => c.triple.key = k) calls x = none := by
  have hnone : entitiesOf codec (fun c => c.triple.key = k) calls
      = entitiesOf codec (fun _ => false) calls := by
    apply entitiesOf_congr
    intro c hc hcollect
    apply decide_eq_false
    intro hck
    have hp := h.present c.triple ⟨c, hc, hcollect, rfl⟩
    rw [hck, hk] at hp
    cases hp
  have hempty : ∀ cs : List CrossCall, entitiesOf codec (fun _ => false) cs x = none := by
    intro cs
    induction cs using List.reverseRecOn with
    | nil => rfl
    | append_singleton cs c ih =>
        cases c with
        | finish t => rw [entitiesOf_snoc_finish, ih]
        | collect t g stream => rw [entitiesOf_snoc_collect, if_neg Bool.false_ne_true, ih]
  rw [hnone, hempty]

/-- The info that a collect for `t` finds or makes. -/
def infoBefore (m : ManageCrossPlayerData E) (t : Triple) : CrossPlayerDataInfo E :=
  (m.infoMap[t.key]?).getD
    { platform := t.platform, lineId := t.lineId, playerGuid := t.playerGuid, key := t.key }

theorem infoBefore_eq (h : Archived codec calls m tree saved) (t : Triple) :
    (infoBefore m t).triple.key = t.key ∧
      (Delivered calls (infoBefore m t).triple ∨ (infoBefore m t).triple = t) ∧
      (∀ x : UInt64, (infoBefore m t).msgMap[x]?
        = entitiesOf codec (fun c => c.triple.key = t.key) calls x) ∧
      ∀ info, m.infoMap[t.key]? = some info → info = infoBefore m t := by
  unfold infoBefore
  cases hm : m.infoMap[t.key]? with
  | some was =>
      obtain ⟨hkey, hdelivered, hentities⟩ := h.info t.key was hm
      exact ⟨hkey, Or.inl hdelivered, hentities, fun _ he => (Option.some.inj he).symm⟩
  | none =>
      refine ⟨rfl, Or.inr rfl, ?_, fun _ he => nomatch he⟩
      intro x
      rw [entitiesOf_absent h hm]
      rfl

/-- The info after a collect. -/
theorem collect_info (h : Archived codec calls m tree saved) (t : Triple) (g : UInt64)
    (stream : Bytes) :
    ∃ info, (m.collectCrossPlayerData codec t.lineId t.platform t.playerGuid g stream).infoMap
        = m.infoMap.insert t.key info ∧
      info.triple.key = t.key ∧ Delivered (calls ++ [.collect t g stream]) info.triple ∧
      (∀ x : UInt64, info.msgMap[x]? =
        entitiesOf codec (fun c => c.triple.key = t.key) (calls ++ [.collect t g stream]) x) ∧
      ∀ was, m.infoMap[t.key]? = some was → info.triple = was.triple ∧
        ∀ x : UInt64, (was.msgMap[x]?).isSome = true → (info.msgMap[x]?).isSome = true := by
  obtain ⟨hkey, hdelivered, hentities, hsame⟩ := infoBefore_eq h t
  have hdelivered' : Delivered (calls ++ [.collect t g stream]) (infoBefore m t).triple := by
    rw [delivered_snoc]
    exact hdelivered.imp_right fun he => ⟨rfl, he.symm⟩
  have hentities' : ∀ x, entitiesOf codec (fun c => c.triple.key = t.key)
      (calls ++ [.collect t g stream]) x =
        match codec.extractEntity g stream with
        | some entity => if x = g then some entity else (infoBefore m t).msgMap[x]?
        | none => (infoBefore m t).msgMap[x]? := by
    intro x
    have hpick : decide ((CrossCall.collect t g stream).triple.key = t.key) = true :=
      decide_eq_true rfl
    rw [entitiesOf_snoc_collect, if_pos hpick]
    cases codec.extractEntity g stream with
    | none => exact (hentities x).symm
    | some entity =>
        show Function.update (entitiesOf codec _ calls) g (some entity) x = _
        rw [Function.update_apply, hentities]
  cases hx : codec.extractEntity g stream with
  | none =>
      refine ⟨infoBefore m t, ?_, hkey, hdelivered', ?_, ?_⟩
      · simp only [collectCrossPlayerData, hx]
        rfl
      · intro x
        rw [hentities' x, hx]
      · intro info hinfo
        rw [hsame info hinfo]
        exact ⟨rfl, fun _ h => h⟩
  | some entity =>
      refine ⟨{ infoBefore m t with msgMap := (infoBefore m t).msgMap.insert g entity }, ?_, hkey,
        hdelivered', ?_, ?_⟩
      · simp only [collectCrossPlayerData, hx]
        rfl
      · intro x
        rw [hentities' x, hx]
        exact Lookup.getElem?_insert _ _ _ _
      · intro info hinfo
        rw [hsame info hinfo]
        refine ⟨rfl, ?_⟩
        intro x hsome
        show (((infoBefore m t).msgMap.insert g entity)[x]?).isSome = true
        rw [Lookup.getElem?_insert]
        split
        next => rfl
        next => exact hsome

/-- A collected entity is archived. -/
theorem archived_collect (h : Archived codec calls m tree saved) (t : Triple) (g : UInt64)
    (stream : Bytes) :
    Archived codec (calls ++ [.collect t g stream])
      (m.collectCrossPlayerData codec t.lineId t.platform t.playerGuid g stream) tree saved := by
  obtain ⟨info, hmap, hkey, hdelivered, hentities, hgrows⟩ := collect_info h t g stream
  refine ⟨?_, ?_, h.layout, ?_, ?_⟩
  · intro k i hi
    rw [hmap, Lookup.getElem?_insert] at hi
    by_cases hk : k = t.key
    · rw [if_pos hk] at hi
      obtain rfl := Option.some.inj hi
      rw [hk]
      exact ⟨hkey, hdelivered, hentities⟩
    · rw [if_neg hk] at hi
      obtain ⟨hkey', hdelivered', hentities'⟩ := h.info k i hi
      refine ⟨hkey', delivered_snoc.mpr (Or.inl hdelivered'), ?_⟩
      intro x
      rw [entitiesOf_snoc_collect, if_neg (fun hd => hk (of_decide_eq_true hd).symm)]
      exact hentities' x
  · intro t' ht'
    rw [hmap, Lookup.getElem?_insert]
    by_cases hk : t'.key = t.key
    · rw [if_pos hk]
      rfl
    · rw [if_neg hk]
      obtain ht' | ⟨-, ht'⟩ := delivered_snoc.mp ht'
      · exact h.present t' ht'
      · exact absurd (congrArg Triple.key ht'.symm) hk
  · intro k i hi
    obtain ⟨now, hnow, htriple, hold⟩ := h.old k i hi
    rw [hmap, Lookup.getElem?_insert]
    by_cases hk : k = t.key
    · rw [if_pos hk]
      rw [hk] at hnow
      obtain ⟨htriple', hgrow⟩ := hgrows now hnow
      exact ⟨info, rfl, htriple'.trans htriple, fun x hx => hgrow x (hold x hx)⟩
    · rw [if_neg hk]
      exact ⟨now, hnow, htriple, hold⟩
  · intro k hclean
    rw [outstanding_snoc] at hclean
    by_cases hk : (CrossCall.collect t g stream).triple.key = k
    · rw [if_pos (decide_eq_true hk)] at hclean
      cases hclean
    · rw [if_neg (fun hd => hk (of_decide_eq_true hd))] at hclean
      rw [hmap, Lookup.getElem?_insert, if_neg (fun he => hk he.symm)]
      exact h.clean k hclean

/-- Two infos that have something at one path have the same there, unless they are of one triple. -/
theorem Has.functional {info info' : CrossPlayerDataInfo E} {p : Path} {v v' : Option Bytes}
    (h : info.Has codec p v) (h' : info'.Has codec p v') (hne : v ≠ v') :
    info.triple = info'.triple := by
  have hfile : ∀ {t t' : Triple} {g n}, playerPath t ++ [entityFile g] ≠ (playerPath t').take (n + 1) := by
    intro t t' g n he
    have hlen := congrArg List.length he
    rw [List.length_append, List.length_take] at hlen
    have hmin : min (n + 1) (playerPath t').length ≤ (playerPath t').length := Nat.min_le_right ..
    have hone : [entityFile g].length = 1 := rfl
    have hfour : (playerPath t).length = 4 := rfl
    have hfour' : (playerPath t').length = 4 := rfl
    omega
  obtain ⟨rfl, n, hn⟩ | ⟨g, entity, -, hp, rfl⟩ := h
  · obtain ⟨rfl, -⟩ | ⟨g, entity, -, hp, -⟩ := h'
    · exact absurd rfl hne
    · exact absurd (hp.symm.trans hn) hfile
  · obtain ⟨-, n, hn⟩ | ⟨g', entity', -, hp', -⟩ := h'
    · exact absurd (hp.symm.trans hn) hfile
    · exact playerPath_injective (List.append_inj_left' (hp.symm.trans hp') rfl)

/-- There is room for every info. -/
theorem Layout.room (h : Layout codec tree saved) (t : Triple) : Room tree t := by
  have hlen : ∀ (t : Triple) (n : Nat), ((playerPath t).take (n + 1)).length ≤ 4 := by
    intro t n
    rw [List.length_take]
    exact Nat.min_le_right ..
  constructor
  · intro n v hv
    obtain ⟨-, rfl⟩ | ⟨k, info, -, ⟨rfl, -⟩ | ⟨g, entity, -, hp, -⟩⟩ := (h _ v).mp hv
    · rfl
    · rfl
    · have := congrArg List.length hp
      rw [List.length_append] at this
      have hle := hlen t n
      have hfour : (playerPath info.triple).length = 4 := rfl
      have hone : [entityFile g].length = 1 := rfl
      omega
  · intro g hg
    have hfive : (playerPath t ++ [entityFile g]).length = 5 := rfl
    obtain ⟨hp, -⟩ | ⟨k, info, -, ⟨-, n, hn⟩ | ⟨g', entity, -, -, hv⟩⟩ := (h _ none).mp hg
    · rw [hp] at hfive
      cases hfive
    · rw [hn] at hfive
      have hle := hlen info.triple n
      omega
    · cases hv

/-- An info is saved over what was saved of it before. -/
theorem layout_save {now : CrossPlayerDataInfo E} (h : Archived codec calls m tree saved)
    {k : Text} (hnow : m.infoMap[k]? = some now) {tree' : Disk Bytes}
    (hfind : ∀ q v, tree'.find q = some v ↔
      now.Has codec q v ∨ (tree.find q = some v ∧ ∀ v', ¬ now.Has codec q v')) :
    Layout codec tree' (Function.update saved k (some now)) := by
  intro p v
  rw [hfind, h.layout]
  constructor
  · intro hp
    obtain hp | ⟨⟨rfl, rfl⟩ | ⟨k', info, hinfo, hhas⟩, hno⟩ := hp
    · exact Or.inr ⟨k, now, Function.update_self .., hp⟩
    · exact Or.inl ⟨rfl, rfl⟩
    · refine Or.inr ⟨k', info, ?_, hhas⟩
      -- what the info itself had before, it has now
      have hk : k' ≠ k := by
        intro he
        rw [he] at hinfo
        obtain ⟨now', hnow', htriple, hold⟩ := h.old k info hinfo
        obtain rfl : now = now' := Option.some.inj (hnow.symm.trans hnow')
        obtain ⟨-, n, hn⟩ | ⟨g, entity, hg, hq, -⟩ := hhas
        · exact hno none (Or.inl ⟨rfl, n, htriple ▸ hn⟩)
        · have hsome := hold g (by rw [hg]; rfl)
          obtain ⟨entity', hentity'⟩ := Option.isSome_iff_exists.mp hsome
          exact hno _ (Or.inr ⟨g, entity', hentity', htriple ▸ hq, rfl⟩)
      rw [Function.update_of_ne hk]
      exact hinfo
  · intro hp
    obtain ⟨rfl, rfl⟩ | ⟨k', info, hinfo, hhas⟩ := hp
    · refine Or.inr ⟨Or.inl ⟨rfl, rfl⟩, ?_⟩
      intro v' hv'
      obtain ⟨-, n, hn⟩ | ⟨g, entity, -, hq, -⟩ := hv'
      · cases congrArg List.length hn
      · cases congrArg List.length hq
    · obtain ⟨-, rfl⟩ | ⟨hk, hinfo⟩ := Lookup.update_some.mp hinfo
      · exact Or.inl hhas
      · by_cases hv : now.Has codec p v
        · exact Or.inl hv
        · refine Or.inr ⟨Or.inr ⟨k', info, hinfo, hhas⟩, ?_⟩
          intro v' hv'
          have hne : v ≠ v' := fun he => hv (he ▸ hv')
          have htriple := Has.functional hhas hv' hne
          obtain ⟨now', hnow', htriple', -⟩ := h.old k' info hinfo
          have hkey := (h.info k' now' hnow').1
          rw [htriple', htriple, (h.info k now hnow).1] at hkey
          exact hk hkey.symm

/-- The end of a player's data is. -/
theorem archived_finish (h : Archived codec calls m tree saved) (t : Triple)
    (hnames : ∀ t, Delivered calls t → IsName t.platform ∧ IsName t.lineId) :
    ∃ m' tree' saved', m.collectCrossPlayerDataFinish codec tree t.lineId t.platform t.playerGuid
        = some (m', tree') ∧ Archived codec (calls ++ [.finish t]) m' tree' saved' := by
  have hdelivered : ∀ t', Delivered (calls ++ [.finish t]) t' ↔ Delivered calls t' := by
    intro t'
    rw [delivered_snoc]
    exact or_iff_left fun hf => nomatch hf.1
  have hinfo : ∀ k info, m.infoMap[k]? = some info → info.triple.key = k ∧
      Delivered (calls ++ [.finish t]) info.triple ∧ ∀ g : UInt64, info.msgMap[g]? =
        entitiesOf codec (fun c => c.triple.key = k) (calls ++ [.finish t]) g := by
    intro k info hk
    obtain ⟨hkey, hdel, hentities⟩ := h.info k info hk
    refine ⟨hkey, (hdelivered _).mpr hdel, ?_⟩
    intro g
    rw [entitiesOf_snoc_finish]
    exact hentities g
  have hpresent : ∀ t', Delivered (calls ++ [.finish t]) t' → (m.infoMap[t'.key]?).isSome = true :=
    fun t' ht' => h.present t' ((hdelivered t').mp ht')
  have hkey : getKey t.lineId t.platform t.playerGuid = t.key := rfl
  cases hm : m.infoMap[t.key]? with
  | none =>
      refine ⟨m, tree, saved, ?_, hinfo, hpresent, h.layout, h.old, ?_⟩
      · simp only [collectCrossPlayerDataFinish, hkey, hm]
      · intro k hclean
        rw [outstanding_snoc] at hclean
        by_cases hk : (CrossCall.finish t).triple.key = k
        · -- the key was never delivered
          have hk : t.key = k := hk
          rw [← hk, hm]
          cases hs : saved t.key with
          | none => rfl
          | some info =>
              obtain ⟨now, hnow, -⟩ := h.old t.key info hs
              rw [hm] at hnow
              cases hnow
        · rw [if_neg (fun hd => hk (of_decide_eq_true hd))] at hclean
          exact h.clean k hclean
  | some now =>
      obtain ⟨hnowKey, hnowDelivered, -⟩ := h.info t.key now hm
      obtain ⟨hplatform, hline⟩ := hnames _ hnowDelivered
      obtain ⟨tree', hsave, hfind⟩ := find_saveData codec hplatform hline (h.layout.room _)
      refine ⟨{ m with guidInfoMap := m.guidInfoMap.insert t.playerGuid t.key }, tree',
        Function.update saved t.key (some now), ?_, hinfo, hpresent, layout_save h hm hfind, ?_, ?_⟩
      · simp only [collectCrossPlayerDataFinish, hkey, hm, hsave, Option.map_some]
      · intro k info hk
        obtain ⟨rfl, rfl⟩ | ⟨-, hk⟩ := Lookup.update_some.mp hk
        · exact ⟨info, hm, rfl, fun _ h => h⟩
        · exact h.old k info hk
      · intro k hclean
        rw [outstanding_snoc] at hclean
        by_cases hk : (CrossCall.finish t).triple.key = k
        · have hk : t.key = k := hk
          rw [← hk, Function.update_self]
          exact hm.symm
        · rw [if_neg (fun hd => hk (of_decide_eq_true hd))] at hclean
          have hne : k ≠ t.key := fun he => hk he.symm
          rw [Function.update_of_ne hne]
          exact h.clean k hclean

/-- **After every sequence of calls** the disk has the infos as they were at the last finish. -/
theorem run_archived (codec : Codec E) (calls : List CrossCall)
    (hnames : ∀ t, Delivered calls t → IsName t.platform ∧ IsName t.lineId) :
    ∃ m tree saved, runCalls codec calls = some (m, tree) ∧ Archived codec calls m tree saved := by
  -- on the last call, from a disk without files
  induction calls using List.reverseRecOn with
  | nil =>
      refine ⟨{}, {}, fun _ => none, rfl, ?_, ?_, ?_, ?_, ?_⟩
      · intro k info hk
        cases hk
      · intro t ht
        obtain ⟨c, hc, -⟩ := ht
        cases hc
      · intro p v
        constructor
        · intro hp
          unfold FileTree.Disk.find at hp
          by_cases hnil : p = []
          · rw [if_pos hnil] at hp
            exact Or.inl ⟨hnil, (Option.some.inj hp).symm⟩
          · rw [if_neg hnil] at hp
            cases hp
        · intro hp
          obtain ⟨rfl, rfl⟩ | ⟨k, info, hk, -⟩ := hp
          · rfl
          · cases hk
      · intro k info hk
        cases hk
      · intro k _
        rfl
  | append_singleton calls c ih =>
      obtain ⟨m, tree, saved, hrun, harch⟩ :=
        ih fun t ht => hnames t (delivered_snoc.mpr (Or.inl ht))
      have hstep : runCalls codec (calls ++ [c]) = callStep codec (m, tree) c := by
        unfold runCalls at hrun ⊢
        rw [List.foldlM_append, hrun]
        show (callStep codec (m, tree) c).bind some = _
        exact Option.bind_fun_some _
      cases c with
      | collect t g stream =>
          exact ⟨_, tree, saved, hstep, archived_collect harch t g stream⟩
      | finish t =>
          obtain ⟨m', tree', saved', hfinish, harch'⟩ := archived_finish harch t
            fun t ht => hnames t (delivered_snoc.mpr (Or.inl ht))
          exact ⟨m', tree', saved', hstep.trans hfinish, harch'⟩

/-- When every triple is finished, everything in memory is on the disk. -/
theorem saved_of_finished (h : Archived codec calls m tree saved) (hfinished : Finished calls)
    (k : Text) : saved k = m.infoMap[k]? := by
  apply h.clean
  by_contra hout
  obtain ⟨t, -, ht⟩ := exists_outstanding (Bool.of_not_eq_false hout)
  rw [hfinished t] at ht
  cases ht

end Steppingstone.Cross
