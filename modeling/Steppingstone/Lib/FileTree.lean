/-
  Steppingstone.Lib.FileTree — a directory tree, and path texts.

  A tree maps paths to directories and files; a path text is cut at its slashes and walked from the
  working directory.  Every component of a path is a file name.  The order in which a directory is
  listed is left to a `Listing`.
-/
import Mathlib.Tactic.Common
import Mathlib.Data.List.Basic
import Mathlib.Data.List.Nodup

namespace FileTree

open Std (TreeMap)

/-! ## §1. Path texts. -/

/-- The name of a file or a directory. -/
abbrev Name := List Char

/-- The names on the way to a file. -/
abbrev Path := List Name

/-- What a directory can list. -/
def IsName (n : Name) : Prop := n ≠ [] ∧ '/' ∉ n ∧ n ≠ ['.'] ∧ n ≠ ['.', '.']

instance (n : Name) : Decidable (IsName n) := inferInstanceAs (Decidable (_ ∧ _ ∧ _ ∧ _))

/-- One component of a path text. -/
def walk (p : Path) (c : Name) : Path :=
  if c = [] ∨ c = ['.'] then p else if c = ['.', '.'] then p.dropLast else p ++ [c]

/-- The place a path text names. -/
def resolve (s : List Char) : Path := (s.splitOn '/').foldl walk []

/-- A text that ends with a slash. -/
def IsDirText (d : List Char) : Prop := ∃ b, d = b ++ ['/']

theorem isDirText_append (s : List Char) : IsDirText (s ++ ['/']) := ⟨s, rfl⟩

theorem walk_name {n : Name} (h : IsName n) (p : Path) : walk p n = p ++ [n] := by
  obtain ⟨hnil, -, hdot, hdots⟩ := h
  have h1 : ¬ (n = [] ∨ n = ['.']) := fun h => h.elim hnil hdot
  rw [walk, if_neg h1, if_neg hdots]

/-- A slash at the end says nothing. -/
theorem resolve_append_slash (s : List Char) : resolve (s ++ ['/']) = resolve s := by
  show ((s ++ '/' :: []).splitOn '/').foldl walk [] = _
  rw [List.splitOn_append_cons_self, List.foldl_append]
  rfl

/-- **A name after a directory text** is one more component. -/
theorem resolve_append {d : List Char} (hd : IsDirText d) {n : Name} (hn : IsName n) :
    resolve (d ++ n) = resolve d ++ [n] := by
  obtain ⟨b, rfl⟩ := hd
  have hsplit : n.splitOn '/' = [n] := List.splitOn_eq_singleton hn.2.1
  rw [resolve_append_slash, List.append_assoc]
  show ((b ++ '/' :: n).splitOn '/').foldl walk [] = _
  rw [List.splitOn_append_cons_self, List.foldl_append, hsplit]
  exact walk_name hn _

/-- The path of a directory in a directory. -/
theorem resolve_append_dir {d : List Char} (hd : IsDirText d) {n : Name} (hn : IsName n) :
    resolve (d ++ n ++ ['/']) = resolve d ++ [n] := by
  rw [resolve_append_slash, resolve_append hd hn]

/-- No part between two slashes has a slash. -/
theorem not_mem_of_mem_splitOn {c : Char} {s w : List Char} (hw : w ∈ s.splitOn c) : c ∉ w := by
  induction s generalizing w with
  | nil =>
      obtain rfl : w = [] := List.mem_singleton.mp hw
      exact List.not_mem_nil
  | cons x xs ih =>
      rw [List.splitOn_cons_eq_if_modifyHead] at hw
      by_cases hx : (x == c) = true
      · rw [if_pos hx] at hw
        obtain rfl | hw := List.mem_cons.mp hw
        · exact List.not_mem_nil
        · exact ih hw
      · rw [if_neg hx] at hw
        cases hs : xs.splitOn c with
        | nil => exact absurd hs (List.splitOn_ne_nil c xs)
        | cons v vs =>
            rw [hs] at hw ih
            obtain rfl | hw := List.mem_cons.mp hw
            · intro hc
              obtain rfl | hc := List.mem_cons.mp hc
              · exact hx (beq_self_eq_true c)
              · exact ih List.mem_cons_self hc
            · exact ih (List.mem_cons_of_mem v hw)

/-- Every component of a path is a file name. -/
theorem isName_of_mem_resolve {s : List Char} {n : Name} (hn : n ∈ resolve s) : IsName n := by
  have key : ∀ (ws : List Name) (p : Path), (∀ w ∈ ws, '/' ∉ w) → (∀ c ∈ p, IsName c) →
      ∀ c ∈ ws.foldl walk p, IsName c := by
    intro ws
    induction ws with
    | nil => intro p _ hp; exact hp
    | cons w ws ih =>
        intro p hws hp
        apply ih _ (fun v hv => hws v (List.mem_cons_of_mem w hv))
        intro c hc
        unfold walk at hc
        split at hc
        next => exact hp c hc
        next hskip =>
            split at hc
            next => exact hp c ((List.dropLast_sublist p).subset hc)
            next hdots =>
                obtain hc | hc := List.mem_append.mp hc
                · exact hp c hc
                · obtain rfl := List.mem_singleton.mp hc
                  refine ⟨?_, hws c List.mem_cons_self, ?_, hdots⟩
                  · exact fun he => hskip (Or.inl he)
                  · exact fun he => hskip (Or.inr he)
  exact key _ [] (fun w hw => not_mem_of_mem_splitOn hw) (fun c hc => absurd hc List.not_mem_nil) n hn

/-! ## §2. Trees. -/

/-- A tree of directories (`none`) and files; the working directory is not listed. -/
structure Disk (B : Type) where
  nodes : TreeMap Path (Option B) := {}

variable {B : Type}

namespace Disk

/-- What is at a path. -/
def find (t : Disk B) (p : Path) : Option (Option B) :=
  if p = [] then some none else t.nodes[p]?

/-- `is_directory`. -/
def isDirectory (t : Disk B) (p : Path) : Bool := (t.find p).any Option.isNone

/-- `create_directory`, after a look whether the path exists; `none` when it throws. -/
def createDirectory (t : Disk B) (p : Path) : Option (Disk B) :=
  if (t.find p).isSome then some t
  else if t.isDirectory p.dropLast then some { t with nodes := t.nodes.insert p none }
  else none

/-- A file is written anew, if it can be opened. -/
def writeFile (t : Disk B) (p : Path) (b : B) : Disk B :=
  if t.isDirectory p ∨ t.isDirectory p.dropLast = false then t
  else { t with nodes := t.nodes.insert p (some b) }

/-- The bytes of a file. -/
def readFile (t : Disk B) (p : Path) : Option B := (t.find p).join

/-- The names in a directory. -/
def entries (t : Disk B) (p : Path) : List Name :=
  t.nodes.keys.filterMap fun q => if q ≠ [] ∧ q.dropLast = p then q.getLast? else none

/-- What is found after a node was inserted. -/
theorem find_insert (t : Disk B) {p : Path} (hp : p ≠ []) (v : Option B) (q : Path) :
    ({ t with nodes := t.nodes.insert p v } : Disk B).find q
      = if q = p then some v else t.find q := by
  unfold find
  by_cases hq : q = []
  · rw [if_pos hq, if_pos hq, if_neg (fun he => hp (he.symm.trans hq))]
  · rw [if_neg hq, if_neg hq]
    show (t.nodes.insert p v)[q]? = _
    rw [TreeMap.getElem?_insert]
    by_cases hqp : q = p
    · rw [if_pos hqp, if_pos (by rw [hqp]; exact Std.ReflCmp.compare_self)]
    · rw [if_neg hqp, if_neg]
      intro hc
      exact hqp (Std.LawfulEqCmp.eq_of_compare hc).symm

/-- A directory is a node without a content. -/
theorem isDirectory_eq_true {t : Disk B} {p : Path} :
    t.isDirectory p = true ↔ t.find p = some none := by
  unfold isDirectory
  cases t.find p with
  | none => simp
  | some v => cases v <;> simp

theorem isDirectory_of_find {t : Disk B} {p : Path} {v : Option B} (h : t.find p = some v) :
    t.isDirectory p = v.isNone := by
  unfold isDirectory
  rw [h]
  rfl

/-- A directory is made in a directory. -/
theorem find_createDirectory {t : Disk B} {p : Path} (hparent : t.find p.dropLast = some none) :
    ∃ t', t.createDirectory p = some t' ∧
      ∀ q, t'.find q = if q = p ∧ t.find p = none then some none else t.find q := by
  unfold createDirectory
  cases hp : t.find p with
  | some v =>
      refine ⟨t, if_pos rfl, ?_⟩
      intro q
      rw [if_neg (fun h => nomatch h.2)]
  | none =>
      have hne : p ≠ [] := by
        intro he
        rw [he] at hp
        cases hp
      refine ⟨_, (if_neg Bool.false_ne_true).trans (if_pos (isDirectory_eq_true.mpr hparent)), ?_⟩
      intro q
      rw [find_insert t hne]
      by_cases hq : q = p
      · rw [if_pos hq, if_pos ⟨hq, rfl⟩]
      · rw [if_neg hq, if_neg (fun h => hq h.1)]

/-- A file is written in a directory. -/
theorem find_writeFile {t : Disk B} {p : Path} (hparent : t.find p.dropLast = some none)
    (hp : t.find p ≠ some none) (b : B) (q : Path) :
    (t.writeFile p b).find q = if q = p then some (some b) else t.find q := by
  have hne : p ≠ [] := by
    intro he
    rw [he] at hp
    exact hp rfl
  have hopen : ¬ (t.isDirectory p = true ∨ t.isDirectory p.dropLast = false) := by
    intro h
    obtain h | h := h
    · exact hp (isDirectory_eq_true.mp h)
    · rw [isDirectory_of_find hparent] at h
      cases h
  rw [writeFile, if_neg hopen, find_insert t hne]

/-- The entries of a directory. -/
theorem mem_entries {t : Disk B} {p : Path} {n : Name} :
    n ∈ t.entries p ↔ (t.find (p ++ [n])).isSome := by
  have hne : p ++ [n] ≠ [] := by simp
  have hfind : t.find (p ++ [n]) = t.nodes[p ++ [n]]? := if_neg hne
  rw [hfind, entries, List.mem_filterMap]
  constructor
  · intro h
    obtain ⟨q, hq, hlast⟩ := h
    split at hlast
    next hcond =>
        obtain ⟨hqne, hdrop⟩ := hcond
        have hqp : q = p ++ [n] := by
          rw [← hdrop, ← List.dropLast_append_getLast? n hlast]
          simp
        rw [← hqp]
        exact TreeMap.isSome_getElem?_iff_mem.mpr (TreeMap.mem_keys.mp hq)
    next => cases hlast
  · intro h
    refine ⟨p ++ [n], TreeMap.mem_keys.mpr (TreeMap.isSome_getElem?_iff_mem.mp h), ?_⟩
    simp

/-- Every component in the tree is a file name. -/
def WellNamed (t : Disk B) : Prop := ∀ p v, t.find p = some v → ∀ n ∈ p, IsName n

theorem wellNamed_empty : WellNamed ({} : Disk B) := by
  intro p v hp
  unfold find at hp
  split at hp
  next hnil =>
      rw [hnil]
      exact fun n hn => absurd hn List.not_mem_nil
  next => cases hp

/-- A node with a name keeps the names. -/
theorem WellNamed.insert {t : Disk B} (h : t.WellNamed) {p : Path} (hp : ∀ n ∈ p, IsName n)
    (hne : p ≠ []) (v : Option B) :
    WellNamed ({ t with nodes := t.nodes.insert p v } : Disk B) := by
  intro q w hq
  rw [find_insert t hne] at hq
  split at hq
  next hqp =>
      rw [hqp]
      exact hp
  next => exact h q w hq

/-- A new directory keeps the names. -/
theorem WellNamed.createDirectory {t t' : Disk B} (h : t.WellNamed) {p : Path}
    (hp : ∀ n ∈ p, IsName n) (ht : t.createDirectory p = some t') : t'.WellNamed := by
  unfold Disk.createDirectory at ht
  split at ht
  next =>
      obtain rfl := Option.some.inj ht
      exact h
  next hfind =>
      split at ht
      next =>
          obtain rfl := Option.some.inj ht
          apply h.insert hp
          intro hnil
          rw [hnil] at hfind
          exact hfind rfl
      next => cases ht

/-- A new file keeps the names. -/
theorem WellNamed.writeFile {t : Disk B} (h : t.WellNamed) {p : Path} (hp : ∀ n ∈ p, IsName n)
    (b : B) : (t.writeFile p b).WellNamed := by
  unfold Disk.writeFile
  split
  next => exact h
  next hopen =>
      apply h.insert hp
      intro hnil
      rw [hnil] at hopen
      exact hopen (Or.inl rfl)

end Disk

/-- The order in which directories are listed. -/
structure Listing where
  order : Path → List Name → List Name
  perm : ∀ p ns, (order p ns).Perm ns

/-- A name that is listed last wherever it occurs. -/
def Listing.last (n : Name) : Listing where
  order _ ns := ns.filter (· ≠ n) ++ ns.filter (· = n)
  perm p ns := by
    have h := List.filter_append_perm (fun x => decide (x ≠ n)) ns
    simpa using h

/-- As the tree has them. -/
def Listing.id : Listing where
  order _ ns := ns
  perm _ ns := List.Perm.refl ns

end FileTree
