/-
  Steppingstone.Lib.Trie — a tree of letters, with the ends of words marked.

  Words are inserted one after the other.  An insertion makes the nodes that are not there yet, and
  marks the last one if it makes it: a word whose nodes are all there already is not marked.  A text
  is walked from the root as far as there are nodes, up to the first mark.
-/
import Mathlib.Data.List.Infix
import Mathlib.Logic.Function.Basic
import Mathlib.Tactic.Common

/-- A node: whether a word ends here, and its children. -/
inductive Trie (α : Type*)
  | node (isEnd : Bool) (children : α → Option (Trie α))

namespace Trie

variable {α : Type*}

/-- Does a word end here? -/
def isEnd : Trie α → Bool
  | node e _ => e

/-- The subtrie under a letter. -/
def children : Trie α → α → Option (Trie α)
  | node _ ch => ch

/-- A node without children. -/
def leaf (e : Bool) : Trie α := node e fun _ => none

/-- A new node gets the mark if it is the last one of the word. -/
def insert [DecidableEq α] : Trie α → List α → Trie α
  | t, [] => t
  | node e ch, a :: word =>
      match ch a with
      | none => node e (Function.update ch a (some (insert (leaf word.isEmpty) word)))
      | some t => node e (Function.update ch a (some (insert t word)))

/-- From the root along the text, up to the first mark. -/
def walk : Trie α → List α → Bool
  | _, [] => false
  | node _ ch, a :: text =>
      match ch a with
      | none => false
      | some t => t.isEnd || walk t text

/-- The node at the end of a path. -/
def at? : Trie α → List α → Option (Trie α)
  | t, [] => some t
  | node _ ch, a :: path => (ch a).bind fun t => at? t path

/-- There is a marked node at the end of the path. -/
def EndAt (t : Trie α) (path : List α) : Prop := (t.at? path).any isEnd = true

/-- The path leads to a node. -/
def HasPath (t : Trie α) (path : List α) : Prop := (t.at? path).isSome = true

/-! ## §1. Walks. -/

/-- A path is followed letter by letter. -/
theorem at?_cons (e : Bool) (ch : α → Option (Trie α)) (a : α) (path : List α) :
    (node e ch).at? (a :: path) = (ch a).bind fun t => t.at? path := rfl

/-- A path ends at a mark below one of the children. -/
theorem endAt_cons (e : Bool) (ch : α → Option (Trie α)) (a : α) (path : List α) :
    (node e ch).EndAt (a :: path) ↔ ∃ t, ch a = some t ∧ t.EndAt path := by
  unfold EndAt
  rw [at?_cons]
  cases ch a with
  | none => simp
  | some t => simp

/-- A walk ends at a word or goes on. -/
theorem walk_cons (e : Bool) (ch : α → Option (Trie α)) (a : α) (text : List α) :
    (node e ch).walk (a :: text) = true ↔
      ∃ t, ch a = some t ∧ (t.EndAt [] ∨ t.walk text = true) := by
  have hend : ∀ t : Trie α, t.EndAt [] ↔ t.isEnd = true := fun _ => Iff.rfl
  cases hch : ch a with
  | none => simp [walk, hch]
  | some t => simp [walk, hch, hend]

/-- **A walk** finds a mark exactly if some prefix of the text ends at one. -/
theorem walk_iff (t : Trie α) (text : List α) :
    t.walk text = true ↔ ∃ path, path ≠ [] ∧ path <+: text ∧ t.EndAt path := by
  induction text generalizing t with
  | nil =>
      refine iff_of_false (by simp [walk]) fun h => ?_
      obtain ⟨path, hne, hbegin, -⟩ := h
      exact hne (List.prefix_nil.mp hbegin)
  | cons a text ih =>
      obtain ⟨e, ch⟩ := t
      rw [walk_cons]
      constructor
      · intro h
        obtain ⟨t, hch, hend | hwalk⟩ := h
        · exact ⟨[a], List.cons_ne_nil _ _, ⟨text, rfl⟩, (endAt_cons e ch a []).mpr ⟨t, hch, hend⟩⟩
        · obtain ⟨path, -, hbegin, hend⟩ := (ih t).mp hwalk
          exact ⟨a :: path, List.cons_ne_nil _ _, List.cons_prefix_cons.mpr ⟨rfl, hbegin⟩,
            (endAt_cons e ch a path).mpr ⟨t, hch, hend⟩⟩
      · intro h
        obtain ⟨path, hne, hbegin, hend⟩ := h
        cases path with
        | nil => exact absurd rfl hne
        | cons b path =>
            obtain ⟨hb, hrest⟩ := List.cons_prefix_cons.mp hbegin
            subst hb
            obtain ⟨t, hch, hend⟩ := (endAt_cons e ch b path).mp hend
            refine ⟨t, hch, ?_⟩
            -- the mark is at the child itself, or the walk goes on to it
            cases path with
            | nil => exact Or.inl hend
            | cons c path =>
                exact Or.inr ((ih t).mpr ⟨c :: path, List.cons_ne_nil _ _, hrest, hend⟩)

/-! ## §2. Words that came first. -/

/-- A word that came before every other word that begins with it. -/
def CameFirst (words : List (List α)) (word : List α) : Prop :=
  ∃ before after, words = before ++ word :: after ∧ ∀ v ∈ before, ¬ word <+: v

/-- One more word. -/
theorem cameFirst_concat (words : List (List α)) (word path : List α) :
    CameFirst (words ++ [word]) path ↔
      CameFirst words path ∨ path = word ∧ ∀ v ∈ words, ¬ word <+: v := by
  constructor
  · intro h
    obtain ⟨before, after, hsplit, hbefore⟩ := h
    match List.eq_nil_or_concat after with
    | Or.inl hnil =>
        -- the path is the last word
        rw [hnil] at hsplit
        obtain ⟨hwords, hlast⟩ := List.append_inj' hsplit rfl
        have hpath : word = path := (List.cons.inj hlast).1
        rw [hwords]
        exact Or.inr ⟨hpath.symm, fun v hv => hpath ▸ hbefore v hv⟩
    | Or.inr ⟨after', last, hlast⟩ =>
        rw [hlast, List.concat_eq_append, ← List.cons_append, ← List.append_assoc] at hsplit
        exact Or.inl ⟨before, after', (List.append_inj' hsplit rfl).1, hbefore⟩
  · intro h
    match h with
    | Or.inl ⟨before, after, hsplit, hbefore⟩ =>
        refine ⟨before, after ++ [word], ?_, hbefore⟩
        rw [hsplit, List.append_assoc, List.cons_append]
    | Or.inr ⟨hpath, hbefore⟩ =>
        rw [hpath]
        exact ⟨words, [], rfl, hbefore⟩

/-! ## §3. Insertions. -/

theorem at?_leaf (e : Bool) (path : List α) :
    (leaf e : Trie α).at? path = if path = [] then some (leaf e) else none := by
  cases path with
  | nil => rfl
  | cons a path => rfl

theorem hasPath_leaf (e : Bool) (path : List α) : (leaf e).HasPath path ↔ path = [] := by
  unfold HasPath
  rw [at?_leaf]
  split
  · next h => exact iff_of_true rfl h
  · next h => exact iff_of_false (by simp) h

theorem endAt_leaf (e : Bool) (path : List α) :
    (leaf e).EndAt path ↔ path = [] ∧ e = true := by
  unfold EndAt
  rw [at?_leaf]
  split
  · next h => exact (and_iff_right h).symm
  · next h => exact iff_of_false (by simp) fun hp => h hp.1

variable [DecidableEq α]

/-- A word is put in letter by letter. -/
theorem insert_cons (e : Bool) (ch : α → Option (Trie α)) (a : α) (word : List α) :
    (node e ch).insert (a :: word)
      = node e (Function.update ch a
        (some (((ch a).getD (leaf word.isEmpty)).insert word))) := by
  match hch : ch a with
  | none => simp [insert, hch]
  | some t => simp [insert, hch]

/-- **The paths** after an insertion: those that were there, and the prefixes of the word. -/
theorem hasPath_insert (t : Trie α) (word path : List α) :
    (t.insert word).HasPath path ↔ t.HasPath path ∨ path <+: word := by
  induction word generalizing t path with
  | nil =>
      refine ⟨Or.inl, fun h => h.elim id fun hnil => ?_⟩
      rw [List.prefix_nil.mp hnil]
      rfl
  | cons a word ih =>
      match t with
      | node e ch =>
          rw [insert_cons]
          match path with
          | [] => exact iff_of_true rfl (Or.inl rfl)
          | b :: path =>
              by_cases hb : b = a
              · rw [hb, List.cons_prefix_cons, and_iff_right rfl]
                unfold HasPath
                rw [at?_cons, at?_cons, Function.update_self]
                show (((ch a).getD (leaf word.isEmpty)).insert word).HasPath path ↔ _
                rw [ih]
                match ch a with
                | some t => exact Iff.rfl
                | none =>
                    -- a new node has no paths yet
                    show (leaf _).HasPath path ∨ _ ↔ _
                    rw [hasPath_leaf]
                    refine ⟨fun h => Or.inr (h.elim (fun hnil => ?_) id), fun h => Or.inr ?_⟩
                    · rw [hnil]
                      exact List.nil_prefix
                    · exact h.resolve_left (by simp)
              · have hother : ¬ b :: path <+: a :: word := fun h =>
                  hb (List.cons_prefix_cons.mp h).1
                unfold HasPath
                rw [at?_cons, at?_cons, Function.update_of_ne hb, or_iff_left hother]

omit [DecidableEq α] in
/-- A new node, and the rest of the word below it, have one mark: at the end of the word. -/
theorem endAt_new (word path : List α) :
    (leaf word.isEmpty).EndAt path ∨
      path = word ∧ word ≠ [] ∧ ¬ (leaf word.isEmpty).HasPath word ↔ path = word := by
  rw [endAt_leaf, hasPath_leaf, List.isEmpty_iff, and_self]
  constructor
  · intro h
    exact h.elim (fun hnil => hnil.1.trans hnil.2.symm) And.left
  · intro h
    by_cases hnil : word = []
    · exact Or.inl ⟨h.trans hnil, hnil⟩
    · exact Or.inr ⟨h, hnil⟩

/-- **What an insertion marks**: the word, if its nodes are not all there. -/
theorem endAt_insert (t : Trie α) (word path : List α) :
    (t.insert word).EndAt path ↔
      t.EndAt path ∨ path = word ∧ word ≠ [] ∧ ¬ t.HasPath word := by
  induction word generalizing t path with
  | nil => exact ⟨Or.inl, fun h => h.elim id fun hnil => absurd rfl hnil.2.1⟩
  | cons a word ih =>
      match t with
      | node e ch =>
          rw [insert_cons]
          match path with
          | [] => exact ⟨Or.inl, fun h => h.elim id fun hnil => by cases hnil.1⟩
          | b :: path =>
              by_cases hb : b = a
              · have hsame : b :: path = a :: word ↔ path = word := by rw [hb, List.cons_inj_right]
                rw [hsame, hb, and_iff_right (List.cons_ne_nil a word)]
                unfold EndAt HasPath
                rw [at?_cons, at?_cons, at?_cons, Function.update_self]
                show (((ch a).getD (leaf word.isEmpty)).insert word).EndAt path ↔ _
                rw [ih]
                match ch a with
                | some t =>
                    -- a node that is there already gets no mark
                    show t.EndAt path ∨ path = word ∧ word ≠ [] ∧ ¬ t.HasPath word ↔
                      t.EndAt path ∨ path = word ∧ ¬ t.HasPath word
                    have hroot : word = [] → t.HasPath word := by
                      intro h
                      rw [h]
                      rfl
                    constructor
                    · exact Or.imp_right fun h => ⟨h.1, h.2.2⟩
                    · exact Or.imp_right fun h => ⟨h.1, fun hnil => h.2 (hroot hnil), h.2⟩
                | none =>
                    show (leaf word.isEmpty).EndAt path ∨
                      path = word ∧ word ≠ [] ∧ ¬ (leaf word.isEmpty).HasPath word ↔ _
                    rw [endAt_new]
                    simp
              · -- another branch of the tree
                have hother : b :: path ≠ a :: word := fun h => hb (List.cons.inj h).1
                unfold EndAt
                rw [at?_cons, at?_cons, Function.update_of_ne hb,
                  or_iff_left fun h => hother h.1]

/-! ## §4. Many words. -/

/-- The words one after the other, from a root alone. -/
def insertAll (words : List (List α)) : Trie α := words.foldl insert (leaf false)

theorem insertAll_concat (words : List (List α)) (word : List α) :
    insertAll (words ++ [word]) = (insertAll words).insert word := List.foldl_append ..

/-- The paths are the beginnings of the words. -/
theorem hasPath_insertAll (words : List (List α)) (path : List α) :
    (insertAll words).HasPath path ↔ path = [] ∨ ∃ word ∈ words, path <+: word := by
  induction words using List.reverseRecOn with
  | nil =>
      show (leaf false).HasPath path ↔ _
      rw [hasPath_leaf, or_iff_left (by simp)]
  | append_singleton words word ih =>
      rw [insertAll_concat, hasPath_insert, ih, or_assoc]
      simp [or_and_right, exists_or]

/-- **What is marked after many insertions**: the words that came before every other word that
begins with them. -/
theorem endAt_insertAll (words : List (List α)) (path : List α) :
    (insertAll words).EndAt path ↔ path ≠ [] ∧ CameFirst words path := by
  induction words using List.reverseRecOn with
  | nil =>
      show (leaf false).EndAt path ↔ _
      rw [endAt_leaf]
      refine iff_of_false (by simp) fun h => ?_
      obtain ⟨before, after, hsplit, -⟩ := h.2
      exact absurd hsplit.symm (by simp)
  | append_singleton words word ih =>
      have hnew : word ≠ [] → (¬ (insertAll words).HasPath word ↔ ∀ v ∈ words, ¬ word <+: v) := by
        intro hne
        rw [hasPath_insertAll, or_iff_right hne]
        simp only [not_exists, not_and]
      rw [insertAll_concat, endAt_insert, ih, cameFirst_concat, and_or_left]
      -- the last word is marked if no word before it begins with it
      refine or_congr_right ?_
      constructor
      · intro h
        obtain ⟨hpath, hne, hnone⟩ := h
        exact ⟨hpath ▸ hne, hpath, (hnew hne).mp hnone⟩
      · intro h
        obtain ⟨hne, hpath, hnone⟩ := h
        have hne' : word ≠ [] := hpath ▸ hne
        exact ⟨hpath, hne', (hnew hne').mpr hnone⟩

end Trie
