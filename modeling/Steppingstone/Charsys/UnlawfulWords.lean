/-
  Steppingstone.Charsys.UnlawfulWords — the forbidden words of role names (`CheckRoleName`).

  `processUnlawfulWord` puts the listed words into a tree of bytes and marks where they end;
  `isUnlawfulWord` walks the tree from each position of the name.  The end of a word is marked when
  its last node is made, so a word that comes after a longer word that begins with it is not.
-/
import Steppingstone.Lib.Trie

namespace Steppingstone.Charsys

/-! ## §1. The words. -/

/-- The bytes of a `string`. -/
abbrev Bytes := List UInt8

/-- `processUnlawfulWord`: the tree of the words in `not_allowed_word_list`. -/
def processUnlawfulWord (notAllowedWordList : List Bytes) : Trie UInt8 :=
  notAllowedWordList.foldl (fun info word => if word.length = 0 then info else info.insert word)
    (.leaf false)

/-- `isUnlawfulWord` at one position of the name: `result` is true at first. -/
def isUnlawfulWordAt (info : Trie UInt8) (checkStr : Bytes) : Bool :=
  checkStr.isEmpty || info.walk checkStr

/-- `isUnlawfulWord` -/
def isUnlawfulWord (info : Trie UInt8) : Bytes → Bool
  | [] => false
  | c :: roleName => isUnlawfulWordAt info (c :: roleName) || isUnlawfulWord info roleName

/-- Some listed word occurs in the name. -/
def Occurs (words : List Bytes) (name : Bytes) : Prop :=
  ∃ word ∈ words, word ≠ [] ∧ word <:+: name

/-- **The forbidden words are found.** -/
def FindsListed (words : List Bytes) (name : Bytes) : Prop :=
  isUnlawfulWord (processUnlawfulWord words) name = true ↔ Occurs words name

/-- No listed word occurs in the name, or one that came before every longer word that begins with
it. -/
def InOrder (words : List Bytes) (name : Bytes) : Prop :=
  (∀ word ∈ words, word ≠ [] → ¬ word <:+: name) ∨
    ∃ word, word ≠ [] ∧ word <:+: name ∧ Trie.CameFirst words word

/-! ## §2. The tree. -/

/-- An empty word changes nothing. -/
theorem processUnlawfulWord_eq (words : List Bytes) :
    processUnlawfulWord words = Trie.insertAll words := by
  have hstep : (fun (info : Trie UInt8) (word : Bytes) =>
      if word.length = 0 then info else info.insert word) = Trie.insert := by
    funext info word
    cases word with
    | nil => rfl
    | cons c word => rfl
  unfold processUnlawfulWord Trie.insertAll
  rw [hstep]

/-- At one position a marked word is found that begins there. -/
theorem isUnlawfulWordAt_iff (words : List Bytes) {checkStr : Bytes} (hne : checkStr ≠ []) :
    isUnlawfulWordAt (processUnlawfulWord words) checkStr = true ↔
      ∃ word, word ≠ [] ∧ word <+: checkStr ∧ Trie.CameFirst words word := by
  unfold isUnlawfulWordAt
  rw [Bool.or_eq_true, List.isEmpty_iff, or_iff_right hne, Trie.walk_iff, processUnlawfulWord_eq]
  constructor
  · intro h
    obtain ⟨word, hword, hbegin, hend⟩ := h
    exact ⟨word, hword, hbegin, ((Trie.endAt_insertAll words word).mp hend).2⟩
  · intro h
    obtain ⟨word, hword, hbegin, hfirst⟩ := h
    exact ⟨word, hword, hbegin, (Trie.endAt_insertAll words word).mpr ⟨hword, hfirst⟩⟩

/-- **A name is refused** exactly if a marked word occurs in it. -/
theorem isUnlawfulWord_iff (words : List Bytes) (name : Bytes) :
    isUnlawfulWord (processUnlawfulWord words) name = true ↔
      ∃ word, word ≠ [] ∧ word <:+: name ∧ Trie.CameFirst words word := by
  induction name with
  | nil =>
      refine iff_of_false (by simp [isUnlawfulWord]) fun h => ?_
      obtain ⟨word, hne, hinfix, -⟩ := h
      exact hne (List.infix_nil.mp hinfix)
  | cons c name ih =>
      unfold isUnlawfulWord
      rw [Bool.or_eq_true, ih, isUnlawfulWordAt_iff words (List.cons_ne_nil c name)]
      -- a word occurs at the front, or behind it
      constructor
      · intro h
        match h with
        | Or.inl ⟨word, hne, hbegin, hfirst⟩ =>
            exact ⟨word, hne, List.infix_cons_iff.mpr (Or.inl hbegin), hfirst⟩
        | Or.inr ⟨word, hne, hinfix, hfirst⟩ =>
            exact ⟨word, hne, List.infix_cons_iff.mpr (Or.inr hinfix), hfirst⟩
      · intro h
        obtain ⟨word, hne, hinfix, hfirst⟩ := h
        match List.infix_cons_iff.mp hinfix with
        | Or.inl hbegin => exact Or.inl ⟨word, hne, hbegin, hfirst⟩
        | Or.inr hinfix => exact Or.inr ⟨word, hne, hinfix, hfirst⟩

/-! ## §3. The listed words. -/

theorem mem_of_cameFirst {words : List Bytes} {word : Bytes} (h : Trie.CameFirst words word) :
    word ∈ words := by
  obtain ⟨before, after, hsplit, -⟩ := h
  rw [hsplit]
  exact List.mem_append_right _ List.mem_cons_self

/-- A name that is refused has a listed word. -/
theorem occurs_of_isUnlawfulWord {words : List Bytes} {name : Bytes}
    (h : isUnlawfulWord (processUnlawfulWord words) name = true) : Occurs words name := by
  obtain ⟨word, hne, hinfix, hfirst⟩ := (isUnlawfulWord_iff words name).mp h
  exact ⟨word, mem_of_cameFirst hfirst, hne, hinfix⟩

/-- **For every list and every name**: the listed words are found exactly if none of them occurs,
or one that came before every longer word that begins with it. -/
theorem finds_listed_iff (words : List Bytes) (name : Bytes) :
    FindsListed words name ↔ InOrder words name := by
  unfold FindsListed InOrder
  rw [← isUnlawfulWord_iff]
  constructor
  · intro hfinds
    by_cases hfound : isUnlawfulWord (processUnlawfulWord words) name = true
    · exact Or.inr hfound
    · refine Or.inl fun word hmem hne hinfix => ?_
      exact hfound (hfinds.mpr ⟨word, hmem, hne, hinfix⟩)
  · intro horder
    refine ⟨occurs_of_isUnlawfulWord, fun hoccurs => ?_⟩
    obtain ⟨word, hmem, hne, hinfix⟩ := hoccurs
    exact horder.resolve_left fun hnone => hnone word hmem hne hinfix

/-- **The lists that are good for every name**: each word has in it one that came before every
longer word that begins with it. -/
theorem finds_every_name_iff (words : List Bytes) :
    (∀ name, FindsListed words name) ↔ ∀ word ∈ words, word ≠ [] →
      ∃ first, first ≠ [] ∧ first <:+: word ∧ Trie.CameFirst words first := by
  constructor
  · intro hall word hmem hne
    have horder := (finds_listed_iff words word).mp (hall word)
    exact horder.resolve_left fun hnone => hnone word hmem hne List.infix_rfl
  · intro hlist name
    rw [finds_listed_iff]
    by_cases hoccurs : Occurs words name
    · obtain ⟨word, hmem, hne, hinfix⟩ := hoccurs
      obtain ⟨first, hfirst, hin, hcame⟩ := hlist word hmem hne
      exact Or.inr ⟨first, hfirst, hin.trans hinfix, hcame⟩
    · exact Or.inl fun word hmem hne hinfix => hoccurs ⟨word, hmem, hne, hinfix⟩

/-- **The defect**: "ab" after "abc" is not found. -/
theorem shorter_word_not_found :
    ¬ ∀ (words : List Bytes) (name : Bytes), name ≠ [] → FindsListed words name := by
  intro hall
  have hab := hall [[97, 98, 99], [97, 98]] [97, 98] (by decide)
  have hfound := hab.mpr ⟨[97, 98], by decide, by decide, List.infix_rfl⟩
  exact absurd hfound (by decide)

end Steppingstone.Charsys
