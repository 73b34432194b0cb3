/-
  Steppingstone.Charsys.CheckRoleName — which role names are accepted (`CheckRoleName`).

  `get_UTF8_strlen` steps over the name by the lead byte of each character and counts its weight; at
  a byte that is none it stops, and what comes behind is neither decoded nor counted; a character
  that is cut off counts like a whole one.  The letters and the forbidden words are checked in loops
  of their own over the whole name, for which a byte from `0x80` on is as good as any other.
-/
import Mathlib.Tactic.Ring
import Mathlib.Data.List.TakeWhile
import Steppingstone.Charsys.UnlawfulWords

namespace Steppingstone.Charsys

/-! ## §1. The checks. -/

/-- `RoleNameStrategy`; the configuration sets the words only. -/
structure RoleNameStrategy where
  minNameLength : Int := 4
  maxNameLength : Int := 12
  notAllowedWordList : List Bytes := []

/-- `(c & 0xC0) == 0x80` -/
def isContinuation (c : UInt8) : Bool := c &&& 0xC0 = 0x80

/-- `bytes`: how many bytes follow a lead byte. -/
def leadBytes (c : UInt8) : Option Nat :=
  if c &&& 0xE0 = 0xC0 then some 1
  else if c &&& 0xF0 = 0xE0 then some 2
  else if c &&& 0xF8 = 0xF0 then some 3
  else if c &&& 0xFC = 0xF8 then some 4
  else if c &&& 0xFE = 0xFC then some 5
  else none

/-- The inner loop of `get_UTF8_strlen`, over at most so many bytes.  At the end of the name it
reads the terminating NUL. -/
def skipContinuation : Nat → Bytes → Bytes
  | 0, p => p
  | _ + 1, [] => []
  | bytes + 1, c :: p => if isContinuation c then skipContinuation bytes p else c :: p

theorem skipContinuation_length (bytes : Nat) (p : Bytes) :
    (skipContinuation bytes p).length ≤ p.length := by
  induction bytes, p using skipContinuation.induct with
  | case1 p => exact Nat.le_refl _
  | case2 bytes => exact Nat.le_refl _
  | case3 bytes c p hc ih =>
      unfold skipContinuation
      rw [if_pos hc]
      exact Nat.le_succ_of_le ih
  | case4 bytes c p hc =>
      unfold skipContinuation
      rw [if_neg hc]

/-- The outer loop of `get_UTF8_strlen`: `char_size` and `chinese_size`. -/
def countChars : Bytes → Nat × Nat
  | [] => (0, 0)
  | c :: p =>
      if c < 0x80 then
        let (charSize, chineseSize) := countChars p
        (charSize + 1, chineseSize)
      else
        match leadBytes c with
        | none => (0, 0)
        | some bytes =>
            let (charSize, chineseSize) := countChars (skipContinuation bytes p)
            (charSize, chineseSize + 1)
  termination_by src => src.length
  decreasing_by
    · exact Nat.lt_succ_self _
    · exact Nat.lt_succ_of_le (skipContinuation_length ..)

/-- `get_UTF8_strlen` -/
def getUTF8Strlen (src : Bytes) : Nat := (countChars src).1 + (countChars src).2 * 2

/-- `tolower`, in the C locale -/
def lowerByte (c : UInt8) : UInt8 := if 65 ≤ c ∧ c ≤ 90 then c + 32 else c

/-- `boost::to_lower` -/
def toLower (roleName : Bytes) : Bytes := roleName.map lowerByte

/-- `includeUnlawfulLetter` -/
def includeUnlawfulLetter (roleName : Bytes) : Bool :=
  roleName.any fun c => c < 0x80 ∧ ¬ (97 ≤ c ∧ c ≤ 122 ∨ 48 ≤ c ∧ c ≤ 57)

/-- `checkRoleName` -/
def checkRoleName (strategy : RoleNameStrategy) (roleName : Bytes) : Bool :=
  let nameLen : Int := getUTF8Strlen roleName
  let checkStr := toLower roleName
  if nameLen < strategy.minNameLength then false
  else if nameLen > strategy.maxNameLength then false
  else if includeUnlawfulLetter checkStr then false
  else if isUnlawfulWord (processUnlawfulWord strategy.notAllowedWordList) checkStr then false
  else true

/-! ## §2. Characters. -/

/-- A character: an ASCII byte, or a lead byte with as many continuation bytes as it announces. -/
inductive IsChar : Bytes → Prop
  | ascii {c : UInt8} (h : c < 0x80) : IsChar [c]
  | multi {lead : UInt8} {rest : Bytes} (hlead : ¬ lead < 0x80)
      (hbytes : leadBytes lead = some rest.length) (hrest : ∀ c ∈ rest, isContinuation c = true) :
      IsChar (lead :: rest)

/-- 1 for an ASCII character and 2 for any other. -/
def weight : Bytes → Nat
  | [] => 0
  | c :: _ => if c < 0x80 then 1 else 2

/-- The weight of all characters of a name. -/
def totalWeight (chars : List Bytes) : Nat := (chars.map weight).sum

/-- An ASCII letter of either case, or a digit. -/
def IsLetterOrDigit (c : UInt8) : Prop :=
  65 ≤ c ∧ c ≤ 90 ∨ 97 ≤ c ∧ c ≤ 122 ∨ 48 ≤ c ∧ c ≤ 57

/-- **An accepted name has been checked to its last byte.** -/
def CheckedToLast (strategy : RoleNameStrategy) (roleName : Bytes) : Prop :=
  checkRoleName strategy roleName = true →
    ∃ chars : List Bytes, chars.flatten = roleName ∧ (∀ c ∈ chars, IsChar c) ∧
      strategy.minNameLength ≤ totalWeight chars ∧ totalWeight chars ≤ strategy.maxNameLength ∧
      ∀ c ∈ roleName, c < 0x80 → IsLetterOrDigit c

/-- The pieces that the decoding comes to: an ASCII byte, or a lead byte with the continuation bytes
that are there.  It stops at a byte that is neither ASCII nor a lead byte. -/
def pieces : Bytes → List Bytes
  | [] => []
  | c :: p =>
      if c < 0x80 then [c] :: pieces p
      else
        match leadBytes c with
        | none => []
        | some bytes =>
            (c :: (p.take bytes).takeWhile isContinuation) :: pieces (skipContinuation bytes p)
  termination_by src => src.length
  decreasing_by
    · exact Nat.lt_succ_self _
    · exact Nat.lt_succ_of_le (skipContinuation_length ..)

/-- The pieces are characters, and they are the whole name: no byte stops the decoding, and no
character is cut off. -/
def ReadToEnd (roleName : Bytes) : Prop :=
  (pieces roleName).flatten = roleName ∧ ∀ c ∈ pieces roleName, IsChar c

/-- The other reasons to refuse a name: the weight up to where the decoding stops, a letter or a
word. -/
def RefusedOtherwise (strategy : RoleNameStrategy) (roleName : Bytes) : Prop :=
  (totalWeight (pieces roleName) : Int) < strategy.minNameLength ∨
    strategy.maxNameLength < totalWeight (pieces roleName) ∨
    (∃ c ∈ roleName, c < 0x80 ∧ ¬ IsLetterOrDigit c) ∨
    ∃ word, word ≠ [] ∧ word <:+: toLower roleName ∧
      Trie.CameFirst strategy.notAllowedWordList word

/-! ## §3. The count. -/

theorem pieces_ascii {c : UInt8} (h : c < 0x80) (p : Bytes) : pieces (c :: p) = [c] :: pieces p := by
  rw [pieces, if_pos h]

theorem pieces_lead {c : UInt8} (h : ¬ c < 0x80) {bytes : Nat} (hbytes : leadBytes c = some bytes)
    (p : Bytes) : pieces (c :: p) =
      (c :: (p.take bytes).takeWhile isContinuation) :: pieces (skipContinuation bytes p) := by
  rw [pieces, if_neg h, hbytes]

theorem pieces_stop {c : UInt8} (h : ¬ c < 0x80) (hbytes : leadBytes c = none) (p : Bytes) :
    pieces (c :: p) = [] := by
  rw [pieces, if_neg h, hbytes]

/-- **The count** is the weight of the pieces. -/
theorem getUTF8Strlen_eq (src : Bytes) : getUTF8Strlen src = totalWeight (pieces src) := by
  unfold getUTF8Strlen totalWeight
  induction src using pieces.induct with
  | case1 => rw [pieces, countChars]; rfl
  | case2 c p hc ih =>
      rw [pieces_ascii hc, countChars, if_pos hc, List.map_cons, List.sum_cons, ← ih]
      show (countChars p).1 + 1 + (countChars p).2 * 2 = (if c < 0x80 then 1 else 2) + _
      rw [if_pos hc]
      omega
  | case3 c p hc hbytes =>
      rw [pieces_stop hc hbytes, countChars, if_neg hc, hbytes]
      rfl
  | case4 c p hc bytes hbytes ih =>
      rw [pieces_lead hc hbytes, countChars, if_neg hc, hbytes, List.map_cons, List.sum_cons, ← ih]
      show (countChars _).1 + ((countChars _).2 + 1) * 2 = (if c < 0x80 then 1 else 2) + _
      rw [if_neg hc]
      omega

/-! ## §4. Names made of characters. -/

theorem skipContinuation_append {rest : Bytes} (h : ∀ c ∈ rest, isContinuation c = true)
    (p : Bytes) : skipContinuation rest.length (rest ++ p) = p := by
  induction rest with
  | nil => rfl
  | cons c rest ih =>
      show (if isContinuation c then skipContinuation rest.length (rest ++ p) else _) = p
      rw [if_pos (h c List.mem_cons_self)]
      exact ih fun d hd => h d (List.mem_cons_of_mem _ hd)

/-- A character at the front is the first piece. -/
theorem pieces_append {ch : Bytes} (h : IsChar ch) (p : Bytes) :
    pieces (ch ++ p) = ch :: pieces p := by
  cases h with
  | ascii h => exact pieces_ascii h p
  | @multi lead rest hlead hbytes hrest =>
      have htake : ((rest ++ p).take rest.length).takeWhile isContinuation = rest := by
        rw [List.take_left]
        exact List.takeWhile_eq_self_iff.mpr hrest
      rw [List.cons_append, pieces_lead hlead hbytes, htake, skipContinuation_append hrest]

/-- **A name made of characters** has them as its pieces. -/
theorem pieces_flatten {chars : List Bytes} (h : ∀ c ∈ chars, IsChar c) :
    pieces chars.flatten = chars := by
  induction chars with
  | nil => rw [List.flatten_nil, pieces]
  | cons c chars ih =>
      rw [List.flatten_cons, pieces_append (h c List.mem_cons_self),
        ih fun d hd => h d (List.mem_cons_of_mem _ hd)]

theorem readToEnd_iff (roleName : Bytes) :
    ReadToEnd roleName ↔ ∃ chars : List Bytes, chars.flatten = roleName ∧ ∀ c ∈ chars, IsChar c := by
  constructor
  · intro h
    exact ⟨pieces roleName, h⟩
  · intro h
    obtain ⟨chars, hname, hchars⟩ := h
    unfold ReadToEnd
    rw [← hname, pieces_flatten hchars]
    exact ⟨rfl, hchars⟩

/-! ## §5. The letters. -/

/-- What putting into lower case does to a byte. -/
theorem lowerByte_cases (c : UInt8) :
    65 ≤ c ∧ c ≤ 90 ∧ (lowerByte c).toNat = c.toNat + 32 ∨ ¬ (65 ≤ c ∧ c ≤ 90) ∧ lowerByte c = c := by
  unfold lowerByte
  split
  · next hupper =>
      refine Or.inl ⟨hupper.1, hupper.2, ?_⟩
      have hle : c.toNat ≤ 90 := UInt8.le_iff_toNat_le.mp hupper.2
      have h32 : (32 : UInt8).toNat = 32 := rfl
      rw [UInt8.toNat_add, h32]
      omega
  · next hupper => exact Or.inr ⟨hupper, rfl⟩

/-- **A byte is refused** after it is put into lower case exactly if it is ASCII and neither a
letter nor a digit. -/
theorem lowerByte_unlawful_iff (c : UInt8) :
    lowerByte c < 0x80 ∧ ¬ (97 ≤ lowerByte c ∧ lowerByte c ≤ 122 ∨
      48 ≤ lowerByte c ∧ lowerByte c ≤ 57) ↔ c < 0x80 ∧ ¬ IsLetterOrDigit c := by
  unfold IsLetterOrDigit
  match lowerByte_cases c with
  | Or.inl ⟨hlow, hhigh, hsum⟩ =>
      have h65 : 65 ≤ c.toNat := UInt8.le_iff_toNat_le.mp hlow
      have h90 : c.toNat ≤ 90 := UInt8.le_iff_toNat_le.mp hhigh
      -- a capital letter is a small one then
      have hlower : 97 ≤ lowerByte c ∧ lowerByte c ≤ 122 := by
        constructor
        · refine UInt8.le_iff_toNat_le.mpr ?_
          show 97 ≤ (lowerByte c).toNat
          omega
        · refine UInt8.le_iff_toNat_le.mpr ?_
          show (lowerByte c).toNat ≤ 122
          omega
      exact iff_of_false (fun h => h.2 (Or.inl hlower)) (fun h => h.2 (Or.inl ⟨hlow, hhigh⟩))
  | Or.inr ⟨hupper, hsame⟩ => rw [hsame, or_iff_right hupper]

theorem includeUnlawfulLetter_iff (roleName : Bytes) :
    includeUnlawfulLetter (toLower roleName) = true ↔
      ∃ c ∈ roleName, c < 0x80 ∧ ¬ IsLetterOrDigit c := by
  unfold includeUnlawfulLetter toLower
  rw [List.any_eq_true]
  simp only [decide_eq_true_eq]
  constructor
  · intro h
    obtain ⟨low, hlow, hbad⟩ := h
    obtain ⟨c, hc, rfl⟩ := List.mem_map.mp hlow
    exact ⟨c, hc, (lowerByte_unlawful_iff c).mp hbad⟩
  · intro h
    obtain ⟨c, hc, hbad⟩ := h
    exact ⟨lowerByte c, List.mem_map.mpr ⟨c, hc, rfl⟩, (lowerByte_unlawful_iff c).mpr hbad⟩

/-! ## §6. Accepted names. -/

/-- **A name is accepted** exactly if there is no other reason to refuse it than that it cannot be
read. -/
theorem checkRoleName_iff (strategy : RoleNameStrategy) (roleName : Bytes) :
    checkRoleName strategy roleName = true ↔ ¬ RefusedOtherwise strategy roleName := by
  unfold checkRoleName RefusedOtherwise
  rw [← includeUnlawfulLetter_iff, ← isUnlawfulWord_iff, ← getUTF8Strlen_eq]
  dsimp only
  by_cases hmin : (getUTF8Strlen roleName : Int) < strategy.minNameLength
  · simp [hmin]
  · by_cases hmax : strategy.maxNameLength < (getUTF8Strlen roleName : Int)
    · simp [hmin, hmax]
    · by_cases hletter : includeUnlawfulLetter (toLower roleName) = true
      · simp [hmin, hmax, hletter]
      · by_cases hword : isUnlawfulWord (processUnlawfulWord strategy.notAllowedWordList)
          (toLower roleName) = true
        · simp [hmin, hmax, hletter, hword]
        · simp [hmin, hmax, hletter, hword]

/-- **An accepted name has been checked to its last byte** if and only if it can be read to its end
or is refused for another reason. -/
theorem checked_to_last_iff (strategy : RoleNameStrategy) (roleName : Bytes) :
    CheckedToLast strategy roleName ↔
      ReadToEnd roleName ∨ RefusedOtherwise strategy roleName := by
  unfold CheckedToLast
  rw [checkRoleName_iff]
  constructor
  · intro hchecked
    by_cases hrefused : RefusedOtherwise strategy roleName
    · exact Or.inr hrefused
    · obtain ⟨chars, hname, hchars, -⟩ := hchecked hrefused
      exact Or.inl ((readToEnd_iff roleName).mpr ⟨chars, hname, hchars⟩)
  · intro hread hrefused
    -- what was decoded is the whole name, so its checks are checks of the name
    obtain ⟨hname, hchars⟩ := hread.resolve_right hrefused
    refine ⟨pieces roleName, hname, hchars, ?_, ?_, ?_⟩
    · exact Int.not_lt.mp fun hmin => hrefused (Or.inl hmin)
    · exact Int.not_lt.mp fun hmax => hrefused (Or.inr (Or.inl hmax))
    · intro c hc hascii
      by_contra hletter
      exact hrefused (Or.inr (Or.inr (Or.inl ⟨c, hc, hascii, hletter⟩)))

/-- **The defect**: after "abcd" and a byte that begins no character, what comes behind is not
looked at. -/
theorem stray_byte_accepted :
    ¬ ∀ (strategy : RoleNameStrategy) (roleName : Bytes), CheckedToLast strategy roleName := by
  intro hall
  have hpieces : pieces [97, 98, 99, 100, 0xFF, 101] = [[97], [98], [99], [100]] := by
    rw [pieces_ascii (by decide), pieces_ascii (by decide), pieces_ascii (by decide),
      pieces_ascii (by decide), pieces_stop (by decide) (by decide)]
  have haccepted : checkRoleName {} [97, 98, 99, 100, 0xFF, 101] = true := by
    unfold checkRoleName
    rw [getUTF8Strlen_eq, hpieces]
    decide
  obtain ⟨chars, hname, hchars, -⟩ := hall {} [97, 98, 99, 100, 0xFF, 101] haccepted
  have hsame := pieces_flatten hchars
  rw [hname, hpieces] at hsame
  rw [← hsame] at hname
  exact absurd hname (by decide)

end Steppingstone.Charsys
