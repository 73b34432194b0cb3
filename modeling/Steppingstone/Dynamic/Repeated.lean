/-
  Steppingstone.Dynamic.Repeated — what a repeated field gives back of its column.

  The column begins with the number of values.  Numbers follow byte by byte; strings and nested
  messages follow with their lengths, which count a terminating zero.  The loop over nested messages
  parses each buffer; the loop over strings fills the buffer and adds the whole column instead.
-/
import Steppingstone.Dynamic.RoundTrip

namespace Steppingstone.Dynamic

open SqlText

variable {Sub : Type}

/-! ## §1. Nested messages. -/

/-- A terminating zero is a tag that ends a message: what was parsed before it is kept, and the
result of `ParseFromString` is not looked at.  No message is longer than an `int`. -/
structure Codec.Terminated (C : Codec Sub) : Prop where
  parse_serialize : ∀ s, C.parse (C.serialize s ++ [0]) = s
  length_lt : ∀ s, (C.serialize s).length < 2 ^ 31

/-- **The loop finds every value**, with its terminating zero. -/
theorem readBuffers_writeStrings {vs : List (List UInt8)} (h : ∀ v ∈ vs, v.length + 1 < 256 ^ 4) :
    readBuffers vs.length (vs.flatMap fun v => uint32Bytes (v.length + 1) ++ (v ++ [0]))
      = vs.map (· ++ [0]) := by
  induction vs with
  | nil => rfl
  | cons v vs ih =>
      have hsize := readUint32_write (h v List.mem_cons_self)
      have hlength : v.length + 1 = (v ++ [0]).length := by
        rw [List.length_append]
        rfl
      rw [List.flatMap_cons, List.length_cons, List.append_assoc]
      unfold readBuffers
      dsimp only
      rw [hsize, drop_uint32, hlength, List.take_left, List.drop_left,
        ih fun u hu => h u (List.mem_cons_of_mem _ hu), List.map_cons]
      -- the buffer is full
      have hfull : ∀ rest : List UInt8, (v ++ [0]).length - (v ++ [0] ++ rest).length = 0 := by
        intro rest
        have hsum : (v ++ [0] ++ rest).length = (v ++ [0]).length + rest.length :=
          List.length_append
        omega
      rw [hfull, List.replicate_zero, List.append_nil]

/-- Repeated messages come back from their column. -/
theorem messages_survive {C : Codec Sub} (hC : C.Terminated) (m : Message Sub) {f : Field}
    (hl : f.label = .repeated) (ht : f.type = .message) (ss : List Sub) (hm : m f = ss.map .sub)
    (hlen : ss.length < 256 ^ 4) :
    ∃ bytes, columnText C m f = some [.quoted bytes] ∧
      loadColumn C f (.bytes bytes) = .ok (m f) := by
  have hstr : ¬ f.type.isString := by
    rw [ht]
    decide
  refine ⟨writeStrings (ss.map C.serialize), ?_, ?_⟩
  · unfold columnText
    rw [if_pos (Or.inl hl), if_neg hstr, if_pos ht, if_pos hl, hm, List.map_map]
    rfl
  · have hsmall : ∀ v ∈ ss.map C.serialize, v.length + 1 < 256 ^ 4 := by
      intro v hv
      obtain ⟨s, -, rfl⟩ := List.mem_map.mp hv
      have hlt := hC.length_lt s
      omega
    have hnum : readUint32 (cellBytes (.bytes (writeStrings (ss.map C.serialize)))) = ss.length := by
      show readUint32 (uint32Bytes (ss.map C.serialize).length ++ _) = _
      rw [List.length_map, readUint32_write hlen]
    have hdrop : (cellBytes (.bytes (writeStrings (ss.map C.serialize)))).drop 4
        = (ss.map C.serialize).flatMap fun v => uint32Bytes (v.length + 1) ++ (v ++ [0]) :=
      drop_uint32 _ _
    have hcount : ss.length = (ss.map C.serialize).length := (List.length_map ..).symm
    unfold loadColumn
    simp only [if_pos (Or.inl hl), if_neg hstr, if_pos ht, if_pos hl, hnum, hdrop]
    rw [hcount, readBuffers_writeStrings hsmall, List.map_map, List.map_map, hm]
    refine congrArg Except.ok (List.map_congr_left fun s _ => ?_)
    exact congrArg Scalar.sub (hC.parse_serialize s)

/-! ## §2. Every repeated field. -/

/-- The values of a field have its type: one of the four number types, a string type, or a message
type. -/
inductive Typed : FieldType → List (Scalar Sub) → Prop
  | numbers {t : FieldType} {width : Nat} (hw : t.width? = some width) (vs : List Int)
      (h : ∀ v ∈ vs, InRange width t.signed v) : Typed t (vs.map .int)
  | strings {t : FieldType} (hs : t.isString) (vs : List (List UInt8)) : Typed t (vs.map .data)
  | messages (ss : List Sub) : Typed .message (ss.map .sub)

/-- The field comes back from the column that is written for it. -/
def ColumnRoundTrips (C : Codec Sub) (m : Message Sub) (f : Field) : Prop :=
  ∃ bytes, columnText C m f = some [.quoted bytes] ∧ loadColumn C f (.bytes bytes) = .ok (m f)

/-- **A repeated field comes back from its column exactly if it is not one of strings, or is
empty.** -/
theorem repeated_iff {C : Codec Sub} (hC : C.Terminated) (m : Message Sub) (f : Field)
    (hl : f.label = .repeated) (hm : Typed f.type (m f)) (hsize : (m f).length < 2 ^ 31) :
    ColumnRoundTrips C m f ↔ ¬ f.type.isString ∨ m f = [] := by
  generalize ht : f.type = t at hm
  generalize hv : m f = values at hm hsize
  -- numbers come back as they are, strings as the whole column, messages by their own codec
  cases hm with
  | numbers hw vs hrange =>
      have hlen : vs.length < 256 ^ 4 := by
        rw [List.length_map] at hsize
        omega
      have hnot : ¬ t.isString := by
        rintro (rfl | rfl) <;> cases hw
      subst ht
      exact iff_of_true (numbers_survive C m hl hw vs hv hrange hlen) (.inl hnot)
  | strings hs vs =>
      have hlen : vs.length < 256 ^ 4 := by
        rw [List.length_map] at hsize
        omega
      subst ht
      obtain ⟨bytes, htext, hload⟩ := strings_survive_iff C m hl hs vs hv hlen
      rw [or_iff_right (not_not.mpr hs), List.map_eq_nil_iff, ← hload]
      constructor
      · rintro ⟨bytes', htext', hback⟩
        have hsame : bytes' = bytes := by
          rw [htext] at htext'
          injection htext' with hlist
          injection hlist with hsym
          injection hsym with hbytes
          exact hbytes.symm
        rw [← hsame]
        exact hback
      · intro hback
        exact ⟨bytes, htext, hback⟩
  | messages ss =>
      have hlen : ss.length < 256 ^ 4 := by
        rw [List.length_map] at hsize
        omega
      exact iff_of_true (messages_survive hC m hl ht ss hv hlen) (.inl (by decide))

/-! ## §3. One field of each kind. -/

/-- A message with one optional `uint32`, which is field 1 and fits into seven bits. -/
def smallCodec : Codec (Option (Fin 128)) where
  serialize s := s.elim [] fun n => [8, UInt8.ofNat n]
  parse bytes :=
    match bytes with
    | 8 :: b :: _ => if h : b.toNat < 128 then some ⟨b.toNat, h⟩ else none
    | _ => none

theorem smallCodec_terminated : smallCodec.Terminated where
  parse_serialize s := by
    cases s with
    | none => rfl
    | some n =>
        revert n
        decide
  length_lt s := by
    cases s with
    | none => exact (by decide : (0 : Nat) < 2 ^ 31)
    | some n => exact (by decide : (2 : Nat) < 2 ^ 31)

/-- A repeated field, and the message that holds three values in it. -/
def marks : Field := ⟨"marks", .repeated, .message⟩

/-- A repeated message field with three elements, the second of them empty. -/
def threeMarks : Message (Option (Fin 128)) := fun _ => [.sub (some 7), .sub none, .sub (some 9)]

theorem repeated_iff_marks : ColumnRoundTrips smallCodec threeMarks marks :=
  (repeated_iff smallCodec_terminated threeMarks marks rfl
    (Typed.messages [some 7, none, some 9]) (by decide)).mpr (.inl (by decide))

/-- A repeated text field. -/
def names : Field := ⟨"names", .repeated, .string⟩

/-- The one string `a`. -/
def oneName : Message Unit := fun _ => [.data [97]]

/-- **One string does not come back**: what is loaded is the column. -/
theorem string_lost :
    columnText noCodec oneName names = some [.quoted [1, 0, 0, 0, 2, 0, 0, 0, 97, 0]] ∧
      loadColumn noCodec names (.bytes [1, 0, 0, 0, 2, 0, 0, 0, 97, 0])
        = .ok [.data [1, 0, 0, 0, 2, 0, 0, 0, 97, 0]] ∧
      ¬ ColumnRoundTrips noCodec oneName names := by
  have htext : columnText noCodec oneName names
      = some [.quoted [1, 0, 0, 0, 2, 0, 0, 0, 97, 0]] := rfl
  refine ⟨htext, rfl, ?_⟩
  rintro ⟨bytes, hbytes, hload⟩
  rw [htext] at hbytes
  injection hbytes with hlist
  injection hlist with hsym
  injection hsym with hsame
  subst hsame
  have hback : (Except.ok [.data [1, 0, 0, 0, 2, 0, 0, 0, 97, 0]] :
      Except LoadError (List (Scalar Unit))) = .ok [.data [97]] := hload
  injection hback with hvalues
  injection hvalues with hvalue
  injection hvalue with hdata
  exact absurd hdata (by decide)

end Steppingstone.Dynamic
