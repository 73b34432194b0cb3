/-
  Steppingstone.Md5.Streaming — the digest of a message that is appended in parts.

  The digest is that of the padded message, block by block: a bit, zeros up to 56 bytes modulo 64,
  and the length in bits in 64 bits.  `md5_append` never sees the message as a whole, and
  `md5_finish` pads with the counter it kept.
-/
import Mathlib.Tactic.Ring
import Steppingstone.Lib.BlockHash
import Steppingstone.Md5.Model

namespace Steppingstone.Md5

open BlockHash (absorb feed)

/-! ## §1. The digest of a message. -/

/-- The registers before the first block. -/
def initial : Registers := (md5Init (Vector.replicate 64 0)).abcd

theorem block_pos : 0 < 64 := by decide

/-- The registers after the blocks of a message, and what is left over. -/
abbrev absorbed (msg : List UInt8) : Registers × List UInt8 :=
  absorb 64 block_pos md5Process initial msg

/-- A bit, zeros, and the low 64 bits of the length in bits. -/
def padding (length : Nat) : List UInt8 :=
  0x80 :: List.replicate ((119 - length % 64) % 64) 0 ++ LittleEndian.toBytes 8 (8 * length)

/-- **The digest** of a message. -/
def digest (msg : List UInt8) : List UInt8 :=
  digestBytes (absorbed (msg ++ padding msg.length)).1

/-! ## §2. What a state says about the message so far. -/

/-- The length in bits is counted modulo `2^64`, the registers are those after the whole blocks,
and the buffer begins with what is left over. -/
structure Represents (pms : State) (msg : List UInt8) : Prop where
  count : pms.count0.toNat + 2 ^ 32 * pms.count1.toNat = 8 * msg.length % 2 ^ 64
  blocks : (pms.abcd, pms.buf.toList.take (msg.length % 64)) = absorbed msg

theorem represents_init (junk : Vector UInt8 64) : Represents (md5Init junk) [] where
  count := rfl
  blocks := rfl

/-- Where the rest of a block begins. -/
theorem Represents.offset {pms : State} {msg : List UInt8} (h : Represents pms msg) :
    ((pms.count0 >>> 3) &&& 63).toNat = msg.length % 64 := by
  have hcount := h.count
  have hlt := pms.count0.toNat_lt
  have hshift : (pms.count0 >>> 3).toNat = pms.count0.toNat / 8 := by
    rw [UInt32.toNat_shiftRight]
    exact Nat.shiftRight_eq_div_pow ..
  rw [UInt32.toNat_and, hshift]
  show pms.count0.toNat / 8 &&& (2 ^ 6 - 1) = _
  rw [Nat.and_two_pow_sub_one_eq_mod]
  omega

/-! ## §3. Appending. -/

/-- What was copied stands behind what was there. -/
theorem memcpy_take {b : Vector UInt8 64} {offset : Nat} {p : List UInt8}
    (h : offset + p.length ≤ 64) :
    (memcpy b offset p).toList.take (offset + p.length) = b.toList.take offset ++ p := by
  have hoffset : (b.toList.take offset).length = offset := by
    rw [List.length_take, Vector.length_toList]
    omega
  refine List.ext_getElem ?_ ?_
  · rw [List.length_take, List.length_append, hoffset, Vector.length_toList]
    omega
  · intro i hi hi'
    have hlen : i < offset + p.length := by
      rw [List.length_append, hoffset] at hi'
      exact hi'
    have hget : ((memcpy b offset p).toList.take (offset + p.length))[i]
        = if offset ≤ i then p[i - offset]?.getD (b.get ⟨i, by omega⟩)
          else b.get ⟨i, by omega⟩ := by
      simp [memcpy, Vector.get]
    rw [hget]
    by_cases hle : offset ≤ i
    · rw [if_pos hle, List.getElem_append_right (by omega)]
      simp [hoffset, List.getElem?_eq_getElem (show i - offset < p.length by omega)]
    · rw [if_neg hle, List.getElem_append_left (by omega)]
      simp [Vector.get]

/-- The loop takes the whole blocks off. -/
theorem processBlocks_eq (abcd : Registers) (p : List UInt8) :
    processBlocks abcd p = absorb 64 block_pos md5Process abcd p := by
  induction abcd, p using processBlocks.induct with
  | case1 abcd p hle ih =>
      have htake : (p.take 64).length = 64 := List.length_take_of_le hle
      have hblock : absorb 64 block_pos md5Process abcd (p.take 64 ++ p.drop 64)
          = absorb 64 block_pos md5Process (md5Process abcd (p.take 64)) (p.drop 64) :=
        BlockHash.absorb_block htake
      rw [processBlocks, dif_pos hle, ih, ← hblock, List.take_append_drop]
  | case2 abcd p hlt =>
      rw [processBlocks, dif_neg hlt, BlockHash.absorb_of_lt (Nat.lt_of_not_le hlt)]

/-- From the blocks on. -/
theorem appendBlocks_eq (pms : State) (p : List UInt8) :
    ((appendBlocks pms p).abcd, (appendBlocks pms p).buf.toList.take (p.length % 64))
      = absorb 64 block_pos md5Process pms.abcd p := by
  have hleft : (absorb 64 block_pos md5Process pms.abcd p).2.length = p.length % 64 :=
    BlockHash.absorb_left_length pms.abcd p
  have hlen : (processBlocks pms.abcd p).2.length = p.length % 64 := by
    rw [processBlocks_eq]
    exact hleft
  have hfits : 0 + (processBlocks pms.abcd p).2.length ≤ 64 := by omega
  have hcopy := memcpy_take (b := pms.buf) hfits
  rw [Nat.zero_add, List.take_zero, List.nil_append, hlen] at hcopy
  rw [← processBlocks_eq]
  exact Prod.ext rfl hcopy

/-- The count goes on, with a carry. -/
theorem addCount_count {pms : State} {nbytes bits : Nat} (hn : nbytes < 2 ^ 28)
    (h : pms.count0.toNat + 2 ^ 32 * pms.count1.toNat = bits % 2 ^ 64) :
    (addCount pms nbytes).count0.toNat + 2 ^ 32 * (addCount pms nbytes).count1.toNat
      = (bits + 8 * nbytes) % 2 ^ 64 := by
  have h0 := pms.count0.toNat_lt
  have h1 := pms.count1.toNat_lt
  have hbits : (UInt32.ofNat nbytes <<< 3).toNat = 8 * nbytes := by
    rw [UInt32.toNat_shiftLeft, UInt32.toNat_ofNat']
    show (nbytes % 2 ^ 32) <<< 3 % 2 ^ 32 = _
    rw [Nat.shiftLeft_eq]
    omega
  have hhigh : UInt32.ofNat (nbytes >>> 29) = 0 := by
    rw [Nat.shiftRight_eq_div_pow, Nat.div_eq_of_lt (by omega)]
    rfl
  have hsum : (pms.count0 + UInt32.ofNat nbytes <<< 3).toNat
      = (pms.count0.toNat + 8 * nbytes) % 2 ^ 32 := by
    rw [UInt32.toNat_add, hbits]
  unfold addCount
  rw [hhigh, UInt32.add_zero]
  show (pms.count0 + UInt32.ofNat nbytes <<< 3).toNat + 2 ^ 32 *
    (if pms.count0 + UInt32.ofNat nbytes <<< 3 < UInt32.ofNat nbytes <<< 3 then pms.count1 + 1
      else pms.count1).toNat = _
  -- the sum of the low words came round exactly if it is below what was added
  by_cases hcarry : pms.count0 + UInt32.ofNat nbytes <<< 3 < UInt32.ofNat nbytes <<< 3
  · have hlt := UInt32.lt_iff_toNat_lt.mp hcarry
    rw [hsum, hbits] at hlt
    rw [if_pos hcarry, hsum, UInt32.toNat_add]
    show _ + 2 ^ 32 * ((pms.count1.toNat + 1) % 2 ^ 32) = _
    omega
  · have hge : ¬ (pms.count0 + UInt32.ofNat nbytes <<< 3).toNat
        < (UInt32.ofNat nbytes <<< 3).toNat :=
      fun hlt => hcarry (UInt32.lt_iff_toNat_lt.mpr hlt)
    rw [hsum, hbits] at hge
    rw [if_neg hcarry, hsum]
    omega

/-- The length is counted, whatever is done with the bytes. -/
theorem append_count {pms : State} {data : List UInt8} (hne : data.length ≠ 0) :
    (md5Append pms data).count0 = (addCount pms data.length).count0 ∧
      (md5Append pms data).count1 = (addCount pms data.length).count1 := by
  unfold md5Append
  rw [if_neg hne]
  dsimp only
  constructor
  · repeat' split
    all_goals rfl
  · repeat' split
    all_goals rfl

/-- The bytes are taken as if they stood behind those that are in the buffer. -/
theorem append_blocks {pms : State} {data : List UInt8} (hne : data.length ≠ 0) {o : Nat}
    (ho : ((pms.count0 >>> 3) &&& 63).toNat = o) (hlt : o < 64) :
    ((md5Append pms data).abcd, (md5Append pms data).buf.toList.take ((o + data.length) % 64))
      = absorb 64 block_pos md5Process pms.abcd (pms.buf.toList.take o ++ data) := by
  have hleft : (pms.buf.toList.take o).length = o := by
    rw [List.length_take, Vector.length_toList]
    omega
  unfold md5Append
  rw [if_neg hne, ho]
  dsimp only
  by_cases h0 : o = 0
  · -- nothing waits
    subst h0
    rw [if_neg (by omega), Nat.zero_add, List.take_zero, List.nil_append]
    exact appendBlocks_eq (addCount pms data.length) data
  rw [if_pos h0]
  by_cases hfull : o + data.length < 64
  · -- the block stays incomplete
    have hcopy : ¬ o + data.length > 64 := by omega
    rw [if_neg hcopy, if_pos hfull, List.take_of_length_le (Nat.le_refl _),
      BlockHash.absorb_of_lt (by rw [List.length_append, hleft]; exact hfull),
      Nat.mod_eq_of_lt hfull]
    exact Prod.ext rfl (memcpy_take (by omega))
  · -- the block is completed, and the rest follows
    have hcopy : (if o + data.length > 64 then 64 - o else data.length) = 64 - o := by
      split <;> omega
    rw [hcopy, if_neg (by omega)]
    have htaken : (data.take (64 - o)).length = 64 - o := List.length_take_of_le (by omega)
    have hmem := memcpy_take (b := pms.buf) (show o + (data.take (64 - o)).length ≤ 64 by omega)
    have hall : o + (data.take (64 - o)).length = 64 := by omega
    rw [hall, List.take_of_length_le (by rw [Vector.length_toList])] at hmem
    have hblock : (pms.buf.toList.take o ++ data.take (64 - o)).length = 64 := by
      rw [List.length_append, hleft, hall]
    have hdrop : (data.drop (64 - o)).length % 64 = (o + data.length) % 64 := by
      rw [List.length_drop]
      omega
    have hsplit : pms.buf.toList.take o ++ data
        = (pms.buf.toList.take o ++ data.take (64 - o)) ++ data.drop (64 - o) := by
      rw [List.append_assoc, List.take_append_drop]
    rw [hsplit, BlockHash.absorb_block hblock, ← hmem, ← hdrop]
    exact appendBlocks_eq _ _

/-- **One part more.** -/
theorem represents_append {pms : State} {msg data : List UInt8} (h : Represents pms msg)
    (hn : data.length < 2 ^ 28) : Represents (md5Append pms data) (msg ++ data) := by
  by_cases hempty : data.length = 0
  · have hnil : data = [] := List.length_eq_zero_iff.mp hempty
    subst hnil
    rw [List.append_nil]
    exact h
  have hlen : (msg ++ data).length = msg.length + data.length := List.length_append
  constructor
  · obtain ⟨h0, h1⟩ : (md5Append pms data).count0 = (addCount pms data.length).count0 ∧
        (md5Append pms data).count1 = (addCount pms data.length).count1 := append_count hempty
    rw [h0, h1, hlen, Nat.mul_add]
    exact addCount_count hn h.count
  · have hbytes := append_blocks hempty h.offset (Nat.mod_lt _ block_pos)
    have hwhole : absorbed (msg ++ data) = feed 64 block_pos md5Process (absorbed msg) data :=
      BlockHash.absorb_append initial msg data
    rw [← h.blocks] at hwhole
    rw [hwhole, hlen, ← Nat.mod_add_mod]
    exact hbytes

theorem represents_foldl {pms : State} {msg : List UInt8} {parts : List (List UInt8)}
    (h : Represents pms msg) (hn : ∀ part ∈ parts, part.length < 2 ^ 28) :
    Represents (parts.foldl md5Append pms) (msg ++ parts.flatten) := by
  induction parts generalizing pms msg with
  | nil =>
      rw [List.flatten_nil, List.append_nil]
      exact h
  | cons part parts ih =>
      obtain ⟨hpart, hparts⟩ := List.forall_mem_cons.mp hn
      rw [List.foldl_cons, List.flatten_cons, ← List.append_assoc]
      exact ih (represents_append h hpart) hparts

/-! ## §4. Finishing. -/

/-- Two words are the low 64 bits of the length. -/
theorem wordBytes_count {pms : State} {v : Nat}
    (h : pms.count0.toNat + 2 ^ 32 * pms.count1.toNat = v % 2 ^ 64) :
    wordBytes pms.count0 ++ wordBytes pms.count1 = LittleEndian.toBytes 8 v := by
  have h0 := pms.count0.toNat_lt
  have h1 := pms.count1.toNat_lt
  unfold wordBytes
  simp only [LittleEndian.toBytes, List.cons_append, List.nil_append, Nat.div_div_eq_div_mul]
  -- each byte of the words is the byte of the length at its place
  have hbyte : ∀ x y : Nat, x % 256 = y % 256 → UInt8.ofNat x = UInt8.ofNat y := by
    intro x y hxy
    rw [← UInt8.toNat_inj, UInt8.toNat_ofNat', UInt8.toNat_ofNat']
    exact hxy
  iterate 7 refine congr_arg₂ _ (hbyte _ _ (by omega)) ?_
  exact congr_arg₂ _ (hbyte _ _ (by omega)) rfl

/-- How many bytes are padded. -/
theorem padLength_toNat {pms : State} {msg : List UInt8} (h : Represents pms msg) :
    ((((55 : UInt32) - (pms.count0 >>> 3)) &&& 63) + 1).toNat
      = (119 - msg.length % 64) % 64 + 1 := by
  have hcount := h.count
  have hlt := pms.count0.toNat_lt
  have hshift : (pms.count0 >>> 3).toNat = pms.count0.toNat / 8 := by
    rw [UInt32.toNat_shiftRight]
    exact Nat.shiftRight_eq_div_pow ..
  have hand : (((55 : UInt32) - (pms.count0 >>> 3)) &&& 63).toNat
      = (119 - msg.length % 64) % 64 := by
    rw [UInt32.toNat_and, UInt32.toNat_sub, hshift]
    show (2 ^ 32 - pms.count0.toNat / 8 + 55) % 2 ^ 32 &&& (2 ^ 6 - 1) = _
    rw [Nat.and_two_pow_sub_one_eq_mod]
    omega
  rw [UInt32.toNat_add, hand]
  show (_ + 1) % 2 ^ 32 = _
  omega

theorem pad_take {z : Nat} (h : z < 64) : pad.take (z + 1) = 0x80 :: List.replicate z 0 := by
  show 0x80 :: (List.replicate 63 0).take z = _
  rw [List.take_replicate, Nat.min_eq_left (by omega)]

/-- **Finishing** gives the digest of the message so far. -/
theorem finish_represents {pms : State} {msg : List UInt8} (h : Represents pms msg) :
    md5Finish pms = digest msg := by
  unfold md5Finish
  dsimp only
  rw [padLength_toNat h, pad_take (Nat.mod_lt _ block_pos), wordBytes_count h.count]
  have hzeros :
      (0x80 :: List.replicate ((119 - msg.length % 64) % 64) (0 : UInt8)).length < 2 ^ 28 := by
    rw [List.length_cons, List.length_replicate]
    omega
  have hlength : (LittleEndian.toBytes 8 (8 * msg.length)).length < 2 ^ 28 := by
    rw [LittleEndian.length_toBytes]
    decide
  have hlast := represents_append (represents_append h hzeros) hlength
  have hblocks := congrArg Prod.fst hlast.blocks
  rw [List.append_assoc] at hblocks
  unfold digest padding
  exact congrArg digestBytes hblocks

/-- **In any parts**: appending a message part by part and finishing gives the digest of the whole
message, whatever the buffer held before. -/
theorem md5_of_parts (junk : Vector UInt8 64) (parts : List (List UInt8))
    (hn : ∀ part ∈ parts, part.length < 2 ^ 28) :
    md5Finish (parts.foldl md5Append (md5Init junk)) = digest parts.flatten :=
  finish_represents (represents_foldl (represents_init junk) hn)

/-- The digest of 70 bytes, which come in three parts. -/
theorem md5_of_parts_three :
    (∀ part ∈ [List.replicate 9 97, List.replicate 60 98, ([99] : List UInt8)],
        part.length < 2 ^ 28) ∧
      md5Finish ([List.replicate 9 97, List.replicate 60 98, [99]].foldl md5Append
        (md5Init (Vector.replicate 64 7)))
        = digest [List.replicate 9 97, List.replicate 60 98, [99]].flatten := by
  have hn : ∀ part ∈ [List.replicate 9 97, List.replicate 60 98, ([99] : List UInt8)],
      part.length < 2 ^ 28 := by
    intro part hpart
    have hlen : part.length = 9 ∨ part.length = 60 ∨ part.length = 1 := by
      simp only [List.mem_cons, List.not_mem_nil, or_false] at hpart
      rcases hpart with rfl | rfl | rfl
      · exact .inl List.length_replicate
      · exact .inr (.inl List.length_replicate)
      · exact .inr (.inr rfl)
    omega
  exact ⟨hn, md5_of_parts _ _ hn⟩

/-- `abc`, as the digest's documents give it -/
example : md5Encode (Vector.replicate 64 7) [97, 98, 99] =
    [57, 48, 48, 49, 53, 48, 57, 56, 51, 99, 100, 50, 52, 102, 98, 48, 100, 54, 57, 54, 51, 102, 55,
      100, 50, 56, 101, 49, 55, 102, 55, 50] := by decide +kernel

/-! ## §5. Robots. -/

theorem hex_digest_ne_nil (msg : List UInt8) : hex (digest msg) ≠ [] := by
  unfold digest digestBytes wordBytes hex
  simp [LittleEndian.toBytes]

/-- **A player stays the robot** it says it is exactly with the digest of its id, the security key
and its account. -/
theorem robot_validated_iff (junk : Vector UInt8 64) (key : List UInt8) (player : Player)
    (hlen : (decimal player.robotId.toInt32.toInt ++ key ++ player.account).length < 2 ^ 28) :
    initRobotInfo junk key player = player ↔ player.robotId = 0 ∨
      player.robotValidate
        = hex (digest (decimal player.robotId.toInt32.toInt ++ key ++ player.account)) := by
  have hencode : md5Encode junk (decimal player.robotId.toInt32.toInt ++ key ++ player.account)
      = hex (digest (decimal player.robotId.toInt32.toInt ++ key ++ player.account)) := by
    have hone := represents_append (represents_init junk) hlen
    rw [List.nil_append] at hone
    exact congrArg hex (finish_represents hone)
  unfold initRobotInfo
  by_cases h0 : player.robotId = 0
  · rw [if_pos h0]
    exact ⟨fun _ => .inl h0, fun _ => rfl⟩
  rw [if_neg h0]
  dsimp only
  rw [hencode]
  by_cases hvalid : hex (digest (decimal player.robotId.toInt32.toInt ++ key ++ player.account))
      = player.robotValidate
  · have hne : player.robotValidate.isEmpty = false := by
      rw [← hvalid]
      exact List.isEmpty_eq_false_iff.mpr (hex_digest_ne_nil _)
    rw [hne, hvalid, beq_self_eq_true]
    exact ⟨fun _ => .inr rfl, fun _ => rfl⟩
  · have hbeq : (hex (digest (decimal player.robotId.toInt32.toInt ++ key ++ player.account))
        == player.robotValidate) = false := beq_eq_false_iff_ne.mpr hvalid
    rw [hbeq, Bool.and_false]
    constructor
    · intro h
      exact absurd (congrArg Player.robotId h).symm h0
    · intro h
      rcases h with h | h
      · exact absurd h h0
      · exact absurd h.symm hvalid

end Steppingstone.Md5
