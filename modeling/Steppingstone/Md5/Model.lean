/-
  Steppingstone.Md5.Model — the digest of the robots (`md5.cpp`, `md5.h`, and `md5_encode` and
  `init_robot_info` of `ManagePlayer.cpp`).

  A message is appended in parts.  Blocks of 64 bytes change four registers; the bytes of a block
  that is not complete are kept, and the length is counted in bits, in two words.
-/
import Mathlib.Data.List.Basic
import Steppingstone.Lib.LittleEndian

namespace Steppingstone.Md5

/-! ## §1. One block. -/

/-- `abcd` -/
structure Registers where
  a : UInt32
  b : UInt32
  c : UInt32
  d : UInt32
  deriving DecidableEq, Repr

/-- What the arguments of a `SET` say: which word, how far to rotate, and which constant. -/
structure Op where
  k : Nat
  s : UInt32
  t : UInt32

/-- The mask of 32 bits. -/
def T_MASK : UInt32 := 0xFFFFFFFF

/-- Round 1 -/
def round1 : List Op :=
  [⟨0, 7, T_MASK ^^^ 0x28955b87⟩, ⟨1, 12, T_MASK ^^^ 0x173848a9⟩, ⟨2, 17, 0x242070db⟩,
   ⟨3, 22, T_MASK ^^^ 0x3e423111⟩, ⟨4, 7, T_MASK ^^^ 0x0a83f050⟩, ⟨5, 12, 0x4787c62a⟩,
   ⟨6, 17, T_MASK ^^^ 0x57cfb9ec⟩, ⟨7, 22, T_MASK ^^^ 0x02b96afe⟩, ⟨8, 7, 0x698098d8⟩,
   ⟨9, 12, T_MASK ^^^ 0x74bb0850⟩, ⟨10, 17, T_MASK ^^^ 0x0000a44e⟩,
   ⟨11, 22, T_MASK ^^^ 0x76a32841⟩, ⟨12, 7, 0x6b901122⟩, ⟨13, 12, T_MASK ^^^ 0x02678e6c⟩,
   ⟨14, 17, T_MASK ^^^ 0x5986bc71⟩, ⟨15, 22, 0x49b40821⟩]

/-- Round 2 -/
def round2 : List Op :=
  [⟨1, 5, T_MASK ^^^ 0x09e1da9d⟩, ⟨6, 9, T_MASK ^^^ 0x3fbf4cbf⟩, ⟨11, 14, 0x265e5a51⟩,
   ⟨0, 20, T_MASK ^^^ 0x16493855⟩, ⟨5, 5, T_MASK ^^^ 0x29d0efa2⟩, ⟨10, 9, 0x02441453⟩,
   ⟨15, 14, T_MASK ^^^ 0x275e197e⟩, ⟨4, 20, T_MASK ^^^ 0x182c0437⟩, ⟨9, 5, 0x21e1cde6⟩,
   ⟨14, 9, T_MASK ^^^ 0x3cc8f829⟩, ⟨3, 14, T_MASK ^^^ 0x0b2af278⟩, ⟨8, 20, 0x455a14ed⟩,
   ⟨13, 5, T_MASK ^^^ 0x561c16fa⟩, ⟨2, 9, T_MASK ^^^ 0x03105c07⟩, ⟨7, 14, 0x676f02d9⟩,
   ⟨12, 20, T_MASK ^^^ 0x72d5b375⟩]

/-- Round 3 -/
def round3 : List Op :=
  [⟨5, 4, T_MASK ^^^ 0x0005c6bd⟩, ⟨8, 11, T_MASK ^^^ 0x788e097e⟩, ⟨11, 16, 0x6d9d6122⟩,
   ⟨14, 23, T_MASK ^^^ 0x021ac7f3⟩, ⟨1, 4, T_MASK ^^^ 0x5b4115bb⟩, ⟨4, 11, 0x4bdecfa9⟩,
   ⟨7, 16, T_MASK ^^^ 0x0944b49f⟩, ⟨10, 23, T_MASK ^^^ 0x4140438f⟩, ⟨13, 4, 0x289b7ec6⟩,
   ⟨0, 11, T_MASK ^^^ 0x155ed805⟩, ⟨3, 16, T_MASK ^^^ 0x2b10cf7a⟩, ⟨6, 23, 0x04881d05⟩,
   ⟨9, 4, T_MASK ^^^ 0x262b2fc6⟩, ⟨12, 11, T_MASK ^^^ 0x1924661a⟩, ⟨15, 16, 0x1fa27cf8⟩,
   ⟨2, 23, T_MASK ^^^ 0x3b53a99a⟩]

/-- Round 4 -/
def round4 : List Op :=
  [⟨0, 6, T_MASK ^^^ 0x0bd6ddbb⟩, ⟨7, 10, 0x432aff97⟩, ⟨14, 15, T_MASK ^^^ 0x546bdc58⟩,
   ⟨5, 21, T_MASK ^^^ 0x036c5fc6⟩, ⟨12, 6, 0x655b59c3⟩, ⟨3, 10, T_MASK ^^^ 0x70f3336d⟩,
   ⟨10, 15, T_MASK ^^^ 0x00100b82⟩, ⟨1, 21, T_MASK ^^^ 0x7a7ba22e⟩, ⟨8, 6, 0x6fa87e4f⟩,
   ⟨15, 10, T_MASK ^^^ 0x01d3191f⟩, ⟨6, 15, T_MASK ^^^ 0x5cfebceb⟩, ⟨13, 21, 0x4e0811a1⟩,
   ⟨4, 6, T_MASK ^^^ 0x08ac817d⟩, ⟨11, 10, T_MASK ^^^ 0x42c50dca⟩, ⟨2, 15, 0x2ad7d2bb⟩,
   ⟨9, 21, T_MASK ^^^ 0x14792c6e⟩]

/-- The function of the first round. -/
def F (x y z : UInt32) : UInt32 := (x &&& y) ||| (~~~x &&& z)

/-- The function of the second round. -/
def G (x y z : UInt32) : UInt32 := (x &&& z) ||| (y &&& ~~~z)

/-- The function of the third round. -/
def H (x y z : UInt32) : UInt32 := x ^^^ y ^^^ z

/-- The function of the fourth round. -/
def I (x y z : UInt32) : UInt32 := y ^^^ (x ||| ~~~z)

/-- Rotation of a word. -/
def ROTATE_LEFT (x n : UInt32) : UInt32 := (x <<< n) ||| (x >>> (32 - n))

/-- `SET(a, b, c, d, k, s, Ti)`.  The next `SET` has the registers in the order `d`, `a`, `b`, `c`,
so they change places here. -/
def SET (f : UInt32 → UInt32 → UInt32 → UInt32) (X : Nat → UInt32) (r : Registers) (op : Op) :
    Registers :=
  let t := r.a + f r.b r.c r.d + X op.k + op.t
  { a := r.d, b := ROTATE_LEFT t op.s + r.b, c := r.b, d := r.c }

/-- The words of a block, the low byte first. -/
def word (data : List UInt8) (i : Nat) : UInt32 :=
  UInt32.ofNat (LittleEndian.ofBytes ((data.drop (4 * i)).take 4))

/-- `md5_process`: after 16 operations every register is back in its place. -/
def md5Process (abcd : Registers) (data : List UInt8) : Registers :=
  let X := word data
  let r := round1.foldl (SET F X) abcd
  let r := round2.foldl (SET G X) r
  let r := round3.foldl (SET H X) r
  let r := round4.foldl (SET I X) r
  { a := abcd.a + r.a, b := abcd.b + r.b, c := abcd.c + r.c, d := abcd.d + r.d }

/-! ## §2. A message in parts. -/

/-- `md5_state_t` -/
structure State where
  count0 : UInt32
  count1 : UInt32
  abcd : Registers
  buf : Vector UInt8 64

/-- `md5_init`; the buffer is not initialized. -/
def md5Init (buf : Vector UInt8 64) : State where
  count0 := 0
  count1 := 0
  abcd :=
    { a := 0x67452301
      b := T_MASK ^^^ 0x10325476
      c := T_MASK ^^^ 0x67452301
      d := 0x10325476 }
  buf := buf

/-- `memcpy(buf + offset, p, p.length)` -/
def memcpy (buf : Vector UInt8 64) (offset : Nat) (p : List UInt8) : Vector UInt8 64 :=
  Vector.ofFn fun i => if offset ≤ i then p[i.val - offset]?.getD buf[i] else buf[i]

/-- The loop over the full blocks: the registers, and what is left. -/
def processBlocks (abcd : Registers) (p : List UInt8) : Registers × List UInt8 :=
  if _h : 64 ≤ p.length then processBlocks (md5Process abcd (p.take 64)) (p.drop 64)
  else (abcd, p)
termination_by p.length
decreasing_by
  rw [List.length_drop]
  omega

/-- From the blocks on: full blocks, and a final partial block. -/
def appendBlocks (pms : State) (p : List UInt8) : State :=
  let r := processBlocks pms.abcd p
  { pms with abcd := r.1, buf := memcpy pms.buf 0 r.2 }

/-- The message length in bits, after `nbytes` more.  `nbytes << 3` stays within an `int` below
`2^28` bytes. -/
def addCount (pms : State) (nbytes : Nat) : State :=
  let nbits := UInt32.ofNat nbytes <<< 3
  let count0 := pms.count0 + nbits
  let count1 := pms.count1 + UInt32.ofNat (nbytes >>> 29)
  { pms with count0 := count0, count1 := if count0 < nbits then count1 + 1 else count1 }

/-- `md5_append` -/
def md5Append (pms : State) (data : List UInt8) : State :=
  let nbytes := data.length
  let offset := ((pms.count0 >>> 3) &&& 63).toNat
  if nbytes = 0 then pms
  else
    let pms := addCount pms nbytes
    if offset ≠ 0 then
      let copy := if offset + nbytes > 64 then 64 - offset else nbytes
      let pms := { pms with buf := memcpy pms.buf offset (data.take copy) }
      if offset + copy < 64 then pms
      else appendBlocks { pms with abcd := md5Process pms.abcd pms.buf.toList } (data.drop copy)
    else appendBlocks pms data

/-- The padding: one bit, then zeros. -/
def pad : List UInt8 := 0x80 :: List.replicate 63 0

/-- A word as bytes, the low byte first. -/
def wordBytes (w : UInt32) : List UInt8 := LittleEndian.toBytes 4 w.toNat

/-- The registers in order, low byte first. -/
def digestBytes (r : Registers) : List UInt8 :=
  wordBytes r.a ++ wordBytes r.b ++ wordBytes r.c ++ wordBytes r.d

/-- `md5_finish` -/
def md5Finish (pms : State) : List UInt8 :=
  let data := wordBytes pms.count0 ++ wordBytes pms.count1
  let padLength := (((55 : UInt32) - (pms.count0 >>> 3)) &&& 63) + 1
  let padded := md5Append pms (pad.take padLength.toNat)
  digestBytes (md5Append padded data).abcd

/-! ## §3. Robots. -/

/-- A character of `%02x` -/
def hexDigit (n : Nat) : UInt8 := UInt8.ofNat (if n < 10 then 48 + n else 87 + n)

/-- The digest in hexadecimal digits. -/
def hex (digest : List UInt8) : List UInt8 :=
  digest.flatMap fun b => [hexDigit (b.toNat / 16), hexDigit (b.toNat % 16)]

/-- `ManagePlayer::md5_encode`; `junk` is what the buffer of the state holds before. -/
def md5Encode (junk : Vector UInt8 64) (pw : List UInt8) : List UInt8 :=
  hex (md5Finish (md5Append (md5Init junk) pw))

/-- `sprintf` with `%d` -/
def decimal (v : Int) : List UInt8 :=
  match v with
  | .ofNat n => (Nat.toDigits 10 n).map fun c => UInt8.ofNat c.toNat
  | .negSucc n => 45 :: (Nat.toDigits 10 (n + 1)).map fun c => UInt8.ofNat c.toNat

/-- What `init_robot_info` reads and writes of a player. -/
structure Player where
  robotId : UInt32
  robotValidate : List UInt8
  account : List UInt8
  deriving DecidableEq, Repr

/-- `ManagePlayer::init_robot_info` -/
def initRobotInfo (junk : Vector UInt8 64) (robotSecurityKey : List UInt8) (player : Player) :
    Player :=
  if player.robotId = 0 then player
  else
    let text := decimal player.robotId.toInt32.toInt ++ robotSecurityKey ++ player.account
    let validRobot := !player.robotValidate.isEmpty && md5Encode junk text == player.robotValidate
    if validRobot then player else { player with robotId := 0 }

end Steppingstone.Md5
