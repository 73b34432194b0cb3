/-
  Steppingstone.Lib.Block — a block of memory with a read and a write pointer.

  What lies between the two pointers has been written and not read yet.  Writing moves the write
  pointer towards the end of the block, reading moves the read pointer after it, and crunching moves
  what is left to the front, so that the space before it can be used again.
-/
import Mathlib.Data.List.Basic

/-- A block: its size, the read pointer, and what is between it and the write pointer. -/
structure Block (α : Type*) where
  size : Nat
  rdPtr : Nat
  bytes : List α
  fits : rdPtr + bytes.length ≤ size
  deriving DecidableEq

namespace Block

variable {α : Type*}

/-- A new block. -/
def empty (size : Nat) : Block α := ⟨size, 0, [], Nat.zero_le size⟩

/-- The place behind the last byte. -/
def wrPtr (b : Block α) : Nat := b.rdPtr + b.bytes.length

/-- How much there is to read. -/
def length (b : Block α) : Nat := b.bytes.length

/-- How much can be written. -/
def space (b : Block α) : Nat := b.size - b.wrPtr

/-- What is left goes to the front. -/
def crunch (b : Block α) : Block α where
  size := b.size
  rdPtr := 0
  bytes := b.bytes
  fits := by
    have hfits := b.fits
    omega

/-- The read pointer moves on, at most to the write pointer. -/
def read (b : Block α) (n : Nat) : Block α where
  size := b.size
  rdPtr := b.rdPtr + min n b.bytes.length
  bytes := b.bytes.drop n
  fits := by
    have hfits := b.fits
    rw [List.length_drop]
    omega

/-- Writing: all or nothing. -/
def copy (b : Block α) (xs : List α) : Block α :=
  if h : xs.length ≤ b.space then
    { size := b.size
      rdPtr := b.rdPtr
      bytes := b.bytes ++ xs
      fits := by
        have hfits := b.fits
        rw [List.length_append]
        unfold space wrPtr at h
        omega }
  else b

variable (b : Block α)

/-! ## §1. What each operation leaves. -/

@[simp] theorem empty_bytes (size : Nat) : (empty size : Block α).bytes = [] := rfl
@[simp] theorem empty_size (size : Nat) : (empty size : Block α).size = size := rfl
@[simp] theorem empty_rdPtr (size : Nat) : (empty size : Block α).rdPtr = 0 := rfl

@[simp] theorem crunch_bytes : b.crunch.bytes = b.bytes := rfl
@[simp] theorem crunch_size : b.crunch.size = b.size := rfl
@[simp] theorem crunch_rdPtr : b.crunch.rdPtr = 0 := rfl

@[simp] theorem read_bytes (n : Nat) : (b.read n).bytes = b.bytes.drop n := rfl
@[simp] theorem read_size (n : Nat) : (b.read n).size = b.size := rfl

@[simp] theorem copy_size (xs : List α) : (b.copy xs).size = b.size := by
  unfold copy
  split <;> rfl

@[simp] theorem copy_rdPtr (xs : List α) : (b.copy xs).rdPtr = b.rdPtr := by
  unfold copy
  split <;> rfl

/-! ## §2. Writing. -/

/-- **What fits** is written as a whole. -/
theorem copy_of_le {xs : List α} (h : xs.length ≤ b.space) :
    (b.copy xs).bytes = b.bytes ++ xs := by
  unfold copy
  rw [dif_pos h]

/-- What does not fit is not written at all. -/
theorem copy_of_lt {xs : List α} (h : b.space < xs.length) : b.copy xs = b := by
  unfold copy
  rw [dif_neg (Nat.not_le.mpr h)]

/-- What is copied in takes its room. -/
theorem space_copy {xs : List α} (h : xs.length ≤ b.space) :
    (b.copy xs).space = b.space - xs.length := by
  have hbytes := b.copy_of_le h
  unfold space wrPtr at *
  rw [hbytes, copy_size, copy_rdPtr, List.length_append]
  omega

/-- **After crunching** only what is left takes space. -/
theorem space_crunch : b.crunch.space = b.size - b.length := by
  unfold space wrPtr length
  rw [crunch_size, crunch_rdPtr, crunch_bytes, Nat.zero_add]

/-- Nothing is lost of a block that starts at its front. -/
theorem length_add_space (h : b.rdPtr = 0) : b.length + b.space = b.size := by
  have hfits := b.fits
  unfold length space wrPtr
  omega

end Block
