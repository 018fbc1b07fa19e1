/-
This file defines the filler of a gapped file: one byte, and the size of the
buffer in which runs of that byte are handed out. A gap is delivered from the
buffer, so the size bounds every piece of it; the buffer of an empty filler
would never deliver anything, and so a filler of size zero is refused.
-/

import GappedFiles.FileError

namespace GappedFiles

/-! ### The filler -/

/-- A byte and the size of the buffer that repeats it. -/
structure Filler where
  /-- How many bytes the buffer holds. -/
  size : UInt64
  /-- The byte that fills the buffer. -/
  byte : UInt8
  /-- A buffer holds at least one byte. -/
  size_pos : 0 < size
  deriving DecidableEq

namespace Filler

/-- The filler of the given size and byte; there is none of size zero. -/
def ofSize (size : UInt64) (byte : UInt8) : Except FileError Filler :=
  if positive : 0 < size then
    .ok { size, byte, size_pos := positive }
  else
    .error (.invalidFiller "Filler size cannot be zero")

/-- The filler that files share unless they are given one of their own: a mebibyte of the
byte 170. -/
def shared : Filler where
  size := 1048576
  byte := 170
  size_pos := by decide

instance : Inhabited Filler := ⟨shared⟩

/-- Whether the buffer holds no byte at all. -/
def isEmpty (filler : Filler) : Bool :=
  filler.size == 0

/-- A run of the filler's byte. -/
def run (filler : Filler) (length : Nat) : List UInt8 :=
  List.replicate length filler.byte

/-- The bytes of the whole buffer. -/
def bytes (filler : Filler) : List UInt8 :=
  filler.run filler.size.toNat

/-! ### What a filler holds -/

theorem ofSize_of_pos {size : UInt64} (byte : UInt8) (positive : 0 < size) :
    ofSize size byte = .ok { size, byte, size_pos := positive } := by
  rw [ofSize, dif_pos positive]

theorem ofSize_zero (byte : UInt8) :
    ofSize 0 byte = .error (.invalidFiller "Filler size cannot be zero") :=
  rfl

theorem size_toNat_pos (filler : Filler) : 0 < filler.size.toNat :=
  UInt64.lt_iff_toNat_lt.mp filler.size_pos

theorem isEmpty_eq_false (filler : Filler) : filler.isEmpty = false := by
  have positive := filler.size_toNat_pos
  rw [isEmpty, beq_eq_false_iff_ne]
  intro zero
  rw [zero] at positive
  exact absurd positive (by decide)

@[simp] theorem length_run (filler : Filler) (length : Nat) :
    (filler.run length).length = length :=
  List.length_replicate

@[simp] theorem length_bytes (filler : Filler) : filler.bytes.length = filler.size.toNat :=
  filler.length_run _

/-- Two runs, one after the other, are one run of both lengths. -/
theorem run_add (filler : Filler) (first second : Nat) :
    filler.run (first + second) = filler.run first ++ filler.run second :=
  List.replicate_append_replicate.symm

end Filler

end GappedFiles
