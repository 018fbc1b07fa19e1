/-
This file defines blocks, the units in which a gapped file is stored: bytes that
are kept, followed by a gap of filler that is kept only as a length. The file is
the sequence of its blocks, each one's payload and then its gap.
-/

import GappedFiles.Filler

namespace GappedFiles

/-! ### Blocks -/

/-- Bytes that are kept, and the length of the filler that follows them. -/
structure Block where
  /-- The bytes that are kept. -/
  payload : List UInt8
  /-- How many bytes of filler follow the payload. -/
  gap : UInt64
  deriving DecidableEq, Inhabited

namespace Block

/-- How many bytes of the file the block stands for. -/
def length (block : Block) : Nat :=
  block.payload.length + block.gap.toNat

/-- The bytes of the file the block stands for, its gap made of the given filler. -/
def bytes (filler : Filler) (block : Block) : List UInt8 :=
  block.payload ++ filler.run block.gap.toNat

/-- The block with `length` more bytes of filler after it. -/
def extendGap (block : Block) (length : UInt64) : Block :=
  { block with gap := block.gap + length }

@[simp] theorem length_bytes (filler : Filler) (block : Block) :
    (block.bytes filler).length = block.length := by
  rw [bytes, List.length_append, Filler.length_run, length]

end Block

end GappedFiles
