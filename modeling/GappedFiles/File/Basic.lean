/-
This file defines gapped files. A gapped file is an append-only sequence of
bytes in which runs of filler cost no storage: it is held as blocks, each a
payload that is kept and a gap that is only counted. One cursor reads it.

The size is stored beside the blocks, and it never exceeds the largest offset,
one less than two to the power of 63, so that every offset is also a signed
64-bit number.
-/

import GappedFiles.Cursor
import GappedFiles.Outcome
import GappedFiles.Segment

namespace GappedFiles

/-- The largest offset in a file, which is also the largest size of one. -/
def maxOffset : Nat :=
  9223372036854775807

/-! ### Files -/

/-- An append-only sequence of bytes, held as blocks and read by one cursor. -/
structure File where
  /-- What the gaps are filled with. -/
  filler : Filler
  /-- The blocks, first to last. -/
  blocks : List Block
  /-- The number of bytes in the file. -/
  size : UInt64
  /-- Where the file is read. -/
  cursor : Cursor
  deriving DecidableEq, Inhabited

namespace File

/-- The file with nothing in it. -/
def empty (filler : Filler) : File where
  filler
  blocks := []
  size := 0
  cursor := .initial

/-- The bytes of the file, gaps included. -/
def contents (file : File) : List UInt8 :=
  file.blocks.flatMap (Block.bytes file.filler)

/-! ### What can be asked of a file -/

/-- Whether the file has no byte. -/
def isEmpty (file : File) : Bool :=
  file.size == 0

/-- The offset of the next byte to deliver. -/
def position (file : File) : UInt64 :=
  file.cursor.position

/-- How many blocks the file is held in. -/
def blockCount (file : File) : Nat :=
  file.blocks.length

/-- How many bytes are kept as they are. -/
def retainedBytes (file : File) : Nat :=
  file.blocks.foldr (fun block bytes => block.payload.length + bytes) 0

/-- What is left to deliver of the payload under the cursor. -/
def pendingLiteral (file : File) : List UInt8 :=
  file.cursor.place.pendingLiteral file.blocks

/-- How much filler is left to deliver before the next block. -/
def pendingGap (file : File) : UInt64 :=
  file.cursor.place.pendingGap

/-- Whether a pass has delivered everything there is. -/
def passEnded (file : File) : Bool :=
  file.cursor.place == .done && file.cursor.position == file.size

/-! ### The empty file -/

@[simp] theorem contents_empty (filler : Filler) : (empty filler).contents = [] :=
  rfl

@[simp] theorem isEmpty_empty (filler : Filler) : (empty filler).isEmpty = true :=
  rfl

@[simp] theorem position_empty (filler : Filler) : (empty filler).position = 0 :=
  rfl

/-- A pass that nobody has started has not ended, even where there is nothing to deliver. -/
@[simp] theorem passEnded_empty (filler : Filler) : (empty filler).passEnded = false :=
  rfl

end File

end GappedFiles
