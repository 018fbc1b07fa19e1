/-
This file defines writing. A write only ever extends the end of a file: bytes
become a block of their own, and a run of filler joins the gap of the last block,
at a cost that does not depend on its length.

A pass that is under way sees what is written. A cursor on the last block has
more of its gap before it, and a cursor behind the last block, when everything
had been delivered, comes to what has just been added.
-/

import GappedFiles.File.Basic

namespace GappedFiles

namespace File

/-! ### The two ways in which a file grows -/

/-- The file with a block of these bytes at its end. -/
def appendBlock (file : File) (bytes : List UInt8) : File :=
  let place := if file.passEnded then .payload file.blockCount 0 0 else file.cursor.place
  { file with
    blocks := file.blocks ++ [{ payload := bytes, gap := 0 }]
    size := file.size + .ofNat bytes.length
    cursor := { file.cursor with place } }

/-- The file whose last block, which is `last`, has `length` more bytes of filler behind it. -/
def extendLast (file : File) (last : Block) (length : UInt64) : File :=
  let index := file.blockCount - 1
  let place :=
    if file.passEnded && 0 < length then .gap index length
    else file.cursor.place.extendGap index length
  { file with
    blocks := file.blocks.dropLast ++ [last.extendGap length]
    size := file.size + length
    cursor := { file.cursor with place } }

/-! ### Writing -/

/-- Appends a segment and returns its length. The size is checked first. Filler needs a block
to follow, even where there is none of it, and a literal without bytes leaves no trace. -/
def write (file : File) (segment : Segment) : Outcome File FileError Nat :=
  if maxOffset < file.size.toNat + segment.length then
    .refusal file .sizeOverflow (.writeTooLong segment.length file.size)
  else
    match segment with
    | .filler length =>
      match file.blocks.getLast? with
      | none => .refusal file .fillerBeforeLiteral (.fillerUnheld length)
      | some last =>
        .success (file.extendLast last length) length.toNat
          [.gapExtended (file.blockCount - 1) (last.gap + length)]
    | .literal [] => .success file 0 []
    | .literal (first :: rest) =>
      .success (file.appendBlock (first :: rest)) (first :: rest).length
        [.blockAppended file.blockCount (first :: rest).length file.size]

/-- Appends bytes that are kept as they are. -/
def writeLiteral (file : File) (bytes : List UInt8) : Outcome File FileError Nat :=
  file.write (.literal bytes)

/-- Appends a run of filler. -/
def writeFiller (file : File) (length : UInt64) : Outcome File FileError Nat :=
  file.write (.filler length)

/-! ### What a file that has grown contains -/

theorem contents_appendBlock (file : File) (bytes : List UInt8) :
    (file.appendBlock bytes).contents = file.contents ++ bytes := by
  show (file.blocks ++ [(⟨bytes, 0⟩ : Block)]).flatMap (Block.bytes file.filler) =
    file.blocks.flatMap (Block.bytes file.filler) ++ bytes
  rw [List.flatMap_append, List.flatMap_singleton]
  show _ ++ (bytes ++ []) = _
  rw [List.append_nil]

/-- Filler joins the end of the contents, provided that the gap it joins can be counted. -/
theorem contents_extendLast (file : File) {last : Block} (length : UInt64)
    (isLast : file.blocks.getLast? = some last)
    (counted : last.gap.toNat + length.toNat < UInt64.size) :
    (file.extendLast last length).contents =
      file.contents ++ file.filler.run length.toNat := by
  obtain ⟨earlier, split⟩ := List.getLast?_eq_some_iff.mp isLast
  have grown : (last.gap + length).toNat = last.gap.toNat + length.toNat := by
    rw [UInt64.toNat_add, Nat.mod_eq_of_lt counted]
  show (file.blocks.dropLast ++ [last.extendGap length]).flatMap (Block.bytes file.filler) =
    file.blocks.flatMap (Block.bytes file.filler) ++ file.filler.run length.toNat
  rw [split, List.dropLast_concat]
  simp only [List.flatMap_append, List.flatMap_singleton, Block.bytes, Block.extendGap, grown,
    Filler.run_add, List.append_assoc]

/-- A write never changes what the gaps are filled with. -/
@[simp] theorem write_filler (file : File) (segment : Segment) :
    (file.write segment).state.filler = file.filler := by
  unfold write
  split
  · rfl
  · split
    · split <;> rfl
    · rfl
    · rfl

end File

end GappedFiles
