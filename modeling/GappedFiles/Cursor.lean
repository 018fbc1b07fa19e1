/-
This file defines the read cursor of a gapped file. A cursor is a position, the
offset of the next byte to deliver, together with the place among the blocks
where that byte is found. The place is kept and not computed: delivering a piece
moves it a step, and only a seek walks the blocks to find it again.

The same position can be held at two places. When a payload that has no gap
behind it has been delivered, the cursor stays on that block with nothing left,
although the next byte is the first of the following block.

A cursor could also be kept as separate fields, which might contradict each other.
`RawCursor` is such a cursor, and it is proved to represent one of these after every
run of calls.
-/

import GappedFiles.Block

namespace GappedFiles

/-! ### Places -/

/-- Where among the blocks the next byte to deliver is found. -/
inductive Place
  /-- Nowhere: no pass over the file has been started. -/
  | unset
  /-- Behind the last block: everything has been delivered. -/
  | done
  /-- In the payload of a block, `offset` bytes into it, with the gap of the block to follow. -/
  | payload (block offset : Nat) (gap : UInt64)
  /-- In the gap of a block, with `left` bytes of it to deliver. -/
  | gap (block : Nat) (left : UInt64)
  deriving DecidableEq, Inhabited

namespace Place

/-- The start of the block with the given number, or the end where there is no such block. -/
def enter (blocks : List Block) (index : Nat) : Place :=
  match blocks[index]? with
  | some block => .payload index 0 block.gap
  | none => .done

/-- The place of the byte at offset `target`, looked for in blocks of which the first has the
number `index` and begins at offset `start`. A payload and a gap each hold the offsets from
their own start up to, and not including, the start of what follows them. -/
def locateFrom (target : UInt64) (index : Nat) (start : UInt64) : List Block → Place
  | [] => .done
  | block :: rest =>
    let payloadEnd := start + .ofNat block.payload.length
    let gapEnd := payloadEnd + block.gap
    if target < payloadEnd then
      .payload index (target - start).toNat block.gap
    else if target < gapEnd then
      .gap index (gapEnd - target)
    else
      locateFrom target (index + 1) gapEnd rest

/-- The place of the byte at offset `target`. -/
def locate (blocks : List Block) (target : UInt64) : Place :=
  locateFrom target 0 0 blocks

/-- The place after `length` bytes of filler have joined the gap of a block: a cursor on that
block has so much more to deliver before the next one. -/
def extendGap (block : Nat) (length : UInt64) : Place → Place
  | .payload index offset after =>
    if index = block then .payload index offset (after + length) else .payload index offset after
  | .gap index left =>
    if index = block then .gap index (left + length) else .gap index left
  | .unset => .unset
  | .done => .done

/-- What is left of the payload at a place. -/
def pendingLiteral (blocks : List Block) : Place → List UInt8
  | .payload index offset _ => ((blocks[index]?.map Block.payload).getD []).drop offset
  | .unset | .done | .gap .. => []

/-- How much filler is to be delivered before the next block. -/
def pendingGap : Place → UInt64
  | .payload _ _ after => after
  | .gap _ left => left
  | .unset | .done => 0

theorem enter_of_le {blocks : List Block} {index : Nat} (absent : blocks.length ≤ index) :
    enter blocks index = .done := by
  rw [enter, List.getElem?_eq_none absent]

@[simp] theorem locate_nil (target : UInt64) : locate [] target = .done :=
  rfl

/-- Filler that joins the gap of another block is none of the cursor's business. -/
theorem extendGap_payload_other {block index : Nat} (other : index ≠ block) (offset : Nat)
    (after length : UInt64) :
    extendGap block length (.payload index offset after) = .payload index offset after := by
  rw [extendGap, if_neg other]

theorem extendGap_payload_self (block offset : Nat) (after length : UInt64) :
    extendGap block length (.payload block offset after) =
      .payload block offset (after + length) := by
  rw [extendGap, if_pos rfl]

theorem extendGap_gap_other {block index : Nat} (other : index ≠ block) (left length : UInt64) :
    extendGap block length (.gap index left) = .gap index left := by
  rw [extendGap, if_neg other]

theorem extendGap_gap_self (block : Nat) (left length : UInt64) :
    extendGap block length (.gap block left) = .gap block (left + length) := by
  rw [extendGap, if_pos rfl]

end Place

/-! ### Cursors -/

/-- A position in a file and the place where its byte is found. -/
structure Cursor where
  /-- Where the next byte to deliver is found. -/
  place : Place
  /-- The offset of the next byte to deliver. -/
  position : UInt64
  deriving DecidableEq, Inhabited

namespace Cursor

/-- The cursor of a file that nobody has started to read. -/
def initial : Cursor where
  place := .unset
  position := 0

/-- The cursor after `length` bytes have been delivered, left at the given place. -/
def advance (cursor : Cursor) (place : Place) (length : UInt64) : Cursor where
  place
  position := cursor.position + length

end Cursor

end GappedFiles
