/-
This file keeps the cursor of a file in five fields that nothing ties together:
whether a pass has been started, the number of a block, the position, an offset in
the block's payload, and the filler left to deliver before the next block.

A place among the blocks cannot be in a payload and behind the last block at once.
Five fields can: that there is an offset only where there is a block, that no
filler is left behind the last block, or that a cursor on a block has been opened,
is said by no type and has to be kept by every assignment. The operations make
these assignments one by one. A write moves the cursor along where it is on the
last block or has come to the end of its pass, a read leaves exhausted blocks in a
loop, and a seek walks the blocks and sets the fields where it stops.

The fields can also be read as a place. That reading forgets combinations of them
to which no run of calls should lead.
-/

import GappedFiles.Proofs.Simulation

namespace GappedFiles

/-! ### Cursors in five fields -/

/-- A cursor as five independent fields. -/
structure RawCursor where
  /-- Whether a pass has been started, by a call that moved the cursor. -/
  opened : Bool
  /-- The number of the block under the cursor; there is none behind the last block. -/
  block : Option Nat
  /-- The offset in the file of the next byte to deliver. -/
  position : UInt64
  /-- The offset of the next byte in the payload of the block, until that has been delivered. -/
  literal : Option Nat
  /-- How much filler is left to deliver before the next block. -/
  gapRemaining : UInt64
  deriving DecidableEq, Inhabited

namespace RawCursor

/-- The cursor of a file that nobody has started to read. -/
def initial : RawCursor where
  opened := false
  block := none
  position := 0
  literal := none
  gapRemaining := 0

/-- Points the cursor at the start of a block, or behind the last where there is no such block. -/
def enterBlock (blocks : List Block) (index : Nat) (cursor : RawCursor) : RawCursor :=
  match blocks[index]? with
  | some block =>
    { cursor with
      block := some index
      literal := if block.payload = [] then none else some 0
      gapRemaining := block.gap }
  | none => { cursor with block := none, literal := none, gapRemaining := 0 }

/-- How many blocks there are from the cursor on, itself included. -/
def blocksAhead (blocks : List Block) (cursor : RawCursor) : Nat :=
  cursor.block.elim 0 fun index => blocks.length - index + 1

/-- There are fewer blocks ahead of a cursor that has gone on to the next one. -/
theorem blocksAhead_enterBlock_lt (blocks : List Block) {cursor : RawCursor} {index : Nat}
    (onBlock : cursor.block = some index) :
    (cursor.enterBlock blocks (index + 1)).blocksAhead blocks < cursor.blocksAhead blocks := by
  have ahead : cursor.blocksAhead blocks = blocks.length - index + 1 := by
    rw [blocksAhead, onBlock, Option.elim_some]
  rw [ahead, enterBlock]
  cases found : blocks[index + 1]? with
  | none => exact Nat.succ_pos _
  | some block =>
    have inFile := (List.getElem?_eq_some_iff.mp found).1
    show blocks.length - (index + 1) + 1 < _
    omega

/-- Goes on from block to block as long as there is nothing to deliver. -/
def leaveExhausted (blocks : List Block) (cursor : RawCursor) : RawCursor :=
  match onBlock : cursor.block with
  | none => cursor
  | some index =>
    if cursor.literal.isSome || 0 < cursor.gapRemaining then
      cursor
    else
      leaveExhausted blocks (cursor.enterBlock blocks (index + 1))
termination_by cursor.blocksAhead blocks
decreasing_by exact blocksAhead_enterBlock_lt blocks onBlock

/-- Looks for a target in blocks of which the first has the number `index` and begins at offset
`start`, points the cursor at it, and says where it has been found. -/
def walk (blocks : List Block) (target : UInt64) (cursor : RawCursor) (index : Nat)
    (start : UInt64) : List Block → RawCursor × Event
  | [] => (cursor.enterBlock blocks blocks.length, .soughtEnd target)
  | block :: rest =>
    let payloadEnd := start + .ofNat block.payload.length
    let gapEnd := payloadEnd + block.gap
    if target < payloadEnd then
      ({ cursor with
          block := some index
          literal := some (target - start).toNat
          gapRemaining := block.gap },
        .soughtPayload target index)
    else if target < gapEnd then
      ({ cursor with block := some index, literal := none, gapRemaining := gapEnd - target },
        .soughtGap target index (gapEnd - target))
    else
      walk blocks target cursor (index + 1) gapEnd rest

/-- The place that the fields tell. -/
def place (cursor : RawCursor) : Place :=
  match cursor.block, cursor.literal with
  | some index, some offset => .payload index offset cursor.gapRemaining
  | some index, none => .gap index cursor.gapRemaining
  | none, _ => if cursor.opened then .done else .unset

end RawCursor

/-! ### Files with such a cursor -/

/-- A file whose cursor is five fields. -/
structure RawFile where
  /-- What the gaps are filled with. -/
  filler : Filler
  /-- The blocks, first to last. -/
  blocks : List Block
  /-- The number of bytes in the file. -/
  size : UInt64
  /-- Where the file is read. -/
  cursor : RawCursor
  deriving DecidableEq, Inhabited

namespace RawFile

/-- The file with nothing in it. -/
def empty (filler : Filler) : RawFile where
  filler
  blocks := []
  size := 0
  cursor := .initial

/-- Whether a pass has delivered everything there is. -/
def atEndOfPass (file : RawFile) : Bool :=
  file.cursor.opened && file.cursor.block.isNone && file.cursor.position == file.size

/-- The cursor after filler has joined the gap of the last block, which has the number `index`. -/
def followFiller (file : RawFile) (index : Nat) (length : UInt64) : RawCursor :=
  if file.cursor.block = some index then
    { file.cursor with gapRemaining := file.cursor.gapRemaining + length }
  else if file.atEndOfPass && 0 < length then
    { file.cursor with block := some index, literal := none, gapRemaining := length }
  else
    file.cursor

/-- The cursor after the last of these blocks has been appended. -/
def followBlock (file : RawFile) (blocks : List Block) : RawCursor :=
  if file.atEndOfPass then file.cursor.enterBlock blocks (blocks.length - 1) else file.cursor

/-- Appends a segment and returns its length. -/
def write (file : RawFile) (segment : Segment) : Outcome RawFile FileError Nat :=
  if maxOffset < file.size.toNat + segment.length then
    .refusal file .sizeOverflow (.writeTooLong segment.length file.size)
  else
    let size := file.size + .ofNat segment.length
    match segment with
    | .filler length =>
      match file.blocks.getLast? with
      | none => .refusal file .fillerBeforeLiteral (.fillerUnheld length)
      | some last =>
        let index := file.blocks.length - 1
        let gap := last.gap + length
        let blocks := file.blocks.dropLast ++ [{ last with gap }]
        .success { file with blocks, size, cursor := file.followFiller index length }
          length.toNat [.gapExtended index gap]
    | .literal bytes =>
      if bytes = [] then
        .success file 0 []
      else
        let blocks := file.blocks ++ [{ payload := bytes, gap := 0 }]
        .success { file with blocks, size, cursor := file.followBlock blocks } bytes.length
          [.blockAppended (blocks.length - 1) bytes.length file.size]

/-- Starts a pass at the beginning of the file. -/
def startPass (file : RawFile) : Outcome RawFile FileError Unit :=
  let opened := { file.cursor with opened := true, position := 0 }
  .success { file with cursor := opened.enterBlock file.blocks 0 } ()
    [.passStarted file.size file.blocks.length]

/-- Delivers the next piece of the file from where the cursor is. -/
def deliverNext (file : RawFile) : Outcome RawFile FileError (Option Segment) :=
  match file.cursor.block with
  | none => .success file none []
  | some index =>
    let position := file.cursor.position
    let buffer := file.filler.size
    let left := file.cursor.gapRemaining
    match file.cursor.literal with
    | some start =>
      let bytes := ((file.blocks[index]?.map Block.payload).getD []).drop start
      let cursor :=
        { file.cursor with literal := none, position := position + .ofNat bytes.length }
      .success { file with cursor } (some (.literal bytes))
        [.literalDelivered bytes.length position]
    | none =>
      if buffer < left then
        let cursor :=
          { file.cursor with gapRemaining := left - buffer, position := position + buffer }
        .success { file with cursor } (some (.filler buffer)) [.fillerDelivered buffer position]
      else if 0 < left then
        let cursor := { file.cursor with gapRemaining := 0, position := position + left }
        .success { file with cursor := cursor.enterBlock file.blocks (index + 1) }
          (some (.filler left)) [.gapFinished left position]
      else
        .refusal file
          (.internalInconsistency s!"block {index} has nothing to deliver at position {position}")
          (.cursorStuck index position)

/-- Delivers the next piece of the file, or nothing at the end. -/
def read (file : RawFile) : Outcome RawFile FileError (Option Segment) :=
  deliverNext { file with cursor := file.cursor.leaveExhausted file.blocks }

/-- The offset of the point a seek counts from. -/
def base (file : RawFile) : Origin → UInt64
  | .start => 0
  | .current => file.cursor.position
  | .finish => file.size

/-- Moves the cursor to a target and returns its offset. The base is taken for a number with a
sign, and the target has to be one. -/
def seek (file : RawFile) (offset : Int64) (origin : Origin) :
    Outcome RawFile FileError UInt64 :=
  let base := file.base origin
  let target := base.toInt64.toInt + offset.toInt
  if target < -(maxOffset + 1 : Int) ∨ maxOffset < target then
    .refusal file .seekOverflow (.seekTooFar offset base)
  else if target < 0 then
    .refusal file (.negativeSeek (.ofInt target)) (.soughtNegative (.ofInt target))
  else
    let target := UInt64.ofNat target.toNat
    if file.size < target then
      .refusal file (.seekPastEnd target file.size) (.soughtPastEnd target file.size)
    else
      let opened := { file.cursor with opened := true, position := target }
      let (cursor, found) := opened.walk file.blocks target 0 0 file.blocks
      .success { file with cursor } target [found]

/-- The operations of a file whose cursor is five fields. -/
def operations : Operations RawFile where
  filler := filler
  size := size
  position := fun file => file.cursor.position
  write := write
  startPass := startPass
  read := read
  seek := seek

/-- The state after calls made one after the other. -/
def runAll (file : RawFile) (calls : List Call) : RawFile :=
  operations.runAll file calls

/-- The file that is represented, its cursor at the place that the fields tell. -/
def abstract (file : RawFile) : File where
  filler := file.filler
  blocks := file.blocks
  size := file.size
  cursor := { place := file.cursor.place, position := file.cursor.position }

end RawFile

end GappedFiles
