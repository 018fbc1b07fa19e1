/-
This file defines reading: handing out the next piece of a file. What is left of
a payload is one piece. A gap comes in pieces of one filler buffer, and the last
of them may be shorter. Pieces are segments, so that a piece of a gap is not made
of bytes until somebody expands it.

A gap whose last piece has been delivered leaves the cursor at the next block. A
payload leaves it at the gap behind it even where that gap is empty, and it is
then the next read that goes on to the following block. If filler joins that gap
in between, the cursor is where it must be to deliver it.
-/

import GappedFiles.File.Basic

namespace GappedFiles

namespace File

/-! ### One piece -/

/-- The file whose cursor has left a gap in which there is nothing more to deliver. -/
def leaveGap (file : File) : File :=
  match file.cursor.place with
  | .gap block left =>
    if left = 0 then
      { file with cursor := { file.cursor with place := .enter file.blocks (block + 1) } }
    else
      file
  | .unset | .done | .payload .. => file

/-- The file after `length` bytes have been delivered, its cursor left at the given place. -/
def deliver (file : File) (place : Place) (length : UInt64) : File :=
  { file with cursor := file.cursor.advance place length }

/-- Delivers the next piece of the file from where the cursor is. -/
def deliverNext (file : File) : Outcome File FileError (Option Segment) :=
  match file.cursor.place with
  | .unset | .done => .success file none []
  | .payload block _ gap =>
    let bytes := file.pendingLiteral
    .success (file.deliver (.gap block gap) (.ofNat bytes.length)) (some (.literal bytes))
      [.literalDelivered bytes.length file.position]
  | .gap block left =>
    let buffer := file.filler.size
    if buffer < left then
      .success (file.deliver (.gap block (left - buffer)) buffer) (some (.filler buffer))
        [.fillerDelivered buffer file.position]
    else if 0 < left then
      .success (file.deliver (.enter file.blocks (block + 1)) left) (some (.filler left))
        [.gapFinished left file.position]
    else
      .refusal file
        (.internalInconsistency
          s!"block {block} has nothing to deliver at position {file.position}")
        (.cursorStuck block file.position)

/-- Delivers the next piece of the file, or nothing where the pass has come to the end or where
none has been started. -/
def read (file : File) : Outcome File FileError (Option Segment) :=
  file.leaveGap.deliverNext

theorem leaveGap_state (file : File) :
    file.leaveGap = { file with cursor := file.leaveGap.cursor } := by
  unfold leaveGap
  split
  · split <;> rfl
  · rfl
  · rfl
  · rfl

theorem deliverNext_state (file : File) :
    file.deliverNext.state = { file with cursor := file.deliverNext.state.cursor } := by
  unfold deliverNext
  split
  · rfl
  · rfl
  · rfl
  · dsimp only
    split
    · rfl
    · split <;> rfl

/-- Reading changes nothing but the cursor. -/
theorem read_state (file : File) :
    file.read.state = { file with cursor := file.read.state.cursor } := by
  rw [read, deliverNext_state, leaveGap_state]

/-! ### Many pieces -/

/-- The pieces that a number of reads have delivered, and whether the last of them found the
end. -/
structure Delivery where
  /-- The pieces, in order. -/
  pieces : List Segment
  /-- Whether a read delivered nothing. -/
  ended : Bool
  deriving DecidableEq, Inhabited

/-- Reads on after some pieces and events. -/
def drainFrom (pieces : Array Segment) (events : Array Event) :
    Nat → File → Outcome File FileError Delivery
  | 0, file => .success file { pieces := pieces.toList, ended := false } events.toList
  | limit + 1, file =>
    let next := file.read
    let events := events ++ next.events
    match next.result with
    | .ok (some piece) => drainFrom (pieces.push piece) events limit next.state
    | .ok none => .success next.state { pieces := pieces.toList, ended := true } events.toList
    | .error failure =>
      { state := next.state, result := .error failure, events := events.toList }

/-- Reads up to `limit` times, and no more once a read has found the end. -/
def drain (file : File) (limit : Nat) : Outcome File FileError Delivery :=
  drainFrom #[] #[] limit file

end File

end GappedFiles
