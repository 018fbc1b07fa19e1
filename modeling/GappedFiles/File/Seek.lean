/-
This file defines moving the read cursor: starting a pass at the beginning,
seeking to an offset counted from the start, from the cursor or from the end, and
skipping.

The target of a seek is computed in the integers, so that no sum can wrap before
it is compared with the limits. A target beyond every offset, before the start or
beyond the end is refused, and then nothing has moved; the end itself can be
sought.
-/

import GappedFiles.File.Basic

namespace GappedFiles

/-! ### Where a seek counts from -/

/-- The point from which the offset of a seek is counted. -/
inductive Origin
  | start
  | current
  | finish
  deriving DecidableEq, Inhabited

/-- What a cursor reports that has been moved to a place by a seek. -/
def Event.sought (target : UInt64) : Place → Event
  | .payload block _ _ => .soughtPayload target block
  | .gap block left => .soughtGap target block left
  | .unset | .done => .soughtEnd target

namespace File

/-! ### Starting a pass -/

/-- Starts a pass at the beginning of the file, and gives up the previous one. -/
def startPass (file : File) : Outcome File FileError Unit :=
  .success { file with cursor := { place := .enter file.blocks 0, position := 0 } } ()
    [.passStarted file.size file.blockCount]

/-! ### Seeking -/

/-- The offset of the point a seek counts from. -/
def base (file : File) : Origin → UInt64
  | .start => 0
  | .current => file.position
  | .finish => file.size

/-- The file with its cursor at an offset, at the place where a walk over the blocks finds it. -/
def moveTo (file : File) (target : UInt64) : File :=
  { file with cursor := { place := .locate file.blocks target, position := target } }

/-- Moves the cursor to a target counted from an origin and returns the target's offset. -/
def seek (file : File) (offset : Int64) (origin : Origin) : Outcome File FileError UInt64 :=
  let base := file.base origin
  let target := (base.toNat : Int) + offset.toInt
  if maxOffset < target then
    .refusal file .seekOverflow (.seekTooFar offset base)
  else if target < 0 then
    .refusal file (.negativeSeek (.ofInt target)) (.soughtNegative (.ofInt target))
  else
    let target := UInt64.ofNat target.toNat
    if file.size < target then
      .refusal file (.seekPastEnd target file.size) (.soughtPastEnd target file.size)
    else
      let moved := file.moveTo target
      .success moved target [.sought target moved.cursor.place]

/-- Moves the cursor on by an amount, or back where it is negative, and returns by how much it
has moved. -/
def skip (file : File) (amount : Int64) : Outcome File FileError Int64 :=
  (file.seek amount .current).map fun after => after.toInt64 - file.position.toInt64

/-! ### What moving the cursor leaves alone -/

/-- A seek changes nothing but the cursor. -/
theorem seek_state (file : File) (offset : Int64) (origin : Origin) :
    (file.seek offset origin).state =
      { file with cursor := (file.seek offset origin).state.cursor } := by
  unfold seek
  dsimp only
  split
  · rfl
  · split
    · rfl
    · split <;> rfl

/-- A seek that is refused changes nothing at all. -/
theorem seek_state_of_error {file : File} {offset : Int64} {origin : Origin}
    {error : FileError} (refused : (file.seek offset origin).result = .error error) :
    (file.seek offset origin).state = file := by
  revert refused
  unfold seek
  dsimp only
  split
  · exact fun _ => rfl
  · split
    · exact fun _ => rfl
    · split
      · exact fun _ => rfl
      · exact fun succeeded => nomatch succeeded

end File

end GappedFiles
