/-
This file gives a gapped file the operations of an ordinary byte stream: reading
into a buffer, seeking, and writing bytes.

The file delivers whole pieces and a buffer may be smaller than the piece. Then
the piece is cut, and a seek puts the cursor right behind the bytes that were
taken, so that the next read goes on with the following byte.
-/

import GappedFiles.File.Read
import GappedFiles.File.Seek
import GappedFiles.File.Write
import GappedFiles.StreamError

namespace GappedFiles

namespace File

/-! ### Reading into a buffer -/

/-- Reads into a buffer of `room` bytes and returns what was read: the next piece, or as much
of it as there is room for. A buffer without room asks nothing of the file. -/
def readSome (file : File) (room : Nat) : Outcome File FileError (List UInt8) :=
  if room = 0 then
    .success file [] []
  else
    file.read.andThen fun after piece =>
      match piece with
      | none => .success after [] []
      | some piece =>
        let bytes := (piece.take room).expand file.filler
        if room < piece.length then
          let resumption := file.position + .ofNat room
          (after.seek resumption.toInt64 .start).map fun _ => bytes
        else
          .success after bytes []

/-! ### Seeking -/

/-- The target of a seek on a byte stream. From the start it is an offset without a sign. -/
inductive SeekTarget
  | start (offset : UInt64)
  | current (offset : Int64)
  | finish (offset : Int64)
  deriving DecidableEq, Inhabited

/-- Moves the cursor to a target and returns its offset. An offset from the start that is
beyond every offset of a file is refused before the file is asked. -/
def seekTo (file : File) : SeekTarget → Outcome File FileError UInt64
  | .start offset =>
    if maxOffset < offset.toNat then .failure file .seekOverflow
    else file.seek offset.toInt64 .start
  | .current offset => file.seek offset .current
  | .finish offset => file.seek offset .finish

/-- Moves the cursor back to the start. -/
def rewind (file : File) : Outcome File FileError Unit :=
  (file.seekTo (.start 0)).map fun _ => ()

/-- The offset of the cursor, found by seeking to where it is. -/
def streamPosition (file : File) : Outcome File FileError UInt64 :=
  file.seekTo (.current 0)

/-! ### Writing -/

/-- Writes a buffer, all of it or nothing, and returns how many bytes were written. -/
def writeBytes (file : File) (bytes : List UInt8) : Outcome File FileError Nat :=
  (file.writeLiteral bytes).map fun _ => bytes.length

/-- Writes bytes; where there are none, the file is not asked. -/
def writeAll (file : File) (bytes : List UInt8) : Outcome File FileError Unit :=
  match bytes with
  | [] => .success file () []
  | first :: rest => (file.writeBytes (first :: rest)).map fun _ => ()

/-- Makes sure that everything written is in the file, which it always is. -/
def flush (file : File) : Outcome File FileError Unit :=
  .success file () []

end File

end GappedFiles
