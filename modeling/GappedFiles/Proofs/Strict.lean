/-
This file defines the operations on a file in an arithmetic that does not wrap.

The operations of a file compute with words, and of their many sums and
differences only two are compared with the limits beforehand. Here each of them is
strict: it faults where the exact number does not fit the word. A conversion faults
where it would change the number, looking up a block faults where there is none, a
slice faults where it begins behind the end, and so does a view of the filler that
is longer than the buffer. The walk off exhausted blocks is a loop here, which
faults when it does not stop within one round more than there are blocks. A cursor
that has nothing to deliver is a fault, and so is a cut piece behind which the
cursor cannot be put.
-/

import GappedFiles.Proofs.Layout
import GappedFiles.Call

namespace GappedFiles

namespace Strict

/-! ### Arithmetic that faults -/

/-- The sum of two words, which must fit. -/
def add (first second : UInt64) : Option UInt64 :=
  if first.toNat + second.toNat < UInt64.size then some (first + second) else none

/-- The difference of two words, which must not be negative. -/
def sub (first second : UInt64) : Option UInt64 :=
  if second.toNat ≤ first.toNat then some (first - second) else none

/-- A number as a word, which must be large enough. -/
def toWord (number : Nat) : Option UInt64 :=
  if number < UInt64.size then some (.ofNat number) else none

/-- A word as a number with a sign, for which it must be small enough. -/
def toSigned (word : UInt64) : Option Int64 :=
  if word.toNat ≤ maxOffset then some word.toInt64 else none

/-- An integer as a word, for which it must not be negative and not too large. -/
def ofInteger (number : Int) : Option UInt64 :=
  if 0 ≤ number then toWord number.toNat else none

/-- The difference of two numbers with a sign, which must fit. -/
def subSigned (first second : Int64) : Option Int64 :=
  if -(maxOffset + 1 : Int) ≤ first.toInt - second.toInt ∧
      first.toInt - second.toInt ≤ maxOffset then
    some (first - second)
  else
    none

/-- A sum that does not fault is the exact sum, and it is likewise with the other operations. -/
theorem add_exact {first second sum : UInt64} (computed : add first second = some sum) :
    sum.toNat = first.toNat + second.toNat := by
  unfold add at computed
  split at computed
  · rename_i fits
    rw [← Option.some.inj computed, UInt64.toNat_add, Nat.mod_eq_of_lt fits]
  · cases computed

theorem sub_exact {first second difference : UInt64}
    (computed : sub first second = some difference) :
    difference.toNat + second.toNat = first.toNat := by
  unfold sub at computed
  split at computed
  · rename_i fits
    rw [← Option.some.inj computed, UInt64.toNat_sub_of_le _ _ (UInt64.le_iff_toNat_le.mpr fits),
      Nat.sub_add_cancel fits]
  · cases computed

theorem toWord_exact {number : Nat} {word : UInt64} (computed : toWord number = some word) :
    word.toNat = number := by
  unfold toWord at computed
  split at computed
  · rename_i fits
    rw [← Option.some.inj computed, UInt64.toNat_ofNat_of_lt' fits]
  · cases computed

theorem toSigned_exact {word : UInt64} {signed : Int64} (computed : toSigned word = some signed) :
    signed.toInt = word.toNat := by
  unfold toSigned at computed
  split at computed
  · rename_i fits
    rw [← Option.some.inj computed, toInt_toInt64_of_le fits]
  · cases computed

theorem ofInteger_exact {number : Int} {word : UInt64} (computed : ofInteger number = some word) :
    (word.toNat : Int) = number := by
  unfold ofInteger at computed
  split at computed
  · rename_i positive
    rw [toWord_exact computed, Int.toNat_of_nonneg positive]
  · cases computed

theorem subSigned_exact {first second difference : Int64}
    (computed : subSigned first second = some difference) :
    difference.toInt = first.toInt - second.toInt := by
  unfold subSigned at computed
  split at computed
  · rename_i fits
    rw [maxOffset] at fits
    rw [← Option.some.inj computed, Int64.toInt_sub, Int.bmod_eq_of_le]
    · omega
    · omega
  · cases computed

/-- The number of the block after the one with the given number. -/
def next (index : Nat) : Option Nat :=
  (toWord (index + 1)).map UInt64.toNat

/-- The bytes from an offset on, which must not be behind the end. -/
def slice (bytes : List UInt8) (start : Nat) : Option (List UInt8) :=
  if start ≤ bytes.length then some (bytes.drop start) else none

/-- A part of the filler buffer, which must not be longer than the buffer. -/
def view (filler : Filler) (length : UInt64) : Option Segment :=
  if length ≤ filler.size then some (.filler length) else none

/-- One operation and another one after it. -/
def andThen {State Failure First Final : Type} (first : Outcome State Failure First)
    (next : State → First → Option (Outcome State Failure Final)) :
    Option (Outcome State Failure Final) :=
  match first.result with
  | .ok result => do
    let second ← next first.state result
    return { second with events := first.events ++ second.events }
  | .error failure =>
    some { state := first.state, result := .error failure, events := first.events }

/-! ### The operations -/

/-- The start of a block, where a payload without bytes is passed over. -/
def enter (blocks : List Block) (index : Nat) : Place :=
  match blocks[index]? with
  | some block =>
    if block.payload = [] then .gap index block.gap else .payload index 0 block.gap
  | none => .done

/-- Goes on from block to block as long as there is nothing to deliver, in a number of rounds. -/
def settle (blocks : List Block) : Nat → Place → Option Place
  | 0, _ => none
  | rounds + 1, .gap index left =>
    if 0 < left then some (.gap index left)
    else do settle blocks rounds (enter blocks (← next index))
  | _ + 1, place => some place

/-- Delivers the next piece. The payload is sliced behind what has been delivered of it, the filler
is a view of the buffer, and a cursor with nothing to deliver faults. -/
def deliverNext (file : File) : Option (Outcome File FileError (Option Segment)) :=
  match file.cursor.place with
  | .unset | .done => some (.success file none [])
  | .payload index start gap => do
    let block ← file.blocks[index]?
    let length ← sub (← toWord block.payload.length) (← toWord start)
    let position ← add file.position length
    let bytes ← slice block.payload start
    return .success { file with cursor := { place := .gap index gap, position } }
      (some (.literal bytes)) [.literalDelivered length.toNat file.position]
  | .gap index left =>
    if file.filler.size < left then do
      let rest ← sub left file.filler.size
      let position ← add file.position file.filler.size
      return .success { file with cursor := { place := .gap index rest, position } }
        (some (.filler file.filler.size)) [.fillerDelivered file.filler.size file.position]
    else if 0 < left then do
      let position ← add file.position left
      let place := enter file.blocks (← next index)
      let piece ← view file.filler left
      return .success { file with cursor := { place, position } } (some piece)
        [.gapFinished left file.position]
    else none

/-- Delivers the next piece, after a walk off exhausted blocks that has to stop. -/
def read (file : File) : Option (Outcome File FileError (Option Segment)) := do
  let place ← settle file.blocks (file.blockCount + 1) file.cursor.place
  deliverNext { file with cursor := { place, position := file.position } }

/-- Reads on after some pieces and events, as often as is asked for. -/
def drainFrom (pieces : Array Segment) (events : Array Event) :
    Nat → File → Option (Outcome File FileError File.Delivery)
  | 0, file => some (.success file { pieces := pieces.toList, ended := false } events.toList)
  | limit + 1, file => do
    let next ← read file
    let events := events ++ next.events
    match next.result with
    | .ok (some piece) => drainFrom (pieces.push piece) events limit next.state
    | .ok none =>
      return .success next.state { pieces := pieces.toList, ended := true } events.toList
    | .error failure =>
      return { state := next.state, result := .error failure, events := events.toList }

/-- The place after filler has joined the gap of the last block. -/
def extendPlace (file : File) (index : Nat) (length : UInt64) : Option Place :=
  match file.cursor.place with
  | .payload block offset gap =>
    if block = index then do return .payload block offset (← add gap length)
    else some (.payload block offset gap)
  | .gap block left =>
    if block = index then do return .gap block (← add left length) else some (.gap block left)
  | .unset => some .unset
  | .done => some (if file.passEnded && 0 < length then .gap index length else .done)

/-- Appends a segment. The size is compared with the limit, and every sum after that has to fit. -/
def write (file : File) (segment : Segment) : Option (Outcome File FileError Nat) := do
  let length ← toWord segment.length
  if maxOffset < file.size.toNat + length.toNat then
    return .refusal file .sizeOverflow (.writeTooLong length.toNat file.size)
  let size ← add file.size length
  match segment with
  | .filler length =>
    match file.blocks.getLast? with
    | none => return .refusal file .fillerBeforeLiteral (.fillerUnheld length)
    | some last =>
      let index := file.blockCount - 1
      let gap ← add last.gap length
      let place ← extendPlace file index length
      return .success
        { file with
          blocks := file.blocks.dropLast ++ [{ last with gap }]
          size
          cursor := { file.cursor with place } }
        length.toNat [.gapExtended index gap]
  | .literal bytes =>
    if bytes = [] then return .success file 0 []
    let blocks := file.blocks ++ [{ payload := bytes, gap := 0 }]
    let index ← sub (← toWord blocks.length) 1
    let place := if file.passEnded then enter blocks index.toNat else file.cursor.place
    return .success { file with blocks, size, cursor := { file.cursor with place } } bytes.length
      [.blockAppended index.toNat bytes.length file.size]

/-- The walk over the blocks that looks for a target. -/
def locateFrom (target : UInt64) (index : Nat) (start : UInt64) : List Block → Option Place
  | [] => some .done
  | block :: rest => do
    let payloadEnd ← add start (← toWord block.payload.length)
    if target < payloadEnd then
      let offset ← sub target start
      return .payload index offset.toNat block.gap
    let gapEnd ← add payloadEnd block.gap
    if target < gapEnd then
      let left ← sub gapEnd target
      return .gap index left
    locateFrom target (index + 1) gapEnd rest

/-- Moves the cursor to a target. The base has to be a number with a sign, and its sum with the
offset is compared with the limits of such a number before anything else is. -/
def seek (file : File) (offset : Int64) (origin : Origin) :
    Option (Outcome File FileError UInt64) := do
  let base ← toSigned (file.base origin)
  let target := base.toInt + offset.toInt
  if target < -(maxOffset + 1 : Int) ∨ maxOffset < target then
    return .refusal file .seekOverflow (.seekTooFar offset (file.base origin))
  if target < 0 then
    return .refusal file (.negativeSeek (.ofInt target)) (.soughtNegative (.ofInt target))
  let target ← ofInteger target
  if file.size < target then
    return .refusal file (.seekPastEnd target file.size) (.soughtPastEnd target file.size)
  let place ← locateFrom target 0 0 file.blocks
  return .success { file with cursor := { place, position := target } } target
    [.sought target place]

/-- Moves the cursor on by an amount. The distance is a difference of numbers with a sign. -/
def skip (file : File) (amount : Int64) : Option (Outcome File FileError Int64) := do
  andThen (← seek file amount .current) fun moved after => do
    let distance ← subSigned (← toSigned after) (← toSigned file.position)
    return .success moved distance []

/-- Reads into a buffer. Where a piece is cut, the cursor has to be put behind what was taken, and a
refusal of that seek is a fault. -/
def readSome (file : File) (room : Nat) : Option (Outcome File FileError (List UInt8)) := do
  if room = 0 then return .success file [] []
  andThen (← read file) fun after piece =>
    match piece with
    | none => return .success after [] []
    | some piece => do
      let bytes := (piece.take room).expand file.filler
      if room < piece.length then
        let resumption ← add file.position (← toWord room)
        let moved ← seek after (← toSigned resumption) .start
        match moved.result with
        | .ok _ => return moved.map fun _ => bytes
        | .error _ => none
      return .success after bytes []

/-- Reads into buffers one after the other, at most so many times. -/
def pullFrom (room : Nat → Nat → Nat) (round : Nat) (taken : Array UInt8)
    (events : Array Event) : Nat → File → Option (Outcome File FileError (List UInt8))
  | 0, file => some (.success file taken.toList events.toList)
  | fuel + 1, file =>
    if room round taken.size = 0 then
      some (.success file taken.toList events.toList)
    else do
      let next ← readSome file (room round taken.size)
      let events := events ++ next.events
      match next.result with
      | .ok [] => return .success next.state taken.toList events.toList
      | .ok (first :: rest) =>
        pullFrom room (round + 1) (taken ++ (first :: rest)) events fuel next.state
      | .error failure =>
        return { state := next.state, result := .error failure, events := events.toList }

/-- Reads into buffers until there is no room or nothing comes. -/
def pull (file : File) (room : Nat → Nat → Nat) : Option (Outcome File FileError (List UInt8)) :=
  pullFrom room 0 #[] #[] (file.remaining + 1) file

/-- Moves the cursor to a target of a byte stream. An offset from the start is compared with the
limit and then has to be a number with a sign. -/
def seekTo (file : File) : File.SeekTarget → Option (Outcome File FileError UInt64)
  | .start offset =>
    if maxOffset < offset.toNat then some (.failure file .seekOverflow)
    else do seek file (← toSigned offset) .start
  | .current offset => seek file offset .current
  | .finish offset => seek file offset .finish

/-- What is left of the payload under the cursor, which has to be there. -/
def pendingLiteral (file : File) : Option (List UInt8) :=
  match file.cursor.place with
  | .payload index start _ => do slice (← file.blocks[index]?).payload start
  | .unset | .done | .gap .. => some []

/-- The sum of the lengths of payloads, added up one after the other. -/
def retainedFrom (sum : UInt64) : List Block → Option UInt64
  | [] => some sum
  | block :: rest => do retainedFrom (← add sum (← toWord block.payload.length)) rest

/-! ### Calls -/

/-- Performs an operation on a file. -/
def fileCall (file : File) : FileCall → Option (Outcome File FileError Answer)
  | .write segment => (write file segment).map (Outcome.map .count)
  | .writeLiteral bytes => (write file (.literal bytes)).map (Outcome.map .count)
  | .writeFiller length => (write file (.filler length)).map (Outcome.map .count)
  | .startPass =>
    let opened := { file with cursor := { place := enter file.blocks 0, position := 0 } }
    some (.success opened .done [.passStarted file.size file.blockCount])
  | .read => (read file).map (Outcome.map .piece)
  | .drain limit => (drainFrom #[] #[] limit file).map (Outcome.map .delivery)
  | .seek offset origin => (seek file offset origin).map (Outcome.map .offset)
  | .skip amount => (skip file amount).map (Outcome.map .distance)
  | .filler => some (.success file (.filler file.filler) [])

/-- Reads a number of bytes, or fails where the stream ends before them. -/
def readExact (file : File) (count : Nat) : Option (Outcome File StreamError (List UInt8)) := do
  let taken ← pull file fun _ taken => count - taken
  andThen (taken.mapFailure .file) fun after bytes =>
    if bytes.length = count then some (.success after bytes [])
    else some (.failure after .unexpectedEnd)

/-- Reads everything up to the end as text. -/
def readToString (file : File) (schedule : File.Schedule) :
    Option (Outcome File StreamError String) := do
  let everything ← pull file fun round _ => schedule.room round
  andThen (everything.mapFailure .file) fun after bytes =>
    match String.fromUTF8? bytes.toByteArray with
    | some text => some (.success after text [])
    | none => some (.failure after .invalidText)

/-- Writes a buffer and returns how many bytes were written. -/
def writeBytes (file : File) (bytes : List UInt8) : Option (Outcome File FileError Nat) :=
  (write file (.literal bytes)).map (Outcome.map fun _ => bytes.length)

/-- Writes bytes, where there are any. -/
def writeAll (file : File) : List UInt8 → Option (Outcome File FileError Unit)
  | [] => some (.success file () [])
  | first :: rest => (writeBytes file (first :: rest)).map (Outcome.map fun _ => ())

/-- Performs an operation on a file as a byte stream. -/
def streamCall (file : File) : StreamCall → Option (Outcome File StreamError Answer)
  | .readSome room => (readSome file room).map fun read => (read.map .buffer).mapFailure .file
  | .readExact count => (readExact file count).map (Outcome.map .buffer)
  | .readToEnd schedule =>
    (pull file fun round _ => schedule.room round).map fun read =>
      ((read.map .collected).mapFailure .file).quiet
  | .readToString schedule => (readToString file schedule).map fun read => (read.map .text).quiet
  | .take limit =>
    (pull file fun _ taken => limit - taken).map fun read =>
      ((read.map .collected).mapFailure .file).quiet
  | .seek target => (seekTo file target).map fun moved => (moved.map .offset).mapFailure .file
  | .rewind => (seekTo file (.start 0)).map fun moved => (moved.map fun _ => .done).mapFailure .file
  | .streamPosition =>
    (seekTo file (.current 0)).map fun moved => (moved.map .offset).mapFailure .file
  | .write bytes =>
    (writeBytes file bytes).map fun written => (written.map .count).mapFailure .file
  | .writeAll bytes =>
    (writeAll file bytes).map fun written => (written.map fun _ => .done).mapFailure .file
  | .flush => some (.success file .done [])

/-- Performs an operation of either sort. -/
def call (file : File) : Call → Option (Outcome File CallError Answer)
  | .file call => (fileCall file call).map (Outcome.mapFailure .file)
  | .stream call => (streamCall file call).map (Outcome.mapFailure .stream)

end Strict

end GappedFiles
