/-
This file defines the operations of a byte stream that read more than once: until
a buffer is full, until a limit is reached, until the end. All of them are one
loop that asks before each read how much room there is, and stops when there is
none or when a read brings nothing.

A read that brings something brings at least one byte, so the bytes between the
cursor and the end bound the number of reads.
-/

import GappedFiles.ByteStream.Access

namespace GappedFiles

namespace File

/-! ### The loop -/

/-- How many bytes there are from the cursor to the end. -/
def remaining (file : File) : Nat :=
  file.size.toNat - file.position.toNat

/-- Reads on after some bytes and events, at most `fuel` times. The room of each read is
`room round taken`, where `round` counts the reads before it and `taken` the bytes they
brought. -/
def pullFrom (room : Nat → Nat → Nat) (round : Nat) (taken : Array UInt8)
    (events : Array Event) : Nat → File → Outcome File FileError (List UInt8)
  | 0, file => .success file taken.toList events.toList
  | fuel + 1, file =>
    if room round taken.size = 0 then
      .success file taken.toList events.toList
    else
      let next := file.readSome (room round taken.size)
      let events := events ++ next.events
      match next.result with
      | .ok [] => .success next.state taken.toList events.toList
      | .ok (first :: rest) =>
        pullFrom room (round + 1) (taken ++ (first :: rest)) events fuel next.state
      | .error failure =>
        { state := next.state, result := .error failure, events := events.toList }

/-- Reads again and again, until there is no room or nothing comes, and returns all that was
read. The last of the reads may be the one that finds the end, hence one read more than there
are bytes. -/
def pull (file : File) (room : Nat → Nat → Nat) : Outcome File FileError (List UInt8) :=
  pullFrom room 0 #[] #[] (file.remaining + 1) file

/-! ### A number of bytes -/

/-- Reads up to `limit` bytes, each read into what is left of the limit. -/
def take (file : File) (limit : Nat) : Outcome File FileError (List UInt8) :=
  file.pull fun _ taken => limit - taken

/-- Reads exactly `count` bytes. Where the stream ends before them, what there was is lost. -/
def readExact (file : File) (count : Nat) : Outcome File StreamError (List UInt8) :=
  ((file.take count).mapFailure .file).andThen fun after bytes =>
    if bytes.length = count then .success after bytes [] else .failure after .unexpectedEnd

/-! ### Everything -/

/-- The sizes of the buffers that are read into one after the other, none of them without
room. -/
structure Schedule where
  /-- The room of the buffer with the given number. -/
  room : Nat → Nat
  /-- No buffer is without room. -/
  room_pos : ∀ round, 0 < room round

/-- Buffers that all have the size of a mebibyte. -/
def Schedule.steady : Schedule where
  room _ := 1048576
  room_pos _ := by decide

instance : Inhabited Schedule := ⟨.steady⟩

/-- Reads everything up to the end into buffers of the given sizes. -/
def readToEnd (file : File) (schedule : Schedule) : Outcome File FileError (List UInt8) :=
  file.pull fun round _ => schedule.room round

/-- Reads everything up to the end as text. Bytes that are no text are lost. -/
def readToString (file : File) (schedule : Schedule) : Outcome File StreamError String :=
  ((file.readToEnd schedule).mapFailure .file).andThen fun after bytes =>
    match String.fromUTF8? bytes.toByteArray with
    | some text => .success after text []
    | none => .failure after .invalidText

end File

end GappedFiles
