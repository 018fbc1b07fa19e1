/-
This file defines the events of a gapped file: what its operations report while
they run. An event is data, the numbers that a reader of the journal is told; its
level and its wording are functions of it. Changes of the file and of the cursor
are reported at the debug level, pieces delivered at the trace level and
refusals at the error level.
-/

namespace GappedFiles

/-! ### Levels -/

/-- How much an event matters. -/
inductive Level
  | error
  | debug
  | trace
  deriving DecidableEq, Inhabited

/-- The name under which a level is shown. -/
def Level.name : Level → String
  | .error => "ERROR"
  | .debug => "DEBUG"
  | .trace => "TRACE"

/-! ### Events -/

/-- What an operation on a file reports. -/
inductive Event
  /-- A block with a payload of `length` bytes now begins at the offset `offset`. -/
  | blockAppended (block length : Nat) (offset : UInt64)
  /-- The gap of a block now has `gap` bytes. -/
  | gapExtended (block : Nat) (gap : UInt64)
  /-- A pass was started over a file of `size` bytes in so many blocks. -/
  | passStarted (size : UInt64) (blocks : Nat)
  /-- A seek came to the payload of a block. -/
  | soughtPayload (target : UInt64) (block : Nat)
  /-- A seek came to the gap of a block, with `left` bytes of it to deliver. -/
  | soughtGap (target : UInt64) (block : Nat) (left : UInt64)
  /-- A seek came to the end of the file. -/
  | soughtEnd (target : UInt64)
  /-- What was left of a payload was delivered. -/
  | literalDelivered (length : Nat) (position : UInt64)
  /-- A whole buffer of filler was delivered, and its gap goes on. -/
  | fillerDelivered (length position : UInt64)
  /-- What was left of a gap was delivered. -/
  | gapFinished (length position : UInt64)
  /-- A write was refused because the file would become too long. -/
  | writeTooLong (length : Nat) (size : UInt64)
  /-- A write of filler was refused because no block can hold it. -/
  | fillerUnheld (length : UInt64)
  /-- A seek was refused because its target is beyond every offset. -/
  | seekTooFar (offset : Int64) (base : UInt64)
  /-- A seek was refused because its target is before the start. -/
  | soughtNegative (target : Int64)
  /-- A seek was refused because its target is beyond the end. -/
  | soughtPastEnd (target size : UInt64)
  /-- A read was refused because the cursor points at nothing. -/
  | cursorStuck (block : Nat) (position : UInt64)
  deriving DecidableEq, Inhabited

namespace Event

/-- How much an event matters. -/
def level : Event → Level
  | .blockAppended .. | .gapExtended .. | .passStarted .. => .debug
  | .soughtPayload .. | .soughtGap .. | .soughtEnd .. => .debug
  | .literalDelivered .. | .fillerDelivered .. | .gapFinished .. => .trace
  | .writeTooLong .. | .fillerUnheld .. | .cursorStuck .. => .error
  | .seekTooFar .. | .soughtNegative .. | .soughtPastEnd .. => .error

/-- The wording of an event. -/
def message : Event → String
  | .blockAppended block length offset =>
    s!"appended block {block} with {length} literal bytes at offset {offset}"
  | .gapExtended block gap => s!"extended gap of block {block} to {gap}"
  | .passStarted size blocks => s!"opened file of {size} bytes in {blocks} blocks"
  | .soughtPayload target block => s!"seek to {target}: block {block} payload"
  | .soughtGap target block left => s!"seek to {target}: block {block} gap, {left} remaining"
  | .soughtEnd target => s!"seek to end of stream at {target}"
  | .literalDelivered length position => s!"literal chunk of {length} bytes at {position}"
  | .fillerDelivered length position => s!"filler chunk of {length} bytes at {position}"
  | .gapFinished length position => s!"final filler chunk of {length} bytes at {position}"
  | .writeTooLong length size => s!"write of {length} bytes overflows logical size {size}"
  | .fillerUnheld length => s!"filler write of {length} bytes on a file with no literal block"
  | .seekTooFar offset base => s!"seek by {offset} from {base} overflows"
  | .soughtNegative target => s!"negative seek to {target}"
  | .soughtPastEnd target size => s!"seek to {target} past logical end {size}"
  | .cursorStuck block position => s!"read cursor stuck on block {block} at {position}"

/-- The line of the journal that shows an event: its level and its wording. -/
def line (event : Event) : String :=
  s!"{event.level.name} {event.message}"

/-- Whether an event reports a refusal. -/
def isError (event : Event) : Bool :=
  event.level == .error

end Event

end GappedFiles
