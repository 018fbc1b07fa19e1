/-
This file lists the ways in which an operation on a gapped file, or on a
registry of them, can be refused. An error is a cause: it carries the numbers
or the name that explain the refusal, and one function gives its wording. Two
errors are equal exactly when they have the same cause and the same contents,
whatever they read like.
-/

namespace GappedFiles

/-! ### Causes -/

/-- Why an operation on a file or on a registry was refused. -/
inductive FileError
  /-- A run of filler was written to a file that has no block to hold it. -/
  | fillerBeforeLiteral
  /-- A seek aimed before the start of the file. -/
  | negativeSeek (target : Int64)
  /-- A seek aimed beyond the end of the file. -/
  | seekPastEnd (target size : UInt64)
  /-- The target of a seek is beyond the largest offset there can be. -/
  | seekOverflow
  /-- A write would make the file longer than the largest offset there can be. -/
  | sizeOverflow
  /-- The read cursor points at something that is not in the file. -/
  | internalInconsistency (detail : String)
  /-- No file is stored under the path. -/
  | fileNotFound (path : String)
  /-- The path cannot name a file. -/
  | invalidPath (detail : String)
  /-- The filler cannot fill anything. -/
  | invalidFiller (detail : String)
  deriving DecidableEq, Inhabited

/-! ### Wording -/

/-- The wording of an error, as it is shown to a person. -/
def FileError.message : FileError → String
  | .fillerBeforeLiteral => "Filler write before any literal block"
  | .negativeSeek target => s!"Negative seek target: {target}"
  | .seekPastEnd target size => s!"Seek target {target} is past logical end {size}"
  | .seekOverflow => "Seek offset overflows 64-bit position"
  | .sizeOverflow => "Write would overflow the logical size"
  | .internalInconsistency detail => s!"Internal inconsistency: {detail}"
  | .fileNotFound path => s!"File not found: {path}"
  | .invalidPath detail => s!"Invalid path: {detail}"
  | .invalidFiller detail => s!"Invalid filler: {detail}"

end GappedFiles
