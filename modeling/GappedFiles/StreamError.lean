/-
This file lists the ways in which an operation on a byte stream can fail. Most
failures are refusals of the file behind the stream, carried along unchanged. Two
are the stream's own: it ended before a buffer was full, and its bytes are no
text.
-/

import GappedFiles.FileError

namespace GappedFiles

/-! ### Failures -/

/-- Why an operation on a byte stream failed. -/
inductive StreamError
  /-- The file behind the stream refused it. -/
  | file (error : FileError)
  /-- The stream ended before there were as many bytes as were asked for. -/
  | unexpectedEnd
  /-- The bytes of the stream are not the encoding of a text. -/
  | invalidText
  deriving DecidableEq, Inhabited

/-- The kinds into which failures of a stream are sorted. -/
inductive StreamError.Kind
  | invalidInput
  | notFound
  | unexpectedEnd
  | invalidData
  | other
  deriving DecidableEq, Inhabited

/-- The kind of a stream's failure that a refusal of its file is: a seek that cannot be made
is a fault of what was asked for. -/
def FileError.streamKind : FileError → StreamError.Kind
  | .negativeSeek _ | .seekPastEnd .. | .seekOverflow => .invalidInput
  | .fileNotFound _ => .notFound
  | .fillerBeforeLiteral | .sizeOverflow | .internalInconsistency _ => .other
  | .invalidPath _ | .invalidFiller _ => .other

namespace StreamError

/-- The kind of a failure. -/
def kind : StreamError → Kind
  | .file error => error.streamKind
  | .unexpectedEnd => .unexpectedEnd
  | .invalidText => .invalidData

/-- The wording of a failure. -/
def message : StreamError → String
  | .file error => error.message
  | .unexpectedEnd => "failed to fill whole buffer"
  | .invalidText => "stream did not contain valid UTF-8"

end StreamError

end GappedFiles
