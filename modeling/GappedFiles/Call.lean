/-
This file makes the operations on a file into data: a call names an operation and
carries its arguments, and running a call performs it. A history of a file is
then a list of calls, and the states a file can come to are those that some list
of calls leads to.

There are calls on the file itself and calls on it as a byte stream. They can be
mixed freely, but they fail in different ways, and a call's error says which of
the two it was.
-/

import GappedFiles.ByteStream.Collect

namespace GappedFiles

/-! ### Calls and what they return -/

/-- An operation on a file, with its arguments. -/
inductive FileCall
  | write (segment : Segment)
  | writeLiteral (bytes : List UInt8)
  | writeFiller (length : UInt64)
  | startPass
  | read
  | drain (limit : Nat)
  | seek (offset : Int64) (origin : Origin)
  | skip (amount : Int64)
  | filler
  deriving DecidableEq, Inhabited

/-- An operation on a file as a byte stream, with its arguments. -/
inductive StreamCall
  | readSome (room : Nat)
  | readExact (count : Nat)
  | readToEnd (schedule : File.Schedule)
  | readToString (schedule : File.Schedule)
  | take (limit : Nat)
  | seek (target : File.SeekTarget)
  | rewind
  | streamPosition
  | write (bytes : List UInt8)
  | writeAll (bytes : List UInt8)
  | flush
  deriving Inhabited

/-- An operation of either sort. -/
inductive Call
  | file (call : FileCall)
  | stream (call : StreamCall)
  deriving Inhabited

/-- What a call returns. -/
inductive Answer
  /-- Nothing but that it is done. -/
  | done
  /-- A number of bytes. -/
  | count (bytes : Nat)
  /-- An offset in the file. -/
  | offset (target : UInt64)
  /-- How far the cursor has moved. -/
  | distance (moved : Int64)
  /-- A piece of the file, or nothing at the end. -/
  | piece (piece : Option Segment)
  /-- The pieces of many reads. -/
  | delivery (delivery : File.Delivery)
  /-- The filler of the file. -/
  | filler (filler : Filler)
  /-- What was read into one buffer. -/
  | buffer (bytes : List UInt8)
  /-- What was read into many buffers. -/
  | collected (bytes : List UInt8)
  /-- What was read as text. -/
  | text (text : String)
  deriving DecidableEq, Inhabited

/-- Why a call failed: a call on the file was refused, or a call on the stream failed. -/
inductive CallError
  | file (error : FileError)
  | stream (error : StreamError)
  deriving DecidableEq, Inhabited

/-! ### Running calls -/

/-- Performs an operation on a file. -/
def FileCall.run (file : File) : FileCall → Outcome File FileError Answer
  | .write segment => (file.write segment).map .count
  | .writeLiteral bytes => (file.writeLiteral bytes).map .count
  | .writeFiller length => (file.writeFiller length).map .count
  | .startPass => file.startPass.map fun _ => .done
  | .read => file.read.map .piece
  | .drain limit => (file.drain limit).map .delivery
  | .seek offset origin => (file.seek offset origin).map .offset
  | .skip amount => (file.skip amount).map .distance
  | .filler => .success file (.filler file.filler) []

/-- Performs an operation on a file as a byte stream. What is read into buffers whose sizes
the caller does not choose is not reported, because the reports would tell those sizes. -/
def StreamCall.run (file : File) : StreamCall → Outcome File StreamError Answer
  | .readSome room => ((file.readSome room).map .buffer).mapFailure .file
  | .readExact count => (file.readExact count).map .buffer
  | .readToEnd schedule => ((file.readToEnd schedule).map .collected).mapFailure .file |>.quiet
  | .readToString schedule => (file.readToString schedule).map .text |>.quiet
  | .take limit => ((file.take limit).map .collected).mapFailure .file |>.quiet
  | .seek target => ((file.seekTo target).map .offset).mapFailure .file
  | .rewind => (file.rewind.map fun _ => .done).mapFailure .file
  | .streamPosition => (file.streamPosition.map .offset).mapFailure .file
  | .write bytes => ((file.writeBytes bytes).map .count).mapFailure .file
  | .writeAll bytes => ((file.writeAll bytes).map fun _ => .done).mapFailure .file
  | .flush => (file.flush.map fun _ => .done).mapFailure .file

/-- Performs an operation of either sort. -/
def Call.run (file : File) : Call → Outcome File CallError Answer
  | .file call => (call.run file).mapFailure .file
  | .stream call => (call.run file).mapFailure .stream

/-! ### Histories -/

/-- The outcomes of calls made one after the other, each on the state that the one before it
left behind, whether that one succeeded or not. -/
def File.history (file : File) : List Call → List (Outcome File CallError Answer)
  | [] => []
  | call :: rest =>
    let outcome := call.run file
    outcome :: outcome.state.history rest

/-- The state after calls made one after the other. -/
def File.runAll (file : File) (calls : List Call) : File :=
  calls.foldl (fun file call => (call.run file).state) file

/-- The state that the last of some outcomes left behind, which is the given one where there
are no outcomes. -/
def File.lastState (file : File) (outcomes : List (Outcome File CallError Answer)) : File :=
  (outcomes.getLast?.map Outcome.state).getD file

/-- Makes calls one after the other, and no more of them once one has been refused. The calls
before it keep their effect. -/
def File.attempt (file : File) : List FileCall → Outcome File FileError (List Answer)
  | [] => .success file [] []
  | call :: rest =>
    (call.run file).andThen fun file answer => (file.attempt rest).map (answer :: ·)

@[simp] theorem File.runAll_nil (file : File) : file.runAll [] = file :=
  rfl

@[simp] theorem File.runAll_cons (file : File) (call : Call) (rest : List Call) :
    file.runAll (call :: rest) = (call.run file).state.runAll rest :=
  rfl

theorem File.runAll_append (file : File) (first second : List Call) :
    file.runAll (first ++ second) = (file.runAll first).runAll second :=
  List.foldl_append

@[simp] theorem File.length_history (file : File) (calls : List Call) :
    (file.history calls).length = calls.length := by
  induction calls generalizing file with
  | nil => rfl
  | cons call rest inductionHypothesis =>
    show ((call.run file).state.history rest).length + 1 = rest.length + 1
    rw [inductionHypothesis]

theorem File.history_append (file : File) (first second : List Call) :
    file.history (first ++ second) = file.history first ++ (file.runAll first).history second := by
  induction first generalizing file with
  | nil => rfl
  | cons call rest inductionHypothesis =>
    rw [List.cons_append, history, history, inductionHypothesis]
    rfl

/-- The last outcome of a history leaves behind the state that the calls lead to. -/
theorem File.lastState_history (file : File) (calls : List Call) :
    file.lastState (file.history calls) = file.runAll calls := by
  induction calls generalizing file with
  | nil => rfl
  | cons call rest inductionHypothesis =>
    rw [runAll_cons, ← inductionHypothesis, history]
    cases later : (call.run file).state.history rest with
    | nil => rfl
    | cons head tail => rw [lastState, lastState, List.getLast?_cons_cons]; rfl

end GappedFiles
