/-
This file makes the operations on a registry into data, as calls on a file are. A
call that works on one file carries the calls to be made on it: either all of
them, whatever each comes to, or as many as succeed.
-/

import GappedFiles.Call
import GappedFiles.Registry.Basic

namespace GappedFiles

/-! ### Calls and what they return -/

/-- An operation on a registry, with its arguments. -/
inductive RegistryCall
  | touch (path : String)
  | append (path : String) (segment : Segment)
  | writeLiteral (path : String) (bytes : List UInt8)
  | writeFiller (path : String) (length : UInt64)
  | length (path : String)
  /-- All the calls are made on the file. -/
  | withFile (path : String) (calls : List Call)
  /-- The calls are made on the file up to the first that is refused. -/
  | attempt (path : String) (calls : List FileCall)
  | remove (path : String)
  deriving Inhabited

/-- The name a call is about. -/
def RegistryCall.path : RegistryCall → String
  | .touch path | .append path _ | .writeLiteral path _ | .writeFiller path _ => path
  | .length path => path
  | .withFile path _ | .attempt path _ | .remove path => path

/-- What a call on a registry returns. -/
inductive RegistryAnswer
  /-- Nothing but that it is done. -/
  | done
  /-- A number of bytes. -/
  | count (bytes : Nat)
  /-- The size of a file. -/
  | size (size : UInt64)
  /-- What each of the calls on a file came to. -/
  | history (outcomes : List (Outcome File CallError Answer))
  /-- What the calls on a file returned, all of which succeeded. -/
  | answers (answers : List Answer)
  /-- The file that was taken out. -/
  | removed (file : File)

/-! ### Running calls -/

/-- Makes all of the calls on a file. Each outcome among them carries its own events, and so
there are none beside them. -/
def File.recorded (file : File) (calls : List Call) :
    Outcome File FileError (List (Outcome File CallError Answer)) :=
  let outcomes := file.history calls
  .success (File.lastState file outcomes) outcomes []

/-- Performs an operation on a registry. -/
def RegistryCall.run (registry : Registry) :
    RegistryCall → Outcome Registry FileError RegistryAnswer
  | .touch path => (registry.touch path).map fun _ => .done
  | .append path segment => (registry.append path segment).map .count
  | .writeLiteral path bytes => (registry.writeLiteral path bytes).map .count
  | .writeFiller path count => (registry.writeFiller path count).map .count
  | .length path => (registry.length path).map .size
  | .withFile path calls => (registry.withFile path (·.recorded calls)).map .history
  | .attempt path calls => (registry.withFile path (·.attempt calls)).map .answers
  | .remove path => (registry.remove path).map .removed

/-! ### Histories -/

/-- The outcomes of calls made one after the other, each on the registry that the one before it
left behind. -/
def Registry.history (registry : Registry) :
    List RegistryCall → List (Outcome Registry FileError RegistryAnswer)
  | [] => []
  | call :: rest =>
    let outcome := call.run registry
    outcome :: outcome.state.history rest

/-- The state after calls made one after the other. -/
def Registry.runAll (registry : Registry) (calls : List RegistryCall) : Registry :=
  calls.foldl (fun registry call => (call.run registry).state) registry

@[simp] theorem Registry.runAll_nil (registry : Registry) : registry.runAll [] = registry :=
  rfl

@[simp] theorem Registry.runAll_cons (registry : Registry) (call : RegistryCall)
    (rest : List RegistryCall) :
    registry.runAll (call :: rest) = (call.run registry).state.runAll rest :=
  rfl

/-- Recording calls on a file leaves it as making them does. -/
@[simp] theorem File.recorded_state (file : File) (calls : List Call) :
    (file.recorded calls).state = file.runAll calls :=
  file.lastState_history calls

end GappedFiles
