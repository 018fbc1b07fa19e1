/-
This file performs calls on every state that has the four operations on which calls
are built, and carries relations between two such states through runs of calls.

A call writes, starts a pass, reads the next piece or seeks, or it does several of
these one after the other: the loops of the byte stream read again and again, and
the cut piece of a buffered read is a read followed by a seek. Beyond that, calls
look at the filler, the size and the position only. So a call can be made on every
state that offers these, and the calls on a file are such calls. Where two sorts of
states are related and the four operations respect the relation, every call does,
and so does every run of calls, whatever is refused on the way.
-/

import GappedFiles.Call

namespace GappedFiles

/-! ### What calls are built of -/

/-- The operations on which all calls are built, and what calls look at in a state. -/
structure Operations (State : Type) where
  /-- What the gaps are filled with. -/
  filler : State → Filler
  /-- The number of bytes. -/
  size : State → UInt64
  /-- The offset of the next byte to deliver. -/
  position : State → UInt64
  /-- Appends a segment and returns its length. -/
  write : State → Segment → Outcome State FileError Nat
  /-- Starts a pass at the beginning. -/
  startPass : State → Outcome State FileError Unit
  /-- Delivers the next piece, or nothing. -/
  read : State → Outcome State FileError (Option Segment)
  /-- Moves the cursor to a target and returns the target's offset. -/
  seek : State → Int64 → Origin → Outcome State FileError UInt64

namespace Operations

variable {State : Type} (operations : Operations State)

/-- Moves the cursor on by an amount and returns by how much it has moved. -/
def skip (state : State) (amount : Int64) : Outcome State FileError Int64 :=
  (operations.seek state amount .current).map fun after =>
    after.toInt64 - (operations.position state).toInt64

/-- Reads on after some pieces and events, as often as is asked for. -/
def drainFrom (pieces : Array Segment) (events : Array Event) :
    Nat → State → Outcome State FileError File.Delivery
  | 0, state => .success state { pieces := pieces.toList, ended := false } events.toList
  | limit + 1, state =>
    let next := operations.read state
    let events := events ++ next.events
    match next.result with
    | .ok (some piece) => drainFrom (pieces.push piece) events limit next.state
    | .ok none => .success next.state { pieces := pieces.toList, ended := true } events.toList
    | .error failure =>
      { state := next.state, result := .error failure, events := events.toList }

/-- Reads into a buffer; behind a piece that is cut, the cursor is put by a seek. -/
def readSome (state : State) (room : Nat) : Outcome State FileError (List UInt8) :=
  if room = 0 then
    .success state [] []
  else
    (operations.read state).andThen fun after piece =>
      match piece with
      | none => .success after [] []
      | some piece =>
        let bytes := (piece.take room).expand (operations.filler state)
        if room < piece.length then
          let resumption := operations.position state + .ofNat room
          (operations.seek after resumption.toInt64 .start).map fun _ => bytes
        else
          .success after bytes []

/-- Reads into buffers one after the other, at most so many times. -/
def pullFrom (room : Nat → Nat → Nat) (round : Nat) (taken : Array UInt8)
    (events : Array Event) : Nat → State → Outcome State FileError (List UInt8)
  | 0, state => .success state taken.toList events.toList
  | fuel + 1, state =>
    if room round taken.size = 0 then
      .success state taken.toList events.toList
    else
      let next := operations.readSome state (room round taken.size)
      let events := events ++ next.events
      match next.result with
      | .ok [] => .success next.state taken.toList events.toList
      | .ok (first :: rest) =>
        pullFrom room (round + 1) (taken ++ (first :: rest)) events fuel next.state
      | .error failure =>
        { state := next.state, result := .error failure, events := events.toList }

/-- Reads again and again, until there is no room or nothing comes. -/
def pull (state : State) (room : Nat → Nat → Nat) : Outcome State FileError (List UInt8) :=
  operations.pullFrom room 0 #[] #[]
    ((operations.size state).toNat - (operations.position state).toNat + 1) state

/-- Reads a number of bytes, or fails where the stream ends before them. -/
def readExact (state : State) (count : Nat) : Outcome State StreamError (List UInt8) :=
  ((operations.pull state fun _ taken => count - taken).mapFailure .file).andThen
    fun after bytes =>
      if bytes.length = count then .success after bytes [] else .failure after .unexpectedEnd

/-- Reads everything up to the end as text. -/
def readToString (state : State) (schedule : File.Schedule) : Outcome State StreamError String :=
  ((operations.pull state fun round _ => schedule.room round).mapFailure .file).andThen
    fun after bytes =>
      match String.fromUTF8? bytes.toByteArray with
      | some text => .success after text []
      | none => .failure after .invalidText

/-- Moves the cursor to a target of a byte stream and returns its offset. -/
def seekTo (state : State) : File.SeekTarget → Outcome State FileError UInt64
  | .start offset =>
    if maxOffset < offset.toNat then .failure state .seekOverflow
    else operations.seek state offset.toInt64 .start
  | .current offset => operations.seek state offset .current
  | .finish offset => operations.seek state offset .finish

/-- Moves the cursor back to the start. -/
def rewind (state : State) : Outcome State FileError Unit :=
  (operations.seekTo state (.start 0)).map fun _ => ()

/-- Writes a buffer and returns how many bytes were written. -/
def writeBytes (state : State) (bytes : List UInt8) : Outcome State FileError Nat :=
  (operations.write state (.literal bytes)).map fun _ => bytes.length

/-- Writes bytes, where there are any. -/
def writeAll (state : State) : List UInt8 → Outcome State FileError Unit
  | [] => .success state () []
  | first :: rest => (operations.writeBytes state (first :: rest)).map fun _ => ()

/-! ### Calls on any state -/

/-- Performs a call on a file. -/
def fileCall (state : State) : FileCall → Outcome State FileError Answer
  | .write segment => (operations.write state segment).map .count
  | .writeLiteral bytes => (operations.write state (.literal bytes)).map .count
  | .writeFiller length => (operations.write state (.filler length)).map .count
  | .startPass => (operations.startPass state).map fun _ => .done
  | .read => (operations.read state).map .piece
  | .drain limit => (operations.drainFrom #[] #[] limit state).map .delivery
  | .seek offset origin => (operations.seek state offset origin).map .offset
  | .skip amount => (operations.skip state amount).map .distance
  | .filler => .success state (.filler (operations.filler state)) []

/-- Performs a call on a file as a byte stream. -/
def streamCall (state : State) : StreamCall → Outcome State StreamError Answer
  | .readSome room => ((operations.readSome state room).map .buffer).mapFailure .file
  | .readExact count => (operations.readExact state count).map .buffer
  | .readToEnd schedule =>
    ((operations.pull state fun round _ => schedule.room round).map .collected).mapFailure .file
      |>.quiet
  | .readToString schedule => (operations.readToString state schedule).map .text |>.quiet
  | .take limit =>
    ((operations.pull state fun _ taken => limit - taken).map .collected).mapFailure .file
      |>.quiet
  | .seek target => ((operations.seekTo state target).map .offset).mapFailure .file
  | .rewind => ((operations.rewind state).map fun _ => .done).mapFailure .file
  | .streamPosition => ((operations.seekTo state (.current 0)).map .offset).mapFailure .file
  | .write bytes => ((operations.writeBytes state bytes).map .count).mapFailure .file
  | .writeAll bytes => ((operations.writeAll state bytes).map fun _ => .done).mapFailure .file
  | .flush => .success state .done []

/-- Performs a call of either sort. -/
def call (state : State) : Call → Outcome State CallError Answer
  | .file call => (operations.fileCall state call).mapFailure .file
  | .stream call => (operations.streamCall state call).mapFailure .stream

/-- The state after calls made one after the other. -/
def runAll (state : State) (calls : List Call) : State :=
  calls.foldl (fun state call => (operations.call state call).state) state

@[simp] theorem runAll_nil (state : State) : operations.runAll state [] = state :=
  rfl

@[simp] theorem runAll_cons (state : State) (call : Call) (rest : List Call) :
    operations.runAll state (call :: rest) =
      operations.runAll (operations.call state call).state rest :=
  rfl

end Operations

/-! ### The calls on a file -/

namespace File

/-- The operations of a file. -/
def operations : Operations File where
  filler := File.filler
  size := File.size
  position := File.position
  write := File.write
  startPass := File.startPass
  read := File.read
  seek := File.seek

theorem operations_drainFrom (limit : Nat) (pieces : Array Segment) (events : Array Event)
    (file : File) :
    operations.drainFrom pieces events limit file = drainFrom pieces events limit file := by
  induction limit generalizing pieces events file with
  | zero => rfl
  | succ limit inductionHypothesis =>
    unfold Operations.drainFrom drainFrom
    simp only [inductionHypothesis]
    rfl

theorem operations_pullFrom (room : Nat → Nat → Nat) (fuel round : Nat) (taken : Array UInt8)
    (events : Array Event) (file : File) :
    operations.pullFrom room round taken events fuel file =
      pullFrom room round taken events fuel file := by
  induction fuel generalizing round taken events file with
  | zero => rfl
  | succ fuel inductionHypothesis =>
    unfold Operations.pullFrom pullFrom
    simp only [inductionHypothesis]
    rfl

theorem operations_pull (room : Nat → Nat → Nat) (file : File) :
    operations.pull file room = file.pull room :=
  operations_pullFrom room _ _ _ _ file

/-- Every call on a file is the call made with its operations. -/
theorem operations_call (file : File) (call : Call) :
    operations.call file call = call.run file := by
  cases call with
  | file call =>
    cases call with
    | drain limit =>
      rw [Operations.call, Operations.fileCall, operations_drainFrom]
      rfl
    | _ => rfl
  | stream call =>
    cases call with
    | readExact count =>
      rw [Operations.call, Operations.streamCall, Operations.readExact, operations_pull]
      rfl
    | readToEnd schedule =>
      rw [Operations.call, Operations.streamCall, operations_pull]
      rfl
    | readToString schedule =>
      rw [Operations.call, Operations.streamCall, Operations.readToString, operations_pull]
      rfl
    | take limit =>
      rw [Operations.call, Operations.streamCall, operations_pull]
      rfl
    | _ => rfl

theorem operations_runAll (file : File) (calls : List Call) :
    operations.runAll file calls = file.runAll calls := by
  induction calls generalizing file with
  | nil => rfl
  | cons call rest inductionHypothesis =>
    rw [Operations.runAll_cons, operations_call, inductionHypothesis, runAll_cons]

end File

/-! ### Outcomes that are alike -/

/-- Two outcomes with the same result and the same events, whose states are related. -/
structure Outcome.Alike {First Second Failure Result : Type} (Relation : First → Second → Prop)
    (first : Outcome First Failure Result) (second : Outcome Second Failure Result) : Prop where
  state : Relation first.state second.state
  result : first.result = second.result
  events : first.events = second.events

namespace Outcome.Alike

variable {First Second Failure Result : Type} {Relation : First → Second → Prop}
  {first : Outcome First Failure Result} {second : Outcome Second Failure Result}

theorem map {Converted : Type} (alike : Alike Relation first second)
    (convert : Result → Converted) : Alike Relation (first.map convert) (second.map convert) where
  state := alike.state
  result := congrArg (Except.map convert) alike.result
  events := alike.events

theorem mapFailure {Converted : Type} (alike : Alike Relation first second)
    (convert : Failure → Converted) :
    Alike Relation (first.mapFailure convert) (second.mapFailure convert) where
  state := alike.state
  result := congrArg (Except.mapError convert) alike.result
  events := alike.events

theorem quiet (alike : Alike Relation first second) : Alike Relation first.quiet second.quiet where
  state := alike.state
  result := alike.result
  events := rfl

theorem andThen {Final : Type} {next : First → Result → Outcome First Failure Final}
    {other : Second → Result → Outcome Second Failure Final} (alike : Alike Relation first second)
    (step : ∀ result : Result, Relation first.state second.state →
      Alike Relation (next first.state result) (other second.state result)) :
    Alike Relation (first.andThen next) (second.andThen other) := by
  have same := alike.result
  cases succeeded : first.result with
  | ok result =>
    rw [succeeded] at same
    have later := step result alike.state
    rw [andThen_of_ok succeeded, andThen_of_ok same.symm]
    refine ⟨later.state, later.result, ?_⟩
    dsimp only
    rw [alike.events, later.events]
  | error failure =>
    rw [succeeded] at same
    rw [andThen_of_error succeeded, andThen_of_error same.symm]
    exact ⟨alike.state, rfl, alike.events⟩

end Outcome.Alike

/-! ### Relations that every call respects -/

/-- Related states agree on what calls look at, and the four operations on which all calls are built
come to the same on them and leave them related. -/
structure Simulation {First Second : Type} (firsts : Operations First)
    (seconds : Operations Second) (Relation : First → Second → Prop) : Prop where
  filler : ∀ (first : First) (second : Second), Relation first second →
    firsts.filler first = seconds.filler second
  size : ∀ (first : First) (second : Second), Relation first second →
    firsts.size first = seconds.size second
  position : ∀ (first : First) (second : Second), Relation first second →
    firsts.position first = seconds.position second
  write : ∀ (first : First) (second : Second) (segment : Segment), Relation first second →
    Outcome.Alike Relation (firsts.write first segment) (seconds.write second segment)
  startPass : ∀ (first : First) (second : Second), Relation first second →
    Outcome.Alike Relation (firsts.startPass first) (seconds.startPass second)
  read : ∀ (first : First) (second : Second), Relation first second →
    Outcome.Alike Relation (firsts.read first) (seconds.read second)
  seek : ∀ (first : First) (second : Second) (offset : Int64) (origin : Origin),
    Relation first second →
      Outcome.Alike Relation (firsts.seek first offset origin) (seconds.seek second offset origin)

namespace Simulation

variable {First Second : Type} {firsts : Operations First} {seconds : Operations Second}
  {Relation : First → Second → Prop} (simulation : Simulation firsts seconds Relation)
  {first : First} {second : Second}

include simulation

theorem skip (amount : Int64) (related : Relation first second) :
    Outcome.Alike Relation (firsts.skip first amount) (seconds.skip second amount) := by
  rw [Operations.skip, Operations.skip, simulation.position _ _ related]
  exact (simulation.seek _ _ amount .current related).map _

theorem drainFrom (limit : Nat) (pieces : Array Segment) (events : Array Event)
    (related : Relation first second) :
    Outcome.Alike Relation (firsts.drainFrom pieces events limit first)
      (seconds.drainFrom pieces events limit second) := by
  induction limit generalizing pieces events first second with
  | zero => exact ⟨related, rfl, rfl⟩
  | succ limit inductionHypothesis =>
    have next := simulation.read _ _ related
    unfold Operations.drainFrom
    dsimp only
    rw [next.result, next.events]
    split
    · exact inductionHypothesis _ _ next.state
    · exact ⟨next.state, rfl, rfl⟩
    · exact ⟨next.state, rfl, rfl⟩

theorem readSome (room : Nat) (related : Relation first second) :
    Outcome.Alike Relation (firsts.readSome first room) (seconds.readSome second room) := by
  unfold Operations.readSome
  split
  · exact ⟨related, rfl, rfl⟩
  · refine (simulation.read _ _ related).andThen fun piece later => ?_
    cases piece with
    | none => exact ⟨later, rfl, rfl⟩
    | some piece =>
      dsimp only
      rw [simulation.filler _ _ related, simulation.position _ _ related]
      split
      · exact (simulation.seek _ _ _ _ later).map _
      · exact ⟨later, rfl, rfl⟩

theorem pullFrom (room : Nat → Nat → Nat) (fuel round : Nat) (taken : Array UInt8)
    (events : Array Event) (related : Relation first second) :
    Outcome.Alike Relation (firsts.pullFrom room round taken events fuel first)
      (seconds.pullFrom room round taken events fuel second) := by
  induction fuel generalizing round taken events first second with
  | zero => exact ⟨related, rfl, rfl⟩
  | succ fuel inductionHypothesis =>
    have next := simulation.readSome (room round taken.size) related
    unfold Operations.pullFrom
    split
    · exact ⟨related, rfl, rfl⟩
    · dsimp only
      rw [next.result, next.events]
      split
      · exact ⟨next.state, rfl, rfl⟩
      · exact inductionHypothesis _ _ _ next.state
      · exact ⟨next.state, rfl, rfl⟩

theorem pull (room : Nat → Nat → Nat) (related : Relation first second) :
    Outcome.Alike Relation (firsts.pull first room) (seconds.pull second room) := by
  rw [Operations.pull, Operations.pull, simulation.size _ _ related,
    simulation.position _ _ related]
  exact simulation.pullFrom room _ _ _ _ related

theorem readExact (count : Nat) (related : Relation first second) :
    Outcome.Alike Relation (firsts.readExact first count) (seconds.readExact second count) := by
  refine ((simulation.pull _ related).mapFailure _).andThen fun bytes later => ?_
  split <;> exact ⟨later, rfl, rfl⟩

theorem readToString (schedule : File.Schedule) (related : Relation first second) :
    Outcome.Alike Relation (firsts.readToString first schedule)
      (seconds.readToString second schedule) := by
  refine ((simulation.pull _ related).mapFailure _).andThen fun bytes later => ?_
  split <;> exact ⟨later, rfl, rfl⟩

theorem seekTo (target : File.SeekTarget) (related : Relation first second) :
    Outcome.Alike Relation (firsts.seekTo first target) (seconds.seekTo second target) := by
  cases target with
  | start offset =>
    unfold Operations.seekTo
    dsimp only
    split
    · exact ⟨related, rfl, rfl⟩
    · exact simulation.seek _ _ _ _ related
  | current offset => exact simulation.seek _ _ _ _ related
  | finish offset => exact simulation.seek _ _ _ _ related

theorem writeAll (bytes : List UInt8) (related : Relation first second) :
    Outcome.Alike Relation (firsts.writeAll first bytes) (seconds.writeAll second bytes) := by
  cases bytes with
  | nil => exact ⟨related, rfl, rfl⟩
  | cons head rest => exact ((simulation.write _ _ _ related).map _).map _

theorem fileCall (call : FileCall) (related : Relation first second) :
    Outcome.Alike Relation (firsts.fileCall first call) (seconds.fileCall second call) := by
  cases call with
  | write segment => exact (simulation.write _ _ segment related).map _
  | writeLiteral bytes => exact (simulation.write _ _ _ related).map _
  | writeFiller length => exact (simulation.write _ _ _ related).map _
  | startPass => exact (simulation.startPass _ _ related).map _
  | read => exact (simulation.read _ _ related).map _
  | drain limit => exact (simulation.drainFrom limit _ _ related).map _
  | seek offset origin => exact (simulation.seek _ _ offset origin related).map _
  | skip amount => exact (simulation.skip amount related).map _
  | filler =>
    exact ⟨related, congrArg (Except.ok ∘ Answer.filler) (simulation.filler _ _ related), rfl⟩

theorem streamCall (call : StreamCall) (related : Relation first second) :
    Outcome.Alike Relation (firsts.streamCall first call) (seconds.streamCall second call) := by
  cases call with
  | readSome room => exact ((simulation.readSome room related).map _).mapFailure _
  | readExact count => exact (simulation.readExact count related).map _
  | readToEnd schedule => exact (((simulation.pull _ related).map _).mapFailure _).quiet
  | readToString schedule => exact ((simulation.readToString schedule related).map _).quiet
  | take limit => exact (((simulation.pull _ related).map _).mapFailure _).quiet
  | seek target => exact ((simulation.seekTo target related).map _).mapFailure _
  | rewind => exact (((simulation.seekTo _ related).map _).map _).mapFailure _
  | streamPosition => exact ((simulation.seekTo _ related).map _).mapFailure _
  | write bytes => exact (((simulation.write _ _ _ related).map _).map _).mapFailure _
  | writeAll bytes => exact ((simulation.writeAll bytes related).map _).mapFailure _
  | flush => exact ⟨related, rfl, rfl⟩

/-- Every call comes to the same on related states and leaves them related. -/
theorem call (call : Call) (related : Relation first second) :
    Outcome.Alike Relation (firsts.call first call) (seconds.call second call) := by
  cases call with
  | file call => exact (simulation.fileCall call related).mapFailure _
  | stream call => exact (simulation.streamCall call related).mapFailure _

/-- Every run of calls leaves related states related. -/
theorem runAll (calls : List Call) (related : Relation first second) :
    Relation (firsts.runAll first calls) (seconds.runAll second calls) := by
  induction calls generalizing first second with
  | nil => exact related
  | cons call rest inductionHypothesis =>
    rw [Operations.runAll_cons, Operations.runAll_cons]
    exact inductionHypothesis (simulation.call call related).state

end Simulation

end GappedFiles
