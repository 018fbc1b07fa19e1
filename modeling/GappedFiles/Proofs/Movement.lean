/-
This file sorts calls by what they may change. A call appends a segment, or it
reads, or it does neither, and only the first sort touches more than the cursor.

A write looks at the cursor and moves it along, but what it appends does not
depend on where the cursor is. Two files that differ in the cursor alone therefore
come to the same in every call that does not read, and again differ in the cursor
alone.
-/

import GappedFiles.Proofs.Buffering

namespace GappedFiles

/-! ### The sorts of calls -/

/-- The segment that a call asks the file to append. -/
def Call.segment? : Call → Option Segment
  | .file (.write segment) => some segment
  | .file (.writeLiteral bytes) => some (.literal bytes)
  | .file (.writeFiller length) => some (.filler length)
  | .stream (.write bytes) => some (.literal bytes)
  | .stream (.writeAll (first :: rest)) => some (.literal (first :: rest))
  | .file _ | .stream _ => none

/-- Whether a call opens the file, reads it or seeks in it. -/
def Call.reads : Call → Bool
  | .file .startPass | .file .read | .file (.drain _) | .file (.seek ..) | .file (.skip _) => true
  | .stream (.readSome _) | .stream (.readExact _) | .stream (.readToEnd _) => true
  | .stream (.readToString _) | .stream (.take _) => true
  | .stream (.seek _) | .stream .rewind | .stream .streamPosition => true
  | .file (.write _) | .file (.writeLiteral _) | .file (.writeFiller _) | .file .filler => false
  | .stream (.write _) | .stream (.writeAll _) | .stream .flush => false

namespace Call

variable {call : Call} {segment : Segment}

/-- A call that appends a segment is the write of that segment, with the result and the error put
in the call's own terms. It returns no bytes. -/
theorem run_eq_write (appends : call.segment? = some segment) :
    ∃ (answer : Nat → Answer) (report : FileError → CallError),
      (∀ (count : Nat) (bytes : List UInt8), answer count ≠ .buffer bytes) ∧
      ∀ file : File, call.run file = ((file.write segment).map answer).mapFailure report := by
  unfold segment? at appends
  split at appends
  · cases appends
    exact ⟨.count, .file, fun _ _ => Answer.noConfusion, fun _ => rfl⟩
  · cases appends
    exact ⟨.count, .file, fun _ _ => Answer.noConfusion, fun _ => rfl⟩
  · cases appends
    exact ⟨.count, .file, fun _ _ => Answer.noConfusion, fun _ => rfl⟩
  · rename_i bytes
    cases appends
    refine ⟨fun _ => .count bytes.length, .stream ∘ .file, fun _ _ => Answer.noConfusion,
      fun file => ?_⟩
    show ((((file.write (.literal bytes)).map _).map _).mapFailure _).mapFailure _ = _
    rw [Outcome.map_map, Outcome.mapFailure_mapFailure]
    rfl
  · rename_i head rest
    cases appends
    refine ⟨fun _ => .done, .stream ∘ .file, fun _ _ => Answer.noConfusion, fun file => ?_⟩
    show (((((file.write (.literal (head :: rest))).map _).map _).map _).mapFailure _).mapFailure _
      = _
    rw [Outcome.map_map, Outcome.map_map, Outcome.mapFailure_mapFailure]
    rfl
  · cases appends
  · cases appends

/-- A call that neither appends nor reads leaves the file as it was, and returns at most the
filler. -/
theorem run_of_idle (appendsNothing : call.segment? = none) (writes : call.reads = false) :
    ∃ answer : Filler → Answer,
      (∀ (filler : Filler) (bytes : List UInt8), answer filler ≠ .buffer bytes) ∧
      ∀ file : File, call.run file = .success file (answer file.filler) [] := by
  cases call with
  | file call =>
    cases call with
    | filler => exact ⟨.filler, fun _ _ => Answer.noConfusion, fun _ => rfl⟩
    | write | writeLiteral | writeFiller => cases appendsNothing
    | startPass | read | drain | seek | skip => cases writes
  | stream call =>
    cases call with
    | flush => exact ⟨fun _ => .done, fun _ _ => Answer.noConfusion, fun _ => rfl⟩
    | writeAll bytes =>
      cases bytes with
      | nil => exact ⟨fun _ => .done, fun _ _ => Answer.noConfusion, fun _ => rfl⟩
      | cons head rest => cases appendsNothing
    | write => cases appendsNothing
    | readSome | readExact | readToEnd | readToString | take | seek | rewind | streamPosition =>
      cases writes

end Call

namespace File

variable {file after first second : File}

/-! ### Files that differ in the cursor alone -/

/-- The second file is the first one with its cursor elsewhere. -/
def Moved (file after : File) : Prop :=
  after = { file with cursor := after.cursor }

theorem Moved.refl (file : File) : file.Moved file :=
  rfl

theorem Moved.symm (moved : first.Moved second) : second.Moved first := by
  rw [Moved] at moved ⊢
  rw [moved]

theorem Moved.trans {third : File} (moved : first.Moved second) (later : second.Moved third) :
    first.Moved third := by
  rw [Moved] at moved later ⊢
  rw [later, moved]

theorem moved_drainFrom (limit : Nat) (pieces : Array Segment) (events : Array Event)
    (file : File) : file.Moved (drainFrom pieces events limit file).state := by
  induction limit generalizing pieces events file with
  | zero => exact .refl file
  | succ limit inductionHypothesis =>
    unfold drainFrom
    dsimp only
    split
    · exact Moved.trans file.read_state (inductionHypothesis _ _ _)
    · exact file.read_state
    · exact file.read_state

theorem moved_pullFrom (room : Nat → Nat → Nat) (fuel round : Nat) (taken : Array UInt8)
    (events : Array Event) (file : File) :
    file.Moved (pullFrom room round taken events fuel file).state := by
  induction fuel generalizing round taken events file with
  | zero => exact .refl file
  | succ fuel inductionHypothesis =>
    unfold pullFrom
    split
    · exact .refl file
    · dsimp only
      split
      · exact file.readSome_state _
      · exact Moved.trans (file.readSome_state _) (inductionHypothesis _ _ _ _)
      · exact file.readSome_state _

theorem moved_readExact (file : File) (count : Nat) :
    file.Moved (file.readExact count).state := by
  have moved : file.Moved (file.take count).state := moved_pullFrom _ _ _ _ _ _
  unfold readExact Outcome.andThen
  split
  · dsimp only
    split <;> exact moved
  · exact moved

theorem moved_readToString (file : File) (schedule : Schedule) :
    file.Moved (file.readToString schedule).state := by
  have moved : file.Moved (file.readToEnd schedule).state := moved_pullFrom _ _ _ _ _ _
  unfold readToString Outcome.andThen
  split
  · dsimp only
    split <;> exact moved
  · exact moved

theorem moved_seekTo (file : File) (target : SeekTarget) :
    file.Moved (file.seekTo target).state := by
  cases target with
  | start offset =>
    unfold seekTo
    dsimp only
    split
    · exact .refl file
    · exact file.seek_state _ _
  | current offset => exact file.seek_state _ _
  | finish offset => exact file.seek_state _ _

/-- A call that reads moves at most the cursor. -/
theorem moved_of_reads (file : File) {call : Call} (reads : call.reads = true) :
    file.Moved (call.run file).state := by
  cases call with
  | file call =>
    cases call with
    | startPass => exact rfl
    | read => exact file.read_state
    | drain limit => exact moved_drainFrom limit _ _ file
    | seek offset origin => exact file.seek_state offset origin
    | skip amount => exact file.seek_state amount .current
    | write | writeLiteral | writeFiller | filler => cases reads
  | stream call =>
    cases call with
    | readSome room => exact file.readSome_state room
    | readExact count => exact file.moved_readExact count
    | readToEnd schedule => exact moved_pullFrom _ _ _ _ _ file
    | readToString schedule => exact file.moved_readToString schedule
    | take limit => exact moved_pullFrom _ _ _ _ _ file
    | seek target => exact file.moved_seekTo target
    | rewind => exact file.moved_seekTo _
    | streamPosition => exact file.moved_seekTo _
    | write | writeAll | flush => cases reads

theorem moved_run (file : File) {call : Call} (appendsNothing : call.segment? = none) :
    file.Moved (call.run file).state := by
  cases reads : call.reads with
  | true => exact file.moved_of_reads reads
  | false =>
    obtain ⟨answer, -, run⟩ := Call.run_of_idle appendsNothing reads
    rw [run]
    exact .refl file

/-- Files that differ in the cursor alone grow in the same way. -/
theorem Moved.write (moved : first.Moved second) (segment : Segment) :
    Outcome.Alike Moved (first.write segment) (second.write segment) := by
  rw [Moved] at moved
  rw [moved]
  -- A write looks at the cursor only to say where it is afterwards.
  unfold File.write
  dsimp only
  split
  · exact ⟨rfl, rfl, rfl⟩
  · split
    · split <;> exact ⟨rfl, rfl, rfl⟩
    · exact ⟨rfl, rfl, rfl⟩
    · exact ⟨rfl, rfl, rfl⟩

/-- A call that does not read comes to the same on files that differ in the cursor alone. -/
theorem Moved.run (moved : first.Moved second) {call : Call} (writes : call.reads = false) :
    Outcome.Alike Moved (call.run first) (call.run second) := by
  cases appends : call.segment? with
  | some segment =>
    obtain ⟨answer, report, -, run⟩ := Call.run_eq_write appends
    rw [run, run]
    exact ((moved.write segment).map _).mapFailure _
  | none =>
    obtain ⟨answer, -, run⟩ := Call.run_of_idle appends writes
    have filler : first.filler = second.filler := by
      rw [Moved] at moved
      rw [moved]
    rw [run, run, filler]
    exact ⟨moved, rfl, rfl⟩

end File

end GappedFiles
