/-
This file says which refusals the journal of a file tells of.

A call that the file refuses has to report the refusal, and to report nothing else; a call
that is not refused has no refusal to report. The event that reports a refusal says which
one it is, so that the error a call returns can be read off the journal. Writes and seeks
keep to this because each of their branches reports what it returns. Reads are never
refused. Neither is the seek by which a buffered read puts the cursor back, and so no read
reports a piece first and then a refusal.

There is one exception. A byte stream is sought from the start by an offset that has no
sign. Where that offset is beyond every offset, the stream refuses it before the file is
asked, and the journal does not tell of it.
-/

import GappedFiles.Proofs.Buffering

namespace GappedFiles

/-! ### Refusals and their reports -/

/-- The refusal that an event reports. -/
def Event.refusal? : Event → Option FileError
  | .writeTooLong .. => some .sizeOverflow
  | .fillerUnheld _ => some .fillerBeforeLiteral
  | .seekTooFar .. => some .seekOverflow
  | .soughtNegative target => some (.negativeSeek target)
  | .soughtPastEnd target size => some (.seekPastEnd target size)
  | .cursorStuck block position =>
    some (.internalInconsistency s!"block {block} has nothing to deliver at position {position}")
  | .blockAppended .. | .gapExtended .. | .passStarted .. => none
  | .soughtPayload .. | .soughtGap .. | .soughtEnd _ => none
  | .literalDelivered .. | .fillerDelivered .. | .gapFinished .. => none

/-- The events that report refusals are those at the error level. -/
theorem Event.isSome_refusal? (event : Event) : event.refusal?.isSome = event.isError := by
  cases event <;> rfl

/-- A seek that succeeds reports no refusal, wherever it has come. -/
theorem Event.isError_sought (target : UInt64) (place : Place) :
    (Event.sought target place).isError = false := by
  cases place <;> rfl

/-- The refusal of the file that a failure of its stream carries along. -/
def StreamError.refusal? : StreamError → Option FileError
  | .file error => some error
  | .unexpectedEnd | .invalidText => none

/-- The refusal of the file that is behind the failure of a call. -/
def CallError.refusal? : CallError → Option FileError
  | .file error => some error
  | .stream error => error.refusal?

namespace Outcome

/-- The refusal of the file with which a call has ended. -/
def refusal? (outcome : Outcome File CallError Answer) : Option FileError :=
  match outcome.result with
  | .ok _ => none
  | .error failure => failure.refusal?

/-- The events of a call tell whether the file has refused it, and why. -/
structure Reported (outcome : Outcome File CallError Answer) : Prop where
  refused_iff : outcome.refusal?.isSome = true ↔ (outcome.events.filter Event.isError).length = 1
  alone : ∀ error : FileError, outcome.refusal? = some error →
    ∃ event : Event, outcome.events = [event] ∧ event.level = .error ∧
      event.refusal? = some error
  accepted : ∀ answer : Answer, outcome.result = .ok answer →
    ∀ event ∈ outcome.events, event.level ≠ .error

variable {Failure Result Converted : Type} {cause : Failure → Option FileError}
  {outcome : Outcome File Failure Result}

/-! ### Outcomes without a refusal -/

/-- Nothing has been refused, and no refusal is reported. The file has refused an operation that
ends in a failure with a cause. -/
structure Calm (cause : Failure → Option FileError) (outcome : Outcome File Failure Result) :
    Prop where
  unrefused : ∀ failure : Failure, outcome.result = .error failure → cause failure = none
  silent : ∀ event ∈ outcome.events, event.isError = false

theorem calm_of_ok {result : Result} (succeeded : outcome.result = .ok result)
    (silent : ∀ event ∈ outcome.events, event.isError = false) : outcome.Calm cause where
  unrefused := fun _ failed => nomatch succeeded.symm.trans failed
  silent := silent

theorem calm_of_silence (file : File) (result : Result) :
    (Outcome.success file result [] : Outcome File Failure Result).Calm cause :=
  calm_of_ok rfl fun _ member => nomatch member

theorem calm_of_single (file : File) (result : Result) {event : Event}
    (harmless : event.isError = false) :
    (Outcome.success file result [event] : Outcome File Failure Result).Calm cause :=
  calm_of_ok rfl fun _ member => List.mem_singleton.mp member ▸ harmless

theorem calm_of_failure (file : File) {failure : Failure} (uncaused : cause failure = none) :
    (Outcome.failure file failure : Outcome File Failure Result).Calm cause where
  unrefused := by
    rintro _ ⟨⟩
    exact uncaused
  silent := fun _ member => nomatch member

theorem Calm.map (calm : outcome.Calm cause) (convert : Result → Converted) :
    (outcome.map convert).Calm cause where
  unrefused := fun failure failed => calm.unrefused failure (map_result_eq_error.mp failed)
  silent := calm.silent

theorem mapFailure_result_eq_error {convert : Failure → Converted} {converted : Converted} :
    (outcome.mapFailure convert).result = .error converted ↔
      ∃ failure : Failure, outcome.result = .error failure ∧ convert failure = converted := by
  obtain ⟨state, result, events⟩ := outcome
  cases result with
  | ok result => exact ⟨nofun, nofun⟩
  | error failure =>
    refine ⟨fun same => ⟨failure, rfl, Except.error.inj same⟩, ?_⟩
    rintro ⟨_, ⟨⟩, rfl⟩
    rfl

theorem Calm.mapFailure {causeThen : Converted → Option FileError} {convert : Failure → Converted}
    (calm : outcome.Calm cause) (same : ∀ failure : Failure,
      causeThen (convert failure) = cause failure) :
    (outcome.mapFailure convert).Calm causeThen where
  unrefused := by
    intro _ failed
    obtain ⟨failure, before, rfl⟩ := mapFailure_result_eq_error.mp failed
    exact (same failure).trans (calm.unrefused failure before)
  silent := calm.silent

theorem Calm.quiet (calm : outcome.Calm cause) : outcome.quiet.Calm cause where
  unrefused := calm.unrefused
  silent := fun _ member => nomatch member

theorem Calm.andThen {Final : Type} {next : File → Result → Outcome File Failure Final}
    (calm : outcome.Calm cause)
    (step : ∀ result : Result, outcome.result = .ok result →
      (next outcome.state result).Calm cause) :
    (outcome.andThen next).Calm cause := by
  cases first : outcome.result with
  | error failure =>
    rw [andThen_of_error first]
    refine ⟨?_, calm.silent⟩
    rintro _ ⟨⟩
    exact calm.unrefused failure first
  | ok result =>
    have later := step result first
    rw [andThen_of_ok first]
    refine ⟨later.unrefused, fun event member => ?_⟩
    rcases List.mem_append.mp member with before | after
    · exact calm.silent event before
    · exact later.silent event after

/-- What a loop has reported so far, and what one more operation reports. -/
theorem Calm.extend {events : Array Event} (calm : outcome.Calm cause)
    (silent : ∀ event ∈ events.toList, event.isError = false) :
    ∀ event ∈ (events ++ outcome.events).toList, event.isError = false := by
  intro event member
  rw [Array.toList_appendList] at member
  rcases List.mem_append.mp member with before | after
  · exact silent event before
  · exact calm.silent event after

/-! ### Outcomes that own up to their refusals -/

/-- Either nothing has been refused and no refusal is reported, or something has been refused and
nothing else is reported. -/
inductive Candid (cause : Failure → Option FileError) (outcome : Outcome File Failure Result) : Prop
  | calm (calm : outcome.Calm cause)
  | refused {failure : Failure} {error : FileError} {event : Event}
      (failed : outcome.result = .error failure) (caused : cause failure = some error)
      (alone : outcome.events = [event]) (tells : event.refusal? = some error)

theorem Candid.map (candid : outcome.Candid cause) (convert : Result → Converted) :
    (outcome.map convert).Candid cause := by
  cases candid with
  | calm calm => exact .calm (calm.map convert)
  | refused failed caused alone tells =>
    exact .refused (map_result_eq_error.mpr failed) caused alone tells

theorem Candid.mapFailure {causeThen : Converted → Option FileError}
    {convert : Failure → Converted} (candid : outcome.Candid cause)
    (same : ∀ failure : Failure, causeThen (convert failure) = cause failure) :
    (outcome.mapFailure convert).Candid causeThen := by
  cases candid with
  | calm calm => exact .calm (calm.mapFailure same)
  | refused failed caused alone tells =>
    exact .refused (mapFailure_result_eq_error.mpr ⟨_, failed, rfl⟩) ((same _).trans caused) alone
      tells

theorem Candid.reported {outcome : Outcome File CallError Answer}
    (candid : outcome.Candid CallError.refusal?) : outcome.Reported := by
  cases candid with
  | calm calm =>
    have unrefused : outcome.refusal? = none := by
      unfold refusal?
      split
      · rfl
      · exact calm.unrefused _ ‹_›
    have none : outcome.events.filter Event.isError = [] :=
      List.filter_eq_nil_iff.mpr fun event member =>
        Bool.eq_false_iff.mp (calm.silent event member)
    refine ⟨?_, ?_, fun _ _ event member => ?_⟩
    · rw [unrefused, none]
      exact iff_of_false nofun nofun
    · rw [unrefused]
      exact nofun
    · exact beq_eq_false_iff_ne.mp (calm.silent event member)
  | @refused failure error event failed caused alone tells =>
    have refused : outcome.refusal? = some error := by
      rw [refusal?, failed]
      exact caused
    have isError : event.isError = true := by
      rw [← event.isSome_refusal?, tells]
      rfl
    refine ⟨?_, ?_, fun _ succeeded => nomatch succeeded.symm.trans failed⟩
    · rw [refused, alone, List.filter_singleton, isError]
      exact iff_of_true rfl rfl
    · intro other same
      rw [refused] at same
      exact ⟨event, alone, beq_iff_eq.mp isError, tells.trans same⟩

end Outcome

/-! ### Reading is never refused -/

namespace File

variable {file : File}

theorem WellFormed.calm_read (wellFormed : file.WellFormed) : file.read.Calm some := by
  have delivered := read_delivered wellFormed
  generalize file.read = outcome at delivered ⊢
  cases delivered with
  | unopened => exact Outcome.calm_of_silence _ _
  | ended => exact Outcome.calm_of_silence _ _
  | payload => exact Outcome.calm_of_single _ _ rfl
  | buffer => exact Outcome.calm_of_single _ _ rfl
  | remainder => exact Outcome.calm_of_single _ _ rfl

/-- Where a piece is cut, the seek that follows the read is not refused either. -/
theorem WellFormed.calm_readSome (wellFormed : file.WellFormed) (room : Nat) :
    (file.readSome room).Calm some := by
  unfold readSome
  split
  · exact Outcome.calm_of_silence _ _
  · refine wellFormed.calm_read.andThen fun piece delivered => ?_
    cases piece with
    | none => exact Outcome.calm_of_silence _ _
    | some piece =>
      dsimp only
      split
      · rename_i cut
        rw [seek_behind wellFormed delivered cut]
        exact (Outcome.calm_of_single _ _ (Event.isError_sought _ _)).map _
      · exact Outcome.calm_of_silence _ _

theorem WellFormed.calm_drainFrom (wellFormed : file.WellFormed) (limit : Nat)
    (pieces : Array Segment) (events : Array Event)
    (silent : ∀ event ∈ events.toList, event.isError = false) :
    (drainFrom pieces events limit file).Calm some := by
  induction limit generalizing file pieces events with
  | zero => exact Outcome.calm_of_ok rfl silent
  | succ limit inductionHypothesis =>
    have next := wellFormed.calm_read
    have further := next.extend silent
    unfold drainFrom
    dsimp only
    split
    · exact inductionHypothesis wellFormed.read _ _ further
    · exact Outcome.calm_of_ok rfl further
    · rename_i failure failed
      exact nomatch next.unrefused failure failed

theorem WellFormed.calm_pullFrom (wellFormed : file.WellFormed) (room : Nat → Nat → Nat)
    (fuel round : Nat) (taken : Array UInt8) (events : Array Event)
    (silent : ∀ event ∈ events.toList, event.isError = false) :
    (pullFrom room round taken events fuel file).Calm some := by
  induction fuel generalizing file round taken events with
  | zero => exact Outcome.calm_of_ok rfl silent
  | succ fuel inductionHypothesis =>
    have next := wellFormed.calm_readSome (room round taken.size)
    have later := wellFormed_kept.readSome file (room round taken.size) wellFormed
    have further := next.extend silent
    unfold pullFrom
    split
    · exact Outcome.calm_of_ok rfl silent
    · dsimp only
      split
      · exact Outcome.calm_of_ok rfl further
      · exact inductionHypothesis later _ _ _ further
      · rename_i failure failed
        exact nomatch next.unrefused failure failed

theorem WellFormed.calm_pull (wellFormed : file.WellFormed) (room : Nat → Nat → Nat) :
    (file.pull room).Calm some :=
  wellFormed.calm_pullFrom room _ 0 #[] #[] fun _ member => nomatch member

/-- A stream that ends too early is no refusal of the file. -/
theorem WellFormed.calm_readExact (wellFormed : file.WellFormed) (count : Nat) :
    (file.readExact count).Calm StreamError.refusal? := by
  have taken : ((file.take count).mapFailure .file).Calm StreamError.refusal? :=
    (wellFormed.calm_pull _).mapFailure fun _ => rfl
  refine taken.andThen fun bytes _ => ?_
  split
  · exact Outcome.calm_of_silence _ _
  · exact Outcome.calm_of_failure _ rfl

/-- Bytes that are no text are no refusal of the file. -/
theorem WellFormed.calm_readToString (wellFormed : file.WellFormed) (schedule : Schedule) :
    (file.readToString schedule).Calm StreamError.refusal? := by
  have collected : ((file.readToEnd schedule).mapFailure .file).Calm StreamError.refusal? :=
    (wellFormed.calm_pull _).mapFailure fun _ => rfl
  refine collected.andThen fun bytes _ => ?_
  split
  · exact Outcome.calm_of_silence _ _
  · exact Outcome.calm_of_failure _ rfl

end File

/-! ### Writing and seeking -/

namespace File

theorem candid_write (file : File) (segment : Segment) : (file.write segment).Candid some := by
  have written := file.write_written segment
  generalize file.write segment = outcome at written ⊢
  cases written with
  | tooLong => exact .refused rfl rfl rfl rfl
  | unheld => exact .refused rfl rfl rfl rfl
  | extended => exact .calm (Outcome.calm_of_single _ _ rfl)
  | ignored => exact .calm (Outcome.calm_of_silence _ _)
  | appended => exact .calm (Outcome.calm_of_single _ _ rfl)

theorem candid_seek (file : File) (offset : Int64) (origin : Origin) :
    (file.seek offset origin).Candid some := by
  have sought := file.seek_sought offset origin
  generalize file.seek offset origin = outcome at sought ⊢
  cases sought with
  | tooFar => exact .refused rfl rfl rfl rfl
  | negative => exact .refused rfl rfl rfl rfl
  | pastEnd => exact .refused rfl rfl rfl rfl
  | moved => exact .calm (Outcome.calm_of_single _ _ (Event.isError_sought _ _))

/-- Whether a target is beyond every offset already without a sum. -/
def SeekTarget.overshoots : SeekTarget → Bool
  | .start offset => decide (maxOffset < offset.toNat)
  | .current _ | .finish _ => false

theorem seekTo_of_overshoots (file : File) {target : SeekTarget}
    (overshoots : target.overshoots = true) : file.seekTo target = .failure file .seekOverflow := by
  cases target with
  | start offset => rw [seekTo, if_pos (of_decide_eq_true overshoots)]
  | current offset => exact nomatch overshoots
  | finish offset => exact nomatch overshoots

theorem candid_seekTo (file : File) {target : SeekTarget} (within : target.overshoots = false) :
    (file.seekTo target).Candid some := by
  cases target with
  | start offset =>
    rw [seekTo, if_neg (of_decide_eq_false within)]
    exact file.candid_seek _ _
  | current offset => exact file.candid_seek _ _
  | finish offset => exact file.candid_seek _ _

end File

/-! ### The calls that report their refusals -/

/-- Whether a call seeks from the start by an offset that is beyond every offset of a file. -/
def StreamCall.overshoots : StreamCall → Bool
  | .seek target => target.overshoots
  | .readSome _ | .readExact _ | .readToEnd _ | .readToString _ | .take _ => false
  | .rewind | .streamPosition | .write _ | .writeAll _ | .flush => false

/-- Whether a call seeks from the start by an offset that is beyond every offset of a file. Calls
on the file itself cannot, as their offsets have a sign. -/
def Call.overshoots : Call → Bool
  | .file _ => false
  | .stream call => call.overshoots

namespace File

variable {file : File}

theorem WellFormed.candid_fileCall (wellFormed : file.WellFormed) (call : FileCall) :
    (call.run file).Candid some := by
  cases call with
  | write segment => exact (file.candid_write segment).map _
  | writeLiteral bytes => exact (file.candid_write _).map _
  | writeFiller length => exact (file.candid_write _).map _
  | startPass => exact .calm (Outcome.calm_of_single _ _ rfl)
  | read => exact .calm (wellFormed.calm_read.map _)
  | drain limit =>
    exact .calm ((wellFormed.calm_drainFrom limit #[] #[] fun _ member => nomatch member).map _)
  | seek offset origin => exact (file.candid_seek offset origin).map _
  | skip amount => exact ((file.candid_seek amount .current).map _).map _
  | filler => exact .calm (Outcome.calm_of_silence _ _)

theorem WellFormed.candid_streamCall (wellFormed : file.WellFormed) {call : StreamCall}
    (within : call.overshoots = false) : (call.run file).Candid StreamError.refusal? := by
  have carried : ∀ error : FileError, (StreamError.file error).refusal? = some error :=
    fun _ => rfl
  cases call with
  | readSome room =>
    exact .calm (((wellFormed.calm_readSome room).map _).mapFailure carried)
  | readExact count => exact .calm ((wellFormed.calm_readExact count).map _)
  | readToEnd schedule =>
    exact .calm (((wellFormed.calm_pull _).map _).mapFailure carried).quiet
  | readToString schedule => exact .calm ((wellFormed.calm_readToString schedule).map _).quiet
  | take limit => exact .calm (((wellFormed.calm_pull _).map _).mapFailure carried).quiet
  | seek target => exact ((file.candid_seekTo within).map _).mapFailure carried
  | rewind => exact (((file.candid_seekTo rfl).map _).map _).mapFailure carried
  | streamPosition => exact ((file.candid_seekTo rfl).map _).mapFailure carried
  | write bytes => exact (((file.candid_write _).map _).map _).mapFailure carried
  | writeAll bytes =>
    cases bytes with
    | nil => exact .calm (Outcome.calm_of_silence _ _)
    | cons first rest => exact ((((file.candid_write _).map _).map _).map _).mapFailure carried
  | flush => exact .calm (Outcome.calm_of_silence _ _)

theorem WellFormed.candid_call (wellFormed : file.WellFormed) {call : Call}
    (within : call.overshoots = false) : (call.run file).Candid CallError.refusal? := by
  cases call with
  | file call => exact (wellFormed.candid_fileCall call).mapFailure fun _ => rfl
  | stream call => exact (wellFormed.candid_streamCall within).mapFailure fun _ => rfl

theorem run_of_overshoots (file : File) {call : Call} (overshoots : call.overshoots = true) :
    call.run file = .failure file (.stream (.file .seekOverflow)) := by
  cases call with
  | file call => exact nomatch overshoots
  | stream call =>
    cases call with
    | seek target => rw [Call.run, StreamCall.run, file.seekTo_of_overshoots overshoots]; rfl
    | _ => exact nomatch overshoots

end File

/-- A refusal that no event tells of is not reported. -/
theorem Outcome.not_reported_failure (file : File) {failure : CallError} {error : FileError}
    (caused : failure.refusal? = some error) :
    ¬ (Outcome.failure file failure : Outcome File CallError Answer).Reported := by
  intro reported
  obtain ⟨event, events, -⟩ := reported.alone error caused
  exact nomatch events

/-- In the files that calls lead to, every call reports its refusal, and reports nothing else then,
and reports no refusal where it succeeds. The one exception is the seek from the start by an offset
beyond every offset: it is always refused, and never reports it. -/
theorem refusals_reported {file : File} (reachable : file.Reachable) (call : Call) :
    ((call.run file).Reported ↔ call.overshoots = false) ∧
      (call.overshoots = true →
        call.run file = .failure file (.stream (.file .seekOverflow))) := by
  refine ⟨⟨fun reported => ?_, fun within => ?_⟩, file.run_of_overshoots⟩
  · refine Bool.eq_false_iff.mpr fun overshoots => ?_
    rw [file.run_of_overshoots overshoots] at reported
    exact Outcome.not_reported_failure file rfl reported
  · exact (reachable.wellFormed.candid_call within).reported

/-- The greatest offset is refused by the file, which reports it. The next one is refused by the
stream, which does not. -/
theorem refusals_reported_at_limit :
    let file := (File.empty .shared).runAll [.file (.write (.literal [1, 2]))]
    let last := Call.stream (.seek (.start 9223372036854775807))
    let beyond := Call.stream (.seek (.start 9223372036854775808))
    (last.run file).refusal? = some (.seekPastEnd 9223372036854775807 2) ∧
      (∃ event : Event, (last.run file).events = [event] ∧ event.level = .error ∧
        event.refusal? = some (.seekPastEnd 9223372036854775807 2)) ∧
      beyond.run file = .failure file (.stream (.file .seekOverflow)) ∧
      ¬ (beyond.run file).Reported := by
  intro file last beyond
  have reachable : file.Reachable := ⟨.shared, _, rfl⟩
  have refused : (last.run file).refusal? = some (.seekPastEnd 9223372036854775807 2) := by decide
  have reported := (refusals_reported reachable last).1.mpr (by decide)
  obtain ⟨reports, overshot⟩ := refusals_reported reachable beyond
  exact ⟨refused, reported.alone _ refused, overshot (by decide),
    fun claimed => absurd (reports.mp claimed) (by decide)⟩

/-- Not every refusal is reported: the seek of an empty file from the start, by the first offset
that is beyond every offset, ends in a refusal and reports nothing. -/
theorem refusal_unreported_beyond_limit :
    let file := File.empty .shared
    let outcome := (Call.stream (.seek (.start 9223372036854775808))).run file
    file.Reachable ∧ outcome.refusal? = some .seekOverflow ∧ outcome.events = [] ∧
      ¬ outcome.Reported := by
  intro file outcome
  have unreported : outcome = .failure file (.stream (.file .seekOverflow)) := rfl
  rw [unreported]
  exact ⟨⟨.shared, [], rfl⟩, rfl, rfl, Outcome.not_reported_failure file rfl⟩

end GappedFiles
