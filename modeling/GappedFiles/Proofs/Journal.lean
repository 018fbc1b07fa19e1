/-
This file proves that the journal of a file tells its layout and its position. A reader who has
nothing but the lines of the journal keeps an outline of the file: how long the payload and the
gap of each block are, and where the cursor is. With each line the reader checks what the line
says about the file as it was, and brings the outline up to date.

The four operations on which all calls are built report what they do in such a way that the
outline comes out right. A buffered read that cuts a piece reports the whole piece first, and the
seek behind it corrects the position, so that the outline is right after the call and not in the
middle of it. Three calls report nothing, because their reports would tell the sizes of buffers
that the caller does not choose; they are left out.
-/

import GappedFiles.Proofs.JournalLines
import GappedFiles.Proofs.Reachable
import GappedFiles.Proofs.Reading

namespace GappedFiles

/-! ### Outlines -/

/-- What a reader of the journal knows of a file. -/
structure Outline where
  /-- The lengths of the payload and of the gap of each block. -/
  blocks : List (Nat × Nat)
  /-- The offset of the next byte to deliver. -/
  position : Nat
  deriving DecidableEq

namespace Outline

/-- The outline of a file with nothing in it. -/
def blank : Outline where
  blocks := []
  position := 0

/-- How many bytes there are in the file. -/
def length (outline : Outline) : Nat :=
  outline.blocks.foldr (fun block length => block.1 + block.2 + length) 0

/-- The outline after a notice, or nothing where the notice does not agree with the outline. -/
def tell (outline : Outline) : Notice → Option Outline
  | .appended block length offset =>
    if block = outline.blocks.length ∧ offset = outline.length then
      some { outline with blocks := outline.blocks ++ [(length, 0)] }
    else
      none
  | .extended block gap =>
    match outline.blocks.getLast? with
    | some (length, before) =>
      if block + 1 = outline.blocks.length ∧ before ≤ gap then
        some { outline with blocks := outline.blocks.dropLast ++ [(length, gap)] }
      else
        none
    | none => none
  | .opened size blocks =>
    if size = outline.length ∧ blocks = outline.blocks.length then
      some { outline with position := 0 }
    else
      none
  | .moved target => some { outline with position := target }
  | .delivered length position =>
    if position = outline.position then
      some { outline with position := outline.position + length }
    else
      none
  | .refused => some outline

/-- The outline after the lines of a journal, or nothing where one of them cannot be read or does
not agree with the outline at that point. -/
def replay (outline : Outline) (lines : List String) : Option Outline :=
  lines.foldlM (fun outline line => (Notice.read line).bind outline.tell) outline

theorem replay_append (outline : Outline) (first second : List String) :
    outline.replay (first ++ second) = (outline.replay first).bind (·.replay second) :=
  List.foldlM_append

/-- The line of an event does what its notice does. -/
theorem replay_line (outline : Outline) (event : Event) :
    outline.replay [event.line] = outline.tell event.notice := by
  show ((Notice.read event.line).bind outline.tell).bind some = _
  rw [read_line, Option.bind_some, Option.bind_fun_some]

/-- The lines of refusals change nothing. -/
theorem replay_errors (outline : Outline) {events : List Event}
    (errors : ∀ event ∈ events, event.isError = true) :
    outline.replay (events.map Event.line) = some outline := by
  induction events with
  | nil => rfl
  | cons event rest inductionHypothesis =>
    have refused := event.notice_eq_refused.mpr (errors event List.mem_cons_self)
    rw [List.map_cons, ← List.singleton_append, replay_append, replay_line, refused]
    exact inductionHypothesis fun other member => errors other (List.mem_cons_of_mem _ member)

end Outline

/-! ### The outline of a file -/

namespace File

/-- What there is to know of a file from its journal. -/
def outline (file : File) : Outline where
  blocks := file.blocks.map fun block => (block.payload.length, block.gap.toNat)
  position := file.position.toNat

theorem outline_empty (filler : Filler) : (empty filler).outline = .blank :=
  rfl

theorem length_outline_blocks (file : File) : file.outline.blocks.length = file.blockCount :=
  List.length_map _

variable {file : File}

/-- The outline has the length of the file. -/
theorem WellFormed.length_outline (wellFormed : file.WellFormed) :
    file.outline.length = file.size.toNat := by
  rw [wellFormed.size_eq, Outline.length, outline, List.foldr_map]
  rfl

theorem outline_appendBlock (file : File) (bytes : List UInt8) :
    (file.appendBlock bytes).outline =
      { file.outline with blocks := file.outline.blocks ++ [(bytes.length, 0)] } := by
  show Outline.mk (List.map _ (file.blocks ++ [_])) _ = _
  rw [List.map_append, List.map_singleton]
  rfl

/-- The outline when the last block is known. -/
theorem outline_of_split {earlier : List Block} {last : Block}
    (split : file.blocks = earlier ++ [last]) :
    file.outline =
      { blocks := earlier.map (fun block => (block.payload.length, block.gap.toNat)) ++
          [(last.payload.length, last.gap.toNat)]
        position := file.position.toNat } := by
  rw [outline, split, List.map_append, List.map_singleton]

theorem outline_deliver {place : Place} {length : UInt64}
    (fits : file.position.toNat + length.toNat ≤ maxOffset) :
    (file.deliver place length).outline =
      { file.outline with position := file.outline.position + length.toNat } :=
  congrArg (Outline.mk _) (position_deliver fits)

end File

/-! ### What the operations tell -/

/-- A reader whose outline was right before an operation has the right one after it. -/
structure Outcome.Told {Failure Result : Type} (file : File)
    (outcome : Outcome File Failure Result) : Prop where
  wellFormed : outcome.state.WellFormed
  replayed : file.outline.replay (outcome.events.map Event.line) = some outcome.state.outline

namespace File

variable {file : File}

theorem WellFormed.told_extendLast (wellFormed : file.WellFormed) {earlier : List Block}
    {last : Block} {length : UInt64} (fits : file.size.toNat + length.toNat ≤ maxOffset)
    (split : file.blocks = earlier ++ [last]) :
    file.outline.tell (.extended earlier.length (last.gap + length).toNat) =
      some (file.extendLast last length).outline := by
  have gap := toNat_add_of_le (wellFormed.gap_le fits split)
  rw [outline_of_split split, outline_of_split (extendLast_blocks length split), Outline.tell,
    List.getLast?_concat]
  dsimp only
  rw [if_pos, List.dropLast_concat]
  · rfl
  · rw [gap, List.length_append, List.length_map, List.length_singleton]
    exact ⟨rfl, Nat.le_add_right _ _⟩

theorem WellFormed.told_write (wellFormed : file.WellFormed) (segment : Segment) :
    (file.write segment).Told file where
  wellFormed := wellFormed.write segment
  replayed := by
    have written := file.write_written segment
    generalize file.write segment = outcome at written ⊢
    cases written with
    | tooLong => exact Outline.replay_line _ _
    | unheld => exact Outline.replay_line _ _
    | extended earlier last length fits split =>
      exact (Outline.replay_line _ _).trans (wellFormed.told_extendLast fits split)
    | ignored => rfl
    | appended first rest fits =>
      refine (Outline.replay_line _ _).trans ?_
      show _ = some (file.appendBlock (first :: rest)).outline
      rw [outline_appendBlock]
      exact if_pos ⟨file.length_outline_blocks.symm, wellFormed.length_outline.symm⟩

theorem WellFormed.told_startPass (wellFormed : file.WellFormed) : file.startPass.Told file where
  wellFormed := wellFormed.startPass
  replayed := (Outline.replay_line _ _).trans
    (if_pos ⟨wellFormed.length_outline.symm, file.length_outline_blocks.symm⟩)

/-- A piece is reported with the position at which it begins. -/
theorem tell_delivered (place : Place) {length : UInt64}
    (fits : file.position.toNat + length.toNat ≤ maxOffset) :
    file.outline.tell (.delivered length.toNat file.position.toNat) =
      some (file.deliver place length).outline := by
  rw [outline_deliver fits]
  exact if_pos rfl

theorem WellFormed.told_read (wellFormed : file.WellFormed) : file.read.Told file where
  wellFormed := wellFormed.read
  replayed := by
    have delivered := read_delivered wellFormed
    have total := wellFormed.total_le
    generalize file.read = outcome at delivered ⊢
    cases delivered with
    | unopened => rfl
    | ended opened atEnd =>
      -- The end reports nothing, although the cursor may have left a gap to come to it.
      have same : file.position + 0 = file.position := UInt64.add_zero _
      show some file.outline = some (Outline.mk _ (file.position + 0).toNat)
      rw [same]
      rfl
    | payload opened before after block offset split inside sum =>
      rw [split, totalLength_append, totalLength_cons, Block.length] at total
      have length : (UInt64.ofNat (block.payload.drop offset).length).toNat =
          (block.payload.drop offset).length :=
        toNat_ofNat_of_le (by rw [List.length_drop]; omega)
      have fits : file.position.toNat + (UInt64.ofNat (block.payload.drop offset).length).toNat ≤
          maxOffset := by
        rw [length, List.length_drop]
        omega
      have told := tell_delivered (.gap before.length block.gap) fits
      rw [length] at told
      exact (Outline.replay_line _ _).trans told
    | buffer opened before after block left split bounded sum longer =>
      rw [split, totalLength_append, totalLength_cons] at total
      have part := UInt64.le_iff_toNat_le.mp (UInt64.le_of_lt longer)
      exact (Outline.replay_line _ _).trans (tell_delivered _ (by omega))
    | remainder opened before after block left split bounded sum nonzero shorter =>
      rw [split, totalLength_append, totalLength_cons] at total
      exact (Outline.replay_line _ _).trans (tell_delivered _ (by omega))

theorem WellFormed.told_seek (wellFormed : file.WellFormed) (offset : Int64) (origin : Origin) :
    (file.seek offset origin).Told file where
  wellFormed := wellFormed.seek offset origin
  replayed := by
    have sought := file.seek_sought offset origin
    generalize file.seek offset origin = outcome at sought ⊢
    cases sought with
    | tooFar => exact Outline.replay_line _ _
    | negative => exact Outline.replay_line _ _
    | pastEnd => exact Outline.replay_line _ _
    | moved target sum fits inFile =>
      -- The wording depends on the place that was found, the notice on the target alone.
      refine (Outline.replay_line _ _).trans ?_
      cases (file.moveTo (.ofNat target)).cursor.place <;> rfl

end File

/-! ### What the calls tell -/

namespace Outcome.Told

variable {Failure Result : Type} {file : File} {outcome : Outcome File Failure Result}

/-- What reports nothing and changes nothing tells everything. -/
theorem silent (wellFormed : file.WellFormed) (result : Result) :
    (Outcome.success file result [] : Outcome File Failure Result).Told file :=
  ⟨wellFormed, rfl⟩

theorem map {Converted : Type} (told : outcome.Told file) (convert : Result → Converted) :
    (outcome.map convert).Told file :=
  ⟨told.wellFormed, told.replayed⟩

theorem mapFailure {Converted : Type} (told : outcome.Told file) (convert : Failure → Converted) :
    (outcome.mapFailure convert).Told file :=
  ⟨told.wellFormed, told.replayed⟩

theorem andThen {Final : Type} {next : File → Result → Outcome File Failure Final}
    (told : outcome.Told file)
    (step : ∀ result : Result, (next outcome.state result).Told outcome.state) :
    (outcome.andThen next).Told file := by
  cases first : outcome.result with
  | error failure =>
    rw [andThen_of_error first]
    exact ⟨told.wellFormed, told.replayed⟩
  | ok result =>
    have later := step result
    rw [andThen_of_ok first]
    refine ⟨later.wellFormed, ?_⟩
    dsimp only
    rw [List.map_append, Outline.replay_append, told.replayed]
    exact later.replayed

/-- What a loop has reported so far, and what one more operation reports. -/
theorem extend {start : File} {events : Array Event} (told : outcome.Told file)
    (replayed : start.outline.replay (events.toList.map Event.line) = some file.outline) :
    start.outline.replay ((events ++ outcome.events).toList.map Event.line) =
      some outcome.state.outline := by
  rw [Array.toList_appendList, List.map_append, Outline.replay_append, replayed]
  exact told.replayed

end Outcome.Told

namespace File

variable {file : File}

theorem WellFormed.told_drainFrom {start : File} (wellFormed : file.WellFormed) (limit : Nat)
    (pieces : Array Segment) (events : Array Event)
    (replayed : start.outline.replay (events.toList.map Event.line) = some file.outline) :
    (drainFrom pieces events limit file).Told start := by
  induction limit generalizing file pieces events with
  | zero => exact ⟨wellFormed, replayed⟩
  | succ limit inductionHypothesis =>
    have next := wellFormed.told_read
    have further := next.extend replayed
    unfold drainFrom
    dsimp only
    split
    · exact inductionHypothesis next.wellFormed _ _ further
    · exact ⟨next.wellFormed, further⟩
    · exact ⟨next.wellFormed, further⟩

/-- Where a piece is cut, the seek that follows the read has the last word on the position. -/
theorem WellFormed.told_readSome (wellFormed : file.WellFormed) (room : Nat) :
    (file.readSome room).Told file := by
  unfold readSome
  split
  · exact .silent wellFormed []
  · refine wellFormed.told_read.andThen fun piece => ?_
    cases piece with
    | none => exact .silent wellFormed.read []
    | some piece =>
      dsimp only
      split
      · exact (wellFormed.read.told_seek _ .start).map _
      · exact .silent wellFormed.read _

theorem WellFormed.told_pullFrom {start : File} (wellFormed : file.WellFormed)
    (room : Nat → Nat → Nat) (fuel round : Nat) (taken : Array UInt8) (events : Array Event)
    (replayed : start.outline.replay (events.toList.map Event.line) = some file.outline) :
    (pullFrom room round taken events fuel file).Told start := by
  induction fuel generalizing file round taken events with
  | zero => exact ⟨wellFormed, replayed⟩
  | succ fuel inductionHypothesis =>
    have next := wellFormed.told_readSome (room round taken.size)
    have further := next.extend replayed
    unfold pullFrom
    split
    · exact ⟨wellFormed, replayed⟩
    · dsimp only
      split
      · exact ⟨next.wellFormed, further⟩
      · exact inductionHypothesis next.wellFormed _ _ _ further
      · exact ⟨next.wellFormed, further⟩

theorem WellFormed.told_readExact (wellFormed : file.WellFormed) (count : Nat) :
    (file.readExact count).Told file := by
  have pulled := wellFormed.told_pullFrom (fun _ taken => count - taken) (file.remaining + 1) 0 #[]
    #[] rfl
  refine (pulled.mapFailure StreamError.file).andThen fun bytes => ?_
  split <;> exact ⟨pulled.wellFormed, rfl⟩

theorem WellFormed.told_seekTo (wellFormed : file.WellFormed) (target : SeekTarget) :
    (file.seekTo target).Told file := by
  cases target with
  | start offset =>
    unfold seekTo
    dsimp only
    split
    · exact ⟨wellFormed, rfl⟩
    · exact wellFormed.told_seek _ _
  | current offset => exact wellFormed.told_seek offset .current
  | finish offset => exact wellFormed.told_seek offset .finish

end File

/-! ### The calls that report -/

/-- Whether a call reports what it does. Those that read into buffers whose sizes the caller does
not choose do not. -/
def StreamCall.reports : StreamCall → Bool
  | .readToEnd _ | .readToString _ | .take _ => false
  | .readSome _ | .readExact _ | .seek _ | .rewind | .streamPosition => true
  | .write _ | .writeAll _ | .flush => true

/-- Whether a call reports what it does. -/
def Call.reports : Call → Bool
  | .file _ => true
  | .stream call => call.reports

namespace File

variable {file : File}

theorem WellFormed.told_fileCall (wellFormed : file.WellFormed) (call : FileCall) :
    (call.run file).Told file := by
  cases call with
  | write segment => exact (wellFormed.told_write segment).map _
  | writeLiteral bytes => exact (wellFormed.told_write _).map _
  | writeFiller length => exact (wellFormed.told_write _).map _
  | startPass => exact wellFormed.told_startPass.map _
  | read => exact wellFormed.told_read.map _
  | drain limit => exact (wellFormed.told_drainFrom limit #[] #[] rfl).map _
  | seek offset origin => exact (wellFormed.told_seek offset origin).map _
  | skip amount => exact ((wellFormed.told_seek amount .current).map _).map _
  | filler => exact .silent wellFormed _

theorem WellFormed.told_streamCall (wellFormed : file.WellFormed) {call : StreamCall}
    (reports : call.reports = true) : (call.run file).Told file := by
  cases call with
  | readSome room => exact ((wellFormed.told_readSome room).map _).mapFailure _
  | readExact count => exact (wellFormed.told_readExact count).map _
  | readToEnd schedule => exact nomatch reports
  | readToString schedule => exact nomatch reports
  | take limit => exact nomatch reports
  | seek target => exact ((wellFormed.told_seekTo target).map _).mapFailure _
  | rewind => exact (((wellFormed.told_seekTo _).map _).map _).mapFailure _
  | streamPosition => exact ((wellFormed.told_seekTo _).map _).mapFailure _
  | write bytes => exact (((wellFormed.told_write _).map _).map _).mapFailure _
  | writeAll bytes =>
    cases bytes with
    | nil => exact .silent wellFormed _
    | cons first rest => exact ((((wellFormed.told_write _).map _).map _).map _).mapFailure _
  | flush => exact .silent wellFormed _

/-- A call that reports what it does tells what has become of the layout and the position. -/
theorem WellFormed.told_call (wellFormed : file.WellFormed) {call : Call}
    (reports : call.reports = true) : (call.run file).Told file := by
  cases call with
  | file call => exact (wellFormed.told_fileCall call).mapFailure _
  | stream call => exact (wellFormed.told_streamCall reports).mapFailure _

end File

/-! ### The journal of a run -/

/-- The lines that calls made one after the other add to the journal. -/
def File.journal (file : File) (calls : List Call) : List String :=
  ((file.history calls).flatMap Outcome.events).map Event.line

theorem File.journal_cons (file : File) (call : Call) (rest : List Call) :
    file.journal (call :: rest) =
      (call.run file).events.map Event.line ++ (call.run file).state.journal rest := by
  rw [journal, history, List.flatMap_cons, List.map_append, journal]

/-- A reader whose outline was right before a run has the right one after it. -/
theorem File.WellFormed.replay_journal {file : File} (wellFormed : file.WellFormed)
    {calls : List Call} (report : ∀ call ∈ calls, call.reports = true) :
    file.outline.replay (file.journal calls) = some (file.runAll calls).outline := by
  induction calls generalizing file with
  | nil => rfl
  | cons call rest inductionHypothesis =>
    have told := wellFormed.told_call (report call List.mem_cons_self)
    rw [journal_cons, Outline.replay_append, told.replayed, runAll_cons]
    exact inductionHypothesis told.wellFormed fun other member =>
      report other (List.mem_cons_of_mem _ member)

/-- The lines of the journal alone tell, after every run of calls that report what they do, the
lengths of all payloads and gaps, the length of the file and the position. A call that changes any
of these reports something other than a refusal. -/
theorem journal_replays (filler : Filler) {calls : List Call}
    (report : ∀ call ∈ calls, call.reports = true) :
    let file := (File.empty filler).runAll calls
    Outline.blank.replay ((File.empty filler).journal calls) = some file.outline ∧
      file.outline.length = file.size.toNat ∧
      ∀ call : Call, call.reports = true →
        file.outline.replay ((call.run file).events.map Event.line) =
            some (call.run file).state.outline ∧
          ((call.run file).state.outline ≠ file.outline →
            ∃ event ∈ (call.run file).events, event.isError = false) := by
  intro file
  have reachable : file.Reachable := ⟨filler, calls, rfl⟩
  refine ⟨?_, reachable.wellFormed.length_outline, fun call reports => ?_⟩
  · rw [← File.outline_empty filler]
    exact (File.wellFormed_empty filler).replay_journal report
  have told := reachable.wellFormed.told_call reports
  refine ⟨told.replayed, fun changed => ?_⟩
  by_contra none
  have errors : ∀ event ∈ (call.run file).events, event.isError = true := by
    intro event member
    exact Bool.of_not_eq_false fun other => none ⟨event, member, other⟩
  have unchanged := Outline.replay_errors file.outline errors
  exact changed (Option.some.inj (told.replayed.symm.trans unchanged))

/-- A buffered read that cuts a payload, a refused seek, and a gap that grows under the cursor. -/
theorem journal_replays_cut :
    let filler : Filler := { size := 4, byte := 7, size_pos := by decide }
    let calls : List Call :=
      [.file (.write (.literal [1, 2, 3])), .file (.write (.filler 4)), .file .startPass,
        .stream (.readSome 2), .file (.seek (-7) .current), .file (.write (.filler 2)),
        .stream (.readExact 4)]
    let lines : List String :=
      ["DEBUG appended block 0 with 3 literal bytes at offset 0",
        "DEBUG extended gap of block 0 to 4", "DEBUG opened file of 7 bytes in 1 blocks",
        "TRACE literal chunk of 3 bytes at 0", "DEBUG seek to 2: block 0 payload",
        "ERROR negative seek to -5", "DEBUG extended gap of block 0 to 6",
        "TRACE literal chunk of 1 bytes at 2", "TRACE filler chunk of 4 bytes at 3",
        "DEBUG seek to 6: block 0 gap, 3 remaining"]
    let outline : Outline := { blocks := [(3, 6)], position := 6 }
    (∀ call ∈ calls, call.reports = true) ∧ (File.empty filler).journal calls = lines ∧
      Outline.blank.replay lines = some outline ∧
      ((File.empty filler).runAll calls).outline = outline ∧
      outline.length = ((File.empty filler).runAll calls).size.toNat := by
  intro filler calls lines outline
  have reports : ∀ call ∈ calls, call.reports = true := by decide
  have journal : (File.empty filler).journal calls = lines := by decide
  have same : ((File.empty filler).runAll calls).outline = outline := by decide
  obtain ⟨replayed, length, -⟩ := journal_replays filler reports
  rw [journal] at replayed
  rw [same] at replayed length
  exact ⟨reports, journal, replayed, same, length⟩

end GappedFiles
