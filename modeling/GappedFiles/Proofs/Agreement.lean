/-
This file proves that the position alone decides what a file does from then on.

Two opened files with the same blocks and the same position may have their cursors
at different places: one behind a payload with nothing left of the gap, the other
at the start of the next block, or at the end. A write finds them there and does
different things to them. It is shown that the two files agree nevertheless, and
that every call returns and reports the same on both and leaves them in agreement.
What joins them again is that a read leaves an empty gap first, which puts both
cursors where a seek to their position would put them.
-/

import GappedFiles.Proofs.Buffering

namespace GappedFiles

/-! ### Files that agree -/

/-- Two opened files that differ at most in the place of the cursor. -/
structure File.Agrees (first second : File) : Prop where
  firstFormed : first.WellFormed
  secondFormed : second.WellFormed
  firstOpened : first.Opened
  secondOpened : second.Opened
  filler : first.filler = second.filler
  blocks : first.blocks = second.blocks
  position : first.position = second.position

namespace File

variable {file first second : File}

theorem agrees_refl (wellFormed : file.WellFormed) (opened : file.Opened) : file.Agrees file :=
  ⟨wellFormed, wellFormed, opened, opened, rfl, rfl, rfl⟩

/-- The size is that of the blocks. -/
theorem Agrees.size (agrees : first.Agrees second) : first.size = second.size := by
  refine UInt64.toNat_inj.mp ?_
  rw [agrees.firstFormed.size_eq, agrees.secondFormed.size_eq, agrees.blocks]

theorem Agrees.moveTo (agrees : first.Agrees second) (target : UInt64) :
    first.moveTo target = second.moveTo target := by
  rw [File.moveTo, File.moveTo, agrees.filler, agrees.blocks, agrees.size]

/-! ### Operations on files that agree -/

/-- A read leaves an empty gap first, and then the two files are the same. -/
theorem Agrees.read_eq (agrees : first.Agrees second) : first.read = second.read := by
  rw [File.read, File.read, leaveGap_eq_moveTo agrees.firstFormed agrees.firstOpened,
    leaveGap_eq_moveTo agrees.secondFormed agrees.secondOpened, agrees.position, agrees.moveTo]

theorem Agrees.read (agrees : first.Agrees second) :
    Outcome.Alike Agrees first.read second.read := by
  rw [agrees.read_eq]
  exact ⟨agrees_refl agrees.secondFormed.read
    (opened_read agrees.secondFormed agrees.secondOpened), rfl, rfl⟩

theorem Agrees.startPass (agrees : first.Agrees second) :
    Outcome.Alike Agrees first.startPass second.startPass where
  state := ⟨agrees.firstFormed.startPass, agrees.secondFormed.startPass, Place.opened_enter _ _,
    Place.opened_enter _ _, agrees.filler, agrees.blocks, rfl⟩
  result := rfl
  events := by
    show [Event.passStarted first.size first.blocks.length] =
      [Event.passStarted second.size second.blocks.length]
    rw [agrees.size, agrees.blocks]

/-- What a write returns, reports and does to the blocks has nothing to do with the cursor. -/
theorem write_same (blocks : first.blocks = second.blocks) (size : first.size = second.size)
    (segment : Segment) :
    (first.write segment).result = (second.write segment).result ∧
      (first.write segment).events = (second.write segment).events ∧
      (first.write segment).state.blocks = (second.write segment).state.blocks := by
  obtain ⟨firstFiller, firstBlocks, firstSize, firstCursor⟩ := first
  obtain ⟨secondFiller, secondBlocks, secondSize, secondCursor⟩ := second
  dsimp only at blocks size
  subst blocks size
  unfold write
  dsimp only
  split
  · exact ⟨rfl, rfl, rfl⟩
  · split
    · split <;> exact ⟨rfl, rfl, rfl⟩
    · exact ⟨rfl, rfl, rfl⟩
    · exact ⟨rfl, rfl, rfl⟩

/-- The cursors may be moved along in different ways, to where the position is the same. -/
theorem Agrees.write (agrees : first.Agrees second) (segment : Segment) :
    Outcome.Alike Agrees (first.write segment) (second.write segment) := by
  obtain ⟨result, events, blocks⟩ := write_same agrees.blocks agrees.size segment
  obtain ⟨firstOpened, firstPosition⟩ := first.write_cursor segment
  obtain ⟨secondOpened, secondPosition⟩ := second.write_cursor segment
  refine ⟨⟨agrees.firstFormed.write segment, agrees.secondFormed.write segment,
    firstOpened.mpr agrees.firstOpened, secondOpened.mpr agrees.secondOpened, ?_, blocks, ?_⟩,
    result, events⟩
  · rw [write_filler, write_filler, agrees.filler]
  · rw [firstPosition, secondPosition, agrees.position]

theorem Agrees.base (agrees : first.Agrees second) (origin : Origin) :
    first.base origin = second.base origin := by
  cases origin with
  | start => rfl
  | current => exact agrees.position
  | finish => exact agrees.size

theorem Agrees.seek (agrees : first.Agrees second) (offset : Int64) (origin : Origin) :
    Outcome.Alike Agrees (first.seek offset origin) (second.seek offset origin) := by
  unfold File.seek
  dsimp only
  rw [agrees.base, agrees.size]
  split
  · exact ⟨agrees, rfl, rfl⟩
  · split
    · exact ⟨agrees, rfl, rfl⟩
    · split
      · exact ⟨agrees, rfl, rfl⟩
      · rename_i notBehind
        have inFile := UInt64.le_iff_toNat_le.mp (UInt64.not_lt.mp notBehind)
        have wellFormed := agrees.secondFormed.moveTo inFile
        have opened := opened_moveTo agrees.secondFormed inFile
        rw [UInt64.ofNat_toNat] at wellFormed opened
        rw [agrees.moveTo]
        exact ⟨agrees_refl wellFormed opened, rfl, rfl⟩

/-- Calls on files that agree come to the same and leave files that agree. -/
theorem agrees_congruence : Congruence Agrees where
  filler := fun _ _ agrees => agrees.filler
  size := fun _ _ agrees => agrees.size
  position := fun _ _ agrees => agrees.position
  write := fun _ _ segment agrees => agrees.write segment
  startPass := fun _ _ agrees => agrees.startPass
  read := fun _ _ agrees => agrees.read
  seek := fun _ _ offset origin agrees => agrees.seek offset origin

end File

/-! ### What can be seen of a run of calls -/

/-- What a call returns and reports, and what can be asked of the file afterwards, except for
what is pending. -/
structure Report where
  result : Except CallError Answer
  events : List Event
  filler : Filler
  blocks : List Block
  size : UInt64
  position : UInt64

/-- What can be seen of a call's outcome. -/
def Outcome.report (outcome : Outcome File CallError Answer) : Report where
  result := outcome.result
  events := outcome.events
  filler := outcome.state.filler
  blocks := outcome.state.blocks
  size := outcome.state.size
  position := outcome.state.position

/-- What can be seen of calls made one after the other. -/
def File.reports (file : File) (calls : List Call) : List Report :=
  (file.history calls).map Outcome.report

/-- A call that asks for the position by seeking to where the cursor is. -/
inductive Call.Probe : Call → Prop
  | fileSeek : Probe (.file (.seek 0 .current))
  | streamSeek : Probe (.stream (.seek (.current 0)))
  | streamPosition : Probe (.stream .streamPosition)

namespace File

variable {file first second : File}

theorem reports_cons (file : File) (call : Call) (rest : List Call) :
    file.reports (call :: rest) = (call.run file).report :: (call.run file).state.reports rest :=
  rfl

theorem length_reports (file : File) (calls : List Call) :
    (file.reports calls).length = calls.length := by
  rw [reports, List.length_map, length_history]

theorem reports_append (file : File) (before after : List Call) :
    file.reports (before ++ after) = file.reports before ++ (file.runAll before).reports after := by
  rw [reports, history_append, List.map_append]
  rfl

theorem Agrees.report_eq {before after : Outcome File CallError Answer}
    (alike : Outcome.Alike Agrees before after) : before.report = after.report := by
  rw [Outcome.report, Outcome.report, alike.result, alike.events, alike.state.filler,
    alike.state.blocks, alike.state.size, alike.state.position]

/-- Nothing that can be seen of a run tells apart two files that agree. -/
theorem Agrees.reports_eq (agrees : first.Agrees second) (calls : List Call) :
    first.reports calls = second.reports calls := by
  induction calls generalizing first second with
  | nil => rfl
  | cons call rest inductionHypothesis =>
    have alike := agrees_congruence.call call agrees
    rw [reports_cons, reports_cons, Agrees.report_eq alike, inductionHypothesis alike.state]

/-- A probe leaves behind a file that agrees with the one it found. -/
theorem probe_agrees (wellFormed : file.WellFormed) (opened : file.Opened) {call : Call}
    (probe : call.Probe) : (call.run file).state.Agrees file := by
  have inFile := wellFormed.position_le
  have target : (file.position.toNat : Int) = (file.base .current).toNat + (0 : Int64).toInt :=
    (Int.add_zero _).symm
  have agrees : (file.seek 0 .current).state.Agrees file := by
    rw [seek_of_le wellFormed.size_le target inFile]
    exact ⟨wellFormed.moveTo inFile, wellFormed, opened_moveTo wellFormed inFile, opened, rfl, rfl,
      UInt64.ofNat_toNat⟩
  cases probe with
  | fileSeek => exact agrees
  | streamSeek => exact agrees
  | streamPosition => exact agrees

/-- Reading a number of bytes and skipping them leave behind files that agree. -/
theorem readExact_agrees_skip (wellFormed : file.WellFormed) (opened : file.Opened) {count : Nat}
    (inFile : count ≤ file.remaining) :
    (file.skip (.ofNat count)).result = .ok (.ofNat count) ∧
      (file.readExact count).state.Agrees (file.skip (.ofNat count)).state := by
  have position := wellFormed.position_le
  have limit := wellFormed.size_le
  rw [remaining] at inFile
  have amount : (Int64.ofNat count).toInt = count := by
    refine Int64.toInt_ofNat_of_lt ?_
    rw [maxOffset] at limit
    omega
  have target : ((file.position.toNat + count : Nat) : Int) =
      (file.base .current).toNat + (Int64.ofNat count).toInt := by
    rw [amount]
    rfl
  have reached : file.position.toNat + count ≤ file.size.toNat := by omega
  have distance : (UInt64.ofNat (file.position.toNat + count)).toInt64 - file.position.toInt64 =
      .ofNat count := by
    rw [Nat.add_comm, UInt64.ofNat_add, UInt64.ofNat_toNat, UInt64.toInt64_add,
      UInt64.toInt64_ofNat', Int64.add_sub_cancel]
  obtain ⟨-, state, wellFormedThen, openedThen, taken⟩ := readExact_of_le wellFormed opened inFile
  rw [skip, seek_of_le limit target reached]
  refine ⟨congrArg Except.ok distance, wellFormedThen, wellFormed.moveTo reached, openedThen,
    opened_moveTo wellFormed reached, ?_, ?_, ?_⟩
  · rw [state]
    rfl
  · rw [state]
    rfl
  · refine UInt64.toNat_inj.mp (taken.trans ?_)
    exact (toNat_ofNat_of_le (Nat.le_trans reached limit)).symm

end File

/-- The position alone decides the future of an opened file. Any other opened file with the same
filler, blocks and position shows the same in every run of calls, reads into many buffers report
the same as well, and the next read leaves the two in one and the same state. A probe inserted
anywhere in a run changes nothing that the other calls show. After reading a number of bytes that
are there, every run shows what it shows after skipping them. -/
theorem position_decides {file : File} (reachable : file.Reachable) (opened : file.Opened) :
    (∀ other : File, other.Reachable → other.Opened → other.filler = file.filler →
        other.blocks = file.blocks → other.position = file.position → ∀ calls : List Call,
          other.reports calls = file.reports calls ∧
            (other.runAll calls).read = (file.runAll calls).read ∧
            ∀ room : Nat → Nat → Nat,
              Outcome.Alike File.Agrees ((other.runAll calls).pull room)
                ((file.runAll calls).pull room)) ∧
      (∀ (before : List Call) (probe : Call) (after : List Call), probe.Probe →
        (file.reports (before ++ probe :: after)).eraseIdx before.length =
          file.reports (before ++ after)) ∧
      ∀ count : Nat, count ≤ file.remaining →
        let read := Call.run file (.stream (.readExact count))
        let skipped := Call.run file (.file (.skip (.ofNat count)))
        read.result =
            .ok (.buffer ((file.contents.drop file.position.toNat).take count)) ∧
          skipped.result = .ok (.distance (.ofNat count)) ∧
          ∀ calls : List Call, read.state.reports calls = skipped.state.reports calls := by
  have wellFormed := reachable.wellFormed
  refine ⟨?_, ?_, ?_⟩
  · intro other otherReachable otherOpened filler blocks position calls
    have agrees : other.Agrees file :=
      ⟨otherReachable.wellFormed, wellFormed, otherOpened, opened, filler, blocks, position⟩
    have afterwards := File.agrees_congruence.runAll calls agrees
    exact ⟨agrees.reports_eq calls, afterwards.read_eq,
      fun room => File.agrees_congruence.pull room afterwards⟩
  · intro before probe after isProbe
    have reached := File.agrees_congruence.runAll before (File.agrees_refl wellFormed opened)
    have agrees := File.probe_agrees reached.firstFormed reached.firstOpened isProbe
    rw [File.reports_append, File.reports_append, File.reports_cons, agrees.reports_eq,
      ← file.length_reports before, List.eraseIdx_append_of_length_le (Nat.le_refl _), Nat.sub_self]
    rfl
  · intro count inFile
    obtain ⟨taken, -⟩ := File.readExact_of_le wellFormed opened inFile
    obtain ⟨distance, agrees⟩ := File.readExact_agrees_skip wellFormed opened inFile
    refine ⟨?_, ?_, agrees.reports_eq⟩
    · show ((file.readExact count).result.map Answer.buffer).mapError CallError.stream = _
      rw [taken]
      rfl
    · show ((file.skip (.ofNat count)).result.map Answer.distance).mapError CallError.file = _
      rw [distance]
      rfl

/-- A cursor with nothing left of a gap and one at the start of the next block, both behind the
first of two bytes. -/
theorem position_decides_exhausted :
    let file := (File.empty .shared).runAll
      [.file (.write (.literal [1])), .file .startPass, .file .read, .file (.write (.literal [2]))]
    let other := (File.empty .shared).runAll
      [.file (.write (.literal [1])), .file (.write (.literal [2])), .file (.seek 1 .start)]
    file.cursor.place = .gap 0 0 ∧ other.cursor.place = .payload 1 0 0 ∧
      (∀ calls : List Call, other.reports calls = file.reports calls) ∧
      (file.reports [.stream .streamPosition, .file .read]).eraseIdx 0 =
        file.reports [.file .read] ∧
      (Call.run file (.stream (.readExact 1))).result = .ok (.buffer [2]) := by
  intro file other
  have reachable : file.Reachable := ⟨.shared, _, rfl⟩
  obtain ⟨others, probes, counts⟩ := position_decides reachable (by decide)
  refine ⟨by decide, by decide, fun calls => ?_, ?_, ?_⟩
  · exact (others other ⟨.shared, _, rfl⟩ (by decide) (by decide) (by decide) (by decide) calls).1
  · exact probes [] (.stream .streamPosition) [.file .read] .streamPosition
  · exact (counts 1 (by decide)).1

end GappedFiles
