/-
This file proves that reading into buffers agrees with reading pieces, for every
choice of buffers.

A buffer gets the first bytes of the piece that a read would deliver in the same
state, all of it if there is room, and the cursor moves on by as many. What is cut
off a piece is not lost, because the cursor is put back in front of it. So the
buffers of a pass, put one behind the other, are the stream from where the pass
began, whatever their sizes are and whatever is written between them.
-/

import GappedFiles.Proofs.Growth

namespace GappedFiles

/-! ### Passes through buffers -/

/-- Whether a call reads into one buffer or does not read at all. -/
def Call.feeds : Call → Bool
  | .stream (.readSome _) => true
  | call => !call.reads

/-- The bytes that a read into one buffer has returned. -/
def bufferBytes : Except CallError Answer → List UInt8
  | .ok (.buffer bytes) => bytes
  | .ok _ | .error _ => []

/-- The bytes of a piece, of which there are none where nothing was delivered. -/
def pieceBytes (filler : Filler) : Option Segment → List UInt8
  | some piece => piece.expand filler
  | none => []

namespace File

variable {file : File}

/-! ### One buffer -/

/-- A buffer gets the first bytes of the piece that a read would deliver, as many as it has room
for, and the cursor moves on by as many. -/
theorem readSome_read (wellFormed : file.WellFormed) {room : Nat} (positive : room ≠ 0) :
    ∃ piece : Option Segment, file.read.result = .ok piece ∧
      (file.readSome room).result = .ok ((pieceBytes file.filler piece).take room) ∧
      (file.readSome room).state.position.toNat =
        file.position.toNat + min room (pieceBytes file.filler piece).length ∧
      (pieceBytes file.filler piece = [] ↔ ¬ file.Opened ∨ file.position = file.size) := by
  rcases read_contents wellFormed with
    ⟨nothing, cause, -, position⟩ | ⟨piece, delivered, opened, filled, bytes, -, moved⟩
  · refine ⟨none, nothing, ?_, ?_, iff_of_true rfl cause⟩
    · rw [readSome_of_none positive nothing, pieceBytes, List.take_nil]
      rfl
    · rw [readSome_of_none positive nothing, pieceBytes, List.length_nil, Nat.min_zero]
      exact congrArg UInt64.toNat position
  · refine ⟨some piece, delivered, ?_⟩
    have length : (pieceBytes file.filler (some piece)).length = piece.length :=
      piece.length_expand file.filler
    have inFile := read_piece_le wellFormed delivered
    rw [length]
    refine ⟨?_, ?_, iff_of_false (fun empty => ?_) ?_⟩
    · by_cases cut : room < piece.length
      · rw [readSome_of_lt wellFormed positive delivered cut]
        rfl
      · rw [readSome_of_le positive delivered (Nat.le_of_not_lt cut),
          List.take_of_length_le (length.symm ▸ Nat.le_of_not_lt cut)]
        rfl
    · by_cases cut : room < piece.length
      · have limit := wellFormed.size_le
        rw [readSome_of_lt wellFormed positive delivered cut, Nat.min_eq_left (Nat.le_of_lt cut)]
        exact toNat_ofNat_of_le (by omega)
      · have enough := Nat.le_of_not_lt cut
        rw [readSome_of_le positive delivered enough, Nat.min_eq_right enough]
        exact moved
    · rw [empty] at length
      exact absurd length (Nat.ne_of_lt filled)
    · rintro (unopened | atEnd)
      · exact unopened opened
      · rw [atEnd] at inFile
        omega

/-! ### Many buffers -/

theorem bufferBytes_of_ne {answer : Answer}
    (differs : ∀ bytes : List UInt8, answer ≠ .buffer bytes) : bufferBytes (.ok answer) = [] := by
  unfold bufferBytes
  split
  · rename_i bytes same
    exact absurd (Except.ok.inj same) (differs bytes)
  · rfl
  · rfl

/-- A call that does not read returns no buffer and leaves the position alone. -/
theorem run_of_not_reads (file : File) {call : Call} (writes : call.reads = false) :
    bufferBytes (call.run file).result = [] ∧ (call.run file).state.position = file.position := by
  cases appends : call.segment? with
  | some segment =>
    obtain ⟨answer, report, differs, run⟩ := Call.run_eq_write appends
    rw [run]
    refine ⟨?_, (file.write_cursor segment).2⟩
    show bufferBytes (.mapError report (.map answer (file.write segment).result)) = []
    cases (file.write segment).result with
    | ok count => exact bufferBytes_of_ne (differs count)
    | error error => rfl
  | none =>
    obtain ⟨answer, differs, run⟩ := Call.run_of_idle appends writes
    rw [run]
    exact ⟨bufferBytes_of_ne (differs file.filler), rfl⟩

/-- A call of a pass returns the next bytes of the stream and moves the cursor on by as many. -/
theorem run_feeds (wellFormed : file.WellFormed) {call : Call} (feeds : call.feeds = true) :
    bufferBytes (call.run file).result <+: file.contents.drop file.position.toNat ∧
      (call.run file).state.position.toNat =
        file.position.toNat + (bufferBytes (call.run file).result).length := by
  unfold Call.feeds at feeds
  split at feeds
  · rename_i room
    obtain ⟨bytes, taken, -, next, -, moved, -⟩ := readSome_taken wellFormed room
    have returned : bufferBytes (Call.run file (.stream (.readSome room))).result = bytes := by
      show bufferBytes (.mapError _ (.mapError _ (.map _ (file.readSome room).result))) = bytes
      rw [taken]
      rfl
    rw [returned]
    exact ⟨next, moved⟩
  · have writes : call.reads = false := by simpa using feeds
    obtain ⟨nothing, position⟩ := file.run_of_not_reads writes
    rw [nothing, position]
    exact ⟨List.nil_prefix, rfl⟩

/-- The buffers of a pass are, one behind the other, the stream from where the cursor was. -/
theorem runAll_feeds (wellFormed : file.WellFormed) {calls : List Call}
    (feeding : ∀ call ∈ calls, call.feeds = true) :
    (file.history calls).flatMap (fun outcome => bufferBytes outcome.result) <+:
        (file.runAll calls).contents.drop file.position.toNat ∧
      (file.runAll calls).position.toNat = file.position.toNat +
        ((file.history calls).flatMap fun outcome => bufferBytes outcome.result).length := by
  induction calls generalizing file with
  | nil => exact ⟨List.nil_prefix, rfl⟩
  | cons call rest inductionHypothesis =>
    obtain ⟨next, moved⟩ := run_feeds wellFormed (feeding call List.mem_cons_self)
    have later : (call.run file).state.WellFormed := wellFormed_kept.runAll [call] file wellFormed
    obtain ⟨afterwards, final⟩ := inductionHypothesis later
      fun other member => feeding other (List.mem_cons_of_mem call member)
    rw [moved] at afterwards final
    -- What this buffer got is still there when the later calls have written more.
    have grown : file.contents <+: (file.runAll (call :: rest)).contents := by
      rw [(contents_runAll wellFormed _).2]
      exact List.prefix_append _ _
    rw [history, List.flatMap_cons, List.length_append, ← Nat.add_assoc]
    exact ⟨append_prefix_drop (next.trans (grown.drop _)) afterwards, final⟩

end File

/-- Reading into buffers agrees with reading pieces, for every schedule of buffers with writes
between them. A buffer without room gets nothing and changes nothing. Any other gets the first bytes
of the piece that a read would deliver in the same state, as many as it has room for, and none only
where no pass has been started or the pass is at the end. All of them put together are the stream of
accepted writes from where the cursor was, and the cursor has moved on by as many bytes. -/
theorem buffers_are_stream (filler : Filler) (before : List Call) {calls : List Call}
    (feeding : ∀ call ∈ calls, call.feeds = true) :
    let file := (File.empty filler).runAll before
    let now := file.runAll calls
    let written := (File.empty filler).accepted (before ++ calls)
    let taken := (file.history calls).flatMap fun outcome => bufferBytes outcome.result
    now.readSome 0 = .success now [] [] ∧
      (∀ room : Nat, room ≠ 0 → ∃ piece : Option Segment, now.read.result = .ok piece ∧
        let chunk := pieceBytes filler piece
        (now.readSome room).result = .ok (chunk.take room) ∧
          (chunk.take room).length = min room chunk.length ∧
          (now.readSome room).state.position.toNat =
            now.position.toNat + min room chunk.length ∧
          (chunk.take room = [] ↔ ¬ now.Opened ∨ now.position = now.size)) ∧
      taken <+: (written.flatMap (Segment.expand filler)).drop file.position.toNat ∧
      now.position.toNat = file.position.toNat + taken.length := by
  intro file now written taken
  have start := File.wellFormed_empty filler
  have wellFormed : file.WellFormed := wellFormed_kept.runAll before _ start
  have wellFormedNow : now.WellFormed := wellFormed_kept.runAll calls _ wellFormed
  have run : now = (File.empty filler).runAll (before ++ calls) :=
    (File.runAll_append _ _ _).symm
  obtain ⟨sameFiller, contents⟩ : now.filler = filler ∧
      now.contents = written.flatMap (Segment.expand filler) := by
    rw [run]
    exact File.contents_runAll start (before ++ calls)
  obtain ⟨next, moved⟩ := File.runAll_feeds wellFormed feeding
  refine ⟨rfl, fun room positive => ?_, ?_, moved⟩
  · obtain ⟨piece, delivered, result, position, nothing⟩ :=
      File.readSome_read wellFormedNow positive
    rw [sameFiller] at result position nothing
    refine ⟨piece, delivered, result, List.length_take, position, ?_⟩
    rw [← nothing, List.take_eq_nil_iff]
    exact ⟨fun either => either.resolve_left positive, Or.inr⟩
  · rw [← contents]
    exact next

/-- Buffers that cut a payload and then the pieces of a gap, with writes between them. -/
theorem buffers_are_stream_cut :
    let filler : Filler := { size := 4, byte := 7, size_pos := by decide }
    let before : List Call :=
      [.file (.write (.literal [1, 2, 3])), .file (.write (.filler 6)), .file .startPass]
    let calls : List Call :=
      [.stream (.readSome 2), .file (.write (.literal [9])), .stream (.readSome 0),
        .stream (.readSome 5), .stream (.readSome 3), .file (.write (.filler 1)),
        .stream (.readSome 9)]
    let file := (File.empty filler).runAll before
    let now := file.runAll calls
    let written := (File.empty filler).accepted (before ++ calls)
    let taken := (file.history calls).flatMap fun outcome => bufferBytes outcome.result
    (∀ call ∈ calls, call.feeds = true) ∧ taken = [1, 2, 3, 7, 7, 7, 7, 7, 7] ∧
      taken <+: (written.flatMap (Segment.expand filler)).drop file.position.toNat ∧
      now.position.toNat = file.position.toNat + taken.length ∧
      (∃ piece : Option Segment, now.read.result = .ok piece ∧
        (now.readSome 9).result = .ok ((pieceBytes filler piece).take 9)) := by
  intro filler before calls file now written taken
  have feeding : ∀ call ∈ calls, call.feeds = true := by decide
  obtain ⟨-, buffers, next, moved⟩ := buffers_are_stream filler before feeding
  obtain ⟨piece, delivered, result, -⟩ := buffers 9 (by decide)
  exact ⟨feeding, by decide, next, moved, piece, delivered, result⟩

end GappedFiles
