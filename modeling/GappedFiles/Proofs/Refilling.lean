/-
This file proves that the size of the filler buffer cannot be seen but in the
pieces that reads deliver.

Two files are compared that are filled with the same byte out of buffers of
different sizes. Writing, opening and seeking do not look at the filler. The
operations that read until they have what was asked for read a gap in different
pieces and a different number of times, and cut other pieces. But what they return
depends on the bytes that are upcoming alone, and so does the place where they
leave the cursor. Hence the two files are the same but for the buffer after each
call, the cursor included.
-/

import GappedFiles.Proofs.Landing

namespace GappedFiles

/-! ### Files with another filler -/

/-- The file with its gaps filled from another buffer. -/
def File.refill (file : File) (filler : Filler) : File :=
  { file with filler }

/-- The second file is the first one with a buffer of another size. -/
structure File.Refilled (first second : File) : Prop where
  byte : first.filler.byte = second.filler.byte
  refilled : second = first.refill second.filler

/-- Two outcomes with the same result whose states differ in the buffer. -/
structure Outcome.Refilled {Failure Result : Type} (first second : Outcome File Failure Result) :
    Prop where
  result : first.result = second.result
  state : first.state.Refilled second.state

namespace Outcome.Refilled

variable {Failure Result : Type} {first second : Outcome File Failure Result}

theorem map {Converted : Type} (refilled : first.Refilled second)
    (convert : Result → Converted) : (first.map convert).Refilled (second.map convert) where
  result := congrArg (Except.map convert) refilled.result
  state := refilled.state

theorem mapFailure {Converted : Type} (refilled : first.Refilled second)
    (convert : Failure → Converted) :
    (first.mapFailure convert).Refilled (second.mapFailure convert) where
  result := congrArg (Except.mapError convert) refilled.result
  state := refilled.state

theorem quiet (refilled : first.Refilled second) : first.quiet.Refilled second.quiet where
  result := refilled.result
  state := refilled.state

end Outcome.Refilled

namespace File

variable {file first second : File}

/-! ### Operations that do not look at the filler -/

theorem write_refill (file : File) (filler : Filler) (segment : Segment) :
    (file.refill filler).write segment = (file.write segment).mapState (·.refill filler) := by
  unfold write refill
  dsimp only
  split
  · rfl
  · split
    · split <;> rfl
    · rfl
    · rfl

theorem seek_refill (file : File) (filler : Filler) (offset : Int64) (origin : Origin) :
    (file.refill filler).seek offset origin =
      (file.seek offset origin).mapState (·.refill filler) := by
  have base : (file.refill filler).base origin = file.base origin := by
    cases origin <;> rfl
  have size : (file.refill filler).size = file.size := rfl
  unfold seek
  rw [base, size]
  dsimp only
  split
  · rfl
  · split
    · rfl
    · split <;> rfl

theorem Refilled.write (refilled : first.Refilled second) (segment : Segment) :
    (first.write segment).Refilled (second.write segment) := by
  rw [refilled.refilled, write_refill]
  refine ⟨rfl, ?_, rfl⟩
  exact (congrArg Filler.byte (first.write_filler segment)).trans refilled.byte

theorem Refilled.startPass (refilled : first.Refilled second) :
    first.startPass.Refilled second.startPass := by
  rw [refilled.refilled]
  exact ⟨rfl, refilled.byte, rfl⟩

theorem Refilled.seek (refilled : first.Refilled second) (offset : Int64) (origin : Origin) :
    (first.seek offset origin).Refilled (second.seek offset origin) := by
  rw [refilled.refilled, seek_refill]
  refine ⟨rfl, ?_, rfl⟩
  exact (congrArg (Filler.byte ∘ File.filler) (first.seek_state offset origin)).trans refilled.byte

theorem Refilled.skip (refilled : first.Refilled second) (amount : Int64) :
    (first.skip amount).Refilled (second.skip amount) := by
  have position : first.position = second.position := by rw [refilled.refilled]; rfl
  rw [File.skip, File.skip, position]
  exact (refilled.seek amount .current).map _

theorem Refilled.seekTo (refilled : first.Refilled second) (target : SeekTarget) :
    (first.seekTo target).Refilled (second.seekTo target) := by
  cases target with
  | start offset =>
    unfold File.seekTo
    dsimp only
    split
    · exact ⟨rfl, refilled⟩
    · exact refilled.seek _ _
  | current offset => exact refilled.seek _ _
  | finish offset => exact refilled.seek _ _

theorem Refilled.writeAll (refilled : first.Refilled second) (bytes : List UInt8) :
    (first.writeAll bytes).Refilled (second.writeAll bytes) := by
  cases bytes with
  | nil => exact ⟨rfl, refilled⟩
  | cons head rest => exact ((refilled.write _).map _).map _

/-! ### Operations that read until they have enough -/

/-- The bytes that are upcoming do not depend on the size of the buffer. -/
theorem Refilled.upcoming (refilled : first.Refilled second) :
    first.upcoming = second.upcoming := by
  have bytes : Block.bytes first.filler = Block.bytes second.filler := by
    funext block
    rw [Block.bytes, Block.bytes, Filler.run, Filler.run, refilled.byte]
  have contents : first.contents = second.contents := by
    rw [File.contents, File.contents, bytes, refilled.refilled]
    rfl
  rw [File.upcoming, File.upcoming, contents, refilled.refilled]
  rfl

theorem Refilled.finished (refilled : first.Refilled second) :
    first.finished.Refilled second.finished := by
  rw [refilled.refilled]
  by_cases opened : first.Opened
  · have openedToo : (first.refill second.filler).Opened := opened
    rw [File.finished, File.finished, if_pos opened, if_pos openedToo]
    exact ⟨refilled.byte, rfl⟩
  · have unopenedToo : ¬ (first.refill second.filler).Opened := opened
    rw [File.finished, File.finished, if_neg opened, if_neg unopenedToo]
    exact ⟨refilled.byte, rfl⟩

theorem Refilled.landed (refilled : first.Refilled second) (count : Nat) :
    (first.landed count).Refilled (second.landed count) := by
  rw [refilled.refilled, File.landed, File.landed]
  split
  · exact ⟨refilled.byte, rfl⟩
  · exact ⟨refilled.byte, rfl⟩

theorem Refilled.through (refilled : first.Refilled second) (count : Nat) :
    (first.through count).Refilled (second.through count) := by
  rw [File.through, File.through, refilled.upcoming]
  split
  · exact refilled.landed count
  · exact refilled.finished

theorem WellFormed.refill (wellFormed : first.WellFormed) (refilled : first.Refilled second) :
    second.WellFormed := by
  rw [refilled.refilled]
  exact ⟨wellFormed.filled, wellFormed.size_eq, wellFormed.size_le, wellFormed.holds⟩

/-- Operations whose results are the same function of the bytes that are upcoming. -/
theorem Refilled.collect {Failure Result : Type} {outcome other : Outcome File Failure Result}
    {landing otherLanding : File} (refilled : first.Refilled second)
    (answer : List UInt8 → Except Failure Result)
    (collected : outcome.result = answer first.upcoming ∧ outcome.state = landing)
    (otherCollected : other.result = answer second.upcoming ∧ other.state = otherLanding)
    (lands : landing.Refilled otherLanding) : outcome.Refilled other := by
  refine ⟨?_, ?_⟩
  · rw [collected.1, otherCollected.1, refilled.upcoming]
  · rw [collected.2, otherCollected.2]
    exact lands

theorem Refilled.take (refilled : first.Refilled second) (wellFormed : first.WellFormed)
    (limit : Nat) : (first.take limit).Refilled (second.take limit) :=
  refilled.collect (fun upcoming => .ok (upcoming.take limit)) (take_collected wellFormed limit)
    (take_collected (wellFormed.refill refilled) limit) (refilled.through limit)

theorem Refilled.readExact (refilled : first.Refilled second) (wellFormed : first.WellFormed)
    (count : Nat) : (first.readExact count).Refilled (second.readExact count) :=
  refilled.collect
    (fun upcoming =>
      if count ≤ upcoming.length then .ok (upcoming.take count) else .error .unexpectedEnd)
    (readExact_collected wellFormed count)
    (readExact_collected (wellFormed.refill refilled) count) (refilled.through count)

theorem Refilled.readToEnd (refilled : first.Refilled second) (wellFormed : first.WellFormed)
    (schedule other : Schedule) :
    (first.readToEnd schedule).Refilled (second.readToEnd other) :=
  refilled.collect .ok (readToEnd_collected wellFormed schedule)
    (readToEnd_collected (wellFormed.refill refilled) other) refilled.finished

theorem Refilled.readToString (refilled : first.Refilled second) (wellFormed : first.WellFormed)
    (schedule other : Schedule) :
    (first.readToString schedule).Refilled (second.readToString other) :=
  refilled.collect textOf (readToString_collected wellFormed schedule)
    (readToString_collected (wellFormed.refill refilled) other) refilled.finished

end File

/-! ### Calls that do not show the buffer -/

/-- Whether a call shows the filler itself or the pieces that single reads deliver. -/
def Call.showsBuffer : Call → Bool
  | .file .read | .file (.drain _) | .file .filler | .stream (.readSome _) => true
  | .file (.write _) | .file (.writeLiteral _) | .file (.writeFiller _) => false
  | .file .startPass | .file (.seek ..) | .file (.skip _) => false
  | .stream (.readExact _) | .stream (.readToEnd _) | .stream (.readToString _) => false
  | .stream (.take _) | .stream (.seek _) | .stream .rewind | .stream .streamPosition => false
  | .stream (.write _) | .stream (.writeAll _) | .stream .flush => false

/-- Two calls that ask for the same without showing the buffer. Where everything up to the end is
asked for, it may be read into buffers of other sizes. -/
inductive Call.Matches : Call → Call → Prop
  | same (call : Call) (hides : call.showsBuffer = false) : Matches call call
  | readToEnd (schedule other : File.Schedule) :
      Matches (.stream (.readToEnd schedule)) (.stream (.readToEnd other))
  | readToString (schedule other : File.Schedule) :
      Matches (.stream (.readToString schedule)) (.stream (.readToString other))

/-- What a call returns, and the file it leaves behind but for the filler. -/
structure Standing where
  result : Except CallError Answer
  blocks : List Block
  size : UInt64
  cursor : Cursor
  pendingLiteral : List UInt8
  pendingGap : UInt64

/-- What a call's outcome is, but for the filler and the events. -/
def Outcome.standing (outcome : Outcome File CallError Answer) : Standing where
  result := outcome.result
  blocks := outcome.state.blocks
  size := outcome.state.size
  cursor := outcome.state.cursor
  pendingLiteral := outcome.state.pendingLiteral
  pendingGap := outcome.state.pendingGap

namespace File

variable {first second : File}

theorem Refilled.run (refilled : first.Refilled second) (wellFormed : first.WellFormed)
    {call other : Call} (asks : call.Matches other) :
    (call.run first).Refilled (other.run second) := by
  cases asks with
  | same call hides =>
    cases call with
    | file call =>
      cases call with
      | write segment => exact ((refilled.write segment).map _).mapFailure _
      | writeLiteral bytes => exact ((refilled.write _).map _).mapFailure _
      | writeFiller length => exact ((refilled.write _).map _).mapFailure _
      | startPass => exact (refilled.startPass.map _).mapFailure _
      | seek offset origin => exact ((refilled.seek offset origin).map _).mapFailure _
      | skip amount => exact ((refilled.skip amount).map _).mapFailure _
      | read | drain | filler => cases hides
    | stream call =>
      cases call with
      | readExact count => exact ((refilled.readExact wellFormed count).map _).mapFailure _
      | readToEnd schedule =>
        exact ((((refilled.readToEnd wellFormed schedule schedule).map _).mapFailure _).quiet
          ).mapFailure _
      | readToString schedule =>
        exact (((refilled.readToString wellFormed schedule schedule).map _).quiet).mapFailure _
      | take limit =>
        exact ((((refilled.take wellFormed limit).map _).mapFailure _).quiet).mapFailure _
      | seek target => exact (((refilled.seekTo target).map _).mapFailure _).mapFailure _
      | rewind => exact ((((refilled.seekTo _).map _).map _).mapFailure _).mapFailure _
      | streamPosition => exact (((refilled.seekTo _).map _).mapFailure _).mapFailure _
      | write bytes => exact ((((refilled.write _).map _).map _).mapFailure _).mapFailure _
      | writeAll bytes => exact (((refilled.writeAll bytes).map _).mapFailure _).mapFailure _
      | flush => exact ⟨rfl, refilled⟩
      | readSome => cases hides
  | readToEnd schedule other =>
    exact ((((refilled.readToEnd wellFormed schedule other).map _).mapFailure _).quiet).mapFailure _
  | readToString schedule other =>
    exact (((refilled.readToString wellFormed schedule other).map _).quiet).mapFailure _

theorem Refilled.standing_eq {before after : Outcome File CallError Answer}
    (refilled : before.Refilled after) : before.standing = after.standing := by
  rw [Outcome.standing, Outcome.standing, refilled.result, refilled.state.refilled]
  rfl

theorem Refilled.history (refilled : first.Refilled second) (wellFormed : first.WellFormed)
    {calls others : List Call} (asks : List.Forall₂ Call.Matches calls others) :
    (first.history calls).map Outcome.standing = (second.history others).map Outcome.standing := by
  induction asks generalizing first second with
  | nil => rfl
  | @cons call other rest otherRest head tail inductionHypothesis =>
    have outcome := refilled.run wellFormed head
    have later := wellFormed_kept.runAll [call] first wellFormed
    rw [File.history, File.history, List.map_cons, List.map_cons, standing_eq outcome,
      inductionHypothesis outcome.state later]

end File

/-- The size of the filler buffer cannot be seen but in pieces. On two files whose gaps are filled
with the same byte out of buffers of any sizes, calls that ask for the same and do not show single
pieces return the same, one after the other, and after each of them the files have the same blocks,
the same size, the same cursor, and the same pending. -/
theorem buffer_size_unseen {first second : Filler} (sameByte : first.byte = second.byte)
    {calls others : List Call} (asks : List.Forall₂ Call.Matches calls others) :
    ((File.empty first).history calls).map Outcome.standing =
      ((File.empty second).history others).map Outcome.standing :=
  File.Refilled.history ⟨sameByte, rfl⟩ (File.wellFormed_empty first) asks

/-- Buffers of one byte and of four, of which the second lets a read bring more. -/
theorem buffer_size_unseen_one_four :
    let first : Filler := { size := 1, byte := 7, size_pos := by decide }
    let second : Filler := { size := 4, byte := 7, size_pos := by decide }
    let schedule : File.Schedule := { room := fun round => round + 1, room_pos := Nat.succ_pos }
    let before : List Call :=
      [.file (.write (.literal [1, 2])), .file (.write (.filler 9)), .file .startPass,
        .stream (.readExact 5), .file (.write (.literal [3])), .stream (.take 4)]
    let calls := before ++ [.stream (.readToEnd .steady)]
    let others := before ++ [.stream (.readToEnd schedule)]
    first.byte = second.byte ∧ List.Forall₂ Call.Matches calls others ∧
      ((File.empty first).history calls).map Outcome.standing =
        ((File.empty second).history others).map Outcome.standing ∧
      ((File.empty first).runAll before).cursor = { place := .gap 0 2, position := 9 } ∧
      ((File.empty first).runAll before).read.result = .ok (some (.filler 1)) ∧
      ((File.empty second).runAll before).read.result = .ok (some (.filler 2)) := by
  intro first second schedule before calls others
  have asks : List.Forall₂ Call.Matches calls others :=
    .cons (.same _ rfl) <| .cons (.same _ rfl) <| .cons (.same _ rfl) <| .cons (.same _ rfl) <|
      .cons (.same _ rfl) <| .cons (.same _ rfl) <| .cons (.readToEnd _ _) .nil
  have sameByte : first.byte = second.byte := rfl
  exact ⟨sameByte, asks, buffer_size_unseen sameByte asks, by decide, by decide, by decide⟩

end GappedFiles
