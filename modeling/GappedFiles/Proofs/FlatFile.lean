/-
This file proves that a gapped file cannot be told from a flat one.

A flat file is what somebody knows who sees only the calls on a file and what they
return: the bytes of all writes that were accepted, one after the other, whether
the cursor has been put anywhere yet, and the position at which it must then be.
Blocks and gaps do not occur in it. The proof carries a simulation through every
call. Its core is that a write extends the bytes at their end and that a read
delivers the bytes at the position, and its consequence is that bytes written while
a pass is under way are delivered by that pass once and in order.
-/

import GappedFiles.Proofs.Reachable
import Mathlib.Data.List.Infix

namespace GappedFiles

/-! ### Flat files -/

/-- What calls on a file and their results tell about it. -/
structure FlatFile where
  /-- What the gaps are filled with. -/
  filler : Filler
  /-- The bytes of the writes that were accepted. -/
  bytes : List UInt8
  /-- Whether a call has put the cursor somewhere. -/
  opened : Bool
  /-- Where the cursor must be. -/
  position : Int

namespace FlatFile

/-- The file of which no call has told anything yet. -/
def empty (filler : Filler) : FlatFile where
  filler
  bytes := []
  opened := false
  position := 0

/-- The point a seek counts from. -/
def base (flat : FlatFile) : Origin → Int
  | .start => 0
  | .current => flat.position
  | .finish => flat.bytes.length

/-- A write was accepted. -/
def append (flat : FlatFile) (segment : Segment) : FlatFile :=
  { flat with bytes := flat.bytes ++ segment.expand flat.filler }

/-- The cursor was put at a target. -/
def moveTo (flat : FlatFile) (target : Int) : FlatFile :=
  { flat with opened := true, position := target }

/-- So many bytes were delivered. -/
def advance (flat : FlatFile) (length : Nat) : FlatFile :=
  { flat with position := flat.position + length }

end FlatFile

/-- The number of bytes that some pieces stand for. -/
def piecesLength (pieces : List Segment) : Nat :=
  pieces.foldr (fun piece length => piece.length + length) 0

namespace FlatFile

/-- The flat file after a call that returned a result. A refused call changes nothing. -/
def after (flat : FlatFile) : FileCall → Except FileError Answer → FlatFile
  | .write segment, .ok _ => flat.append segment
  | .writeLiteral bytes, .ok _ => flat.append (.literal bytes)
  | .writeFiller length, .ok _ => flat.append (.filler length)
  | .startPass, .ok _ => flat.moveTo 0
  | .read, .ok (.piece (some piece)) => flat.advance piece.length
  | .drain _, .ok (.delivery delivery) => flat.advance (piecesLength delivery.pieces)
  | .seek offset origin, .ok _ => flat.moveTo (flat.base origin + offset.toInt)
  | .skip amount, .ok _ => flat.moveTo (flat.base .current + amount.toInt)
  | _, _ => flat

/-- The flat file after some calls and their results. -/
def replay (flat : FlatFile) (transcript : List (FileCall × Except FileError Answer)) :
    FlatFile :=
  transcript.foldl (fun flat entry => flat.after entry.1 entry.2) flat

end FlatFile

/-- Calls made one after the other, each with what it returned. -/
def File.transcript (file : File) : List FileCall → List (FileCall × Except FileError Answer)
  | [] => []
  | call :: rest => (call, (call.run file).result) :: (call.run file).state.transcript rest

/-- The bytes that a result hands out. -/
def deliveredBytes (filler : Filler) : Except FileError Answer → List UInt8
  | .ok (.piece (some piece)) => piece.expand filler
  | .ok (.delivery delivery) => delivery.pieces.flatMap (Segment.expand filler)
  | _ => []

/-- Whether a call puts the cursor somewhere, other than by delivering bytes. -/
def FileCall.moves : FileCall → Bool
  | .startPass | .seek .. | .skip .. => true
  | .write .. | .writeLiteral .. | .writeFiller .. | .read | .drain .. | .filler => false

/-! ### The simulation -/

/-- The file is well formed and looks like the flat one. -/
structure File.Refines (file : File) (flat : FlatFile) : Prop where
  wellFormed : file.WellFormed
  filler : file.filler = flat.filler
  contents : file.contents = flat.bytes
  opened : flat.opened = true ↔ file.Opened
  position : flat.position = file.position.toNat

namespace File

variable {file : File} {flat : FlatFile}

theorem refines_empty (filler : Filler) : (empty filler).Refines (.empty filler) where
  wellFormed := wellFormed_empty filler
  filler := rfl
  contents := rfl
  opened := iff_of_false Bool.false_ne_true fun opened => opened rfl
  position := rfl

theorem Refines.length_bytes (refines : file.Refines flat) :
    flat.bytes.length = file.size.toNat := by
  rw [← refines.contents, length_contents refines.wellFormed]

theorem Refines.base (refines : file.Refines flat) (origin : Origin) :
    flat.base origin = (file.base origin).toNat := by
  cases origin with
  | start => rfl
  | current => exact refines.position
  | finish => rw [FlatFile.base, refines.length_bytes, File.base]

/-- A write that is accepted appends the bytes of its segment, and one that is refused changes
nothing. -/
theorem write_contents (wellFormed : file.WellFormed) (segment : Segment) :
    (∃ count : Nat, (file.write segment).result = .ok count ∧
        (file.write segment).state.contents = file.contents ++ segment.expand file.filler) ∨
      ∃ error : FileError, (file.write segment).result = .error error ∧
        (file.write segment).state.contents = file.contents := by
  have written := file.write_written segment
  generalize file.write segment = outcome at written ⊢
  cases written with
  | tooLong => exact Or.inr ⟨_, rfl, rfl⟩
  | unheld => exact Or.inr ⟨_, rfl, rfl⟩
  | extended earlier last length fits split =>
    have isLast : file.blocks.getLast? = some last := by
      rw [split, List.getLast?_concat]
    have counted : last.gap.toNat + length.toNat < UInt64.size :=
      Nat.lt_of_le_of_lt (wellFormed.gap_le fits split) (by decide)
    exact Or.inl ⟨_, rfl, contents_extendLast file length isLast counted⟩
  | ignored => exact Or.inl ⟨_, rfl, (List.append_nil _).symm⟩
  | appended first rest fits => exact Or.inl ⟨_, rfl, contents_appendBlock file _⟩

theorem Refines.write (refines : file.Refines flat) (segment : Segment) :
    (file.write segment).state.Refines
      (flat.after (.write segment) ((file.write segment).map .count).result) := by
  obtain ⟨opened, position⟩ := file.write_cursor segment
  have filler := (file.write_filler segment).trans refines.filler
  have wellFormed := refines.wellFormed.write segment
  have openedAfter := refines.opened.trans opened.symm
  have positionAfter : flat.position = (file.write segment).state.position.toNat := by
    rw [position, refines.position]
  rcases file.write_contents refines.wellFormed segment with
    ⟨count, accepted, contents⟩ | ⟨error, refused, contents⟩
  · have grown : (file.write segment).state.contents = (flat.append segment).bytes := by
      rw [contents, refines.contents, refines.filler, FlatFile.append]
    rw [Outcome.map, accepted]
    exact ⟨wellFormed, filler, grown, openedAfter, positionAfter⟩
  · rw [Outcome.map, refused]
    exact ⟨wellFormed, filler, contents.trans refines.contents, openedAfter, positionAfter⟩

/-- A cursor that is put somewhere is there in the flat file as well. -/
theorem Refines.moveTo (refines : file.Refines flat) {after : File} {target : Int}
    (wellFormed : after.WellFormed) (sameFiller : after.filler = file.filler)
    (sameBlocks : after.blocks = file.blocks) (opened : after.Opened)
    (position : target = after.position.toNat) : after.Refines (flat.moveTo target) where
  wellFormed := wellFormed
  filler := sameFiller.trans refines.filler
  contents := by
    rw [File.contents, sameBlocks, sameFiller]
    exact refines.contents
  opened := iff_of_true rfl opened
  position := position

theorem Refines.startPass (refines : file.Refines flat) :
    file.startPass.state.Refines (flat.moveTo 0) :=
  refines.moveTo refines.wellFormed.startPass rfl rfl (Place.opened_enter _ _) rfl

/-- A seek that succeeds puts the cursor at the sum of base and offset. -/
theorem Refines.seek (refines : file.Refines flat) (offset : Int64) (origin : Origin) :
    (∃ target : UInt64, (file.seek offset origin).result = .ok target ∧
        (file.seek offset origin).state.Refines
          (flat.moveTo (flat.base origin + offset.toInt))) ∨
      ∃ error : FileError, (file.seek offset origin).result = .error error ∧
        (file.seek offset origin).state = file := by
  have wellFormed := refines.wellFormed.seek offset origin
  have sought := file.seek_sought offset origin
  generalize file.seek offset origin = outcome at wellFormed sought ⊢
  cases sought with
  | tooFar => exact Or.inr ⟨_, rfl, rfl⟩
  | negative => exact Or.inr ⟨_, rfl, rfl⟩
  | pastEnd => exact Or.inr ⟨_, rfl, rfl⟩
  | moved target sum fits inFile =>
    have opened := opened_moveTo refines.wellFormed inFile
    refine Or.inl ⟨_, rfl, refines.moveTo wellFormed rfl rfl opened ?_⟩
    rw [refines.base, ← sum]
    exact congrArg Nat.cast (toNat_ofNat_of_le fits).symm

/-- There is nothing to read in the flat file exactly where there is nothing to read in the file. -/
theorem Refines.ended_iff (refines : file.Refines flat) :
    (flat.opened = false ∨ flat.position = flat.bytes.length) ↔
      (¬ file.Opened ∨ file.position = file.size) := by
  have opened : flat.opened = false ↔ ¬ file.Opened := by
    rw [← refines.opened, Bool.not_eq_true]
  have position : flat.position = flat.bytes.length ↔ file.position = file.size := by
    rw [refines.position, refines.length_bytes, Int.natCast_inj, UInt64.toNat_inj]
  exact or_congr opened position

/-- A read delivers the next bytes of the flat file, at least one, or finds that there are none or
that the cursor has not been put anywhere. -/
theorem Refines.read (refines : file.Refines flat) :
    (file.read.result = .ok none ∧
        (flat.opened = false ∨ flat.position = flat.bytes.length) ∧
        file.read.state.Refines flat) ∨
      ∃ piece : Segment, file.read.result = .ok (some piece) ∧ flat.opened = true ∧
        0 < piece.length ∧
        piece.expand flat.filler <+: flat.bytes.drop flat.position.toNat ∧
        file.read.state.Refines (flat.advance piece.length) := by
  have wellFormed := refines.wellFormed.read
  have filler : file.read.state.filler = file.filler := by rw [read_state]
  have contents : file.read.state.contents = file.contents := by rw [read_state]; rfl
  rcases read_contents refines.wellFormed with
    ⟨nothing, cause, opened, position⟩ | ⟨piece, delivered, opened, positive, bytes, later, moved⟩
  · refine Or.inl ⟨nothing, refines.ended_iff.mpr cause, wellFormed,
      filler.trans refines.filler, contents.trans refines.contents,
      refines.opened.trans opened.symm, ?_⟩
    rw [position, refines.position]
  · refine Or.inr ⟨piece, delivered, refines.opened.mpr opened, positive, ?_, ?_⟩
    · rw [← refines.filler, ← refines.contents, refines.position, Int.toNat_natCast]
      exact bytes
    · refine ⟨wellFormed, filler.trans refines.filler, contents.trans refines.contents,
        iff_of_true (refines.opened.mpr opened) later, ?_⟩
      rw [FlatFile.advance, refines.position, moved, Int.natCast_add]

theorem Refines.read_ne_error (refines : file.Refines flat) (error : FileError) :
    file.read.result ≠ .error error := by
  intro refused
  rcases refines.read with ⟨nothing, -, -⟩ | ⟨piece, delivered, -⟩
  · exact nomatch nothing.symm.trans refused
  · exact nomatch delivered.symm.trans refused

theorem Refines.read_eq_none_iff (refines : file.Refines flat) :
    file.read.result = .ok none ↔ flat.opened = false ∨ flat.position = flat.bytes.length :=
  (File.read_eq_none_iff refines.wellFormed).trans refines.ended_iff.symm

theorem Refines.read_piece (refines : file.Refines flat) {piece : Segment}
    (delivered : file.read.result = .ok (some piece)) :
    piece.expand flat.filler ≠ [] ∧
      piece.expand flat.filler <+: flat.bytes.drop flat.position.toNat := by
  rcases refines.read with ⟨nothing, -, -⟩ | ⟨other, otherwise, -, positive, bytes, -⟩
  · exact nomatch nothing.symm.trans delivered
  · rw [otherwise] at delivered
    have same : other = piece := Option.some.inj (Except.ok.inj delivered)
    subst same
    refine ⟨fun empty => ?_, bytes⟩
    rw [← Segment.length_expand flat.filler, empty] at positive
    exact absurd positive (Nat.lt_irrefl 0)

/-! ### Pieces one after the other -/

theorem length_flatMap_expand (filler : Filler) (pieces : List Segment) :
    (pieces.flatMap (Segment.expand filler)).length = piecesLength pieces := by
  induction pieces with
  | nil => rfl
  | cons piece rest inductionHypothesis =>
    rw [List.flatMap_cons, List.length_append, Segment.length_expand, inductionHypothesis]
    rfl

theorem Refines.position_advance (refines : file.Refines flat) (length : Nat) :
    (flat.advance length).position.toNat = flat.position.toNat + length := by
  show (flat.position + length).toNat = _
  rw [refines.position]
  omega

/-- Reads one after the other deliver the bytes of the flat file one after the other. -/
theorem Refines.drainFrom (limit : Nat) (pieces : Array Segment) (events : Array Event)
    (refines : file.Refines flat) :
    ∃ (more : List Segment) (ended : Bool),
      (File.drainFrom pieces events limit file).result =
          .ok { pieces := pieces.toList ++ more, ended } ∧
        more.flatMap (Segment.expand flat.filler) <+: flat.bytes.drop flat.position.toNat ∧
        (File.drainFrom pieces events limit file).state.Refines
          (flat.advance (piecesLength more)) := by
  induction limit generalizing pieces events file flat with
  | zero =>
    refine ⟨[], false, ?_, List.nil_prefix, ?_⟩
    · rw [List.append_nil]
      rfl
    · rw [piecesLength, List.foldr_nil, FlatFile.advance, Int.natCast_zero, Int.add_zero]
      exact refines
  | succ limit inductionHypothesis =>
    unfold File.drainFrom
    dsimp only
    rcases refines.read with
      ⟨nothing, -, later⟩ | ⟨piece, delivered, -, positive, bytes, later⟩
    · rw [nothing]
      refine ⟨[], true, ?_, List.nil_prefix, ?_⟩
      · rw [List.append_nil]
        rfl
      · rw [piecesLength, List.foldr_nil, FlatFile.advance, Int.natCast_zero, Int.add_zero]
        exact later
    · rw [delivered]
      obtain ⟨more, ended, result, moreBytes, last⟩ :=
        inductionHypothesis (pieces.push piece) (events ++ file.read.events) later
      refine ⟨piece :: more, ended, ?_, ?_, ?_⟩
      · rw [result, Array.toList_push, List.append_assoc, List.singleton_append]
      · rw [List.flatMap_cons]
        rw [refines.position_advance, ← Segment.length_expand flat.filler] at moreBytes
        exact append_prefix_drop bytes moreBytes
      · have length : piecesLength (piece :: more) = piece.length + piecesLength more := rfl
        rw [FlatFile.advance, FlatFile.advance, Int.add_assoc, ← Int.natCast_add,
          ← length] at last
        exact last

/-! ### Every call and every run -/

/-- A call that writes a segment keeps the simulation, and delivers nothing. -/
theorem Refines.step_write (refines : file.Refines flat) {call : FileCall} {segment : Segment}
    (run : call.run file = (file.write segment).map .count)
    (after : ∀ result : Except FileError Answer,
      flat.after call result = flat.after (.write segment) result) :
    (call.run file).state.Refines (flat.after call (call.run file).result) ∧
      deliveredBytes flat.filler (call.run file).result <+: flat.bytes.drop flat.position.toNat ∧
      (flat.after call (call.run file).result).position =
        flat.position + (deliveredBytes flat.filler (call.run file).result).length := by
  have written : ((file.write segment).map Answer.count).result =
      (file.write segment).result.map .count := rfl
  rw [after, run]
  refine ⟨refines.write segment, ?_⟩
  rw [written]
  cases (file.write segment).result with
  | ok count => exact ⟨List.nil_prefix, (Int.add_zero _).symm⟩
  | error error => exact ⟨List.nil_prefix, (Int.add_zero _).symm⟩

/-- One call keeps the simulation. One that does not put the cursor somewhere else delivers the
next bytes and moves the cursor on by as many, and most calls deliver none. -/
theorem Refines.step (refines : file.Refines flat) (call : FileCall) :
    (call.run file).state.Refines (flat.after call (call.run file).result) ∧
      (call.moves = false →
        deliveredBytes flat.filler (call.run file).result <+:
            flat.bytes.drop flat.position.toNat ∧
          (flat.after call (call.run file).result).position =
            flat.position + (deliveredBytes flat.filler (call.run file).result).length) := by
  cases call with
  | write segment =>
    have run : (FileCall.write segment).run file = (file.write segment).map .count := rfl
    obtain ⟨later, delivered⟩ := refines.step_write run fun _ => rfl
    exact ⟨later, fun _ => delivered⟩
  | writeLiteral bytes =>
    have run : (FileCall.writeLiteral bytes).run file =
        (file.write (.literal bytes)).map .count := rfl
    obtain ⟨later, delivered⟩ := refines.step_write run fun result => by cases result <;> rfl
    exact ⟨later, fun _ => delivered⟩
  | writeFiller length =>
    have run : (FileCall.writeFiller length).run file =
        (file.write (.filler length)).map .count := rfl
    obtain ⟨later, delivered⟩ := refines.step_write run fun result => by cases result <;> rfl
    exact ⟨later, fun _ => delivered⟩
  | startPass => exact ⟨refines.startPass, fun stays => nomatch stays⟩
  | read =>
    have run : (FileCall.read.run file).result = file.read.result.map .piece := rfl
    rcases refines.read with
      ⟨nothing, -, later⟩ | ⟨piece, delivered, -, positive, bytes, later⟩
    · rw [run, nothing]
      exact ⟨later, fun _ => ⟨List.nil_prefix, (Int.add_zero _).symm⟩⟩
    · rw [run, delivered]
      refine ⟨later, fun _ => ⟨bytes, ?_⟩⟩
      show flat.position + piece.length = flat.position + (piece.expand flat.filler).length
      rw [Segment.length_expand]
  | drain limit =>
    have run : ((FileCall.drain limit).run file).result =
        (file.drain limit).result.map .delivery := rfl
    obtain ⟨more, ended, result, bytes, later⟩ := refines.drainFrom limit #[] #[]
    rw [run, drain, result]
    refine ⟨later, fun _ => ⟨bytes, ?_⟩⟩
    show flat.position + piecesLength more =
      flat.position + (more.flatMap (Segment.expand flat.filler)).length
    rw [length_flatMap_expand]
  | seek offset origin =>
    refine ⟨?_, fun stays => nomatch stays⟩
    have run : ((FileCall.seek offset origin).run file).result =
        (file.seek offset origin).result.map .offset := rfl
    rcases refines.seek offset origin with ⟨target, moved, later⟩ | ⟨error, refused, same⟩
    · rw [run, moved]
      exact later
    · rw [run, refused]
      show (file.seek offset origin).state.Refines flat
      rw [same]
      exact refines
  | skip amount =>
    refine ⟨?_, fun stays => nomatch stays⟩
    have run : ((FileCall.skip amount).run file).result =
        ((file.seek amount .current).result.map
          fun after => after.toInt64 - file.position.toInt64).map .distance := rfl
    rcases refines.seek amount .current with ⟨target, moved, later⟩ | ⟨error, refused, same⟩
    · rw [run, moved]
      exact later
    · rw [run, refused]
      show (file.seek amount .current).state.Refines flat
      rw [same]
      exact refines
  | filler => exact ⟨refines, fun _ => ⟨List.nil_prefix, (Int.add_zero _).symm⟩⟩

/-- A run of calls keeps the simulation. -/
theorem Refines.runAll (refines : file.Refines flat) (calls : List FileCall) :
    (file.runAll (calls.map .file)).Refines (flat.replay (file.transcript calls)) := by
  induction calls generalizing file flat with
  | nil => exact refines
  | cons call rest inductionHypothesis => exact inductionHypothesis (refines.step call).1

end File

namespace FlatFile

theorem bytes_prefix_after (flat : FlatFile) (call : FileCall)
    (result : Except FileError Answer) : flat.bytes <+: (flat.after call result).bytes := by
  unfold after
  split
  · exact List.prefix_append _ _
  · exact List.prefix_append _ _
  · exact List.prefix_append _ _
  all_goals exact List.prefix_rfl

theorem filler_after (flat : FlatFile) (call : FileCall) (result : Except FileError Answer) :
    (flat.after call result).filler = flat.filler := by
  unfold after
  split <;> rfl

theorem filler_replay (flat : FlatFile)
    (transcript : List (FileCall × Except FileError Answer)) :
    (flat.replay transcript).filler = flat.filler := by
  induction transcript generalizing flat with
  | nil => rfl
  | cons entry rest inductionHypothesis =>
    exact (inductionHypothesis _).trans (flat.filler_after entry.1 entry.2)

theorem bytes_prefix_replay (flat : FlatFile)
    (transcript : List (FileCall × Except FileError Answer)) :
    flat.bytes <+: (flat.replay transcript).bytes := by
  induction transcript generalizing flat with
  | nil => exact List.prefix_rfl
  | cons entry rest inductionHypothesis =>
    exact (flat.bytes_prefix_after entry.1 entry.2).trans (inductionHypothesis _)

end FlatFile

/-- As long as no call puts the cursor somewhere else, what calls deliver is, one after the
other, what the flat file holds in the end from the position on. -/
theorem File.Refines.delivered {file : File} {flat : FlatFile} (refines : file.Refines flat)
    (calls : List FileCall) (stays : ∀ call ∈ calls, call.moves = false) :
    (file.transcript calls).flatMap (fun entry => deliveredBytes flat.filler entry.2) <+:
        (flat.replay (file.transcript calls)).bytes.drop flat.position.toNat ∧
      (flat.replay (file.transcript calls)).position = flat.position +
        ((file.transcript calls).flatMap
          (fun entry => deliveredBytes flat.filler entry.2)).length := by
  induction calls generalizing file flat with
  | nil => exact ⟨List.nil_prefix, (Int.add_zero _).symm⟩
  | cons call rest inductionHypothesis =>
    obtain ⟨later, step⟩ := refines.step call
    obtain ⟨next, moved⟩ := step (stays call List.mem_cons_self)
    obtain ⟨afterwards, final⟩ := inductionHypothesis later
      fun other member => stays other (List.mem_cons_of_mem call member)
    rw [FlatFile.filler_after] at afterwards final
    have position : (flat.after call (call.run file).result).position.toNat =
        flat.position.toNat + (deliveredBytes flat.filler (call.run file).result).length := by
      rw [moved, refines.position]
      omega
    rw [position] at afterwards
    rw [moved, Int.add_assoc, ← Int.natCast_add, ← List.length_append] at final
    have grown := (flat.bytes_prefix_after call (call.run file).result).trans
      (FlatFile.bytes_prefix_replay _ ((call.run file).state.transcript rest))
    exact ⟨append_prefix_drop (next.trans (List.IsPrefix.drop grown _)) afterwards, final⟩

/-- A gapped file refines a flat one. After every run of calls, refused ones among them, its size
and position are those of the bytes that were written and of a cursor over them; a read never
fails, delivers nothing exactly where the cursor has not been put anywhere or is at the end, and
otherwise delivers the bytes at the position, at least one. Until the cursor is put somewhere
else, calls deliver the bytes from the position on, those written in the meantime included, each
of them once and in order. -/
theorem runAll_refines_flatFile (filler : Filler) (calls : List FileCall) :
    let file := (File.empty filler).runAll (calls.map .file)
    let flat := (FlatFile.empty filler).replay ((File.empty filler).transcript calls)
    file.size.toNat = flat.bytes.length ∧
      (file.isEmpty = true ↔ flat.bytes = []) ∧
      (file.position.toNat : Int) = flat.position ∧
      flat.position ≤ flat.bytes.length ∧
      (∀ error : FileError, file.read.result ≠ .error error) ∧
      (file.read.result = .ok none ↔
        flat.opened = false ∨ flat.position = flat.bytes.length) ∧
      (∀ piece : Segment, file.read.result = .ok (some piece) →
        piece.expand filler ≠ [] ∧
          piece.expand filler <+: flat.bytes.drop flat.position.toNat) ∧
      ∀ later : List FileCall, (∀ call ∈ later, call.moves = false) →
        let final := flat.replay (file.transcript later)
        let delivered := (file.transcript later).flatMap
          fun entry => deliveredBytes filler entry.2
        delivered <+: final.bytes.drop flat.position.toNat ∧
          final.position = flat.position + delivered.length := by
  intro file flat
  have refines : file.Refines flat := (File.refines_empty filler).runAll calls
  have sameFiller : flat.filler = filler := FlatFile.filler_replay _ _
  have size := refines.length_bytes
  have bounded := refines.wellFormed.position_le
  refine ⟨size.symm, ?_, refines.position.symm, ?_, refines.read_ne_error,
    refines.read_eq_none_iff, ?_, ?_⟩
  · rw [File.isEmpty, beq_iff_eq, ← List.length_eq_zero_iff, size]
    exact UInt64.toNat_inj.symm
  · rw [refines.position, size]
    exact Int.ofNat_le.mpr bounded
  · intro piece delivered
    rw [← sameFiller]
    exact refines.read_piece delivered
  · intro later stays
    have delivered := refines.delivered later stays
    rw [sameFiller] at delivered
    exact delivered

end GappedFiles
