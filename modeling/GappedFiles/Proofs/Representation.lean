/-
This file proves that a cursor in five fields represents the place and the position
of a file's cursor, after every run of calls.

Every place has its fields, and reading them as a place gives the place back. Each
of the four operations on which calls are built comes to the same on the fields and
on the place, provided that the file is well formed: that blocks which are entered
are not empty, that the loop off exhausted blocks stops at the next one, and that
the base of a seek is an offset. A run of calls on the fields is therefore a run of
calls on the file, with the same results and the same reports.

The fields of well-formed files go together in four ways only, and this is all that
being well formed asks of them. So every call keeps it that way, from whatever state,
and after every run of calls the five fields are in exactly one of the four.
-/

import GappedFiles.Proofs.Raw
import GappedFiles.Proofs.Reachable

namespace GappedFiles

/-! ### The fields of a place -/

namespace Place

/-- The five fields of a cursor at a place. -/
def fields (place : Place) (position : UInt64) : RawCursor where
  opened := decide place.Opened
  block := place.block?
  position
  literal := place.offset?
  gapRemaining := place.pendingGap

/-- The fields tell the place. -/
@[simp] theorem place_fields (place : Place) (position : UInt64) :
    (place.fields position).place = place := by
  cases place <;> rfl

/-- Filler that joins the gap of the block under the cursor is more filler left to deliver. -/
theorem fields_extendGap_self {place : Place} {index : Nat} (here : place.block? = some index)
    (length position : UInt64) :
    (place.extendGap index length).fields position =
      { place.fields position with gapRemaining := place.pendingGap + length } := by
  cases place with
  | payload block offset after =>
    cases here
    rw [extendGap_payload_self]
    rfl
  | gap block left =>
    cases here
    rw [extendGap_gap_self]
    rfl
  | unset | done => cases here

/-- The start of a block is entered, where no payload is empty. -/
theorem enterBlock_eq {blocks : List Block} (filled : ∀ block ∈ blocks, block.payload ≠ [])
    (index : Nat) {cursor : RawCursor} (opened : cursor.opened = true) :
    cursor.enterBlock blocks index = (enter blocks index).fields cursor.position := by
  obtain ⟨isOpened, onBlock, position, literal, gapRemaining⟩ := cursor
  cases opened
  rw [RawCursor.enterBlock, enter]
  cases found : blocks[index]? with
  | none => rfl
  | some block =>
    dsimp only
    rw [if_neg (filled block (List.mem_of_getElem? found))]
    rfl

/-- The loop off exhausted blocks stays where there is something to deliver. -/
theorem leaveExhausted_fields {place : Place} (settled : place.Settled) (blocks : List Block)
    (position : UInt64) :
    (place.fields position).leaveExhausted blocks = place.fields position := by
  rw [RawCursor.leaveExhausted]
  cases place with
  | unset => rfl
  | done => rfl
  | payload => rfl
  | gap block left =>
    show (if false || 0 < left then _ else _) = _
    rw [Bool.false_or, if_pos (decide_eq_true (UInt64.pos_iff_ne_zero.mpr settled))]

/-- The walk that sets the fields is the walk that finds the place. -/
theorem walk_eq {blocks : List Block} {target : UInt64} {cursor : RawCursor}
    (opened : cursor.opened = true) (index : Nat) (start : UInt64) (rest : List Block) :
    cursor.walk blocks target index start rest =
      ((locateFrom target index start rest).fields cursor.position,
        .sought target (locateFrom target index start rest)) := by
  obtain ⟨isOpened, onBlock, position, literal, gapRemaining⟩ := cursor
  cases opened
  induction rest generalizing index start with
  | nil =>
    rw [RawCursor.walk, RawCursor.enterBlock, List.getElem?_eq_none (Nat.le_refl _)]
    rfl
  | cons block rest inductionHypothesis =>
    rw [RawCursor.walk, locateFrom]
    dsimp only
    split
    · rfl
    · split
      · rfl
      · exact inductionHypothesis _ _

end Place

/-! ### The fields of a file -/

namespace File

/-- The file with its cursor as five fields. -/
def raw (file : File) : RawFile where
  filler := file.filler
  blocks := file.blocks
  size := file.size
  cursor := file.cursor.place.fields file.cursor.position

@[simp] theorem raw_blocks (file : File) : file.raw.blocks = file.blocks :=
  rfl

@[simp] theorem raw_size (file : File) : file.raw.size = file.size :=
  rfl

@[simp] theorem raw_cursor_block (file : File) :
    file.raw.cursor.block = file.cursor.place.block? :=
  rfl

/-- The fields represent the file that they are taken from. -/
@[simp] theorem abstract_raw (file : File) : file.raw.abstract = file := by
  obtain ⟨filler, blocks, size, place, position⟩ := file
  show File.mk filler blocks size ⟨(place.fields position).place, position⟩ = _
  rw [Place.place_fields]

variable {file : File}

theorem atEndOfPass_raw (file : File) : file.raw.atEndOfPass = file.passEnded := by
  obtain ⟨filler, blocks, size, place, position⟩ := file
  cases place <;> rfl

/-- A pass that has ended has been started. -/
theorem opened_raw_of_passEnded (ended : file.passEnded = true) :
    file.raw.cursor.opened = true := by
  rw [← atEndOfPass_raw, RawFile.atEndOfPass, Bool.and_eq_true, Bool.and_eq_true] at ended
  exact ended.1.1

/-! ### Writing -/

/-- Filler that joins the last gap moves the fields along as it moves the place. -/
theorem followFiller_raw (file : File) (index : Nat) (length : UInt64) :
    file.raw.followFiller index length =
      (if file.passEnded && 0 < length then Place.gap index length
        else file.cursor.place.extendGap index length).fields file.position := by
  rw [RawFile.followFiller, atEndOfPass_raw, raw_cursor_block]
  by_cases here : file.cursor.place.block? = some index
  · -- There is no block under a cursor at the end of its pass, so the two tests exclude each other.
    have notEnded : file.passEnded = false := by
      rw [passEnded, Bool.and_eq_false_iff]
      refine Or.inl (beq_eq_false_iff_ne.mpr fun atDone => ?_)
      rw [atDone] at here
      exact nomatch here
    rw [if_pos here, notEnded, Bool.false_and, if_neg Bool.false_ne_true,
      Place.fields_extendGap_self here]
    rfl
  · rw [if_neg here, Place.extendGap_other here]
    split
    · rename_i ended
      rw [Bool.and_eq_true] at ended
      dsimp only
      rw [opened_raw_of_passEnded ended.1]
      rfl
    · rfl

/-- A block that is appended is entered at the end of a pass. -/
theorem followBlock_raw (file : File) (first : UInt8) (rest : List UInt8) :
    file.raw.followBlock (file.blocks ++ [⟨first :: rest, 0⟩]) =
      (file.appendBlock (first :: rest)).cursor.place.fields file.position := by
  have last : (file.blocks ++ [(⟨first :: rest, 0⟩ : Block)]).length - 1 = file.blocks.length := by
    rw [List.length_append, List.length_singleton, Nat.add_sub_cancel]
  rw [RawFile.followBlock, atEndOfPass_raw, last, appendBlock]
  dsimp only
  split
  · rename_i ended
    rw [RawCursor.enterBlock, getElem?_split rfl]
    dsimp only
    rw [opened_raw_of_passEnded ended, if_neg (List.cons_ne_nil _ _)]
    rfl
  · rfl

/-- A write comes to the same on the fields, whatever the file. -/
theorem write_raw (file : File) (segment : Segment) :
    file.raw.write segment = (file.write segment).mapState File.raw := by
  unfold RawFile.write write
  rw [raw_size, raw_blocks]
  by_cases exceeds : maxOffset < file.size.toNat + segment.length
  · rw [if_pos exceeds, if_pos exceeds]
    rfl
  · rw [if_neg exceeds, if_neg exceeds]
    cases segment with
    | filler length =>
      dsimp only
      cases tail : file.blocks.getLast? with
      | none => rfl
      | some last =>
        rw [followFiller_raw, Segment.length, UInt64.ofNat_toNat]
        rfl
    | literal bytes =>
      cases bytes with
      | nil => rfl
      | cons first rest =>
        dsimp only
        rw [if_neg (List.cons_ne_nil _ _), followBlock_raw, List.length_append,
          List.length_singleton, Nat.add_sub_cancel]
        rfl

/-! ### Moving the cursor -/

theorem startPass_raw (filled : ∀ block ∈ file.blocks, block.payload ≠ []) :
    file.raw.startPass = file.startPass.mapState File.raw := by
  unfold RawFile.startPass startPass
  dsimp only
  rw [raw_blocks, Place.enterBlock_eq filled 0 rfl]
  rfl

/-- A seek computes its target from a base that it takes for a number with a sign, which an offset
is. -/
theorem seek_raw (wellFormed : file.WellFormed) (offset : Int64) (origin : Origin) :
    file.raw.seek offset origin = (file.seek offset origin).mapState File.raw := by
  have base : file.raw.base origin = file.base origin := by
    cases origin <;> rfl
  have noUnderflow := Int.not_lt.mpr (file.le_base_add offset origin)
  unfold RawFile.seek seek
  dsimp only
  rw [base, toInt_toInt64_of_le (wellFormed.base_le origin)]
  by_cases exceeds : (maxOffset : Int) < (file.base origin).toNat + offset.toInt
  · rw [if_pos (Or.inr exceeds), if_pos exceeds]
    rfl
  · rw [if_neg (not_or.mpr ⟨noUnderflow, exceeds⟩), if_neg exceeds]
    split
    · rfl
    · rw [raw_size, raw_blocks]
      split
      · rfl
      · rw [Place.walk_eq rfl]
        rfl

/-! ### Reading -/

/-- The loop off exhausted blocks stops at the next block, if it has to move at all. -/
theorem leaveExhausted_raw (wellFormed : file.WellFormed) :
    file.raw.cursor.leaveExhausted file.blocks = file.leaveGap.raw.cursor := by
  rcases file.leaveGap_cases with ⟨settled, left⟩ | ⟨block, atGap, left⟩
  · rw [left]
    exact Place.leaveExhausted_fields settled _ _
  · have position : file.raw.cursor = (Place.gap block 0).fields file.position := by
      rw [← atGap]
      rfl
    rw [left, position, RawCursor.leaveExhausted]
    show RawCursor.leaveExhausted file.blocks (RawCursor.enterBlock file.blocks (block + 1) _) = _
    rw [Place.enterBlock_eq wellFormed.filled (block + 1) rfl]
    exact Place.leaveExhausted_fields (Place.settled_enter _ _) _ _

theorem deliverNext_raw (filled : ∀ block ∈ file.blocks, block.payload ≠ []) :
    file.raw.deliverNext = file.deliverNext.mapState File.raw := by
  obtain ⟨filler, blocks, size, place, position⟩ := file
  cases place with
  | unset => rfl
  | done => rfl
  | payload block offset gap => rfl
  | gap block left =>
    show (if filler.size < left then _ else if 0 < left then _ else _) =
      Outcome.mapState raw (if filler.size < left then _ else if 0 < left then _ else _)
    -- Only the last piece of a gap makes the cursor enter another block.
    have entered : RawCursor.enterBlock blocks (block + 1)
          { opened := true, block := some block, position := position + left, literal := none,
            gapRemaining := 0 } =
        (Place.enter blocks (block + 1)).fields (position + left) :=
      Place.enterBlock_eq filled (block + 1) rfl
    split
    · rfl
    · split
      · have moved := congrArg (RawFile.mk filler blocks size) entered
        exact congrArg
          (Outcome.success · (some (Segment.filler left)) [.gapFinished left position]) moved
      · rfl

/-- A read comes to the same on the fields: the loop and the single step off an exhausted block lead
to the same place, and what is delivered there is the same. -/
theorem read_raw (wellFormed : file.WellFormed) :
    file.raw.read = file.read.mapState File.raw := by
  have left : { file.raw with cursor := file.leaveGap.raw.cursor } = file.leaveGap.raw := by
    rcases file.leaveGap_cases with ⟨-, stays⟩ | ⟨block, -, moves⟩
    · rw [stays]
    · rw [moves]
      rfl
  rw [RawFile.read, raw_blocks, leaveExhausted_raw wellFormed]
  exact (congrArg RawFile.deliverNext left).trans
    (deliverNext_raw wellFormed.leaveGap.1.filled)

end File

/-! ### Runs of calls -/

namespace RawFile

/-- The fields are those of a file, and the file is well formed. -/
structure Represents (raw : RawFile) (file : File) : Prop where
  fields : raw = file.raw
  wellFormed : file.WellFormed

/-- The file that is represented is the one that the fields tell. -/
theorem Represents.abstract_eq {raw : RawFile} {file : File} (represents : raw.Represents file) :
    raw.abstract = file := by
  rw [represents.fields, File.abstract_raw]

theorem represents_empty (filler : Filler) : (empty filler).Represents (File.empty filler) :=
  ⟨rfl, File.wellFormed_empty filler⟩

/-- An operation that comes to the same on the fields represents what it comes to. -/
theorem alike_of_eq_mapState {Failure Result : Type} {outcome : Outcome File Failure Result}
    {rawOutcome : Outcome RawFile Failure Result} (same : rawOutcome = outcome.mapState File.raw)
    (wellFormed : outcome.state.WellFormed) :
    Outcome.Alike Represents rawOutcome outcome := by
  rw [same]
  exact ⟨⟨rfl, wellFormed⟩, rfl, rfl⟩

/-- The four operations on the fields represent those on the file. -/
theorem represents_simulation : Simulation operations File.operations Represents where
  filler := fun _ _ represents => congrArg filler represents.fields
  size := fun _ _ represents => congrArg size represents.fields
  position := fun _ _ represents =>
    congrArg (fun raw : RawFile => raw.cursor.position) represents.fields
  write := by
    rintro _ file segment ⟨rfl, wellFormed⟩
    exact alike_of_eq_mapState (file.write_raw segment) (wellFormed.write segment)
  startPass := by
    rintro _ file ⟨rfl, wellFormed⟩
    exact alike_of_eq_mapState (File.startPass_raw wellFormed.filled) wellFormed.startPass
  read := by
    rintro _ file ⟨rfl, wellFormed⟩
    exact alike_of_eq_mapState (File.read_raw wellFormed) wellFormed.read
  seek := by
    rintro _ file offset origin ⟨rfl, wellFormed⟩
    exact alike_of_eq_mapState (File.seek_raw wellFormed offset origin)
      (wellFormed.seek offset origin)

/-- After every run of calls the fields represent the file that the calls lead to. -/
theorem represents_runAll (filler : Filler) (calls : List Call) :
    ((empty filler).runAll calls).Represents ((File.empty filler).runAll calls) := by
  rw [← File.operations_runAll]
  exact represents_simulation.runAll calls (represents_empty filler)

/-- A call after any run of calls returns and reports on the fields what it does on the file, and
leaves behind the fields of the file that it leaves behind. -/
theorem represents_call (filler : Filler) (before : List Call) (call : Call) :
    Outcome.Alike Represents (operations.call ((empty filler).runAll before) call)
      (call.run ((File.empty filler).runAll before)) := by
  rw [← File.operations_call]
  exact represents_simulation.call call (represents_runAll filler before)

end RawFile

/-! ### The shapes of a cursor -/

/-- The ways in which a cursor can stand in a file. -/
inductive CursorShape
  | unopened
  | noBlock
  | inPayload (block offset : Nat)
  | inGap (block : Nat)
  deriving DecidableEq

/-- What a shape says about the file and each of the five fields of its cursor. -/
def CursorShape.Describes (file : RawFile) : CursorShape → Prop
  | .unopened =>
    file.cursor.opened = false ∧ file.cursor.block = none ∧ file.cursor.literal = none ∧
      file.cursor.gapRemaining = 0 ∧ file.cursor.position = 0
  | .noBlock =>
    file.cursor.opened = true ∧ file.cursor.block = none ∧ file.cursor.literal = none ∧
      file.cursor.gapRemaining = 0 ∧ file.cursor.position = file.size
  | .inPayload index offset =>
    file.cursor.opened = true ∧ file.cursor.block = some index ∧
      file.cursor.literal = some offset ∧
      ∃ block : Block, file.blocks[index]? = some block ∧ offset < block.payload.length ∧
        file.cursor.gapRemaining = block.gap ∧
        file.cursor.position.toNat = startOf file.blocks index + offset
  | .inGap index =>
    file.cursor.opened = true ∧ file.cursor.block = some index ∧ file.cursor.literal = none ∧
      ∃ block : Block, file.blocks[index]? = some block ∧
        file.cursor.gapRemaining.toNat ≤ block.gap.toNat ∧
        file.cursor.position.toNat =
          startOf file.blocks (index + 1) - file.cursor.gapRemaining.toNat ∧
        file.cursor.gapRemaining.toNat ≤ startOf file.blocks (index + 1)

/-- Two shapes that both describe a file are the same. -/
theorem CursorShape.Describes.unique {file : RawFile} {first second : CursorShape}
    (describesFirst : first.Describes file) (describesSecond : second.Describes file) :
    first = second := by
  cases first <;> cases second <;> simp_all [Describes]

/-- The fields of every well-formed file have one of the shapes. -/
theorem exists_cursorShape {file : File} (wellFormed : file.WellFormed) :
    ∃ shape : CursorShape, shape.Describes file.raw := by
  obtain ⟨filler, blocks, size, place, position⟩ := file
  have size_eq : size.toNat = totalLength blocks := wellFormed.size_eq
  have holds : place.Holds blocks position.toNat := wellFormed.holds
  cases holds with
  | unset atStart => exact ⟨.unopened, rfl, rfl, rfl, rfl, UInt64.toNat_inj.mp atStart⟩
  | done atEnd =>
    exact ⟨.noBlock, rfl, rfl, rfl, rfl, UInt64.toNat_inj.mp (atEnd.trans size_eq.symm)⟩
  | payload before after block offset split inside sum =>
    refine ⟨.inPayload before.length offset, rfl, rfl, rfl, block, ?_, inside, rfl, ?_⟩
    · show blocks[before.length]? = some block
      exact getElem?_split split
    · show position.toNat = startOf blocks before.length + offset
      rw [split, startOf_append, sum]
  | gap before after block left split bounded sum =>
    refine ⟨.inGap before.length, rfl, rfl, rfl, block, ?_, bounded, ?_⟩
    · show blocks[before.length]? = some block
      exact getElem?_split split
    · show position.toNat = startOf blocks (before.length + 1) - left.toNat ∧
        left.toNat ≤ startOf blocks (before.length + 1)
      rw [split, startOf_succ_append]
      omega

/-- Fields of one of the shapes are those of the place that they tell, and it is a place of their
position. -/
theorem CursorShape.Describes.holds {file : RawFile} {shape : CursorShape}
    (describes : shape.Describes file) (size_eq : file.size.toNat = totalLength file.blocks) :
    file.cursor = file.cursor.place.fields file.cursor.position ∧
      file.cursor.place.Holds file.blocks file.cursor.position.toNat := by
  obtain ⟨filler, blocks, size, opened, onBlock, position, literal, gapRemaining⟩ := file
  cases shape with
  | unopened =>
    obtain ⟨rfl, rfl, rfl, rfl, rfl⟩ := describes
    exact ⟨rfl, .unset rfl⟩
  | noBlock =>
    obtain ⟨rfl, rfl, rfl, rfl, atEnd⟩ := describes
    refine ⟨rfl, .done ?_⟩
    rw [atEnd]
    exact size_eq
  | inPayload index offset =>
    obtain ⟨rfl, rfl, rfl, block, found, inside, rfl, sum⟩ := describes
    obtain ⟨before, after, rfl, rfl⟩ := exists_split found
    rw [startOf_append] at sum
    exact ⟨rfl, .payload before after block offset rfl inside sum⟩
  | inGap index =>
    obtain ⟨rfl, rfl, rfl, block, found, bounded, sum, within⟩ := describes
    obtain ⟨before, after, rfl, rfl⟩ := exists_split found
    rw [startOf_succ_append] at sum within
    refine ⟨rfl, .gap before after block gapRemaining rfl bounded ?_⟩
    rw [sum]
    exact Nat.sub_add_cancel within

/-! ### The invariant of the fields -/

namespace RawFile

/-- What holds of the fields of every file that some calls lead to. -/
structure Invariant (file : RawFile) : Prop where
  filled : ∀ block ∈ file.blocks, block.payload ≠ []
  size_eq : file.size.toNat = totalLength file.blocks
  size_le : file.size.toNat ≤ maxOffset
  shaped : ∃ shape : CursorShape, shape.Describes file

variable {raw : RawFile} {file : File}

theorem Represents.invariant (represents : raw.Represents file) : raw.Invariant := by
  obtain ⟨rfl, wellFormed⟩ := represents
  exact ⟨wellFormed.filled, wellFormed.size_eq, wellFormed.size_le,
    exists_cursorShape wellFormed⟩

/-- The invariant is all that the fields need in order to represent a well-formed file. -/
theorem Invariant.represents (invariant : raw.Invariant) : raw.Represents raw.abstract := by
  obtain ⟨shape, describes⟩ := invariant.shaped
  obtain ⟨fields, holds⟩ := describes.holds invariant.size_eq
  refine ⟨?_, invariant.filled, invariant.size_eq, invariant.size_le, holds⟩
  exact congrArg (RawFile.mk raw.filler raw.blocks raw.size) fields

/-- Every call keeps the invariant, whether or not a run of calls has led to the file. -/
theorem Invariant.call (invariant : raw.Invariant) (call : Call) :
    (operations.call raw call).state.Invariant :=
  (represents_simulation.call call invariant.represents).state.invariant

theorem Invariant.runAll (invariant : raw.Invariant) (calls : List Call) :
    (raw.runAll calls).Invariant := by
  induction calls generalizing raw with
  | nil => exact invariant
  | cons call rest inductionHypothesis => exact inductionHypothesis (invariant.call call)

end RawFile

/-- After every run of calls, refused ones among them, no payload is empty, the size is the sum
of payloads and gaps and an offset, and the five fields of the cursor have exactly one of the four
shapes. The fields represent the file that the same calls lead to. -/
theorem runAll_represents (filler : Filler) (calls : List Call) :
    let file := (RawFile.empty filler).runAll calls
    (∀ block ∈ file.blocks, block.payload ≠ []) ∧
      file.size.toNat = totalLength file.blocks ∧
      file.size.toNat ≤ maxOffset ∧
      startOf file.blocks file.blocks.length = file.size.toNat ∧
      (∃ shape : CursorShape, shape.Describes file ∧
        ∀ other : CursorShape, other.Describes file → other = shape) ∧
      file.abstract = (File.empty filler).runAll calls := by
  intro file
  have invariant : file.Invariant := (RawFile.represents_empty filler).invariant.runAll calls
  have represents : file.Represents ((File.empty filler).runAll calls) :=
    RawFile.represents_runAll filler calls
  obtain ⟨shape, describes⟩ := invariant.shaped
  refine ⟨invariant.filled, invariant.size_eq, invariant.size_le, ?_, ⟨shape, describes, ?_⟩,
    represents.abstract_eq⟩
  · rw [startOf_length, invariant.size_eq]
  · exact fun other describesOther => describesOther.unique describes

end GappedFiles
