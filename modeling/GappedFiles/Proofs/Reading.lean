/-
This file says once what reading the next piece of a well-formed file comes to.

Reading first leaves a gap in which nothing is left. In an opened file this puts
the cursor where a seek to its own position would put it, so that the two places
which a position may have are no longer told apart. From there a read delivers the
rest of a payload, a buffer of a gap or the rest of a gap, and it is refused
nowhere: the branch for a cursor that points at nothing is not reached.
-/

import GappedFiles.Proofs.WellFormed
import Mathlib.Data.List.Infix

namespace GappedFiles

namespace File

variable {file : File}

/-! ### Leaving a gap with nothing left -/

/-- A cursor at a settled place stays where it is. One in a gap with nothing left goes on to the
next block. -/
theorem leaveGap_cases (file : File) :
    (file.cursor.place.Settled ∧ file.leaveGap = file) ∨
      ∃ block : Nat, file.cursor.place = .gap block 0 ∧
        file.leaveGap =
          { file with
            cursor := { place := .enter file.blocks (block + 1), position := file.position } } := by
  unfold leaveGap
  cases place : file.cursor.place with
  | gap block left =>
    by_cases nothing : left = 0
    · refine Or.inr ⟨block, by rw [nothing], ?_⟩
      dsimp only
      rw [if_pos nothing]
      rfl
    · refine Or.inl ⟨nothing, ?_⟩
      dsimp only
      rw [if_neg nothing]
  | unset => exact Or.inl ⟨trivial, rfl⟩
  | done => exact Or.inl ⟨trivial, rfl⟩
  | payload => exact Or.inl ⟨trivial, rfl⟩

/-- Leaving a gap leaves the cursor at a settled place of the same position. -/
theorem WellFormed.leaveGap (wellFormed : file.WellFormed) :
    file.leaveGap.WellFormed ∧ file.leaveGap.cursor.place.Settled := by
  rcases file.leaveGap_cases with ⟨settled, left⟩ | ⟨block, atGap, left⟩
  · rw [left]
    exact ⟨wellFormed, settled⟩
  · have holds := wellFormed.holds
    rw [atGap] at holds
    rw [left]
    exact ⟨⟨wellFormed.filled, wellFormed.size_eq, wellFormed.size_le,
      holds.next wellFormed.filled⟩, Place.settled_enter _ _⟩

theorem place_eq_locate (wellFormed : file.WellFormed) {place : Place}
    (holds : place.Holds file.blocks file.position.toNat) (opened : place.Opened)
    (settled : place.Settled) : place = .locate file.blocks file.position := by
  have located := holds.locate_eq opened settled wellFormed.total_le
  rw [UInt64.ofNat_toNat] at located
  exact located.symm

/-- A cursor at a settled place is where a seek to its position would put it. -/
theorem moveTo_position (wellFormed : file.WellFormed) (opened : file.Opened)
    (settled : file.cursor.place.Settled) : file.moveTo file.position = file := by
  rw [moveTo, ← place_eq_locate wellFormed wellFormed.holds opened settled]
  rfl

/-- Leaving a gap amounts to seeking the position at which the cursor is. -/
theorem leaveGap_eq_moveTo (wellFormed : file.WellFormed) (opened : file.Opened) :
    file.leaveGap = file.moveTo file.position := by
  rcases file.leaveGap_cases with ⟨settled, left⟩ | ⟨block, atGap, left⟩
  · rw [left, moveTo_position wellFormed opened settled]
  · have holds := wellFormed.holds
    rw [atGap] at holds
    rw [left, place_eq_locate wellFormed (holds.next wellFormed.filled) (Place.opened_enter _ _)
      (Place.settled_enter _ _)]
    rfl

/-! ### What a read comes to -/

/-- The ways in which a read can go. Each names what it finds at the cursor's position. -/
inductive Delivered (file : File) : Outcome File FileError (Option Segment) → Prop
  | unopened (unset : ¬ file.Opened) : Delivered file (.success file none [])
  | ended (opened : file.Opened) (atEnd : file.position = file.size) :
      Delivered file (.success (file.deliver .done 0) none [])
  | payload (opened : file.Opened) (before after : List Block) (block : Block) (offset : Nat)
      (split : file.blocks = before ++ block :: after) (inside : offset < block.payload.length)
      (sum : file.position.toNat = totalLength before + offset) :
      Delivered file
        (.success
          (file.deliver (.gap before.length block.gap) (.ofNat (block.payload.drop offset).length))
          (some (.literal (block.payload.drop offset)))
          [.literalDelivered (block.payload.drop offset).length file.position])
  | buffer (opened : file.Opened) (before after : List Block) (block : Block) (left : UInt64)
      (split : file.blocks = before ++ block :: after) (bounded : left.toNat ≤ block.gap.toNat)
      (sum : file.position.toNat + left.toNat = totalLength before + block.length)
      (longer : file.filler.size < left) :
      Delivered file
        (.success (file.deliver (.gap before.length (left - file.filler.size)) file.filler.size)
          (some (.filler file.filler.size)) [.fillerDelivered file.filler.size file.position])
  | remainder (opened : file.Opened) (before after : List Block) (block : Block) (left : UInt64)
      (split : file.blocks = before ++ block :: after) (bounded : left.toNat ≤ block.gap.toNat)
      (sum : file.position.toNat + left.toNat = totalLength before + block.length)
      (nonzero : left ≠ 0) (shorter : left ≤ file.filler.size) :
      Delivered file
        (.success (file.deliver (.enter file.blocks (before.length + 1)) left)
          (some (.filler left)) [.gapFinished left file.position])

/-- What a file delivers whose cursor is at a settled place. -/
theorem deliverNext_delivered {place : Place} (wellFormed : file.WellFormed) (opened : file.Opened)
    (holds : place.Holds file.blocks file.position.toNat) (placeOpened : place.Opened)
    (settled : place.Settled) :
    file.Delivered
      (File.deliverNext { file with cursor := { place, position := file.position } }) := by
  cases holds with
  | unset => exact absurd rfl placeOpened
  | done atEnd =>
    have same : file.position + 0 = file.position := UInt64.add_zero _
    have ended := Delivered.ended opened
      (UInt64.toNat_inj.mp (atEnd.trans wellFormed.size_eq.symm))
    rw [deliver, Cursor.advance, show file.cursor.position + 0 = file.position from same] at ended
    exact ended
  | payload before after block offset split inside sum =>
    have pending : (Place.payload before.length offset block.gap).pendingLiteral file.blocks =
        block.payload.drop offset := by
      rw [split, Place.pendingLiteral_split]
    unfold deliverNext pendingLiteral
    dsimp only
    rw [pending]
    exact .payload opened before after block offset split inside sum
  | gap before after block left split bounded sum =>
    unfold deliverNext
    dsimp only
    split
    · rename_i longer
      exact .buffer opened before after block left split bounded sum longer
    · rename_i notLonger
      rw [if_pos (UInt64.pos_iff_ne_zero.mpr settled)]
      exact .remainder opened before after block left split bounded sum settled
        (UInt64.not_lt.mp notLonger)

theorem read_delivered (wellFormed : file.WellFormed) : file.Delivered file.read := by
  by_cases opened : file.Opened
  · obtain ⟨holds, placeOpened, settled⟩ := Place.holds_locate wellFormed.total_le
      wellFormed.holds.position_le
    rw [UInt64.ofNat_toNat] at holds placeOpened settled
    rw [read, leaveGap_eq_moveTo wellFormed opened]
    exact deliverNext_delivered wellFormed opened holds placeOpened settled
  · have unset : file.cursor.place = .unset := Decidable.not_not.mp opened
    have read : file.read = .success file none [] := by
      rw [File.read, leaveGap, unset, deliverNext, unset]
    rw [read]
    exact .unopened opened

/-! ### What a read leaves behind -/

theorem position_deliver {place : Place} {length : UInt64}
    (fits : file.position.toNat + length.toNat ≤ maxOffset) :
    (file.deliver place length).position.toNat = file.position.toNat + length.toNat :=
  toNat_add_of_le fits

theorem WellFormed.deliver (wellFormed : file.WellFormed) {place : Place} {length : UInt64}
    (fits : file.position.toNat + length.toNat ≤ maxOffset)
    (holds : place.Holds file.blocks (file.position.toNat + length.toNat)) :
    (file.deliver place length).WellFormed where
  filled := wellFormed.filled
  size_eq := wellFormed.size_eq
  size_le := wellFormed.size_le
  holds := by
    show place.Holds file.blocks (file.deliver place length).position.toNat
    rw [position_deliver fits]
    exact holds

theorem WellFormed.read (wellFormed : file.WellFormed) : file.read.state.WellFormed := by
  have delivered := read_delivered wellFormed
  have total := wellFormed.total_le
  generalize file.read = outcome at delivered ⊢
  cases delivered with
  | unopened => exact wellFormed
  | ended opened atEnd =>
    have inFile := wellFormed.position_le
    have size := wellFormed.size_le
    refine wellFormed.deliver (by rw [UInt64.toNat_zero]; omega) (.done ?_)
    rw [UInt64.toNat_zero, atEnd, wellFormed.size_eq, Nat.add_zero]
  | payload opened before after block offset split inside sum =>
    rw [split, totalLength_append, totalLength_cons, Block.length] at total
    have length := toNat_length_drop offset (show block.payload.length ≤ maxOffset by omega)
    refine wellFormed.deliver (by omega) (.gap before after block _ split (Nat.le_refl _) ?_)
    rw [length, sum, Block.length]
    omega
  | buffer opened before after block left split bounded sum longer =>
    rw [split, totalLength_append, totalLength_cons] at total
    have longer := UInt64.le_of_lt longer
    have rest := UInt64.toNat_sub_of_le left file.filler.size longer
    have part := UInt64.le_iff_toNat_le.mp longer
    exact wellFormed.deliver (by omega)
      (.gap before after block _ split (by omega) (by omega))
  | remainder opened before after block left split bounded sum nonzero shorter =>
    rw [split, totalLength_append, totalLength_cons] at total
    have next := Place.holds_enter (List.append_cons before block after ▸ split) wellFormed.filled
    rw [List.length_append, totalLength_append, totalLength_cons, totalLength_nil] at next
    refine wellFormed.deliver (by omega) ?_
    rw [sum]
    exact next

/-! ### What a read delivers -/

theorem length_contents (wellFormed : file.WellFormed) :
    file.contents.length = file.size.toNat := by
  rw [contents, length_flatMap_bytes, wellFormed.size_eq]

/-- What comes next, and then what comes next after it, is together what comes next. -/
theorem append_prefix_drop {bytes first second : List UInt8} {position : Nat}
    (next : first <+: bytes.drop position)
    (afterwards : second <+: bytes.drop (position + first.length)) :
    first ++ second <+: bytes.drop position := by
  rw [← List.drop_drop] at afterwards
  obtain ⟨rest, split⟩ := next
  rw [← split, List.drop_left] at afterwards
  rw [← split]
  exact (List.prefix_append_right_inj first).mpr afterwards

/-- Reading never fails, delivers the next bytes of the file, at least one, and moves the cursor
on by as many; it delivers nothing only where there is nothing or no pass has been started. -/
theorem read_contents (wellFormed : file.WellFormed) :
    (file.read.result = .ok none ∧ (¬ file.Opened ∨ file.position = file.size) ∧
        (file.read.state.Opened ↔ file.Opened) ∧
        file.read.state.position = file.position) ∨
      ∃ piece : Segment, file.read.result = .ok (some piece) ∧ file.Opened ∧ 0 < piece.length ∧
        piece.expand file.filler <+: file.contents.drop file.position.toNat ∧
        file.read.state.Opened ∧
        file.read.state.position.toNat = file.position.toNat + piece.length := by
  have delivered := read_delivered wellFormed
  have total := wellFormed.total_le
  generalize file.read = outcome at delivered ⊢
  cases delivered with
  | unopened unopened => exact Or.inl ⟨rfl, Or.inl unopened, Iff.rfl, rfl⟩
  | ended opened atEnd =>
    exact Or.inl ⟨rfl, Or.inr atEnd, iff_of_true Place.noConfusion opened, UInt64.add_zero _⟩
  | payload opened before after block offset split inside sum =>
    rw [split, totalLength_append, totalLength_cons, Block.length] at total
    have length := toNat_length_drop offset (show block.payload.length ≤ maxOffset by omega)
    have holds : (Place.payload before.length offset block.gap).Holds file.blocks
        file.position.toNat :=
      .payload before after block offset split inside sum
    obtain ⟨-, rest, -, -, bytes⟩ := holds.split_bytes Place.noConfusion file.filler
    rw [split, Place.pendingLiteral_split, List.append_assoc, ← split] at bytes
    refine Or.inr ⟨_, rfl, opened, ?_, ⟨_, bytes.symm⟩, Place.noConfusion, ?_⟩
    · rw [Segment.length, List.length_drop]
      omega
    · refine (position_deliver (by omega)).trans ?_
      rw [length, Segment.length, List.length_drop]
  | buffer opened before after block left split bounded sum longer =>
    rw [split, totalLength_append, totalLength_cons] at total
    have part := UInt64.le_iff_toNat_le.mp (UInt64.le_of_lt longer)
    have holds : (Place.gap before.length left).Holds file.blocks file.position.toNat :=
      .gap before after block left split bounded sum
    obtain ⟨-, rest, -, -, bytes⟩ := holds.split_bytes Place.noConfusion file.filler
    have cut : left.toNat = file.filler.size.toNat + (left.toNat - file.filler.size.toNat) := by
      omega
    rw [Place.pendingGap, cut, Filler.run_add, Place.pendingLiteral, List.nil_append,
      List.append_assoc] at bytes
    exact Or.inr ⟨_, rfl, opened, file.filler.size_toNat_pos, ⟨_, bytes.symm⟩, Place.noConfusion,
      position_deliver (by omega)⟩
  | remainder opened before after block left split bounded sum nonzero shorter =>
    rw [split, totalLength_append, totalLength_cons] at total
    have holds : (Place.gap before.length left).Holds file.blocks file.position.toNat :=
      .gap before after block left split bounded sum
    obtain ⟨-, rest, -, -, bytes⟩ := holds.split_bytes Place.noConfusion file.filler
    rw [Place.pendingGap, Place.pendingLiteral, List.nil_append] at bytes
    exact Or.inr ⟨_, rfl, opened, toNat_pos_iff.mpr nonzero, ⟨_, bytes.symm⟩,
      Place.opened_enter _ _, position_deliver (by omega)⟩

theorem opened_read (wellFormed : file.WellFormed) (opened : file.Opened) :
    file.read.state.Opened := by
  rcases read_contents wellFormed with ⟨-, -, same, -⟩ | ⟨piece, -, -, -, -, later, -⟩
  · exact same.mpr opened
  · exact later

/-- What a read delivers is in the file. -/
theorem read_piece_le (wellFormed : file.WellFormed) {piece : Segment}
    (delivered : file.read.result = .ok (some piece)) :
    file.position.toNat + piece.length ≤ file.size.toNat := by
  rcases read_contents wellFormed with
    ⟨nothing, -⟩ | ⟨other, otherwise, -, positive, bytes, -⟩
  · exact nomatch nothing.symm.trans delivered
  · rw [otherwise] at delivered
    have same : other = piece := Option.some.inj (Except.ok.inj delivered)
    subst same
    have room := bytes.length_le
    rw [Segment.length_expand, List.length_drop, length_contents wellFormed] at room
    omega

/-- A read delivers nothing exactly where no pass has been started or there is nothing more. -/
theorem read_eq_none_iff (wellFormed : file.WellFormed) :
    file.read.result = .ok none ↔ ¬ file.Opened ∨ file.position = file.size := by
  rcases read_contents wellFormed with ⟨nothing, why, -⟩ | ⟨piece, delivered, opened, filled, -⟩
  · exact iff_of_true nothing why
  · have inFile := read_piece_le wellFormed delivered
    rw [delivered]
    refine iff_of_false nofun ?_
    rintro (unopened | atEnd)
    · exact unopened opened
    · rw [atEnd] at inFile
      omega

end File

end GappedFiles
