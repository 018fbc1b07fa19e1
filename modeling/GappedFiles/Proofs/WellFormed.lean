/-
This file finds the invariant of gapped files and proves that every run of calls
keeps it.

A file is well formed when no payload is empty, the size that is kept is the sum
of the blocks and an offset, and the cursor's place is one where the byte at the
cursor's position is found. Writing changes the blocks underneath a cursor that is
in use, and the invariant says that the cursor is then moved along exactly as far
as it must be: a cursor on the last block has more of its gap before it, a cursor
behind the last block comes to what was added, and no other cursor is concerned.
-/

import GappedFiles.Proofs.Operations
import GappedFiles.Proofs.Placement

namespace GappedFiles

namespace File

/-! ### The invariant -/

/-- What holds of every file that some calls lead to. -/
structure WellFormed (file : File) : Prop where
  filled : ∀ block ∈ file.blocks, block.payload ≠ []
  size_eq : file.size.toNat = totalLength file.blocks
  size_le : file.size.toNat ≤ maxOffset
  holds : file.cursor.place.Holds file.blocks file.cursor.position.toNat

/-- A pass over the file has been started, by a call that moved the cursor. -/
def Opened (file : File) : Prop :=
  file.cursor.place.Opened

instance (file : File) : Decidable file.Opened :=
  inferInstanceAs (Decidable file.cursor.place.Opened)

theorem wellFormed_empty (filler : Filler) : (empty filler).WellFormed where
  filled := fun _ member => nomatch member
  size_eq := rfl
  size_le := Nat.zero_le _
  holds := .unset rfl

variable {file : File}

theorem WellFormed.total_le (wellFormed : file.WellFormed) :
    totalLength file.blocks ≤ maxOffset :=
  wellFormed.size_eq ▸ wellFormed.size_le

theorem WellFormed.position_le (wellFormed : file.WellFormed) :
    file.position.toNat ≤ file.size.toNat := by
  rw [wellFormed.size_eq]
  exact wellFormed.holds.position_le

theorem WellFormed.pendingGap_le (wellFormed : file.WellFormed) :
    file.cursor.place.pendingGap.toNat ≤ file.size.toNat := by
  rw [wellFormed.size_eq]
  exact wellFormed.holds.pendingGap_le

/-- A cursor behind the last block is at the end. -/
theorem WellFormed.position_of_done (wellFormed : file.WellFormed)
    (atDone : file.cursor.place = .done) : file.position = file.size := by
  have holds := wellFormed.holds
  rw [atDone] at holds
  cases holds with
  | done atEnd => exact UInt64.toNat_inj.mp (atEnd.trans wellFormed.size_eq.symm)

/-- The pass is over exactly where the cursor is behind the last block: its position is the
size then, and need not be compared with it. -/
theorem WellFormed.passEnded_iff (wellFormed : file.WellFormed) :
    file.passEnded = true ↔ file.cursor.place = .done := by
  unfold passEnded
  rw [Bool.and_eq_true, beq_iff_eq, beq_iff_eq]
  exact ⟨fun ended => ended.1, fun atDone => ⟨atDone, wellFormed.position_of_done atDone⟩⟩

theorem WellFormed.passEnded_eq_false (wellFormed : file.WellFormed)
    (notDone : file.cursor.place ≠ .done) : file.passEnded = false :=
  Bool.eq_false_iff.mpr fun ended => notDone (wellFormed.passEnded_iff.mp ended)

/-! ### Writing -/

/-- Where the cursor is when a block has been appended: at that block, if it was behind the last. -/
theorem WellFormed.place_appendBlock (wellFormed : file.WellFormed) (bytes : List UInt8) :
    (file.cursor.place = .done ∧
        (file.appendBlock bytes).cursor.place = .payload file.blocks.length 0 0) ∨
      (file.cursor.place ≠ .done ∧
        (file.appendBlock bytes).cursor.place = file.cursor.place) := by
  have place : (file.appendBlock bytes).cursor.place =
      if file.passEnded then .payload file.blocks.length 0 0 else file.cursor.place := rfl
  by_cases atDone : file.cursor.place = .done
  · rw [wellFormed.passEnded_iff.mpr atDone, if_pos rfl] at place
    exact Or.inl ⟨atDone, place⟩
  · rw [wellFormed.passEnded_eq_false atDone, if_neg Bool.false_ne_true] at place
    exact Or.inr ⟨atDone, place⟩

/-- Where the cursor is when filler has joined the last gap: in that gap, if it was behind the last
block and there is any filler, and otherwise where it was, with more of the gap before it if the gap
belongs to the block that it is on. -/
theorem WellFormed.place_extendLast (wellFormed : file.WellFormed) {earlier : List Block}
    {last : Block} (split : file.blocks = earlier ++ [last]) (length : UInt64) :
    (file.cursor.place = .done ∧ length ≠ 0 ∧
        (file.extendLast last length).cursor.place = .gap earlier.length length) ∨
      (file.cursor.place = .done ∧ length = 0 ∧
        (file.extendLast last length).cursor.place = .done) ∨
      (file.cursor.place ≠ .done ∧
        (file.extendLast last length).cursor.place =
          file.cursor.place.extendGap earlier.length length) := by
  have place : (file.extendLast last length).cursor.place =
      if file.passEnded && 0 < length then .gap (file.blockCount - 1) length
      else file.cursor.place.extendGap (file.blockCount - 1) length := rfl
  rw [lastIndex_eq split] at place
  by_cases atDone : file.cursor.place = .done
  · rw [wellFormed.passEnded_iff.mpr atDone, Bool.true_and] at place
    by_cases nothing : length = 0
    · refine Or.inr (Or.inl ⟨atDone, nothing, ?_⟩)
      rw [place, nothing, atDone]
      rfl
    · rw [if_pos (decide_eq_true (UInt64.pos_iff_ne_zero.mpr nothing))] at place
      exact Or.inl ⟨atDone, nothing, place⟩
  · rw [wellFormed.passEnded_eq_false atDone, Bool.false_and, if_neg Bool.false_ne_true] at place
    exact Or.inr (Or.inr ⟨atDone, place⟩)

theorem size_appendBlock {bytes : List UInt8}
    (fits : file.size.toNat + bytes.length ≤ maxOffset) :
    (file.appendBlock bytes).size.toNat = file.size.toNat + bytes.length := by
  have length : (UInt64.ofNat bytes.length).toNat = bytes.length := toNat_ofNat_of_le (by omega)
  show (file.size + .ofNat bytes.length).toNat = _
  rw [toNat_add_of_le (by rw [length]; exact fits), length]

theorem WellFormed.appendBlock (wellFormed : file.WellFormed) {first : UInt8} {rest : List UInt8}
    (fits : file.size.toNat + (first :: rest).length ≤ maxOffset) :
    (file.appendBlock (first :: rest)).WellFormed := by
  have size := size_appendBlock fits
  constructor
  · intro block member
    rcases List.mem_append.mp member with earlier | appended
    · exact wellFormed.filled block earlier
    · rw [List.mem_singleton.mp appended]
      exact List.cons_ne_nil _ _
  · refine size.trans ?_
    show _ = totalLength (file.blocks ++ [⟨first :: rest, 0⟩])
    rw [totalLength_append, wellFormed.size_eq]
    rfl
  · exact Nat.le_trans (Nat.le_of_eq size) fits
  · have holds := wellFormed.holds
    rcases wellFormed.place_appendBlock (first :: rest) with ⟨atDone, place⟩ | ⟨notDone, place⟩
    · rw [place]
      rw [atDone] at holds
      cases holds with
      | done atEnd =>
        show Place.Holds _ file.cursor.position.toNat _
        rw [atEnd]
        exact Place.holds_appended file.blocks
    · rw [place]
      exact holds.append notDone _

/-- A gap that takes in what the file has room for can be counted. -/
theorem WellFormed.gap_le (wellFormed : file.WellFormed) {earlier : List Block} {last : Block}
    {length : Nat} (fits : file.size.toNat + length ≤ maxOffset)
    (split : file.blocks = earlier ++ [last]) : last.gap.toNat + length ≤ maxOffset := by
  have gap := gap_le_length last
  have total := wellFormed.size_eq
  rw [split, totalLength_append, totalLength_cons] at total
  omega

theorem extendLast_blocks {earlier : List Block} {last : Block} (length : UInt64)
    (split : file.blocks = earlier ++ [last]) :
    (file.extendLast last length).blocks = earlier ++ [last.extendGap length] := by
  show file.blocks.dropLast ++ [last.extendGap length] = _
  rw [split, List.dropLast_concat]

/-- The cursor is moved along with the filler that joins the last gap. -/
theorem WellFormed.holds_extendLast (wellFormed : file.WellFormed) {earlier : List Block}
    {last : Block} {length : UInt64} (fits : file.size.toNat + length.toNat ≤ maxOffset)
    (split : file.blocks = earlier ++ [last]) :
    (file.extendLast last length).cursor.place.Holds (earlier ++ [last.extendGap length])
      file.position.toNat := by
  have gapFits := wellFormed.gap_le fits split
  have holds : file.cursor.place.Holds file.blocks file.position.toNat := wellFormed.holds
  rw [split] at holds
  rcases wellFormed.place_extendLast split length with
    ⟨atDone, -, place⟩ | ⟨atDone, nothing, place⟩ | ⟨notDone, place⟩
  · rw [place]
    rw [atDone] at holds
    cases holds with
    | done atEnd =>
      rw [atEnd]
      exact Place.holds_extended earlier gapFits
  · -- A run of no bytes leaves the end where it is.
    rw [place]
    rw [atDone] at holds
    cases holds with
    | done atEnd =>
      refine .done ?_
      rw [atEnd, totalLength_append, totalLength_append, totalLength_cons, totalLength_cons,
        length_extendGap gapFits, nothing, UInt64.toNat_zero, Nat.add_zero]
  · rw [place]
    exact holds.extend notDone gapFits

theorem WellFormed.extendLast (wellFormed : file.WellFormed) {earlier : List Block} {last : Block}
    {length : UInt64} (fits : file.size.toNat + length.toNat ≤ maxOffset)
    (split : file.blocks = earlier ++ [last]) : (file.extendLast last length).WellFormed := by
  have size : (file.size + length).toNat = file.size.toNat + length.toNat :=
    toNat_add_of_le fits
  have total : totalLength file.blocks = totalLength earlier + last.length := by
    rw [split, totalLength_append, totalLength_cons, totalLength_nil, Nat.add_zero]
  have blocks := extendLast_blocks length split
  constructor
  · rw [blocks]
    intro block member
    rcases List.mem_append.mp member with before | extended
    · exact wellFormed.filled block (by rw [split]; exact List.mem_append_left _ before)
    · rw [List.mem_singleton.mp extended]
      exact wellFormed.filled last (by rw [split]; exact List.mem_append_right _ (by simp))
  · refine size.trans ?_
    rw [blocks, totalLength_append, totalLength_cons, totalLength_nil,
      length_extendGap (wellFormed.gap_le fits split), wellFormed.size_eq, total]
    omega
  · exact Nat.le_trans (Nat.le_of_eq size) fits
  · rw [blocks]
    exact wellFormed.holds_extendLast fits split

theorem opened_appendBlock (file : File) (bytes : List UInt8) :
    (file.appendBlock bytes).Opened ↔ file.Opened := by
  show (if file.passEnded then Place.payload _ _ _ else file.cursor.place).Opened ↔ _
  split
  · rename_i ended
    unfold passEnded at ended
    rw [Bool.and_eq_true, beq_iff_eq] at ended
    refine iff_of_true Place.noConfusion ?_
    rw [Opened, ended.1]
    exact Place.noConfusion
  · exact Iff.rfl

theorem opened_extendLast (file : File) (last : Block) (length : UInt64) :
    (file.extendLast last length).Opened ↔ file.Opened := by
  show (if file.passEnded && 0 < length then Place.gap _ _
    else file.cursor.place.extendGap _ _).Opened ↔ _
  split
  · rename_i ended
    unfold passEnded at ended
    rw [Bool.and_eq_true, Bool.and_eq_true, beq_iff_eq] at ended
    refine iff_of_true Place.noConfusion ?_
    rw [Opened, ended.1.1]
    exact Place.noConfusion
  · exact Place.opened_extendGap _ _ _

/-- No write puts the cursor somewhere. -/
theorem write_cursor (file : File) (segment : Segment) :
    ((file.write segment).state.Opened ↔ file.Opened) ∧
      (file.write segment).state.position = file.position := by
  have written := file.write_written segment
  generalize file.write segment = outcome at written ⊢
  cases written with
  | tooLong => exact ⟨Iff.rfl, rfl⟩
  | unheld => exact ⟨Iff.rfl, rfl⟩
  | extended => exact ⟨opened_extendLast _ _ _, rfl⟩
  | ignored => exact ⟨Iff.rfl, rfl⟩
  | appended => exact ⟨opened_appendBlock _ _, rfl⟩

theorem WellFormed.write (wellFormed : file.WellFormed) (segment : Segment) :
    (file.write segment).state.WellFormed := by
  have written := file.write_written segment
  generalize file.write segment = outcome at written ⊢
  cases written with
  | tooLong => exact wellFormed
  | unheld => exact wellFormed
  | extended earlier last length fits split => exact wellFormed.extendLast fits split
  | ignored => exact wellFormed
  | appended first rest fits => exact wellFormed.appendBlock fits

/-! ### Moving the cursor -/

/-- A seek counts from an offset, and so its target is never less than the least number with a
sign. -/
theorem WellFormed.base_le (wellFormed : file.WellFormed) (origin : Origin) :
    (file.base origin).toNat ≤ maxOffset := by
  have size := wellFormed.size_le
  have position := wellFormed.position_le
  cases origin with
  | start => exact Nat.zero_le _
  | current => exact Nat.le_trans position size
  | finish => exact size

theorem le_base_add (file : File) (offset : Int64) (origin : Origin) :
    -(maxOffset + 1 : Int) ≤ (file.base origin).toNat + offset.toInt := by
  have lowest := offset.le_toInt
  rw [maxOffset]
  omega

theorem WellFormed.startPass (wellFormed : file.WellFormed) : file.startPass.state.WellFormed where
  filled := wellFormed.filled
  size_eq := wellFormed.size_eq
  size_le := wellFormed.size_le
  holds := Place.holds_enter (List.nil_append _).symm wellFormed.filled

theorem WellFormed.moveTo (wellFormed : file.WellFormed) {target : Nat}
    (inFile : target ≤ file.size.toNat) : (file.moveTo (.ofNat target)).WellFormed where
  filled := wellFormed.filled
  size_eq := wellFormed.size_eq
  size_le := wellFormed.size_le
  holds := by
    have fits := Nat.le_trans inFile wellFormed.size_le
    show (Place.locate file.blocks (.ofNat target)).Holds file.blocks (UInt64.ofNat target).toNat
    rw [toNat_ofNat_of_le fits]
    exact (Place.holds_locate wellFormed.total_le (wellFormed.size_eq ▸ inFile)).1

theorem opened_moveTo (wellFormed : file.WellFormed) {target : Nat}
    (inFile : target ≤ file.size.toNat) : (file.moveTo (.ofNat target)).Opened :=
  (Place.holds_locate wellFormed.total_le (wellFormed.size_eq ▸ inFile)).2.1

theorem WellFormed.seek (wellFormed : file.WellFormed) (offset : Int64) (origin : Origin) :
    (file.seek offset origin).state.WellFormed := by
  have sought := file.seek_sought offset origin
  generalize file.seek offset origin = outcome at sought ⊢
  cases sought with
  | tooFar => exact wellFormed
  | negative => exact wellFormed
  | pastEnd => exact wellFormed
  | moved target sum fits inFile => exact wellFormed.moveTo inFile

end File

end GappedFiles
