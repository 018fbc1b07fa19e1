/-
This file proves that writing and seeking commute.

A write moves the cursor along, in the place where it finds it, and a seek finds
the place anew by walking over the blocks. It makes no difference which of the two
comes last. The cursor that a seek leaves is at a settled place, a write keeps it
settled, and a settled place is the one that the walk finds. So a seek to the same
offset after the write would leave the cursor where it is.
-/

import GappedFiles.Proofs.Canonical

namespace GappedFiles

/-! ### Settled places in a file that grows -/

/-- A gap in which there is something left has more left when filler joins it. -/
theorem Place.Settled.extendGap {place : Place} {length : UInt64} (settled : place.Settled)
    (block : Nat) (fits : place.pendingGap.toNat + length.toNat ≤ maxOffset) :
    (place.extendGap block length).Settled := by
  cases place with
  | unset => trivial
  | done => trivial
  | payload index offset gap =>
    rw [Place.extendGap]
    split <;> trivial
  | gap index left =>
    rw [Place.extendGap]
    split
    · have more : (left + length).toNat = left.toNat + length.toNat := toNat_add_of_le fits
      have positive : 0 < left.toNat := toNat_pos_iff.mpr settled
      exact toNat_pos_iff.mp (by omega)
    · exact settled

namespace File

variable {file : File}

/-- A write leaves a cursor at a settled place that was at one. -/
theorem WellFormed.settled_write (wellFormed : file.WellFormed)
    (settled : file.cursor.place.Settled) (segment : Segment) :
    (file.write segment).state.cursor.place.Settled := by
  have written := file.write_written segment
  generalize file.write segment = outcome at written ⊢
  cases written with
  | tooLong => exact settled
  | unheld => exact settled
  | extended earlier last length fits split =>
    have pending := wellFormed.pendingGap_le
    show (file.extendLast last length).cursor.place.Settled
    rcases wellFormed.place_extendLast split length with
      ⟨-, filled, place⟩ | ⟨-, -, place⟩ | ⟨-, place⟩
    · rw [place]
      exact filled
    · rw [place]
      trivial
    · rw [place]
      exact settled.extendGap _ (by omega)
  | ignored => exact settled
  | appended first rest fits =>
    show (file.appendBlock (first :: rest)).cursor.place.Settled
    rcases wellFormed.place_appendBlock (first :: rest) with ⟨-, place⟩ | ⟨-, place⟩
    · rw [place]
      trivial
    · rw [place]
      exact settled

/-! ### Moving the cursor before and after a write -/

/-- No write makes a file shorter. -/
theorem WellFormed.size_le_write (wellFormed : file.WellFormed) (segment : Segment) :
    file.size.toNat ≤ (file.write segment).state.size.toNat := by
  rw [← length_contents wellFormed, ← length_contents (wellFormed.write segment)]
  rcases file.write_contents wellFormed segment with ⟨-, -, grown⟩ | ⟨-, -, same⟩
  · rw [grown, List.length_append]
    exact Nat.le_add_right _ _
  · exact Nat.le_of_eq (congrArg List.length same.symm)

/-- A write to a file whose cursor has been moved comes to the same as a write after which the
cursor is moved. -/
theorem write_moveTo (wellFormed : file.WellFormed) {target : UInt64}
    (inFile : target.toNat ≤ file.size.toNat) (segment : Segment) :
    ((file.moveTo target).write segment).result = (file.write segment).result ∧
      ((file.moveTo target).write segment).state =
        (file.write segment).state.moveTo target := by
  have stands := standsAt_moveTo wellFormed inFile
  have formed := wellFormed.moveTo inFile
  have located := Place.holds_locate wellFormed.total_le (wellFormed.size_eq ▸ inFile)
  rw [UInt64.ofNat_toNat] at formed located
  obtain ⟨opened, position⟩ := (file.moveTo target).write_cursor segment
  have moved : file.Moved (file.moveTo target) := rfl
  have alike := moved.write segment
  have stays := moveTo_position (formed.write segment) (opened.mpr stands.opened)
    (formed.settled_write located.2.2 segment)
  have same : (file.moveTo target).position = target := rfl
  rw [position, same, alike.state.moveTo] at stays
  exact ⟨alike.result.symm, stays.symm⟩

end File

/-- Writing and seeking commute. For every segment, and every offset up to the end that the file
has before the write, to seek the offset and then to write, and to write and then to seek the
offset, give the same two results and leave the same file, the whole cursor included; and it is
likewise with starting a pass in the place of the seek. -/
theorem write_seek_commute {file : File} (reachable : file.Reachable) (segment : Segment) :
    let written := file.write segment
    (∀ offset : Int64, 0 ≤ offset.toInt → offset.toInt ≤ file.size.toNat →
      let sought := file.seek offset .start
      (∃ target : UInt64, sought.result = .ok target ∧ (target.toNat : Int) = offset.toInt) ∧
        (written.state.seek offset .start).result = sought.result ∧
        (sought.state.write segment).result = written.result ∧
        (sought.state.write segment).state = (written.state.seek offset .start).state) ∧
      written.state.startPass.result = file.startPass.result ∧
      (file.startPass.state.write segment).result = written.result ∧
      (file.startPass.state.write segment).state = written.state.startPass.state := by
  intro written
  have wellFormed := reachable.wellFormed
  have formed : written.state.WellFormed := wellFormed.write segment
  have grown : file.size.toNat ≤ written.state.size.toNat := wellFormed.size_le_write segment
  refine ⟨fun offset notNegative inFile => ?_, rfl, ?_⟩
  · have sum : (offset.toInt.toNat : Int) = (file.base .start).toNat + offset.toInt := by
      rw [File.base, UInt64.toNat_zero]
      omega
    have limit := wellFormed.size_le
    have target : (UInt64.ofNat offset.toInt.toNat).toNat = offset.toInt.toNat :=
      toNat_ofNat_of_le (by omega)
    have behind : written.state.seek offset .start =
        .success (written.state.moveTo (.ofNat offset.toInt.toNat)) (.ofNat offset.toInt.toNat) _ :=
      File.seek_of_le formed.size_le sum (by omega)
    rw [File.seek_of_le limit sum (by omega), behind]
    obtain ⟨result, state⟩ := File.write_moveTo wellFormed
      (show (UInt64.ofNat offset.toInt.toNat).toNat ≤ file.size.toNat by omega) segment
    exact ⟨⟨_, rfl, by rw [target]; omega⟩, rfl, result, state⟩
  · rw [File.startPass_state wellFormed, File.startPass_state formed]
    exact File.write_moveTo wellFormed (Nat.zero_le _) segment

/-- Filler that joins a gap while the cursor is sought at the end of the file, in the gap, and
nowhere. -/
theorem write_seek_commute_filler :
    let file := (File.empty .shared).runAll
      [.file (.write (.literal [1, 2])), .file (.write (.filler 3))]
    let written := file.write (.filler 4)
    (((file.seek 5 .start).state.write (.filler 4)).state = (written.state.seek 5 .start).state ∧
      (written.state.seek 5 .start).state.cursor = { place := .gap 0 4, position := 5 }) ∧
      (((file.seek 4 .start).state.write (.filler 4)).state = (written.state.seek 4 .start).state ∧
      (written.state.seek 4 .start).state.cursor = { place := .gap 0 5, position := 4 }) ∧
      (file.startPass.state.write (.filler 4)).state = written.state.startPass.state ∧
      written.state.cursor = { place := .unset, position := 0 } := by
  intro file written
  obtain ⟨seeks, -, -, passes⟩ :=
    write_seek_commute (show file.Reachable from ⟨.shared, _, rfl⟩) (.filler 4)
  exact ⟨⟨(seeks 5 (by decide) (by decide)).2.2.2, by decide⟩,
    ⟨(seeks 4 (by decide) (by decide)).2.2.2, by decide⟩, passes, by decide⟩

end GappedFiles
