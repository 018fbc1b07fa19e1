/-
This file says what the two accessors of a cursor tell about the reads to come: what
is left of the payload under the cursor, and how much filler is before the next block.

Together they reach from the position to the end of a block, and a read delivers what
they show, the payload first. Where they show nothing they do not tell why. Either no
pass has been started, or the pass has come to the end, or the cursor has exhausted a
block and not yet gone on to the one behind it. The next read does tell, because in
the last case it delivers that block's payload.
-/

import GappedFiles.Proofs.Growth

namespace GappedFiles

/-! ### What is pending -/

/-- What is pending at the start of a block, which is nothing where there is no block. -/
def pendingOf : Option Block → List UInt8 × UInt64
  | some block => (block.payload, block.gap)
  | none => ([], 0)

/-- What both accessors show. -/
def File.pending (file : File) : List UInt8 × UInt64 :=
  (file.pendingLiteral, file.pendingGap)

namespace Place

theorem pending_enter (blocks : List Block) (index : Nat) :
    ((enter blocks index).pendingLiteral blocks, (enter blocks index).pendingGap) =
      pendingOf blocks[index]? := by
  unfold enter
  cases found : blocks[index]? with
  | none => rfl
  | some block =>
    rw [pendingLiteral, found]
    rfl

/-- Only the payloads matter for what is left of one. -/
theorem pendingLiteral_congr {first second : List Block}
    (same : first.map Block.payload = second.map Block.payload) (place : Place) :
    place.pendingLiteral first = place.pendingLiteral second := by
  cases place with
  | payload index offset after =>
    rw [pendingLiteral, pendingLiteral, ← List.getElem?_map, same, List.getElem?_map]
  | unset | done | gap => rfl

theorem pendingLiteral_extendGap (blocks : List Block) (block : Nat) (length : UInt64)
    (place : Place) : (place.extendGap block length).pendingLiteral blocks =
      place.pendingLiteral blocks := by
  cases place with
  | payload index offset after =>
    rw [extendGap]
    split <;> rfl
  | gap index left =>
    rw [extendGap]
    split <;> rfl
  | unset | done => rfl

/-- What is left of a payload is left of it where another block follows. -/
theorem Holds.pendingLiteral_append {blocks : List Block} {position : Nat} {place : Place}
    (holds : place.Holds blocks position) (appended : Block) :
    place.pendingLiteral (blocks ++ [appended]) = place.pendingLiteral blocks := by
  cases holds with
  | payload before after block offset split inside sum =>
    rw [split, List.append_assoc, List.cons_append, pendingLiteral_split, pendingLiteral_split]
  | unset | done | gap => rfl

/-- A gap of which so much is left ends so much behind the position. -/
theorem Holds.gap_end {blocks : List Block} {position block : Nat} {left : UInt64}
    (holds : (Place.gap block left).Holds blocks position) :
    startOf blocks (block + 1) = position + left.toNat := by
  cases holds with
  | gap before after block left split bounded sum => rw [split, startOf_succ_append, sum]

end Place

namespace File

variable {file : File}

/-- From the position on, the file goes on with the pending bytes and then with the pending filler,
and this brings it to the end of a block or leaves it at the start. -/
theorem pending_prefix (wellFormed : file.WellFormed) :
    (∃ index : Nat, index ≤ file.blockCount ∧ startOf file.blocks index =
      file.position.toNat + file.pendingLiteral.length + file.pendingGap.toNat) ∧
      file.pendingLiteral ++ file.filler.run file.pendingGap.toNat <+:
        file.contents.drop file.position.toNat := by
  have holds : file.cursor.place.Holds file.blocks file.position.toNat := wellFormed.holds
  by_cases opened : file.Opened
  · obtain ⟨before, after, split, reached, bytes⟩ := holds.split_bytes opened file.filler
    have boundary := startOf_append before after
    rw [← split] at boundary
    refine ⟨⟨before.length, ?_, boundary.trans reached.symm⟩, _, bytes.symm⟩
    rw [blockCount, split, List.length_append]
    exact Nat.le_add_right _ _
  · have unset : file.cursor.place = .unset := Decidable.not_not.mp opened
    rw [pendingLiteral, pendingGap, unset]
    rw [unset] at holds
    cases holds with
    | unset atStart =>
      refine ⟨⟨0, Nat.zero_le _, ?_⟩, List.nil_prefix⟩
      rw [atStart]
      rfl

/-! ### Reading what is pending -/

/-- Where bytes are pending, a read delivers them all and leaves the gap behind them. -/
theorem read_of_literal (literal : file.pendingLiteral ≠ []) :
    file.read.result = .ok (some (.literal file.pendingLiteral)) ∧
      file.read.state.pending = ([], file.pendingGap) := by
  obtain ⟨block, offset, gap, place⟩ : ∃ (block offset : Nat) (gap : UInt64),
      file.cursor.place = .payload block offset gap := by
    cases place : file.cursor.place with
    | payload block offset gap => exact ⟨block, offset, gap, rfl⟩
    | unset | done | gap => exact absurd (by rw [pendingLiteral, place]; rfl) literal
  have stays : file.leaveGap = file := by rw [leaveGap, place]
  have gapBehind : file.pendingGap = gap := by rw [pendingGap, place]; rfl
  rw [read, stays, deliverNext, place, gapBehind]
  exact ⟨rfl, rfl⟩

/-- Where no bytes are pending the cursor is in a gap, if it is anywhere among the blocks. -/
theorem place_of_no_literal (wellFormed : file.WellFormed) (noLiteral : file.pendingLiteral = []) :
    file.cursor.place = .unset ∨ file.cursor.place = .done ∨
      ∃ block : Nat, file.cursor.place = .gap block file.pendingGap := by
  have holds := wellFormed.holds
  cases place : file.cursor.place with
  | unset => exact Or.inl rfl
  | done => exact Or.inr (Or.inl rfl)
  | gap block left => exact Or.inr (Or.inr ⟨block, by rw [pendingGap, place]; rfl⟩)
  | payload block offset gap =>
    -- At a place in a payload there is a byte to deliver.
    rw [pendingLiteral, place] at noLiteral
    rw [place] at holds
    cases holds with
    | payload before after block offset split inside sum =>
      rw [split, Place.pendingLiteral_split, List.drop_eq_nil_iff] at noLiteral
      exact absurd inside (Nat.not_lt_of_le noLiteral)

/-- Where only filler is pending the cursor is in the gap it belongs to. -/
theorem place_of_gap (wellFormed : file.WellFormed) (noLiteral : file.pendingLiteral = [])
    (gap : 0 < file.pendingGap) :
    ∃ block : Nat, file.cursor.place = .gap block file.pendingGap ∧ file.leaveGap = file ∧
      startOf file.blocks (block + 1) = file.position.toNat + file.pendingGap.toNat := by
  have notZero : file.pendingGap ≠ 0 := UInt64.pos_iff_ne_zero.mp gap
  have holds : file.cursor.place.Holds file.blocks file.position.toNat := wellFormed.holds
  rcases place_of_no_literal wellFormed noLiteral with unset | done | ⟨block, atGap⟩
  · exact absurd (by rw [pendingGap, unset]; rfl) notZero
  · exact absurd (by rw [pendingGap, done]; rfl) notZero
  · refine ⟨block, atGap, by rw [leaveGap, atGap]; exact if_neg notZero, ?_⟩
    rw [atGap] at holds
    exact holds.gap_end

/-- Where more filler is pending than the buffer holds, a read delivers the whole buffer. -/
theorem read_of_longer (wellFormed : file.WellFormed) (noLiteral : file.pendingLiteral = [])
    (longer : file.filler.size < file.pendingGap) :
    file.read.result = .ok (some (.filler file.filler.size)) ∧
      file.read.state.pending = ([], file.pendingGap - file.filler.size) := by
  obtain ⟨block, atGap, stays, -⟩ := place_of_gap wellFormed noLiteral
    (UInt64.lt_trans file.filler.size_pos longer)
  rw [read, stays, deliverNext, atGap]
  dsimp only
  rw [if_pos longer]
  exact ⟨rfl, rfl⟩

/-- Where the buffer holds all filler that is pending, a read delivers that, and then the whole of
the next block is pending. -/
theorem read_of_shorter (wellFormed : file.WellFormed) (noLiteral : file.pendingLiteral = [])
    (gap : 0 < file.pendingGap) (shorter : file.pendingGap ≤ file.filler.size) :
    file.read.result = .ok (some (.filler file.pendingGap)) ∧
      ∃ block : Nat, file.cursor.place.block? = some block ∧
        startOf file.blocks (block + 1) = file.position.toNat + file.pendingGap.toNat ∧
        file.read.state.pending = pendingOf file.blocks[block + 1]? := by
  obtain ⟨block, atGap, stays, boundary⟩ := place_of_gap wellFormed noLiteral gap
  have delivered : file.read =
      .success (file.deliver (.enter file.blocks (block + 1)) file.pendingGap)
        (some (.filler file.pendingGap)) [.gapFinished file.pendingGap file.position] := by
    rw [read, stays, deliverNext, atGap]
    dsimp only
    rw [if_neg (UInt64.not_lt.mpr shorter), if_pos gap]
  rw [delivered]
  exact ⟨rfl, block, by rw [atGap]; rfl, boundary, Place.pending_enter file.blocks (block + 1)⟩

/-- Leaving a gap is the first thing a read does, and it may as well be done before. -/
theorem read_leaveGap (wellFormed : file.WellFormed) : file.leaveGap.read = file.read := by
  have settled := wellFormed.leaveGap.2
  rcases file.leaveGap.leaveGap_cases with ⟨-, stays⟩ | ⟨block, atGap, -⟩
  · rw [read, stays, read]
  · rw [atGap] at settled
    exact absurd rfl settled

/-- Where nothing is pending in an opened file before its end, a block begins at the position, and a
read delivers its payload and leaves its gap. -/
theorem read_of_nothing (wellFormed : file.WellFormed) (noLiteral : file.pendingLiteral = [])
    (noGap : file.pendingGap = 0) (opened : file.Opened) (inFile : file.position ≠ file.size) :
    ∃ (index : Nat) (block : Block), file.blocks[index]? = some block ∧
      startOf file.blocks index = file.position.toNat ∧
      file.read.result = .ok (some (.literal block.payload)) ∧
      file.read.state.pending = ([], block.gap) := by
  have holds : file.cursor.place.Holds file.blocks file.position.toNat := wellFormed.holds
  rcases place_of_no_literal wellFormed noLiteral with unset | done | ⟨before, atGap⟩
  · exact absurd unset opened
  · exact absurd (wellFormed.position_of_done done) inFile
  · rw [noGap] at atGap
    rw [atGap] at holds
    have boundary : startOf file.blocks (before + 1) = file.position.toNat := holds.gap_end
    have entered : file.leaveGap = { file with
        cursor := { place := .enter file.blocks (before + 1), position := file.position } } := by
      rw [leaveGap, atGap]
      exact if_pos rfl
    cases found : file.blocks[before + 1]? with
    | none =>
      rw [startOf, List.take_of_length_le (List.getElem?_eq_none_iff.mp found),
        ← wellFormed.size_eq] at boundary
      exact absurd (UInt64.toNat_inj.mp boundary.symm) inFile
    | some block =>
      have pending : file.leaveGap.pending = (block.payload, block.gap) := by
        rw [entered]
        exact (Place.pending_enter _ _).trans (congrArg pendingOf found)
      obtain ⟨literal, gap⟩ := Prod.mk.inj pending
      have filled : file.leaveGap.pendingLiteral ≠ [] := by
        rw [literal]
        exact wellFormed.filled block (List.mem_of_getElem? found)
      have read := read_of_literal filled
      rw [read_leaveGap wellFormed, literal, gap] at read
      exact ⟨before + 1, block, found, boundary, read⟩

/-! ### Writing behind what is pending -/

/-- The cursor is on the last block, or behind it at the end of a pass. -/
def AtLast (file : File) : Prop :=
  file.cursor.place.block? = some (file.blockCount - 1) ∨ file.passEnded = true

instance (file : File) : Decidable file.AtLast :=
  inferInstanceAs (Decidable (_ ∨ _))

/-- Filler that joins the last gap is pending where the cursor is on the last block or behind it,
and what is left of a payload stays as it is. -/
theorem pending_extendLast (wellFormed : file.WellFormed) {earlier : List Block} {last : Block}
    {length : UInt64} (fits : file.size.toNat + length.toNat ≤ maxOffset)
    (split : file.blocks = earlier ++ [last]) :
    (file.extendLast last length).pendingLiteral = file.pendingLiteral ∧
      (file.AtLast → (file.extendLast last length).pendingGap.toNat =
        file.pendingGap.toNat + length.toNat) ∧
      (¬ file.AtLast → (file.extendLast last length).pendingGap = file.pendingGap) := by
  have pending : file.pendingGap.toNat ≤ file.size.toNat := wellFormed.pendingGap_le
  have payloads : (file.extendLast last length).blocks.map Block.payload =
      file.blocks.map Block.payload := by
    rw [extendLast_blocks length split, split, List.map_append, List.map_append]
    rfl
  unfold AtLast
  rw [pendingLiteral, Place.pendingLiteral_congr payloads, wellFormed.passEnded_iff,
    lastIndex_eq split, pendingGap, pendingLiteral]
  rcases wellFormed.place_extendLast split length with
    ⟨atDone, -, place⟩ | ⟨atDone, nothing, place⟩ | ⟨notDone, place⟩
  · rw [place, pendingGap, atDone]
    exact ⟨rfl, fun _ => (Nat.zero_add _).symm, fun notLast => absurd (Or.inr rfl) notLast⟩
  · rw [place, pendingGap, atDone, nothing]
    exact ⟨rfl, fun _ => rfl, fun _ => rfl⟩
  · rw [place, Place.pendingLiteral_extendGap]
    refine ⟨rfl, ?_, fun notLast => ?_⟩
    · rintro (here | atDone)
      · rw [Place.pendingGap_extendGap_self here]
        exact toNat_add_of_le (Nat.le_trans (Nat.add_le_add_right pending _) fits)
      · exact absurd atDone notDone
    · rw [Place.extendGap_other fun here => notLast (Or.inl here)]
      rfl

/-- An appended block is pending where the pass had ended, and otherwise the same is pending. -/
theorem pending_appendBlock (wellFormed : file.WellFormed) (bytes : List UInt8) :
    (file.appendBlock bytes).pending = if file.passEnded then (bytes, 0) else file.pending := by
  have holds := wellFormed.holds
  rw [pending, pendingLiteral, pendingGap]
  rcases wellFormed.place_appendBlock bytes with ⟨atDone, place⟩ | ⟨notDone, place⟩
  · rw [place, wellFormed.passEnded_iff.mpr atDone, if_pos rfl]
    refine Prod.ext ?_ rfl
    exact Place.pendingLiteral_split file.blocks [] ⟨bytes, 0⟩ 0 0
  · rw [place, wellFormed.passEnded_eq_false notDone, if_neg Bool.false_ne_true]
    exact Prod.ext (holds.pendingLiteral_append ⟨bytes, 0⟩) rfl

theorem pending_writeFiller (wellFormed : file.WellFormed) {length : UInt64} {count : Nat}
    (accepted : (file.writeFiller length).result = .ok count) :
    (file.writeFiller length).state.pendingLiteral = file.pendingLiteral ∧
      (file.AtLast → (file.writeFiller length).state.pendingGap.toNat =
        file.pendingGap.toNat + length.toNat) ∧
      (¬ file.AtLast → (file.writeFiller length).state.pendingGap = file.pendingGap) := by
  rw [writeFiller] at *
  have written := file.write_written (.filler length)
  generalize file.write (.filler length) = outcome at written accepted ⊢
  cases written with
  | tooLong => cases accepted
  | unheld => cases accepted
  | extended earlier last length fits split => exact pending_extendLast wellFormed fits split

theorem pending_writeLiteral (wellFormed : file.WellFormed) {bytes : List UInt8} {count : Nat}
    (some : bytes ≠ []) (accepted : (file.writeLiteral bytes).result = .ok count) :
    (file.writeLiteral bytes).state.pending =
      if file.passEnded then (bytes, 0) else file.pending := by
  rw [writeLiteral] at *
  have written := file.write_written (.literal bytes)
  generalize file.write (.literal bytes) = outcome at written accepted ⊢
  cases written with
  | tooLong => cases accepted
  | ignored => exact absurd rfl some
  | appended => exact pending_appendBlock wellFormed _

end File

/-- The two accessors predict the reads to come. What they show reaches from the position to the end
of a block, and the bytes written go on with it. A read delivers the bytes if there are any, else a
buffer of the filler, else what is left of the filler, and then all of the next block is shown.
Where nothing is shown, a read delivers nothing exactly at the end and in a file that nobody has
opened, and elsewhere the payload of the block that begins at the position. Filler that is written
while the cursor is on the last block or behind it is shown at once, and other filler is not; a
block written behind a pass that had ended is shown as a whole, and no other is. -/
theorem pending_predicts_reads (filler : Filler) (calls : List Call) :
    let file := (File.empty filler).runAll calls
    let written := ((File.empty filler).accepted calls).flatMap (Segment.expand filler)
    let literal := file.pendingLiteral
    let gap := file.pendingGap
    (∃ index : Nat, index ≤ file.blockCount ∧
        startOf file.blocks index = file.position.toNat + literal.length + gap.toNat) ∧
      literal ++ filler.run gap.toNat <+: written.drop file.position.toNat ∧
      (literal ≠ [] → file.read.result = .ok (some (.literal literal)) ∧
        file.read.state.pending = ([], gap)) ∧
      (literal = [] → filler.size < gap → file.read.result = .ok (some (.filler filler.size)) ∧
        file.read.state.pending = ([], gap - filler.size)) ∧
      (literal = [] → 0 < gap → gap ≤ filler.size →
        file.read.result = .ok (some (.filler gap)) ∧
          ∃ block : Nat, file.cursor.place.block? = some block ∧
            startOf file.blocks (block + 1) = file.position.toNat + gap.toNat ∧
            file.read.state.pending = pendingOf file.blocks[block + 1]?) ∧
      (literal = [] → gap = 0 →
        (file.read.result = .ok none ↔ ¬ file.Opened ∨ file.position = file.size) ∧
          (file.Opened → file.position ≠ file.size →
            ∃ (index : Nat) (block : Block), file.blocks[index]? = some block ∧
              startOf file.blocks index = file.position.toNat ∧
              file.read.result = .ok (some (.literal block.payload)) ∧
              file.read.state.pending = ([], block.gap))) ∧
      (∀ (length : UInt64) (count : Nat), (file.writeFiller length).result = .ok count →
        let grown := (file.writeFiller length).state
        grown.pendingLiteral = literal ∧
          (file.AtLast → grown.pendingGap.toNat = gap.toNat + length.toNat) ∧
          (¬ file.AtLast → grown.pendingGap = gap)) ∧
      ∀ (bytes : List UInt8) (count : Nat), bytes ≠ [] →
        (file.writeLiteral bytes).result = .ok count →
          (file.writeLiteral bytes).state.pending =
            if file.passEnded then (bytes, 0) else (literal, gap) := by
  intro file written literal gap
  have wellFormed : file.WellFormed := File.Reachable.wellFormed ⟨filler, calls, rfl⟩
  obtain ⟨sameFiller, contents⟩ : file.filler = filler ∧ file.contents = written :=
    File.contents_runAll (File.wellFormed_empty filler) calls
  obtain ⟨boundary, next⟩ := File.pending_prefix wellFormed
  have longer := File.read_of_longer wellFormed
  have shorter := File.read_of_shorter wellFormed
  rw [sameFiller] at next longer shorter
  rw [contents] at next
  exact ⟨boundary, next, File.read_of_literal, longer, shorter,
    fun noLiteral noGap => ⟨File.read_eq_none_iff wellFormed,
      File.read_of_nothing wellFormed noLiteral noGap⟩,
    fun _ _ => File.pending_writeFiller wellFormed,
    fun _ _ => File.pending_writeLiteral wellFormed⟩

/-- A pass from the last byte of a payload over a gap of a buffer and a half to the block behind it:
the byte, the two pieces of the gap, the block, and the end. Filler that is written is shown there,
and it is not shown at the start of the pass. -/
theorem pending_predicts_reads_over_gap :
    let filler : Filler := { size := 4, byte := 7, size_pos := by decide }
    let calls : Nat → List Call := fun reads =>
      [.file (.write (.literal [1, 2])), .file (.write (.filler 6)),
        .file (.write (.literal [9])), .file (.seek 1 .start)] ++
          List.replicate reads (.file .read)
    let file : Nat → File := fun reads => (File.empty filler).runAll (calls reads)
    (file 0).pending = ([2], 6) ∧ (file 0).read.result = .ok (some (.literal [2])) ∧
      (file 1).pending = ([], 6) ∧ (file 1).read.result = .ok (some (.filler 4)) ∧
      (file 2).pending = ([], 2) ∧ (file 2).read.result = .ok (some (.filler 2)) ∧
      (file 3).pending = ([9], 0) ∧
      (file 4).pending = ([], 0) ∧ (file 4).read.result = .ok none ∧
      ((file 4).writeFiller 5).state.pendingGap.toNat = 5 ∧
      ((file 0).writeFiller 5).state.pendingGap = 6 := by
  intro filler calls file
  obtain ⟨-, -, literal, -, -, -, elsewhere, -⟩ := pending_predicts_reads filler (calls 0)
  obtain ⟨-, -, -, longer, -⟩ := pending_predicts_reads filler (calls 1)
  obtain ⟨-, -, -, -, shorter, -⟩ := pending_predicts_reads filler (calls 2)
  obtain ⟨-, -, -, -, -, nothing, atLast, -⟩ := pending_predicts_reads filler (calls 4)
  have one : (file 0).pendingLiteral = [2] := by decide
  have two : (file 2).pendingGap = 2 := by decide
  have delivered := (literal (by decide)).1.trans (by rw [one])
  have finished := (shorter (by decide) (by decide) (by decide)).1.trans (by rw [two])
  have ended := (nothing (by decide) (by decide)).1.mpr (Or.inr (by decide))
  have grown := (atLast 5 5 (by decide)).2.1 (by decide)
  have same := (elsewhere 5 5 (by decide)).2.2 (by decide)
  exact ⟨by decide, delivered, by decide, (longer (by decide) (by decide)).1, by decide, finished,
    by decide, by decide, ended, grown.trans (by decide), same.trans (by decide)⟩

end GappedFiles
