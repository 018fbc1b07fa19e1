/-
This file proves that runs of filler coalesce. To write a run in pieces, of whatever
lengths and however many of them, comes to the same as to write it at once.

The blocks and the size do not ask for much: the pieces join the last gap, and sums of
words can be taken in any order. The cursor is what the proof is about. One piece may put
it from behind the last block into the gap, and the next piece then finds it there and
does something else with it. It is enough to look at two pieces. Where the cursor is after
both is where it would be after their sum, provided that the sum is not zero although one
of the pieces is not; and a piece of no length moves no cursor.
-/

import GappedFiles.Proofs.Reachable

namespace GappedFiles

/-! ### A run in pieces -/

/-- The calls that write runs of filler of these lengths. -/
def fillerWrites (lengths : List UInt64) : List Call :=
  lengths.map fun length => .file (.write (.filler length))

/-- How much filler that is in all. -/
def fillerTotal (lengths : List UInt64) : Nat :=
  lengths.foldr (fun length total => length.toNat + total) 0

theorem fillerTotal_cons (length : UInt64) (rest : List UInt64) :
    fillerTotal (length :: rest) = length.toNat + fillerTotal rest :=
  rfl

/-! ### The cursor when a gap grows -/

namespace Place

theorem extendGap_extendGap (block : Nat) (first second : UInt64) (place : Place) :
    (place.extendGap block first).extendGap block second =
      place.extendGap block (first + second) := by
  cases place with
  | payload index offset after =>
    by_cases here : index = block
    · rw [here, extendGap_payload_self, extendGap_payload_self, extendGap_payload_self,
        UInt64.add_assoc]
    · rw [extendGap_payload_other here, extendGap_payload_other here, extendGap_payload_other here]
  | gap index left =>
    by_cases here : index = block
    · rw [here, extendGap_gap_self, extendGap_gap_self, extendGap_gap_self, UInt64.add_assoc]
    · rw [extendGap_gap_other here, extendGap_gap_other here, extendGap_gap_other here]
  | unset | done => rfl

theorem extendGap_zero (block : Nat) (place : Place) : place.extendGap block 0 = place := by
  cases place with
  | payload index offset after =>
    rw [extendGap, UInt64.add_zero]
    exact ite_self _
  | gap index left =>
    rw [extendGap, UInt64.add_zero]
    exact ite_self _
  | unset | done => rfl

/-- The place after `length` bytes of filler have joined the gap of the last block, which has the
number `block`. Behind that block there is then something to deliver, if there is any filler. -/
def joinLast (block : Nat) (length : UInt64) (place : Place) : Place :=
  if place = .done ∧ length ≠ 0 then .gap block length else place.extendGap block length

theorem joinLast_zero (block : Nat) (place : Place) : place.joinLast block 0 = place := by
  rw [joinLast, if_neg fun filled => filled.2 rfl, extendGap_zero]

theorem joinLast_done (block : Nat) {length : UInt64} (filled : length ≠ 0) :
    Place.done.joinLast block length = .gap block length := by
  rw [joinLast, if_pos ⟨rfl, filled⟩]

theorem joinLast_of_ne_done {place : Place} (notDone : place ≠ .done) (block : Nat)
    (length : UInt64) : place.joinLast block length = place.extendGap block length := by
  rw [joinLast, if_neg fun atDone => notDone atDone.1]

theorem extendGap_ne_done {place : Place} (notDone : place ≠ .done) (block : Nat)
    (length : UInt64) : place.extendGap block length ≠ .done := by
  cases place with
  | payload | gap =>
    rw [extendGap]
    split <;> exact Place.noConfusion
  | unset => exact Place.noConfusion
  | done => exact absurd rfl notDone

/-- Filler that joins the last gap in two pieces leaves the cursor where it leaves it in one. -/
theorem joinLast_joinLast (block : Nat) {first second : UInt64}
    (fits : first.toNat + second.toNat ≤ maxOffset) (place : Place) :
    (place.joinLast block first).joinLast block second =
      place.joinLast block (first + second) := by
  by_cases atDone : place = .done
  · by_cases nothing : first = 0
    · rw [nothing, joinLast_zero, UInt64.zero_add]
    · -- The first piece brings the cursor into the gap, where the second one adds to it.
      have sum : (first + second).toNat = first.toNat + second.toNat := toNat_add_of_le fits
      have positive : 0 < first.toNat := toNat_pos_iff.mpr nothing
      have something : first + second ≠ 0 := toNat_pos_iff.mp (by omega)
      have inGap : Place.gap block first ≠ .done := Place.noConfusion
      rw [atDone, joinLast_done block nothing, joinLast_of_ne_done inGap, extendGap_gap_self,
        joinLast_done block something]
  · rw [joinLast_of_ne_done atDone, joinLast_of_ne_done atDone,
      joinLast_of_ne_done (extendGap_ne_done atDone block first), extendGap_extendGap]

end Place

/-! ### Files whose last gap grows -/

namespace File

variable {file : File} {earlier : List Block} {last : Block}

/-- What becomes of a file whose last gap takes in filler. -/
theorem WellFormed.extendLast_eq (wellFormed : file.WellFormed)
    (split : file.blocks = earlier ++ [last]) (length : UInt64) :
    file.extendLast last length =
      { filler := file.filler
        blocks := earlier ++ [last.extendGap length]
        size := file.size + length
        cursor :=
          { place := file.cursor.place.joinLast earlier.length length
            position := file.cursor.position } } := by
  have place : (file.extendLast last length).cursor.place =
      file.cursor.place.joinLast earlier.length length := by
    rcases wellFormed.place_extendLast split length with
      ⟨atDone, filled, place⟩ | ⟨atDone, nothing, place⟩ | ⟨notDone, place⟩
    · rw [place, atDone, Place.joinLast_done _ filled]
    · rw [place, nothing, Place.joinLast_zero, atDone]
    · rw [place, Place.joinLast_of_ne_done notDone]
  rw [← place, ← extendLast_blocks length split]
  rfl

theorem WellFormed.extendLast_zero (wellFormed : file.WellFormed)
    (split : file.blocks = earlier ++ [last]) : file.extendLast last 0 = file := by
  have gap : last.extendGap 0 = last := by rw [Block.extendGap, UInt64.add_zero]
  rw [wellFormed.extendLast_eq split, gap, ← split, UInt64.add_zero, Place.joinLast_zero]

/-- Filler that joins the last gap in two pieces leaves the file as it leaves it in one. -/
theorem WellFormed.extendLast_extendLast (wellFormed : file.WellFormed)
    (split : file.blocks = earlier ++ [last]) {first second : UInt64}
    (fits : file.size.toNat + (first.toNat + second.toNat) ≤ maxOffset) :
    (file.extendLast last first).extendLast (last.extendGap first) second =
      file.extendLast last (first + second) := by
  have formed : (file.extendLast last first).WellFormed := wellFormed.extendLast (by omega) split
  have gap : (last.extendGap first).extendGap second = last.extendGap (first + second) := by
    rw [Block.extendGap, Block.extendGap, Block.extendGap, UInt64.add_assoc]
  rw [formed.extendLast_eq (extendLast_blocks first split), wellFormed.extendLast_eq split,
    wellFormed.extendLast_eq split]
  dsimp only
  rw [gap, UInt64.add_assoc, Place.joinLast_joinLast _ (by omega)]

/-- Filler that the file has room for joins the last gap. -/
theorem write_filler_of_le {length : UInt64} (split : file.blocks = earlier ++ [last])
    (fits : file.size.toNat + length.toNat ≤ maxOffset) :
    (file.write (.filler length)).result = .ok length.toNat ∧
      (file.write (.filler length)).state = file.extendLast last length := by
  have written := file.write_written (.filler length)
  generalize file.write (.filler length) = outcome at written ⊢
  cases written with
  | tooLong segment exceeds => exact absurd fits (Nat.not_le_of_lt exceeds)
  | unheld _ _ empty =>
    rw [empty] at split
    exact absurd split.symm (List.append_ne_nil_of_right_ne_nil _ (List.cons_ne_nil _ _))
  | extended before final _ _ other =>
    obtain ⟨-, same⟩ := List.append_inj' (other.symm.trans split) rfl
    rw [List.singleton_inj.mp same]
    exact ⟨rfl, rfl⟩

theorem fits_of_write {segment : Segment} {count : Nat}
    (accepted : (file.write segment).result = .ok count) :
    file.size.toNat + segment.length ≤ maxOffset := by
  refine Nat.le_of_not_lt fun exceeds => ?_
  unfold write at accepted
  rw [if_pos exceeds] at accepted
  cases accepted

/-- Filler that is written in pieces is accepted piece by piece, and joins the last gap as it would
all at once. -/
theorem WellFormed.run_fillerWrites (wellFormed : file.WellFormed)
    (split : file.blocks = earlier ++ [last]) {lengths : List UInt64}
    (fits : file.size.toNat + fillerTotal lengths ≤ maxOffset) :
    (file.history (fillerWrites lengths)).map Outcome.result =
        lengths.map (fun length => .ok (.count length.toNat)) ∧
      file.runAll (fillerWrites lengths) =
        file.extendLast last (.ofNat (fillerTotal lengths)) := by
  induction lengths generalizing file last with
  | nil => exact ⟨rfl, (wellFormed.extendLast_zero split).symm⟩
  | cons length rest inductionHypothesis =>
    rw [fillerTotal_cons] at fits ⊢
    have restFits : (UInt64.ofNat (fillerTotal rest)).toNat = fillerTotal rest :=
      toNat_ofNat_of_le (by omega)
    have size : (file.extendLast last length).size.toNat = file.size.toNat + length.toNat :=
      toNat_add_of_le (by omega)
    have fitsFirst : file.size.toNat + length.toNat ≤ maxOffset := by omega
    obtain ⟨result, state⟩ := write_filler_of_le split fitsFirst
    obtain ⟨results, final⟩ := inductionHypothesis (wellFormed.extendLast fitsFirst split)
      (extendLast_blocks length split) (by omega)
    have run : (Call.run file (.file (.write (.filler length)))).result =
        .ok (.count length.toNat) := by
      show ((file.write (.filler length)).result.map Answer.count).mapError CallError.file = _
      rw [result]
      rfl
    have after : (Call.run file (.file (.write (.filler length)))).state =
        file.extendLast last length := state
    constructor
    · show (Call.run file _).result :: ((Call.run file _).state.history (fillerWrites rest)).map _ =
        _
      rw [run, after, results]
      rfl
    · show (Call.run file _).state.runAll (fillerWrites rest) = _
      rw [after, final, wellFormed.extendLast_extendLast split (by omega), UInt64.ofNat_add,
        UInt64.ofNat_toNat]

/-- What the calls show that come after some filler. -/
theorem drop_history_fillerWrites (file : File) (lengths : List UInt64) (later : List Call) :
    (file.history (fillerWrites lengths ++ later)).drop lengths.length =
      (file.runAll (fillerWrites lengths)).history later := by
  have count : (file.history (fillerWrites lengths)).length = lengths.length := by
    rw [length_history, fillerWrites, List.length_map]
  rw [history_append, List.drop_left' count]

end File

/-- Runs of filler coalesce. Where a file with a block accepts a run at once, it accepts the run in
pieces of any lengths, each of which returns its own length, and is left the same file, the whole
cursor included, wherever the cursor was. However the run is cut, no later call can tell. -/
theorem filler_coalesces {file : File} (reachable : file.Reachable) (held : file.blocks ≠ [])
    {total : UInt64} {count : Nat} (accepted : (file.writeFiller total).result = .ok count) :
    (∀ lengths : List UInt64, fillerTotal lengths = total.toNat →
        (file.history (fillerWrites lengths)).map Outcome.result =
            lengths.map (fun length => .ok (.count length.toNat)) ∧
          file.runAll (fillerWrites lengths) = (file.writeFiller total).state) ∧
      ∀ first second : List UInt64, fillerTotal first = total.toNat →
        fillerTotal second = total.toNat → ∀ later : List Call,
          (file.history (fillerWrites first ++ later)).drop first.length =
            (file.history (fillerWrites second ++ later)).drop second.length := by
  have wellFormed := reachable.wellFormed
  obtain ⟨earlier, last, split⟩ : ∃ (earlier : List Block) (last : Block),
      file.blocks = earlier ++ [last] :=
    ⟨_, _, (List.dropLast_concat_getLast held).symm⟩
  have fits : file.size.toNat + total.toNat ≤ maxOffset :=
    File.fits_of_write accepted
  have atOnce : (file.writeFiller total).state = file.extendLast last total :=
    (File.write_filler_of_le split fits).2
  have pieces : ∀ lengths : List UInt64, fillerTotal lengths = total.toNat →
      (file.history (fillerWrites lengths)).map Outcome.result =
          lengths.map (fun length => .ok (.count length.toNat)) ∧
        file.runAll (fillerWrites lengths) = (file.writeFiller total).state := by
    intro lengths sum
    have fitsAll : file.size.toNat + fillerTotal lengths ≤ maxOffset := sum ▸ fits
    obtain ⟨results, state⟩ := wellFormed.run_fillerWrites split fitsAll
    rw [sum, UInt64.ofNat_toNat] at state
    exact ⟨results, state.trans atOnce.symm⟩
  refine ⟨pieces, fun first second firstSum secondSum later => ?_⟩
  rw [File.drop_history_fillerWrites, File.drop_history_fillerWrites, (pieces first firstSum).2,
    (pieces second secondSum).2]

/-- A run of five bytes behind a pass that has ended, written in four pieces of which two have no
length: the first of them leaves the cursor at the end, the second brings it into the gap. -/
theorem filler_coalesces_at_end :
    let file := (File.empty .shared).runAll
      [.file (.write (.literal [1])), .file .startPass, .file .read, .file .read]
    let written := (file.writeFiller 5).state
    file.cursor.place = .done ∧ (file.writeFiller 5).result = .ok 5 ∧
      (file.history (fillerWrites [0, 3, 0, 2])).map Outcome.result =
        [.ok (.count 0), .ok (.count 3), .ok (.count 0), .ok (.count 2)] ∧
      file.runAll (fillerWrites [0, 3, 0, 2]) = written ∧
      written.cursor = { place := .gap 0 5, position := 1 } ∧
      ∀ later : List Call,
        (file.history (fillerWrites [0, 3, 0, 2] ++ later)).drop 4 =
          (file.history (fillerWrites [4, 1] ++ later)).drop 2 := by
  intro file written
  have accepted : (file.writeFiller 5).result = .ok 5 := by decide
  obtain ⟨pieces, unseen⟩ :=
    filler_coalesces (show file.Reachable from ⟨.shared, _, rfl⟩) (by decide) accepted
  obtain ⟨results, state⟩ := pieces [0, 3, 0, 2] rfl
  exact ⟨by decide, accepted, results, state, by decide, unseen [0, 3, 0, 2] [4, 1] rfl rfl⟩

end GappedFiles
