/-
This file says exactly where a seek puts the cursor.

A seek that succeeds forgets everything about the cursor it found. The cursor it
leaves is told by the blocks and by the target: it is in the one block that covers
the target, in the payload if the payload goes so far and otherwise in the gap, and
it is behind the last block if the target is the end. So whatever moves the cursor
to an offset does the same as a seek to that offset from the start: a seek that
counts from elsewhere, a skip, the start of a pass, and any number of moves of
which the last leads there.
-/

import GappedFiles.Proofs.FlatFile
import GappedFiles.Proofs.Movement

namespace GappedFiles

/-! ### Offsets of blocks -/

theorem startOf_le (blocks : List Block) {first second : Nat} (inOrder : first ≤ second) :
    startOf blocks first ≤ startOf blocks second := by
  obtain ⟨between, rfl⟩ := Nat.exists_eq_add_of_le inOrder
  rw [startOf, startOf, List.take_add, totalLength_append]
  exact Nat.le_add_right _ _

/-- An offset is covered by one block at most. -/
theorem covering_unique {blocks : List Block} {offset first second : Nat}
    (firstBegun : startOf blocks first ≤ offset) (firstEnds : offset < startOf blocks (first + 1))
    (secondBegun : startOf blocks second ≤ offset)
    (secondEnds : offset < startOf blocks (second + 1)) : first = second := by
  rcases Nat.lt_trichotomy first second with before | same | behind
  · have passed : startOf blocks (first + 1) ≤ startOf blocks second := startOf_le blocks before
    omega
  · exact same
  · have passed : startOf blocks (second + 1) ≤ startOf blocks first := startOf_le blocks behind
    omega

/-- The place is in the block with the given number, the one that covers the offset: in its payload
as far as that goes, and in its gap behind it. -/
structure Place.Covering (blocks : List Block) (offset index : Nat) (block : Block)
    (place : Place) : Prop where
  found : blocks[index]? = some block
  begun : startOf blocks index ≤ offset
  ends : offset < startOf blocks (index + 1)
  only : ∀ other : Nat, startOf blocks other ≤ offset → offset < startOf blocks (other + 1) →
    other = index
  number : place.block? = some index
  payload : offset - startOf blocks index < block.payload.length →
    place.offset? = some (offset - startOf blocks index) ∧ place.pendingGap = block.gap
  gap : block.payload.length ≤ offset - startOf blocks index →
    place.offset? = none ∧ place.pendingGap.toNat = startOf blocks (index + 1) - offset

/-- The settled place of an offset before the end is in the block that covers it. -/
theorem Place.Holds.covering {blocks : List Block} {offset : Nat} {place : Place}
    (holds : place.Holds blocks offset) (opened : place.Opened) (settled : place.Settled)
    (inFile : offset < totalLength blocks) :
    ∃ (index : Nat) (block : Block), place.Covering blocks offset index block := by
  cases holds with
  | unset => exact absurd rfl opened
  | done atEnd => omega
  | payload before after block start split inside sum =>
    have begins : startOf blocks before.length = totalLength before := by
      rw [split, startOf_append]
    have ends : startOf blocks (before.length + 1) = totalLength before + block.length := by
      rw [split, startOf_succ_append]
    have gap := gap_le_length block
    have within : offset < startOf blocks (before.length + 1) := by
      rw [ends, Block.length]
      omega
    refine ⟨before.length, block, getElem?_split split, by omega, within, ?_, rfl, ?_, ?_⟩
    · exact fun other begun ended => covering_unique begun ended (by omega) within
    · intro inPayload
      exact ⟨congrArg some (by omega), rfl⟩
    · intro behind
      omega
  | gap before after block left split bounded sum =>
    have begins : startOf blocks before.length = totalLength before := by
      rw [split, startOf_append]
    have ends : startOf blocks (before.length + 1) = totalLength before + block.length := by
      rw [split, startOf_succ_append]
    have positive : 0 < left.toNat := toNat_pos_iff.mpr settled
    have length : block.length = block.payload.length + block.gap.toNat := rfl
    have within : offset < startOf blocks (before.length + 1) := by omega
    refine ⟨before.length, block, getElem?_split split, by omega, within, ?_, rfl, ?_, ?_⟩
    · exact fun other begun ended => covering_unique begun ended (by omega) within
    · intro inPayload
      omega
    · intro behind
      refine ⟨rfl, ?_⟩
      show left.toNat = _
      omega

namespace File

/-! ### The cursor at an offset -/

/-- The cursor is at an offset, at the place that the blocks assign to it. -/
structure StandsAt (file : File) (offset : Nat) : Prop where
  opened : file.Opened
  position : file.position.toNat = offset
  inside : offset < file.size.toNat → ∃ (index : Nat) (block : Block),
    file.cursor.place.Covering file.blocks offset index block
  atEnd : offset = file.size.toNat → file.cursor.place.block? = none ∧
    file.cursor.place.offset? = none ∧ file.pendingGap = 0

variable {file after first second : File}

/-- A cursor at a settled place is at the place that the blocks assign to its position. -/
theorem standsAt_position (wellFormed : file.WellFormed) (opened : file.Opened)
    (settled : file.cursor.place.Settled) : file.StandsAt file.position.toNat := by
  have holds : file.cursor.place.Holds file.blocks file.position.toNat := wellFormed.holds
  refine ⟨opened, rfl, fun inFile => ?_, fun ended => ?_⟩
  · exact holds.covering opened settled (wellFormed.size_eq ▸ inFile)
  · -- Behind every byte there is no settled place but the end.
    rw [wellFormed.size_eq] at ended
    have done : Place.done.Holds file.blocks file.position.toNat := .done ended
    have same : file.cursor.place = .done :=
      (place_eq_locate wellFormed holds opened settled).trans
        (place_eq_locate wellFormed done Place.noConfusion trivial).symm
    rw [pendingGap, same]
    exact ⟨rfl, rfl, rfl⟩

theorem standsAt_moveTo (wellFormed : file.WellFormed) {target : UInt64}
    (inFile : target.toNat ≤ file.size.toNat) : (file.moveTo target).StandsAt target.toNat := by
  have moved := wellFormed.moveTo inFile
  have located := Place.holds_locate wellFormed.total_le (wellFormed.size_eq ▸ inFile)
  rw [UInt64.ofNat_toNat] at moved located
  exact standsAt_position moved located.2.1 located.2.2

/-! ### Moves and seeks -/

/-- A seek that succeeds moves the cursor to the target that it returns, which is in the file. -/
theorem seek_of_ok {offset : Int64} {origin : Origin} {target : UInt64}
    (succeeded : (file.seek offset origin).result = .ok target) :
    target.toNat ≤ file.size.toNat ∧
      (target.toNat : Int) = (file.base origin).toNat + offset.toInt ∧
      (file.seek offset origin).state = file.moveTo target := by
  have sought := file.seek_sought offset origin
  generalize file.seek offset origin = outcome at sought succeeded ⊢
  cases sought with
  | tooFar => cases succeeded
  | negative => cases succeeded
  | pastEnd => cases succeeded
  | moved reached sum fits inFile =>
    have same : UInt64.ofNat reached = target := Except.ok.inj succeeded
    have reachedTarget : reached = target.toNat := by
      rw [← same, toNat_ofNat_of_le fits]
    rw [← same, toNat_ofNat_of_le fits]
    exact ⟨inFile, sum, rfl⟩

/-- A seek from the start to an offset in the file moves the cursor there. -/
theorem seek_start (wellFormed : file.WellFormed) {target : UInt64}
    (inFile : target.toNat ≤ file.size.toNat) :
    file.seek target.toInt64 .start =
      .success (file.moveTo target) target
        [.sought target (file.moveTo target).cursor.place] := by
  have sum : (target.toNat : Int) = (file.base .start).toNat + target.toInt64.toInt := by
    rw [toInt_toInt64_of_le (Nat.le_trans inFile wellFormed.size_le), base, UInt64.toNat_zero]
    omega
  have sought := seek_of_le wellFormed.size_le sum inFile
  rw [UInt64.ofNat_toNat] at sought
  exact sought

/-- Starting a pass puts the cursor where a seek to the start puts it. -/
theorem startPass_state (wellFormed : file.WellFormed) : file.startPass.state = file.moveTo 0 :=
  (moveTo_position wellFormed.startPass (Place.opened_enter _ _) (Place.settled_enter _ _)).symm

/-- An offset that a seek can be given is what it says. -/
theorem toInt_ofInt_of_le {base : UInt64} {offset : Int64}
    (fits : (base.toNat : Int) + offset.toInt ≤ maxOffset) :
    (Int64.ofInt (base.toNat + offset.toInt)).toInt = base.toNat + offset.toInt := by
  have least := offset.le_toInt
  rw [maxOffset] at fits
  exact Int64.toInt_ofInt_of_le (by omega) (by omega)

/-- A seek depends on its origin only through its target. -/
theorem seek_eq_start {offset : Int64} {origin : Origin}
    (fits : ((file.base origin).toNat : Int) + offset.toInt ≤ maxOffset) :
    file.seek offset origin =
      file.seek (.ofInt ((file.base origin).toNat + offset.toInt)) .start := by
  have target : ((file.base .start).toNat : Int) +
      (Int64.ofInt ((file.base origin).toNat + offset.toInt)).toInt =
        (file.base origin).toNat + offset.toInt := by
    rw [toInt_ofInt_of_le fits, base, UInt64.toNat_zero]
    omega
  unfold seek
  dsimp only
  rw [target, if_neg (Int.not_lt.mpr fits), if_neg (Int.not_lt.mpr fits)]

/-- The words of the two positions differ by exactly as much as was asked for. -/
theorem distance_of_seek (wellFormed : file.WellFormed) {amount : Int64} {target : UInt64}
    (succeeded : (file.seek amount .current).result = .ok target) :
    target.toInt64 - file.position.toInt64 = amount := by
  have before := Nat.le_trans wellFormed.position_le wellFormed.size_le
  obtain ⟨inFile, sum, -⟩ := seek_of_ok succeeded
  have moved : target.toInt64.toInt - file.position.toInt64.toInt = amount.toInt := by
    rw [toInt_toInt64_of_le (Nat.le_trans inFile wellFormed.size_le),
      toInt_toInt64_of_le before, sum, base]
    omega
  refine Int64.toInt_inj.mp ?_
  rw [Int64.toInt_sub, moved]
  exact Int64.toInt_bmod amount

/-- A skip is the seek to as far behind the cursor, and returns how far that is. -/
theorem skip_eq_start (wellFormed : file.WellFormed) {amount : Int64}
    (fits : (file.position.toNat : Int) + amount.toInt ≤ maxOffset) :
    file.skip amount =
      (file.seek (.ofInt (file.position.toNat + amount.toInt)) .start).map fun _ => amount := by
  have same : file.seek amount .current =
      file.seek (.ofInt (file.position.toNat + amount.toInt)) .start :=
    seek_eq_start fits
  rw [← same, skip]
  exact Outcome.map_congr fun target => distance_of_seek wellFormed

theorem Moved.moveTo (moved : first.Moved second) (target : UInt64) :
    second.moveTo target = first.moveTo target := by
  rw [Moved] at moved
  rw [moved]
  rfl

/-- Calls that append nothing move at most the cursor. -/
theorem moved_runAll (file : File) {calls : List Call}
    (appendNothing : ∀ call ∈ calls, call.segment? = none) : file.Moved (file.runAll calls) := by
  induction calls generalizing file with
  | nil => exact .refl file
  | cons call rest inductionHypothesis =>
    have first := file.moved_run (appendNothing call List.mem_cons_self)
    exact first.trans (inductionHypothesis _ fun other member =>
      appendNothing other (List.mem_cons_of_mem call member))

/-- A call that puts the cursor somewhere and succeeds has moved it to an offset in the file. -/
theorem run_moves (wellFormed : file.WellFormed) {call : FileCall} {answer : Answer}
    (moves : call.moves = true) (succeeded : (call.run file).result = .ok answer) :
    ∃ target : UInt64, target.toNat ≤ file.size.toNat ∧
      (call.run file).state = file.moveTo target := by
  cases call with
  | startPass => exact ⟨0, Nat.zero_le _, startPass_state wellFormed⟩
  | seek offset origin =>
    obtain ⟨target, reached, -⟩ := Outcome.map_result_eq_ok.mp succeeded
    obtain ⟨inFile, -, state⟩ := seek_of_ok reached
    exact ⟨target, inFile, state⟩
  | skip amount =>
    obtain ⟨distance, skipped, -⟩ := Outcome.map_result_eq_ok.mp succeeded
    obtain ⟨target, reached, -⟩ := Outcome.map_result_eq_ok.mp skipped
    obtain ⟨inFile, -, state⟩ := seek_of_ok reached
    exact ⟨target, inFile, state⟩
  | write | writeLiteral | writeFiller | read | drain | filler => cases moves

end File

/-- A seek that succeeds leaves the cursor that the blocks assign to its target, and changes
nothing else: two files with the same blocks have the same cursor after it, whatever they had
before. A skip is the seek from the start to as far behind the cursor, and returns how far that is;
a seek that counts from the end is likewise a seek from the start. After any calls that append
nothing, a seek, a skip or the start of a pass leaves what a seek from the start to the new position
leaves of the file before all of them. Starting a pass is seeking the start. -/
theorem seek_canonical {file : File} (reachable : file.Reachable) :
    (∀ (offset : Int64) (origin : Origin) (target : UInt64),
      (file.seek offset origin).result = .ok target →
        let sought := (file.seek offset origin).state
        sought = { file with cursor := sought.cursor } ∧ sought.StandsAt target.toNat ∧
          (target.toNat : Int) = (file.base origin).toNat + offset.toInt ∧
          ∀ (other : File) (otherOffset : Int64) (otherOrigin : Origin),
            other.blocks = file.blocks →
              (other.seek otherOffset otherOrigin).result = .ok target →
                (other.seek otherOffset otherOrigin).state.cursor = sought.cursor) ∧
      (∀ amount : Int64, (file.position.toNat : Int) + amount.toInt ≤ maxOffset →
        file.skip amount =
          (file.seek (.ofInt (file.position.toNat + amount.toInt)) .start).map fun _ => amount) ∧
      (∀ offset : Int64, (file.size.toNat : Int) + offset.toInt ≤ maxOffset →
        file.seek offset .finish =
          file.seek (.ofInt (file.size.toNat + offset.toInt)) .start) ∧
      (∀ (calls : List Call) (last : FileCall) (answer : Answer),
        (∀ call ∈ calls, call.segment? = none) → last.moves = true →
          (last.run (file.runAll calls)).result = .ok answer →
            let final := (last.run (file.runAll calls)).state
            (file.seek final.position.toInt64 .start).result = .ok final.position ∧
              (file.seek final.position.toInt64 .start).state = final) ∧
      (file.seek 0 .start).result = .ok 0 ∧
      (file.seek 0 .start).state = file.startPass.state := by
  have wellFormed := reachable.wellFormed
  have zero : (0 : UInt64).toNat ≤ file.size.toNat := Nat.zero_le _
  have seekZero : file.seek 0 .start = .success (file.moveTo 0) 0 _ :=
    File.seek_start wellFormed zero
  refine ⟨fun offset origin target succeeded => ?_, fun amount => File.skip_eq_start wellFormed,
    fun offset fits => File.seek_eq_start fits, fun calls last answer appendNothing moves succeeded => ?_,
    ?_⟩
  · obtain ⟨inFile, sum, state⟩ := File.seek_of_ok succeeded
    refine ⟨file.seek_state offset origin, ?_, sum, ?_⟩
    · rw [state]
      exact File.standsAt_moveTo wellFormed inFile
    · intro other otherOffset otherOrigin sameBlocks reached
      rw [state, (File.seek_of_ok reached).2.2, File.moveTo, File.moveTo, sameBlocks]
  · have moved := file.moved_runAll appendNothing
    have later := reachable.runAll calls
    obtain ⟨target, inFile, state⟩ := File.run_moves later.wellFormed moves succeeded
    have size : (file.runAll calls).size = file.size := by
      rw [File.Moved] at moved
      rw [moved]
    rw [size] at inFile
    rw [state, moved.moveTo]
    show (file.seek target.toInt64 .start).result = .ok target ∧
      (file.seek target.toInt64 .start).state = file.moveTo target
    rw [File.seek_start wellFormed inFile]
    exact ⟨rfl, rfl⟩
  · rw [seekZero, File.startPass_state wellFormed]
    exact ⟨rfl, rfl⟩

/-- Moves in a file of three blocks that nobody has opened: to the start of the last block, to the
last byte of the first gap, and to the end. -/
theorem seek_canonical_three_blocks :
    let file := (File.empty .shared).runAll
      [.file (.write (.literal [1, 2])), .file (.write (.filler 6)),
        .file (.write (.literal [3, 4, 5])), .file (.write (.literal [6])),
        .file (.write (.filler 9))]
    let moves : List Call := [.file (.seek 3 .start), .file .read, .file (.skip 40)]
    ¬ file.Opened ∧ (file.seek (-10) .finish).result = .ok 11 ∧
      (file.seek (-10) .finish).state.StandsAt 11 ∧
      (file.seek (-10) .finish).state.cursor = { place := .payload 2 0 9, position := 11 } ∧
      file.skip 7 = (file.seek 7 .start).map (fun _ => 7) ∧
      (file.seek 7 .start).state.cursor = { place := .gap 0 1, position := 7 } ∧
      (((FileCall.skip 13).run (file.runAll moves)).state =
        (file.seek 21 .start).state) ∧
      (file.seek 21 .start).state.cursor = { place := .done, position := 21 } ∧
      (file.seek 0 .start).state = file.startPass.state := by
  intro file moves
  obtain ⟨sought, skipped, -, last, -, opened⟩ :=
    seek_canonical (show file.Reachable from ⟨.shared, _, rfl⟩)
  have back : (file.seek (-10) .finish).state.StandsAt (11 : UInt64).toNat :=
    (sought (-10) .finish 11 (by decide)).2.1
  have seven : Int64.ofInt (file.position.toNat + (7 : Int64).toInt) = 7 := by decide
  have skip := skipped 7 (by decide)
  rw [seven] at skip
  have final := (last moves (.skip 13) (.distance 13) (by decide) rfl (by decide)).2
  have twentyOne : ((FileCall.skip 13).run (file.runAll moves)).state.position.toInt64 = 21 := by
    decide
  rw [twentyOne] at final
  exact ⟨by decide, by decide, back, by decide, skip, by decide, final.symm, by decide, opened⟩

end GappedFiles
