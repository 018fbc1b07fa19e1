/-
This file says once what writing and seeking can come to, and carries relations
between files, and properties of files, from single operations to whole runs.

All calls on a file are built from four operations: writing, starting a pass,
reading the next piece and seeking. A relation between files that the four respect
is therefore a simulation of files by files, and every call and every run of calls
respects it. A property that the four keep is such a relation between a file and
itself.
-/

import GappedFiles.Proofs.Layout
import GappedFiles.Proofs.Simulation

namespace GappedFiles

namespace File

/-! ### What a write comes to -/

/-- The ways in which a write can go, each with its condition. -/
inductive Written (file : File) : Segment → Outcome File FileError Nat → Prop
  | tooLong (segment : Segment) (exceeds : maxOffset < file.size.toNat + segment.length) :
      Written file segment
        (.refusal file .sizeOverflow (.writeTooLong segment.length file.size))
  | unheld (length : UInt64) (fits : file.size.toNat + length.toNat ≤ maxOffset)
      (empty : file.blocks = []) :
      Written file (.filler length)
        (.refusal file .fillerBeforeLiteral (.fillerUnheld length))
  | extended (earlier : List Block) (last : Block) (length : UInt64)
      (fits : file.size.toNat + length.toNat ≤ maxOffset)
      (split : file.blocks = earlier ++ [last]) :
      Written file (.filler length)
        (.success (file.extendLast last length) length.toNat
          [.gapExtended earlier.length (last.gap + length)])
  | ignored (fits : file.size.toNat ≤ maxOffset) :
      Written file (.literal []) (.success file 0 [])
  | appended (first : UInt8) (rest : List UInt8)
      (fits : file.size.toNat + (first :: rest).length ≤ maxOffset) :
      Written file (.literal (first :: rest))
        (.success (file.appendBlock (first :: rest)) (first :: rest).length
          [.blockAppended file.blockCount (first :: rest).length file.size])

/-- The number of the last block. -/
theorem lastIndex_eq {file : File} {earlier : List Block} {last : Block}
    (split : file.blocks = earlier ++ [last]) : file.blockCount - 1 = earlier.length := by
  rw [blockCount, split, List.length_append, List.length_singleton, Nat.add_sub_cancel]

theorem write_written (file : File) (segment : Segment) :
    file.Written segment (file.write segment) := by
  unfold write
  split
  · rename_i exceeds
    exact .tooLong segment exceeds
  · rename_i within
    have fits : file.size.toNat + segment.length ≤ maxOffset := Nat.le_of_not_lt within
    cases segment with
    | filler length =>
      cases tail : file.blocks.getLast? with
      | none => exact .unheld length fits (List.getLast?_eq_none_iff.mp tail)
      | some last =>
        obtain ⟨earlier, split⟩ := List.getLast?_eq_some_iff.mp tail
        have extended : file.Written (.filler length) _ :=
          .extended earlier last length fits split
        rw [← lastIndex_eq split] at extended
        exact extended
    | literal bytes =>
      cases bytes with
      | nil => exact .ignored fits
      | cons first rest => exact .appended first rest fits

/-- A write that is refused changes nothing. -/
theorem write_state_of_error {file : File} {segment : Segment} {error : FileError}
    (refused : (file.write segment).result = .error error) :
    (file.write segment).state = file := by
  have written := file.write_written segment
  generalize file.write segment = outcome at written refused ⊢
  cases written with
  | tooLong => rfl
  | unheld => rfl
  | extended => cases refused
  | ignored => rfl
  | appended => cases refused

/-! ### What a seek comes to -/

/-- The ways in which a seek can go, each with its condition on the target, which is the
integer sum of base and offset. -/
inductive Sought (file : File) (offset : Int64) (origin : Origin) :
    Outcome File FileError UInt64 → Prop
  | tooFar (exceeds : (maxOffset : Int) < (file.base origin).toNat + offset.toInt) :
      Sought file offset origin
        (.refusal file .seekOverflow (.seekTooFar offset (file.base origin)))
  | negative (target : Int) (sum : target = (file.base origin).toNat + offset.toInt)
      (before : target < 0) :
      Sought file offset origin
        (.refusal file (.negativeSeek (.ofInt target)) (.soughtNegative (.ofInt target)))
  | pastEnd (target : Nat) (sum : (target : Int) = (file.base origin).toNat + offset.toInt)
      (fits : target ≤ maxOffset) (behind : file.size.toNat < target) :
      Sought file offset origin
        (.refusal file (.seekPastEnd (.ofNat target) file.size)
          (.soughtPastEnd (.ofNat target) file.size))
  | moved (target : Nat) (sum : (target : Int) = (file.base origin).toNat + offset.toInt)
      (fits : target ≤ maxOffset) (inFile : target ≤ file.size.toNat) :
      Sought file offset origin
        (.success (file.moveTo (.ofNat target)) (.ofNat target)
          [.sought (.ofNat target) (file.moveTo (.ofNat target)).cursor.place])

theorem seek_sought (file : File) (offset : Int64) (origin : Origin) :
    file.Sought offset origin (file.seek offset origin) := by
  unfold seek
  dsimp only
  split
  · rename_i exceeds
    exact .tooFar exceeds
  · rename_i within
    split
    · rename_i before
      exact .negative _ rfl before
    · rename_i notBefore
      have sum : (((file.base origin).toNat + offset.toInt).toNat : Int) =
          (file.base origin).toNat + offset.toInt :=
        Int.toNat_of_nonneg (Int.not_lt.mp notBefore)
      have fits : ((file.base origin).toNat + offset.toInt).toNat ≤ maxOffset := by omega
      have same := toNat_ofNat_of_le fits
      split
      · rename_i behind
        have behind := UInt64.lt_iff_toNat_lt.mp behind
        exact .pastEnd _ sum fits (by omega)
      · rename_i notBehind
        have inFile : (UInt64.ofNat ((file.base origin).toNat + offset.toInt).toNat).toNat ≤
            file.size.toNat :=
          Nat.le_of_not_lt fun behind => notBehind (UInt64.lt_iff_toNat_lt.mpr behind)
        exact .moved _ sum fits (by omega)

/-- A seek to a target in the file succeeds. -/
theorem seek_of_le {file : File} {offset : Int64} {origin : Origin} {target : Nat}
    (limit : file.size.toNat ≤ maxOffset)
    (sum : (target : Int) = (file.base origin).toNat + offset.toInt)
    (inFile : target ≤ file.size.toNat) :
    file.seek offset origin =
      .success (file.moveTo (.ofNat target)) (.ofNat target)
        [.sought (.ofNat target) (file.moveTo (.ofNat target)).cursor.place] := by
  have sought := file.seek_sought offset origin
  generalize file.seek offset origin = outcome at sought ⊢
  cases sought with
  | tooFar exceeds => omega
  | negative other otherSum before => omega
  | pastEnd other otherSum fits behind => omega
  | moved other otherSum fits inFile =>
    have same : other = target := by omega
    rw [same]

end File

/-! ### Relations that every call respects -/

/-- A relation between files that the four operations on which all calls are built respect. -/
abbrev Congruence (Relation : File → File → Prop) : Prop :=
  Simulation File.operations File.operations Relation

namespace Congruence

variable {Relation : File → File → Prop} (congruence : Congruence Relation) {first second : File}

include congruence

theorem readSome (room : Nat) (related : Relation first second) :
    Outcome.Alike Relation (first.readSome room) (second.readSome room) :=
  Simulation.readSome congruence room related

theorem pull (room : Nat → Nat → Nat) (related : Relation first second) :
    Outcome.Alike Relation (first.pull room) (second.pull room) := by
  rw [← File.operations_pull, ← File.operations_pull]
  exact Simulation.pull congruence room related

/-- Every call comes to the same on related files and leaves them related. -/
theorem call (call : Call) (related : Relation first second) :
    Outcome.Alike Relation (call.run first) (call.run second) := by
  rw [← File.operations_call, ← File.operations_call]
  exact Simulation.call congruence call related

theorem runAll (calls : List Call) (related : Relation first second) :
    Relation (first.runAll calls) (second.runAll calls) := by
  rw [← File.operations_runAll, ← File.operations_runAll]
  exact Simulation.runAll congruence calls related

end Congruence

/-! ### Properties that every call keeps -/

/-- The property is kept by the four operations on which all calls are built. -/
structure Kept (Property : File → Prop) : Prop where
  write : ∀ (file : File) (segment : Segment), Property file → Property (file.write segment).state
  startPass : ∀ file : File, Property file → Property file.startPass.state
  read : ∀ file : File, Property file → Property file.read.state
  seek : ∀ (file : File) (offset : Int64) (origin : Origin),
    Property file → Property (file.seek offset origin).state

namespace Kept

variable {Property : File → Prop} (kept : Kept Property)

include kept

/-- To keep a property is to respect the relation between each file that has it and itself. -/
theorem congruence : Congruence fun first second => first = second ∧ Property second where
  filler := fun _ _ related => congrArg File.filler related.1
  size := fun _ _ related => congrArg File.size related.1
  position := fun _ _ related => congrArg File.position related.1
  write := by
    rintro _ file segment ⟨rfl, before⟩
    exact ⟨⟨rfl, kept.write _ segment before⟩, rfl, rfl⟩
  startPass := by
    rintro _ file ⟨rfl, before⟩
    exact ⟨⟨rfl, kept.startPass _ before⟩, rfl, rfl⟩
  read := by
    rintro _ file ⟨rfl, before⟩
    exact ⟨⟨rfl, kept.read _ before⟩, rfl, rfl⟩
  seek := by
    rintro _ file offset origin ⟨rfl, before⟩
    exact ⟨⟨rfl, kept.seek _ offset origin before⟩, rfl, rfl⟩

theorem readSome (file : File) (room : Nat) (before : Property file) :
    Property (file.readSome room).state :=
  (kept.congruence.readSome room ⟨rfl, before⟩).state.2

/-- A property that the four operations keep holds after every run of calls. -/
theorem runAll (calls : List Call) (file : File) (before : Property file) :
    Property (file.runAll calls) :=
  (kept.congruence.runAll calls ⟨rfl, before⟩).2

end Kept

end GappedFiles
