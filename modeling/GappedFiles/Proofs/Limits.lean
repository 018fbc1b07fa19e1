/-
This file says exactly when writing and moving the cursor are refused, and for which
reason, at whatever distance from the limits the sizes and offsets are.

Sizes and offsets are words, and every sum in this file is a sum of numbers. The two
agree because no size exceeds the largest offset, which as a word with a sign is the
same number: the length that a write would give the file and the target that a move
counts out can then both be judged before anything is changed. A refusal leaves the
whole file as it was, and with it the cursor.

The strict operations compute with the words themselves: the base of a seek is read with
a sign, and the sum is checked as one of numbers with a sign. They come to the same.
-/

import GappedFiles.Proofs.Canonical
import GappedFiles.Proofs.Exact

namespace GappedFiles

/-- Whether the segment is a run of filler, be it an empty one. -/
def Segment.isFiller : Segment → Bool
  | .filler _ => true
  | .literal _ => false

namespace File

variable {file : File}

/-! ### Writes and the largest size -/

/-- What a write comes to, told by the length that it would give the file and by what it writes. -/
structure WriteLimits (file : File) (segment : Segment)
    (outcome : Outcome File FileError Nat) : Prop where
  tooLong : maxOffset < file.size.toNat + segment.length ↔
    outcome.result = .error .sizeOverflow
  unheld : file.size.toNat + segment.length ≤ maxOffset ∧
      segment.isFiller = true ∧ file.blocks = [] ↔
    outcome.result = .error .fillerBeforeLiteral
  accepted : file.size.toNat + segment.length ≤ maxOffset ∧
      ¬ (segment.isFiller = true ∧ file.blocks = []) ↔
    outcome.result = .ok segment.length
  grown : ∀ written : Nat, outcome.result = .ok written →
    outcome.state.size.toNat = file.size.toNat + segment.length
  kept : ∀ error : FileError, outcome.result = .error error → outcome.state = file

/-- Of a write that is within the limits, and has a block to follow where it needs one, there is
nothing to say but that it succeeds and how long the file is then. -/
theorem WriteLimits.of_ok {segment : Segment} {outcome : Outcome File FileError Nat}
    (fits : file.size.toNat + segment.length ≤ maxOffset)
    (held : ¬ (segment.isFiller = true ∧ file.blocks = []))
    (succeeded : outcome.result = .ok segment.length)
    (size : outcome.state.size.toNat = file.size.toNat + segment.length) :
    file.WriteLimits segment outcome := by
  constructor
  · rw [succeeded]
    exact iff_of_false (Nat.not_lt_of_le fits) nofun
  · rw [succeeded]
    exact iff_of_false (fun unheld => held unheld.2) nofun
  · exact iff_of_true ⟨fits, held⟩ succeeded
  · exact fun _ _ => size
  · rw [succeeded]
    exact nofun

theorem write_limits (file : File) (segment : Segment) :
    file.WriteLimits segment (file.write segment) := by
  have written := file.write_written segment
  generalize file.write segment = outcome at written ⊢
  cases written with
  | tooLong segment exceeds =>
    have notWithin := Nat.not_le_of_lt exceeds
    exact ⟨iff_of_true exceeds rfl, iff_of_false (fun within => notWithin within.1) nofun,
      iff_of_false (fun within => notWithin within.1) nofun, nofun, fun _ _ => rfl⟩
  | unheld length fits empty =>
    exact ⟨iff_of_false (Nat.not_lt_of_le fits) nofun, iff_of_true ⟨fits, rfl, empty⟩ rfl,
      iff_of_false (fun within => within.2 ⟨rfl, empty⟩) nofun, nofun, fun _ _ => rfl⟩
  | extended earlier last length fits split =>
    refine .of_ok fits (fun unheld => ?_) rfl (toNat_add_of_le fits)
    rw [split] at unheld
    exact List.append_ne_nil_of_right_ne_nil _ (List.cons_ne_nil _ _) unheld.2
  | ignored fits => exact .of_ok fits (fun unheld => nomatch unheld.1) rfl rfl
  | appended first rest fits =>
    exact .of_ok fits (fun unheld => nomatch unheld.1) rfl (size_appendBlock fits)

/-- A write of a buffer is the write of its bytes, and its result is that of the write. -/
theorem writeBytes_eq_write (file : File) (bytes : List UInt8) :
    file.writeBytes bytes = file.write (.literal bytes) := by
  have written := file.write_written (.literal bytes)
  rw [writeBytes, writeLiteral]
  generalize file.write (.literal bytes) = outcome at written ⊢
  cases written with
  | tooLong => rfl
  | ignored => rfl
  | appended => rfl

/-! ### Moves and the largest offset -/

/-- What a move of the cursor comes to, told by the target as a number, where `Answers` says which
result it may return. -/
structure MoveLimits {Result : Type} (file : File) (target : Int) (Answers : Result → Prop)
    (outcome : Outcome File FileError Result) : Prop where
  tooFar : (maxOffset : Int) < target ↔ outcome.result = .error .seekOverflow
  negative : target < 0 ↔
    ∃ refused : Int64, refused.toInt = target ∧ outcome.result = .error (.negativeSeek refused)
  pastEnd : (file.size.toNat : Int) < target ∧ target ≤ maxOffset ↔
    ∃ refused : UInt64, (refused.toNat : Int) = target ∧
      outcome.result = .error (.seekPastEnd refused file.size)
  arrived : 0 ≤ target ∧ target ≤ file.size.toNat ↔ ∃ answer : Result, outcome.result = .ok answer
  answers : ∀ answer : Result, outcome.result = .ok answer →
    Answers answer ∧ (outcome.state.position.toNat : Int) = target
  kept : ∀ error : FileError, outcome.result = .error error → outcome.state = file

theorem seek_limits (wellFormed : file.WellFormed) (offset : Int64) (origin : Origin) :
    file.MoveLimits ((file.base origin).toNat + offset.toInt)
      (fun reached : UInt64 => (reached.toNat : Int) = (file.base origin).toNat + offset.toInt)
      (file.seek offset origin) := by
  have limit := wellFormed.size_le
  have sought := file.seek_sought offset origin
  generalize file.seek offset origin = outcome at sought ⊢
  cases sought with
  | tooFar exceeds =>
    exact ⟨iff_of_true exceeds rfl, iff_of_false (by omega) nofun, iff_of_false (by omega) nofun,
      iff_of_false (by omega) nofun, nofun, fun _ _ => rfl⟩
  | negative target sum before =>
    have faithful : (Int64.ofInt target).toInt = target := by
      rw [sum]
      exact toInt_ofInt_of_le (by omega)
    exact ⟨iff_of_false (by omega) nofun,
      iff_of_true (sum ▸ before) ⟨_, faithful.trans sum, rfl⟩, iff_of_false (by omega) nofun,
      iff_of_false (by omega) nofun, nofun, fun _ _ => rfl⟩
  | pastEnd target sum fits behind =>
    have faithful := toNat_ofNat_of_le fits
    exact ⟨iff_of_false (by omega) nofun, iff_of_false (by omega) nofun,
      iff_of_true (by omega) ⟨_, by rw [faithful, sum], rfl⟩, iff_of_false (by omega) nofun,
      nofun, fun _ _ => rfl⟩
  | moved target sum fits inFile =>
    have faithful : ((UInt64.ofNat target).toNat : Int) =
        (file.base origin).toNat + offset.toInt := by
      rw [toNat_ofNat_of_le fits, sum]
    refine ⟨iff_of_false (by omega) nofun, iff_of_false (by omega) nofun,
      iff_of_false (by omega) nofun, iff_of_true (by omega) ⟨_, rfl⟩, ?_, nofun⟩
    rintro _ ⟨⟩
    exact ⟨faithful, faithful⟩

/-- A move whose result is put in other terms has the same limits. -/
theorem MoveLimits.map {Result Converted : Type} {target : Int} {Answers : Result → Prop}
    {AnswersThen : Converted → Prop} {convert : Result → Converted}
    {outcome : Outcome File FileError Result} (limits : file.MoveLimits target Answers outcome)
    (carries : ∀ answer : Result, outcome.result = .ok answer → AnswersThen (convert answer)) :
    file.MoveLimits target AnswersThen (outcome.map convert) := by
  constructor
  · rw [Outcome.map_result_eq_error]
    exact limits.tooFar
  · simp only [Outcome.map_result_eq_error]
    exact limits.negative
  · simp only [Outcome.map_result_eq_error]
    exact limits.pastEnd
  · rw [limits.arrived]
    simp only [Outcome.map_result_eq_ok]
    exact ⟨fun ⟨answer, succeeded⟩ => ⟨_, answer, succeeded, rfl⟩,
      fun ⟨_, answer, succeeded, _⟩ => ⟨answer, succeeded⟩⟩
  · intro _ succeeded
    obtain ⟨answer, before, rfl⟩ := Outcome.map_result_eq_ok.mp succeeded
    exact ⟨carries answer before, (limits.answers answer before).2⟩
  · exact fun error refused => limits.kept error (Outcome.map_result_eq_error.mp refused)

theorem skip_limits (wellFormed : file.WellFormed) (amount : Int64) :
    file.MoveLimits (file.position.toNat + amount.toInt) (fun moved : Int64 => moved = amount)
      (file.skip amount) :=
  (seek_limits wellFormed amount .current).map fun _ => distance_of_seek wellFormed

/-- An offset without a sign is judged as the same number with a sign. -/
theorem seekTo_start_limits (wellFormed : file.WellFormed) (offset : UInt64) :
    (maxOffset < offset.toNat ↔ (file.seekTo (.start offset)).result = .error .seekOverflow) ∧
      (offset.toNat ≤ maxOffset → offset.toInt64.toInt = offset.toNat ∧
        file.seekTo (.start offset) = file.seek offset.toInt64 .start) := by
  by_cases exceeds : maxOffset < offset.toNat
  · rw [seekTo, if_pos exceeds]
    exact ⟨iff_of_true exceeds rfl, fun within => absurd exceeds (Nat.not_lt_of_le within)⟩
  · have same := toInt_toInt64_of_le (Nat.le_of_not_lt exceeds)
    have limits := (seek_limits wellFormed offset.toInt64 .start).tooFar
    rw [base, UInt64.toNat_zero, same] at limits
    rw [seekTo, if_neg exceeds, ← limits]
    exact ⟨by omega, fun _ => ⟨same, rfl⟩⟩

theorem seekTo_state_of_error {target : SeekTarget} {error : FileError}
    (refused : (file.seekTo target).result = .error error) : (file.seekTo target).state = file := by
  cases target with
  | start offset =>
    unfold seekTo at refused ⊢
    dsimp only at refused ⊢
    split
    · rfl
    · rename_i within
      rw [if_neg within] at refused
      exact seek_state_of_error refused
  | current offset => exact seek_state_of_error refused
  | finish offset => exact seek_state_of_error refused

end File

/-- In the files that calls lead to, the sum of the size and the length of a segment decides whether
it can be written, and the sum of base and offset decides whether the cursor can be moved: each
refusal is told exactly, as is each result, and a file that has refused is the file that it was. As
a byte stream the file takes a whole buffer where it takes the bytes, and it seeks as the file does
wherever the offset has a sign or could have one. The strict operations, which convert and add the
words themselves, do not fault and decide the same. -/
theorem limits_decide {file : File} (reachable : file.Reachable) :
    (∀ segment : Segment, file.WriteLimits segment (file.write segment)) ∧
      (∀ (offset : Int64) (origin : Origin) (target : Int),
        target = (file.base origin).toNat + offset.toInt →
          file.MoveLimits target (fun reached : UInt64 => (reached.toNat : Int) = target)
            (file.seek offset origin)) ∧
      (∀ amount : Int64,
        file.MoveLimits (file.position.toNat + amount.toInt) (fun moved : Int64 => moved = amount)
          (file.skip amount)) ∧
      (∀ offset : UInt64,
        (maxOffset < offset.toNat ↔
          (file.seekTo (.start offset)).result = .error .seekOverflow) ∧
        (offset.toNat ≤ maxOffset → offset.toInt64.toInt = offset.toNat ∧
          file.seekTo (.start offset) = file.seek offset.toInt64 .start)) ∧
      (∀ offset : Int64, file.seekTo (.current offset) = file.seek offset .current ∧
        file.seekTo (.finish offset) = file.seek offset .finish) ∧
      (∀ (target : File.SeekTarget) (error : FileError),
        (file.seekTo target).result = .error error → (file.seekTo target).state = file) ∧
      (∀ bytes : List UInt8, file.writeBytes bytes = file.write (.literal bytes)) ∧
      (∀ segment : Segment, segment.length < UInt64.size →
        Strict.write file segment = some (file.write segment)) ∧
      (∀ (offset : Int64) (origin : Origin),
        Strict.seek file offset origin = some (file.seek offset origin)) ∧
      (∀ amount : Int64, Strict.skip file amount = some (file.skip amount)) ∧
      ∀ target : File.SeekTarget, Strict.seekTo file target = some (file.seekTo target) := by
  have wellFormed := reachable.wellFormed
  refine ⟨file.write_limits, ?_, File.skip_limits wellFormed, File.seekTo_start_limits wellFormed,
    fun _ => ⟨rfl, rfl⟩, fun _ _ => File.seekTo_state_of_error, file.writeBytes_eq_write,
    fun _ => File.strict_write wellFormed, File.strict_seek wellFormed,
    File.strict_skip wellFormed, File.strict_seekTo wellFormed⟩
  rintro offset origin _ rfl
  exact File.seek_limits wellFormed offset origin

/-- At the largest size, where not a byte more can be written and a move by one is a move too far,
and in a file with nothing in it. -/
theorem limits_decide_at_extremes :
    let file := (File.empty .shared).runAll
      [.file (.write (.literal [1])), .file (.write (.filler 9223372036854775806)),
        .file (.seek 0 .finish)]
    let empty := File.empty .shared
    file.size.toNat = maxOffset ∧
      (file.write (.literal [2])).result = .error .sizeOverflow ∧
      (file.write (.literal [2])).state = file ∧
      (file.write (.filler 0)).result = .ok 0 ∧
      (file.seek 1 .finish).result = .error .seekOverflow ∧
      (file.seek (-9223372036854775807) .finish).result = .ok 0 ∧
      (file.seek (-9223372036854775808) .start).result =
        .error (.negativeSeek (-9223372036854775808)) ∧
      (file.seek (-9223372036854775808) .start).state = file ∧
      (file.skip (-9223372036854775808)).result = .error (.negativeSeek (-1)) ∧
      Strict.skip file (-9223372036854775808) = some (file.skip (-9223372036854775808)) ∧
      (file.seekTo (.start 9223372036854775808)).result = .error .seekOverflow ∧
      (empty.write (.filler 9223372036854775808)).result = .error .sizeOverflow ∧
      (empty.write (.filler 0)).result = .error .fillerBeforeLiteral ∧
      (empty.seek 1 .start).result = .error (.seekPastEnd 1 0) := by
  intro file empty
  obtain ⟨write, seek, skip, start, -, -, -, -, -, strictSkip, -⟩ :=
    limits_decide (show file.Reachable from ⟨.shared, _, rfl⟩)
  obtain ⟨writeEmpty, -⟩ := limits_decide (show empty.Reachable from ⟨.shared, [], rfl⟩)
  have tooLong := (write (.literal [2])).tooLong.mp (by decide)
  have nothing := (write (.filler 0)).accepted.mp (by decide)
  have tooFar := (seek 1 .finish _ rfl).tooFar.mp (by decide)
  have negative : (file.seek (-9223372036854775808) .start).result =
      .error (.negativeSeek (-9223372036854775808)) := by decide
  obtain ⟨target, sum, skipped⟩ := (skip (-9223372036854775808)).negative.mp (by decide)
  have before : target = -1 := Int64.toInt_inj.mp (sum.trans (by decide))
  exact ⟨by decide, tooLong, (write _).kept _ tooLong, nothing, tooFar, by decide, negative,
    (seek _ _ _ rfl).kept _ negative, before ▸ skipped, strictSkip _, (start _).1.mp (by decide),
    (writeEmpty _).tooLong.mp (by decide), (writeEmpty _).unheld.mp (by decide), by decide⟩

end GappedFiles
