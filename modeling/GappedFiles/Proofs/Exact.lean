/-
This file proves that the strict arithmetic never faults on a file that calls lead
to, and that it comes to what the words come to.

Every number that occurs is an offset in the file, a part of one, or the number of
a block, of which there are at most as many as there are bytes. All of them are
bounded by the size, and a write is measured against the largest offset before it
adds anything. So each operation needs only the invariant and that bound.
-/

import GappedFiles.Proofs.Buffering
import GappedFiles.Proofs.Strict

namespace GappedFiles

/-! ### Arithmetic within the limits -/

namespace Strict

theorem lt_size_of_le {number : Nat} (fits : number ≤ maxOffset) : number < UInt64.size :=
  Nat.lt_of_le_of_lt fits (by decide)

theorem add_of_le {first second : UInt64} (fits : first.toNat + second.toNat ≤ maxOffset) :
    add first second = some (first + second) := by
  rw [add, if_pos (lt_size_of_le fits)]

theorem sub_of_le {first second : UInt64} (fits : second.toNat ≤ first.toNat) :
    sub first second = some (first - second) := by
  rw [sub, if_pos fits]

theorem toWord_of_le {number : Nat} (fits : number ≤ maxOffset) :
    toWord number = some (.ofNat number) := by
  rw [toWord, if_pos (lt_size_of_le fits)]

theorem toSigned_of_le {word : UInt64} (fits : word.toNat ≤ maxOffset) :
    toSigned word = some word.toInt64 := by
  rw [toSigned, if_pos fits]

theorem ofInteger_of_le {number : Nat} (fits : number ≤ maxOffset) :
    ofInteger number = some (.ofNat number) := by
  rw [ofInteger, if_pos (Int.natCast_nonneg number), Int.toNat_natCast, toWord_of_le fits]

/-- The difference of two offsets fits, whichever is larger. -/
theorem subSigned_of_le {first second : UInt64} (firstFits : first.toNat ≤ maxOffset)
    (secondFits : second.toNat ≤ maxOffset) :
    subSigned first.toInt64 second.toInt64 = some (first.toInt64 - second.toInt64) := by
  rw [subSigned, if_pos]
  rw [toInt_toInt64_of_le firstFits, toInt_toInt64_of_le secondFits]
  omega

theorem next_of_lt {index : Nat} (fits : index < maxOffset) : next index = some (index + 1) := by
  rw [next, toWord_of_le fits, Option.map_some, toNat_ofNat_of_le fits]

/-- What is left of some bytes from an offset on, found from their length. -/
theorem sub_length_of_le {bytes : List UInt8} {start : Nat} (inside : start ≤ bytes.length)
    (fits : bytes.length ≤ maxOffset) :
    sub (.ofNat bytes.length) (.ofNat start) = some (.ofNat (bytes.drop start).length) := by
  have whole := toNat_ofNat_of_le fits
  have skipped := toNat_ofNat_of_le (Nat.le_trans inside fits)
  have part : (UInt64.ofNat start).toNat ≤ (UInt64.ofNat bytes.length).toNat := by
    rw [whole, skipped]
    exact inside
  rw [sub_of_le part]
  refine congrArg some (UInt64.toNat_inj.mp ?_)
  rw [UInt64.toNat_sub_of_le _ _ (UInt64.le_iff_toNat_le.mpr part), whole, skipped,
    toNat_length_drop start fits]

/-- The number of the last block, found from how many blocks there are. -/
theorem sub_one_of_le {count : Nat} (fits : count + 1 ≤ maxOffset) :
    ∃ index : UInt64, sub (.ofNat (count + 1)) 1 = some index ∧ index.toNat = count := by
  have word := toNat_ofNat_of_le fits
  have positive : (1 : UInt64).toNat ≤ (UInt64.ofNat (count + 1)).toNat := by
    rw [word]
    exact Nat.le_add_left _ _
  refine ⟨_, sub_of_le positive, ?_⟩
  rw [UInt64.toNat_sub_of_le _ _ (UInt64.le_iff_toNat_le.mpr positive), word]
  rfl

theorem slice_of_le {bytes : List UInt8} {start : Nat} (inside : start ≤ bytes.length) :
    slice bytes start = some (bytes.drop start) := by
  rw [slice, if_pos inside]

theorem view_of_le {filler : Filler} {length : UInt64} (inside : length ≤ filler.size) :
    view filler length = some (.filler length) := by
  rw [view, if_pos inside]

theorem andThen_of_forall {State Failure First Final : Type}
    {first : Outcome State Failure First}
    {strict : State → First → Option (Outcome State Failure Final)}
    {next : State → First → Outcome State Failure Final}
    (agrees : ∀ result : First, first.result = .ok result →
      strict first.state result = some (next first.state result)) :
    andThen first strict = some (first.andThen next) := by
  cases succeeded : first.result with
  | ok result =>
    rw [Outcome.andThen_of_ok succeeded, andThen, succeeded]
    dsimp only
    rw [agrees result succeeded]
    rfl
  | error failure => rw [Outcome.andThen_of_error succeeded, andThen, succeeded]

end Strict

/-- Changing the result alone is a second operation that does nothing. -/
theorem Outcome.andThen_success {State Failure Result Converted : Type}
    (first : Outcome State Failure Result) (convert : Result → Converted) :
    (first.andThen fun state result => .success state (convert result) []) = first.map convert := by
  cases succeeded : first.result with
  | ok result =>
    rw [andThen_of_ok succeeded, map, succeeded]
    show Outcome.mk first.state _ (first.events ++ []) = _
    rw [List.append_nil]
    rfl
  | error failure =>
    rw [andThen_of_error succeeded, map, succeeded]
    rfl

namespace File

variable {file : File}

theorem WellFormed.blockCount_le (wellFormed : file.WellFormed) :
    file.blocks.length ≤ maxOffset :=
  Nat.le_trans (length_le_totalLength wellFormed.filled) wellFormed.total_le

/-! ### Reading -/

theorem strict_enter {blocks : List Block} (filled : ∀ block ∈ blocks, block.payload ≠ []) :
    Strict.enter blocks = Place.enter blocks := by
  funext index
  rw [Strict.enter, Place.enter]
  cases found : blocks[index]? with
  | none => rfl
  | some block =>
    dsimp only
    rw [if_neg (filled block (List.mem_of_getElem? found))]

theorem strict_settle_of_settled {place : Place} (settled : place.Settled) (blocks : List Block)
    (rounds : Nat) : Strict.settle blocks (rounds + 1) place = some place := by
  cases place with
  | gap index left => rw [Strict.settle, if_pos (UInt64.pos_iff_ne_zero.mpr settled)]
  | unset => rfl
  | done => rfl
  | payload => rfl

/-- The walk off exhausted blocks stops at the next block, if it has to move at all. -/
theorem strict_settle (wellFormed : file.WellFormed) :
    Strict.settle file.blocks (file.blockCount + 1) file.cursor.place =
      some file.leaveGap.cursor.place := by
  rcases file.leaveGap_cases with ⟨settled, left⟩ | ⟨index, atGap, left⟩
  · rw [strict_settle_of_settled settled, left]
  · have holds := wellFormed.holds
    have count := wellFormed.blockCount_le
    rw [atGap] at holds
    rw [left, atGap]
    cases holds with
    | gap before after block left split bounded sum =>
      have rounds : file.blockCount = before.length + after.length + 1 := by
        rw [blockCount, split, List.length_append, List.length_cons]
        rfl
      rw [blockCount] at rounds
      rw [blockCount, rounds, Strict.settle, if_neg (by decide), Strict.next_of_lt (by omega),
        strict_enter wellFormed.filled]
      exact strict_settle_of_settled (Place.settled_enter _ _) _ _

theorem strict_deliverNext (wellFormed : file.WellFormed) (settled : file.cursor.place.Settled) :
    Strict.deliverNext file = some file.deliverNext := by
  have count := wellFormed.blockCount_le
  have total := wellFormed.total_le
  have holds : file.cursor.place.Holds file.blocks file.position.toNat := wellFormed.holds
  unfold Strict.deliverNext deliverNext pendingLiteral
  generalize file.cursor.place = place at holds settled ⊢
  cases holds with
  | unset => rfl
  | done => rfl
  | payload before after block offset split inside sum =>
    have found := getElem?_split split
    have pending := Place.pendingLiteral_split before after block offset block.gap
    rw [← split] at pending
    rw [split, totalLength_append, totalLength_cons, Block.length] at total
    have fits : block.payload.length ≤ maxOffset := by omega
    have length := toNat_length_drop offset fits
    have exactLength := toNat_ofNat_of_le
      (show (block.payload.drop offset).length ≤ maxOffset by rw [List.length_drop]; omega)
    simp only [pending, found, Option.bind_eq_bind, Option.bind_some]
    rw [Strict.toWord_of_le fits, Strict.toWord_of_le (by omega),
      Strict.slice_of_le (Nat.le_of_lt inside)]
    simp only [Option.bind_some]
    rw [Strict.sub_length_of_le (Nat.le_of_lt inside) fits, Option.bind_some,
      Strict.add_of_le (by omega), Option.bind_some, exactLength]
    rfl
  | gap before after block left split bounded sum =>
    rw [split, List.length_append, List.length_cons] at count
    rw [split, totalLength_append, totalLength_cons] at total
    dsimp only
    split
    · rename_i longer
      have part := UInt64.lt_iff_toNat_lt.mp longer
      rw [Strict.sub_of_le (by omega), Strict.add_of_le (by omega)]
      rfl
    · rename_i notLonger
      have positive := UInt64.pos_iff_ne_zero.mpr settled
      rw [if_pos positive, if_pos positive, Strict.add_of_le (by omega),
        Strict.next_of_lt (by omega), Strict.view_of_le (UInt64.not_lt.mp notLonger),
        strict_enter wellFormed.filled]
      rfl

theorem strict_read (wellFormed : file.WellFormed) : Strict.read file = some file.read := by
  obtain ⟨wellFormedThen, settled⟩ := wellFormed.leaveGap
  have same : ({ file with
      cursor := { place := file.leaveGap.cursor.place, position := file.position } } : File) =
      file.leaveGap := by
    rcases file.leaveGap_cases with ⟨-, left⟩ | ⟨block, -, left⟩
    · rw [left]
      rfl
    · rw [left]
  rw [Strict.read, strict_settle wellFormed, Option.bind_eq_bind, Option.bind_some, same,
    strict_deliverNext wellFormedThen settled, read]

theorem strict_drainFrom (limit : Nat) (pieces : Array Segment) (events : Array Event)
    (wellFormed : file.WellFormed) :
    Strict.drainFrom pieces events limit file = some (drainFrom pieces events limit file) := by
  induction limit generalizing pieces events file with
  | zero => rfl
  | succ limit inductionHypothesis =>
    rw [Strict.drainFrom, strict_read wellFormed, Option.bind_eq_bind, Option.bind_some, drainFrom]
    cases result : file.read.result with
    | error failure => rfl
    | ok delivered =>
      cases delivered with
      | none => rfl
      | some piece => exact inductionHypothesis _ _ wellFormed.read

/-! ### Writing -/

theorem strict_extendPlace (wellFormed : file.WellFormed) (index : Nat) {length : UInt64}
    (fits : file.size.toNat + length.toNat ≤ maxOffset) :
    Strict.extendPlace file index length =
      some (if file.passEnded && 0 < length then .gap index length
        else file.cursor.place.extendGap index length) := by
  have pending := wellFormed.pendingGap_le
  by_cases atDone : file.cursor.place = .done
  · rw [Strict.extendPlace, atDone]
    rfl
  · rw [wellFormed.passEnded_eq_false atDone, Bool.false_and, if_neg Bool.false_ne_true,
      Strict.extendPlace]
    generalize file.cursor.place = place at pending atDone ⊢
    cases place with
    | unset => rfl
    | done => exact absurd rfl atDone
    | payload block offset gap =>
      rw [Place.pendingGap] at pending
      rw [Place.extendGap]
      dsimp only
      rw [Strict.add_of_le (by omega)]
      split <;> rfl
    | gap block left =>
      rw [Place.pendingGap] at pending
      rw [Place.extendGap]
      dsimp only
      rw [Strict.add_of_le (by omega)]
      split <;> rfl

/-- A block that is appended can be entered, because it is not empty. -/
theorem strict_enter_appended (wellFormed : file.WellFormed) (first : UInt8) (rest : List UInt8)
    (fits : file.size.toNat + (first :: rest).length ≤ maxOffset) :
    Strict.enter (file.blocks ++ [⟨first :: rest, 0⟩]) file.blocks.length =
      .payload file.blocks.length 0 0 := by
  have filled : ∀ block ∈ file.blocks ++ [⟨first :: rest, 0⟩], block.payload ≠ [] :=
    (wellFormed.appendBlock fits).filled
  rw [strict_enter filled]
  exact Place.enter_split file.blocks [] ⟨first :: rest, 0⟩

theorem strict_write (wellFormed : file.WellFormed) {segment : Segment}
    (held : segment.length < UInt64.size) :
    Strict.write file segment = some (file.write segment) := by
  have same : (UInt64.ofNat segment.length).toNat = segment.length :=
    UInt64.toNat_ofNat_of_lt' held
  unfold Strict.write write
  rw [Strict.toWord, if_pos held, Option.bind_eq_bind, Option.bind_some, same]
  by_cases exceeds : maxOffset < file.size.toNat + segment.length
  · rw [if_pos exceeds, if_pos exceeds]
    rfl
  · have fits := Nat.le_of_not_lt exceeds
    rw [if_neg exceeds, if_neg exceeds, Strict.add_of_le (by rw [same]; exact fits)]
    cases segment with
    | filler length =>
      cases tail : file.blocks.getLast? with
      | none => rfl
      | some last =>
        obtain ⟨earlier, split⟩ := List.getLast?_eq_some_iff.mp tail
        have gap := wellFormed.gap_le fits split
        simp only [Option.bind_eq_bind, Option.bind_some]
        rw [Strict.add_of_le gap, Option.bind_some, strict_extendPlace wellFormed _ fits,
          Option.bind_some, Segment.length, UInt64.ofNat_toNat]
        rfl
    | literal bytes =>
      cases bytes with
      | nil => rfl
      | cons first rest =>
        have entered := strict_enter_appended wellFormed first rest fits
        have blocks := length_le_totalLength wellFormed.filled
        rw [← wellFormed.size_eq] at blocks
        rw [Segment.length, List.length_cons] at fits
        have longer : (file.blocks ++ [(⟨first :: rest, 0⟩ : Block)]).length =
            file.blocks.length + 1 := by
          rw [List.length_append, List.length_singleton]
        obtain ⟨index, last, same⟩ :=
          Strict.sub_one_of_le (show file.blocks.length + 1 ≤ maxOffset by omega)
        simp only [Option.bind_some, List.cons_ne_nil, if_false, longer]
        rw [Strict.toWord_of_le (by omega), Option.bind_some, last, Option.bind_some, same, entered]
        rfl

/-! ### Seeking -/

theorem strict_locateFrom {target start : UInt64} (index : Nat) {blocks : List Block}
    (fits : start.toNat + totalLength blocks ≤ maxOffset) (reached : start.toNat ≤ target.toNat) :
    Strict.locateFrom target index start blocks =
      some (Place.locateFrom target index start blocks) := by
  induction blocks generalizing index start with
  | nil => rfl
  | cons block rest inductionHypothesis =>
    rw [totalLength_cons, Block.length] at fits
    have payload := toNat_ofNat_of_le (show block.payload.length ≤ maxOffset by omega)
    have payloadEnd := toNat_add_of_le
      (show start.toNat + (UInt64.ofNat block.payload.length).toNat ≤ maxOffset by omega)
    rw [payload] at payloadEnd
    have gapEnd := toNat_add_of_le (show (start + .ofNat block.payload.length).toNat +
      block.gap.toNat ≤ maxOffset by omega)
    rw [Strict.locateFrom, Place.locateFrom, Strict.toWord_of_le (by omega),
      Option.bind_eq_bind, Option.bind_some, Strict.add_of_le (by omega), Option.bind_some]
    by_cases inPayload : target < start + .ofNat block.payload.length
    · rw [if_pos inPayload, if_pos inPayload, Strict.sub_of_le reached]
      rfl
    · rw [if_neg inPayload, if_neg inPayload, Strict.add_of_le (by omega), Option.bind_some]
      by_cases inGap : target < start + .ofNat block.payload.length + block.gap
      · have inside := UInt64.lt_iff_toNat_lt.mp inGap
        rw [if_pos inGap, if_pos inGap, Strict.sub_of_le (Nat.le_of_lt inside)]
        rfl
      · have behind := UInt64.le_iff_toNat_le.mp (UInt64.not_lt.mp inGap)
        rw [if_neg inGap, if_neg inGap]
        exact inductionHypothesis _ (by omega) behind

theorem strict_seek (wellFormed : file.WellFormed) (offset : Int64) (origin : Origin) :
    Strict.seek file offset origin = some (file.seek offset origin) := by
  have base := wellFormed.base_le origin
  have noUnderflow := Int.not_lt.mpr (file.le_base_add offset origin)
  rw [Strict.seek, Strict.toSigned_of_le base, Option.bind_eq_bind, Option.bind_some,
    toInt_toInt64_of_le base, seek]
  dsimp only
  by_cases exceeds : (maxOffset : Int) < (file.base origin).toNat + offset.toInt
  · rw [if_pos (Or.inr exceeds), if_pos exceeds]
    rfl
  · rw [if_neg (not_or.mpr ⟨noUnderflow, exceeds⟩), if_neg exceeds]
    by_cases negative : ((file.base origin).toNat : Int) + offset.toInt < 0
    · rw [if_pos negative, if_pos negative]
      rfl
    · obtain ⟨target, sum⟩ := Int.eq_ofNat_of_zero_le (Int.not_lt.mp negative)
      have reached : (0 : UInt64).toNat ≤ (UInt64.ofNat target).toNat := Nat.zero_le _
      have total : (0 : UInt64).toNat + totalLength file.blocks ≤ maxOffset := by
        rw [UInt64.toNat_zero, Nat.zero_add]
        exact wellFormed.total_le
      rw [if_neg negative, if_neg negative, sum, Int.toNat_natCast,
        Strict.ofInteger_of_le (by omega), Option.bind_eq_bind, Option.bind_some,
        strict_locateFrom 0 total reached]
      split <;> rfl

theorem seek_result_le {offset : Int64} {origin : Origin} {target : UInt64}
    (succeeded : (file.seek offset origin).result = .ok target) : target.toNat ≤ maxOffset := by
  have sought := file.seek_sought offset origin
  generalize file.seek offset origin = outcome at sought succeeded
  cases sought with
  | tooFar => exact nomatch succeeded
  | negative => exact nomatch succeeded
  | pastEnd => exact nomatch succeeded
  | moved found sum fits inFile =>
    rw [← Except.ok.inj succeeded, toNat_ofNat_of_le fits]
    exact fits

theorem strict_skip (wellFormed : file.WellFormed) (amount : Int64) :
    Strict.skip file amount = some (file.skip amount) := by
  have before := Nat.le_trans wellFormed.position_le wellFormed.size_le
  rw [Strict.skip, strict_seek wellFormed, Option.bind_eq_bind, Option.bind_some, skip,
    ← Outcome.andThen_success]
  refine Strict.andThen_of_forall fun after succeeded => ?_
  have fits := seek_result_le succeeded
  rw [Strict.toSigned_of_le fits, Strict.toSigned_of_le before, Option.bind_eq_bind,
    Option.bind_some, Option.bind_some, Strict.subSigned_of_le fits before]
  rfl

theorem strict_seekTo (wellFormed : file.WellFormed) (target : SeekTarget) :
    Strict.seekTo file target = some (file.seekTo target) := by
  cases target with
  | start offset =>
    rw [Strict.seekTo, seekTo]
    by_cases tooFar : maxOffset < offset.toNat
    · rw [if_pos tooFar, if_pos tooFar]
    · rw [if_neg tooFar, if_neg tooFar, Strict.toSigned_of_le (Nat.le_of_not_lt tooFar),
        Option.bind_eq_bind, Option.bind_some, strict_seek wellFormed]
  | current offset => exact strict_seek wellFormed _ _
  | finish offset => exact strict_seek wellFormed _ _

/-! ### Reading into buffers -/

theorem strict_readSome (wellFormed : file.WellFormed) (room : Nat) :
    Strict.readSome file room = some (file.readSome room) := by
  unfold Strict.readSome readSome
  by_cases nothing : room = 0
  · rw [if_pos nothing, if_pos nothing]
    rfl
  · rw [if_neg nothing, if_neg nothing, strict_read wellFormed, Option.bind_eq_bind,
      Option.bind_some]
    refine Strict.andThen_of_forall fun delivered succeeded => ?_
    cases delivered with
    | none => rfl
    | some piece =>
      dsimp only
      by_cases cut : room < piece.length
      · have inFile := read_piece_le wellFormed succeeded
        have limit := wellFormed.size_le
        have count := toNat_ofNat_of_le (show room ≤ maxOffset by omega)
        have sum := toNat_add_of_le
          (show file.position.toNat + (UInt64.ofNat room).toNat ≤ maxOffset by omega)
        rw [if_pos cut, if_pos cut, Strict.toWord_of_le (by omega), Option.bind_eq_bind,
          Option.bind_some, Strict.add_of_le (by omega), Option.bind_some,
          Strict.toSigned_of_le (by omega), Option.bind_eq_bind, Option.bind_some,
          strict_seek wellFormed.read, seek_behind wellFormed succeeded cut]
        rfl
      · rw [if_neg cut, if_neg cut]
        rfl

theorem strict_pullFrom (room : Nat → Nat → Nat) (fuel round : Nat) (taken : Array UInt8)
    (events : Array Event) (wellFormed : file.WellFormed) :
    Strict.pullFrom room round taken events fuel file =
      some (pullFrom room round taken events fuel file) := by
  induction fuel generalizing round taken events file with
  | zero => rfl
  | succ fuel inductionHypothesis =>
    rw [Strict.pullFrom, pullFrom]
    by_cases full : room round taken.size = 0
    · rw [if_pos full, if_pos full]
    · rw [if_neg full, if_neg full, strict_readSome wellFormed, Option.bind_eq_bind,
        Option.bind_some]
      dsimp only
      cases result : (file.readSome (room round taken.size)).result with
      | error failure => rfl
      | ok bytes =>
        cases bytes with
        | nil => rfl
        | cons first rest =>
          exact inductionHypothesis _ _ _ (wellFormed_kept.readSome file _ wellFormed)

theorem strict_pull (wellFormed : file.WellFormed) (room : Nat → Nat → Nat) :
    Strict.pull file room = some (file.pull room) :=
  strict_pullFrom room _ _ _ _ wellFormed

/-! ### What is pending and what is kept -/

theorem strict_pendingLiteral (wellFormed : file.WellFormed) :
    Strict.pendingLiteral file = some file.pendingLiteral := by
  have holds := wellFormed.holds
  unfold Strict.pendingLiteral pendingLiteral
  generalize file.cursor.place = place at holds ⊢
  cases holds with
  | unset => rfl
  | done => rfl
  | gap => rfl
  | payload before after block offset split inside sum =>
    have found := getElem?_split split
    dsimp only
    rw [found, Option.bind_eq_bind, Option.bind_some, Strict.slice_of_le (Nat.le_of_lt inside),
      split, Place.pendingLiteral_split]

/-- The sum of the payloads' lengths is exact, since it is part of the size. -/
theorem strict_retainedFrom {blocks : List Block} {sum : UInt64}
    (fits : sum.toNat + totalLength blocks ≤ maxOffset) :
    ∃ retained : UInt64, Strict.retainedFrom sum blocks = some retained ∧
      retained.toNat = sum.toNat +
        blocks.foldr (fun block bytes => block.payload.length + bytes) 0 := by
  induction blocks generalizing sum with
  | nil => exact ⟨sum, rfl, rfl⟩
  | cons block rest inductionHypothesis =>
    rw [totalLength_cons, Block.length] at fits
    have payload := toNat_ofNat_of_le (show block.payload.length ≤ maxOffset by omega)
    have grown := toNat_add_of_le
      (show sum.toNat + (UInt64.ofNat block.payload.length).toNat ≤ maxOffset by omega)
    obtain ⟨retained, strict, retainedSum⟩ := inductionHypothesis
      (show (sum + .ofNat block.payload.length).toNat + totalLength rest ≤ maxOffset by omega)
    refine ⟨retained, ?_, ?_⟩
    · rw [Strict.retainedFrom, Strict.toWord_of_le (by omega), Option.bind_eq_bind,
        Option.bind_some, Strict.add_of_le (by omega), Option.bind_some, strict]
    · rw [retainedSum, grown, payload, List.foldr_cons, Nat.add_assoc]

/-! ### Calls -/

theorem strict_startPass (wellFormed : file.WellFormed) :
    Strict.fileCall file .startPass = some (FileCall.run file .startPass) := by
  rw [Strict.fileCall, strict_enter wellFormed.filled]
  rfl

theorem strict_readExact (wellFormed : file.WellFormed) (count : Nat) :
    Strict.readExact file count = some (file.readExact count) := by
  rw [Strict.readExact, strict_pull wellFormed, Option.bind_eq_bind, Option.bind_some]
  refine Strict.andThen_of_forall fun bytes succeeded => ?_
  split <;> rfl

theorem strict_readToString (wellFormed : file.WellFormed) (schedule : Schedule) :
    Strict.readToString file schedule = some (file.readToString schedule) := by
  rw [Strict.readToString, strict_pull wellFormed, Option.bind_eq_bind, Option.bind_some]
  refine Strict.andThen_of_forall fun bytes succeeded => ?_
  cases String.fromUTF8? bytes.toByteArray <;> rfl

end File

/-! ### Every call on every file that calls lead to -/

/-- The bytes that a call brings along are held in memory, where nothing is longer than the
largest offset. -/
def Call.InMemory : Call → Prop
  | .file (.write (.literal bytes)) => bytes.length ≤ maxOffset
  | .file (.writeLiteral bytes) => bytes.length ≤ maxOffset
  | .stream (.write bytes) => bytes.length ≤ maxOffset
  | .stream (.writeAll bytes) => bytes.length ≤ maxOffset
  | .file _ | .stream _ => True

section Calls

variable {file : File}

theorem strict_fileCall (wellFormed : file.WellFormed) {call : FileCall}
    (inMemory : (Call.file call).InMemory) :
    Strict.fileCall file call = some (call.run file) := by
  cases call with
  | write segment =>
    have held : segment.length < UInt64.size := by
      cases segment with
      | literal bytes => exact Strict.lt_size_of_le inMemory
      | filler length => exact length.toNat_lt
    rw [Strict.fileCall, File.strict_write wellFormed held]
    rfl
  | writeLiteral bytes =>
    have held : (Segment.literal bytes).length < UInt64.size := Strict.lt_size_of_le inMemory
    rw [Strict.fileCall, File.strict_write wellFormed held]
    rfl
  | writeFiller length =>
    have held : (Segment.filler length).length < UInt64.size := length.toNat_lt
    rw [Strict.fileCall, File.strict_write wellFormed held]
    rfl
  | startPass => exact File.strict_startPass wellFormed
  | read => rw [Strict.fileCall, File.strict_read wellFormed]; rfl
  | drain limit => rw [Strict.fileCall, File.strict_drainFrom _ _ _ wellFormed]; rfl
  | seek offset origin => rw [Strict.fileCall, File.strict_seek wellFormed]; rfl
  | skip amount => rw [Strict.fileCall, File.strict_skip wellFormed]; rfl
  | filler => rfl

theorem strict_writeBytes (wellFormed : file.WellFormed) {bytes : List UInt8}
    (inMemory : bytes.length ≤ maxOffset) :
    Strict.writeBytes file bytes = some (file.writeBytes bytes) := by
  have held : (Segment.literal bytes).length < UInt64.size := Strict.lt_size_of_le inMemory
  rw [Strict.writeBytes, File.strict_write wellFormed held]
  rfl

theorem strict_streamCall (wellFormed : file.WellFormed) {call : StreamCall}
    (inMemory : (Call.stream call).InMemory) :
    Strict.streamCall file call = some (call.run file) := by
  cases call with
  | readSome room => rw [Strict.streamCall, File.strict_readSome wellFormed]; rfl
  | readExact count => rw [Strict.streamCall, File.strict_readExact wellFormed]; rfl
  | readToEnd schedule => rw [Strict.streamCall, File.strict_pull wellFormed]; rfl
  | readToString schedule => rw [Strict.streamCall, File.strict_readToString wellFormed]; rfl
  | take limit => rw [Strict.streamCall, File.strict_pull wellFormed]; rfl
  | seek target => rw [Strict.streamCall, File.strict_seekTo wellFormed]; rfl
  | rewind => rw [Strict.streamCall, File.strict_seekTo wellFormed]; rfl
  | streamPosition => rw [Strict.streamCall, File.strict_seekTo wellFormed]; rfl
  | write bytes => rw [Strict.streamCall, strict_writeBytes wellFormed inMemory]; rfl
  | writeAll bytes =>
    cases bytes with
    | nil => rfl
    | cons first rest =>
      rw [Strict.streamCall, Strict.writeAll, strict_writeBytes wellFormed inMemory]
      rfl
  | flush => rfl

theorem strict_call (wellFormed : file.WellFormed) {call : Call} (inMemory : call.InMemory) :
    Strict.call file call = some (call.run file) := by
  cases call with
  | file call => rw [Strict.call, strict_fileCall wellFormed inMemory]; rfl
  | stream call => rw [Strict.call, strict_streamCall wellFormed inMemory]; rfl

end Calls

/-- No call on a file that calls lead to faults: strict arithmetic comes to the same as words.
The accessors do not fault either, no read is refused, and no read into a buffer is, whether
the piece is cut or not. -/
theorem reachable_call_exact {file : File} (reachable : file.Reachable) {call : Call}
    (inMemory : call.InMemory) :
    Strict.call file call = some (call.run file) ∧
      Strict.pendingLiteral file = some file.pendingLiteral ∧
      (Strict.retainedFrom 0 file.blocks).map UInt64.toNat = some file.retainedBytes ∧
      (∃ delivered, file.read.result = .ok delivered) ∧
      ∀ room : Nat, ∃ bytes, (file.readSome room).result = .ok bytes := by
  have wellFormed := reachable.wellFormed
  have total : (0 : UInt64).toNat + totalLength file.blocks ≤ maxOffset := by
    rw [UInt64.toNat_zero, Nat.zero_add]
    exact wellFormed.total_le
  refine ⟨strict_call wellFormed inMemory, File.strict_pendingLiteral wellFormed, ?_, ?_, ?_⟩
  · obtain ⟨retained, strict, sum⟩ := File.strict_retainedFrom total
    rw [strict, Option.map_some, sum, UInt64.toNat_zero, Nat.zero_add]
    rfl
  · rcases File.read_contents wellFormed with ⟨nothing, -⟩ | ⟨piece, delivered, -⟩
    · exact ⟨none, nothing⟩
    · exact ⟨some piece, delivered⟩
  · intro room
    obtain ⟨bytes, taken, -⟩ := File.readSome_taken wellFormed room
    exact ⟨bytes, taken⟩

/-- A file of the largest size, in which the first piece of a gap is cut after one byte. -/
theorem reachable_call_exact_cut :
    let file := (File.empty .shared).runAll
      [.file (.write (.literal [1, 2, 3])), .file (.write (.filler 9223372036854775804)),
        .file (.seek 3 .start)]
    file.size.toNat = maxOffset ∧
      Strict.call file (.stream (.readSome 1)) = some (Call.run file (.stream (.readSome 1))) ∧
      Strict.pendingLiteral file = some file.pendingLiteral ∧
      (Strict.retainedFrom 0 file.blocks).map UInt64.toNat = some file.retainedBytes ∧
      (∃ delivered, file.read.result = .ok delivered) ∧
      ∀ room : Nat, ∃ bytes, (file.readSome room).result = .ok bytes := by
  intro file
  have reachable : file.Reachable := ⟨.shared, _, rfl⟩
  exact ⟨by decide, reachable_call_exact reachable trivial⟩

end GappedFiles
