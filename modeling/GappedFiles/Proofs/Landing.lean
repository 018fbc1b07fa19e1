/-
This file says where reading leaves the cursor.

The place behind the bytes that were read depends on the last of them only: it is
one byte on from the place of that byte. How the bytes were cut into pieces and
buffers leaves no trace. Behind the last byte of a payload it is the gap of the
block, even where that gap is empty, and behind the last byte of a gap it is the
next block.

The loops of the byte stream therefore come to the same for all buffers and all
sizes of the filler buffer: the bytes that were asked for, as far as there are so
many, and a cursor behind them, or at the end where there were not enough.
-/

import GappedFiles.Proofs.Buffering

namespace GappedFiles

namespace Place

/-! ### One byte on -/

/-- The place one byte on from a place that holds a byte. -/
def oneOn (blocks : List Block) : Place → Place
  | .payload index offset after =>
    if offset + 1 < ((blocks[index]?.map Block.payload).getD []).length then
      .payload index (offset + 1) after
    else
      .gap index after
  | .gap index left => if left = 1 then .enter blocks (index + 1) else .gap index (left - 1)
  | .unset => .unset
  | .done => .done

/-- The place one byte on from the byte before the one at `position`. -/
def behind (blocks : List Block) (position : Nat) : Place :=
  oneOn blocks (locate blocks (.ofNat (position - 1)))

theorem opened_oneOn {blocks : List Block} {place : Place} (opened : place.Opened) :
    (oneOn blocks place).Opened := by
  cases place with
  | unset => exact absurd rfl opened
  | done => exact Place.noConfusion
  | payload index offset after =>
    rw [oneOn]
    split <;> exact Place.noConfusion
  | gap index left =>
    rw [oneOn]
    split
    · exact opened_enter _ _
    · exact Place.noConfusion

variable {blocks before after : List Block} {block : Block}

/-- Behind a byte of a payload there is more of it, or the gap. -/
theorem behind_payload (fits : totalLength blocks ≤ maxOffset)
    (split : blocks = before ++ block :: after) {offset : Nat} (positive : 0 < offset)
    (inside : offset ≤ block.payload.length) :
    behind blocks (totalLength before + offset) =
      if offset < block.payload.length then .payload before.length offset block.gap
      else .gap before.length block.gap := by
  have last : (Place.payload before.length (offset - 1) block.gap).Holds blocks
      (totalLength before + offset - 1) :=
    .payload before after block (offset - 1) split (by omega) (by omega)
  rw [behind, last.locate_eq Place.noConfusion trivial fits, oneOn, getElem?_split split,
    Nat.sub_add_cancel positive]
  rfl

/-- Behind a byte of a gap there is more of it, or the next block. -/
theorem behind_gap (fits : totalLength blocks ≤ maxOffset)
    (split : blocks = before ++ block :: after) {position : Nat} {left : UInt64}
    (inside : left.toNat < block.gap.toNat)
    (sum : position + left.toNat = totalLength before + block.length) :
    behind blocks position =
      if left = 0 then .enter blocks (before.length + 1) else .gap before.length left := by
  have total := fits
  rw [split, totalLength_append, totalLength_cons, Block.length] at total
  -- The byte before is one of the same gap, with one more left.
  have more : (left + 1).toNat = left.toNat + 1 :=
    toNat_add_of_le (show left.toNat + (1 : UInt64).toNat ≤ maxOffset by
      rw [UInt64.toNat_one]; omega)
  have last : (Place.gap before.length (left + 1)).Holds blocks (position - 1) := by
    rw [Block.length] at sum
    refine .gap before after block (left + 1) split (by omega) ?_
    rw [Block.length]
    omega
  have nonzero : left + 1 ≠ 0 := toNat_pos_iff.mp (by omega)
  rw [behind, last.locate_eq Place.noConfusion nonzero fits, oneOn, UInt64.add_sub_cancel]
  simp only [UInt64.add_eq_right]

end Place

namespace File

variable {file : File} {room : Nat} {piece : Segment}

/-! ### Where one read leaves the cursor -/

/-- The file with its cursor behind the next `count` bytes, where it is left that has read them. -/
def landed (file : File) (count : Nat) : File :=
  if count = 0 then file
  else
    { file with
      cursor :=
        { place := .behind file.blocks (file.position.toNat + count)
          position := .ofNat (file.position.toNat + count) } }

/-- The file with its cursor at the end, where it is left that has found nothing more to read. A
cursor that has not been put anywhere stays where it is. -/
def finished (file : File) : File :=
  if file.Opened then { file with cursor := { place := .done, position := file.size } } else file

/-- The bytes that are still to be read. -/
def upcoming (file : File) : List UInt8 :=
  if file.Opened then file.contents.drop file.position.toNat else []

theorem landed_of_pos (file : File) {count : Nat} (positive : 0 < count) :
    file.landed count =
      { file with
        cursor :=
          { place := .behind file.blocks (file.position.toNat + count)
            position := .ofNat (file.position.toNat + count) } } := by
  rw [landed, if_neg (Nat.ne_of_gt positive)]

theorem deliver_eq_landed {place : Place} {length : UInt64} {count : Nat}
    (same : length.toNat = count) (positive : 0 < count)
    (lands : .behind file.blocks (file.position.toNat + count) = place) :
    file.deliver place length = file.landed count := by
  rw [landed_of_pos file positive, lands, ← same, UInt64.ofNat_add, UInt64.ofNat_toNat,
    UInt64.ofNat_toNat]
  rfl

theorem moveTo_eq_landed {place : Place} {count : Nat} (wellFormed : file.WellFormed)
    (positive : 0 < count) (holds : place.Holds file.blocks (file.position.toNat + count))
    (opened : place.Opened) (settled : place.Settled)
    (lands : .behind file.blocks (file.position.toNat + count) = place) :
    file.moveTo (.ofNat (file.position.toNat + count)) = file.landed count := by
  rw [landed_of_pos file positive, lands, moveTo,
    holds.locate_eq opened settled wellFormed.total_le]

/-- A cursor that is put into a gap, behind some of its bytes, lands there. -/
theorem moveTo_gap_eq_landed (wellFormed : file.WellFormed) {before after : List Block}
    {block : Block} {left : UInt64} {count : Nat}
    (split : file.blocks = before ++ block :: after) (bounded : left.toNat ≤ block.gap.toNat)
    (sum : file.position.toNat + left.toNat = totalLength before + block.length)
    (positive : 0 < count) (cut : count < left.toNat) :
    file.moveTo (.ofNat (file.position.toNat + count)) = file.landed count := by
  have fits := wellFormed.total_le
  have total := fits
  have gap := gap_le_length block
  rw [split, totalLength_append, totalLength_cons] at total
  have word : (UInt64.ofNat count).toNat = count := toNat_ofNat_of_le (by omega)
  obtain ⟨rest, less⟩ : ∃ rest : UInt64, rest.toNat = left.toNat - count :=
    ⟨left - .ofNat count, by
      rw [UInt64.toNat_sub_of_le _ _ (UInt64.le_iff_toNat_le.mpr (by omega)), word]⟩
  have nonzero : rest ≠ 0 := toNat_pos_iff.mp (by omega)
  have target : file.position.toNat + count + rest.toNat = totalLength before + block.length := by
    omega
  have holds : (Place.gap before.length rest).Holds file.blocks (file.position.toNat + count) :=
    .gap before after block rest split (by omega) target
  refine moveTo_eq_landed wellFormed positive holds Place.noConfusion nonzero ?_
  rw [Place.behind_gap fits split (by omega) target, if_neg nonzero]

/-- A read leaves the cursor behind the piece it has delivered, and a cursor that is put somewhere
inside the piece is behind the bytes before it. -/
theorem read_landed (wellFormed : file.WellFormed)
    (delivered : file.read.result = .ok (some piece)) :
    file.read.state = file.landed piece.length ∧
      ∀ room : Nat, 0 < room → room < piece.length →
        file.moveTo (.ofNat (file.position.toNat + room)) = file.landed room := by
  have fits := wellFormed.total_le
  have found := read_delivered wellFormed
  generalize file.read = outcome at found delivered ⊢
  cases found with
  | unopened => cases delivered
  | ended => cases delivered
  | payload opened before after block offset split inside sum =>
    cases delivered
    have total := fits
    rw [split, totalLength_append, totalLength_cons, Block.length] at total
    have length := toNat_length_drop offset (show block.payload.length ≤ maxOffset by omega)
    have whole : (Segment.literal (block.payload.drop offset)).length =
        block.payload.length - offset := List.length_drop
    rw [whole]
    refine ⟨?_, fun room positive cut => ?_⟩
    · refine deliver_eq_landed length (by omega) ?_
      rw [show file.position.toNat + (block.payload.length - offset) =
        totalLength before + block.payload.length by omega,
        Place.behind_payload fits split (by omega) (Nat.le_refl _), if_neg (Nat.lt_irrefl _)]
    · have target : file.position.toNat + room = totalLength before + (offset + room) := by omega
      refine moveTo_eq_landed wellFormed positive
        (.payload before after block (offset + room) split (by omega) target) Place.noConfusion
        trivial ?_
      rw [target, Place.behind_payload fits split (by omega) (by omega), if_pos (by omega)]
  | buffer opened before after block left split bounded sum longer =>
    cases delivered
    have part := UInt64.le_iff_toNat_le.mp (UInt64.le_of_lt longer)
    have below := UInt64.lt_iff_toNat_lt.mp longer
    have buffer := file.filler.size_toNat_pos
    have rest := UInt64.toNat_sub_of_le left file.filler.size (UInt64.le_of_lt longer)
    have nonzero : left - file.filler.size ≠ 0 := toNat_pos_iff.mp (by omega)
    have target : file.position.toNat + file.filler.size.toNat +
        (left - file.filler.size).toNat = totalLength before + block.length := by omega
    refine ⟨deliver_eq_landed rfl buffer ?_, fun room positive cut =>
      moveTo_gap_eq_landed wellFormed split bounded sum positive (Nat.lt_of_lt_of_le cut part)⟩
    rw [Segment.length_filler, Place.behind_gap fits split (by omega) target, if_neg nonzero]
  | remainder opened before after block left split bounded sum nonzero shorter =>
    cases delivered
    have some : 0 < left.toNat := toNat_pos_iff.mpr nonzero
    refine ⟨deliver_eq_landed rfl some ?_, fun room positive cut =>
      moveTo_gap_eq_landed wellFormed split bounded sum positive cut⟩
    rw [Segment.length_filler, sum, Place.behind_gap fits split
      (by rw [UInt64.toNat_zero]; omega) (Nat.add_zero _), if_pos rfl]

/-- A read that delivers nothing leaves the file finished, and there was nothing to deliver. -/
theorem read_finished (wellFormed : file.WellFormed) (nothing : file.read.result = .ok none) :
    file.upcoming = [] ∧ file.read.state = file.finished := by
  have found := read_delivered wellFormed
  generalize file.read = outcome at found nothing ⊢
  cases found with
  | unopened unset => exact ⟨if_neg unset, (if_neg unset).symm⟩
  | ended opened atEnd =>
    rw [upcoming, finished, if_pos opened, if_pos opened]
    refine ⟨?_, ?_⟩
    · rw [atEnd, ← length_contents wellFormed, List.drop_length]
    · show File.mk _ _ _ (Cursor.mk .done (file.position + 0)) = _
      rw [UInt64.add_zero, atEnd]
  | payload => cases nothing
  | buffer => cases nothing
  | remainder => cases nothing

/-- Reading into a buffer takes the next bytes and leaves the cursor behind them; it leaves the file
finished where there is none. -/
theorem readSome_landed (wellFormed : file.WellFormed) (positive : room ≠ 0) :
    ∃ bytes : List UInt8, (file.readSome room).result = .ok bytes ∧ bytes.length ≤ room ∧
      bytes <+: file.upcoming ∧
      (bytes = [] → file.upcoming = [] ∧ (file.readSome room).state = file.finished) ∧
      (bytes ≠ [] → (file.readSome room).state = file.landed bytes.length) := by
  rcases read_contents wellFormed with
    ⟨nothing, -⟩ | ⟨piece, delivered, opened, filled, next, -⟩
  · rw [readSome_of_none positive nothing]
    exact ⟨[], rfl, Nat.zero_le _, List.nil_prefix, fun _ => read_finished wellFormed nothing,
      fun some => absurd rfl some⟩
  · obtain ⟨state, inside⟩ := read_landed wellFormed delivered
    have length := piece.length_expand file.filler
    rw [upcoming, if_pos opened]
    by_cases cut : room < piece.length
    · have taken : ((piece.expand file.filler).take room).length = room := by
        rw [List.length_take, length, Nat.min_eq_left (Nat.le_of_lt cut)]
      rw [readSome_of_lt wellFormed positive delivered cut,
        inside room (Nat.pos_of_ne_zero positive) cut]
      refine ⟨_, rfl, Nat.le_of_eq taken, (List.take_prefix _ _).trans next, fun empty => ?_,
        fun _ => by rw [taken]; rfl⟩
      rw [empty] at taken
      exact absurd taken.symm positive
    · have enough := Nat.le_of_not_lt cut
      rw [readSome_of_le positive delivered enough, state, ← length]
      refine ⟨_, rfl, length ▸ enough, next, fun empty => ?_, fun _ => rfl⟩
      rw [empty] at length
      exact absurd length (Nat.ne_of_lt filled)

/-! ### Where many reads leave the cursor -/

/-- What reading again and again comes to: it stops where there is no room for more, or where there
is nothing more. -/
inductive Collected (file : File) (room : Nat → Nat → Nat) (before : List UInt8)
    (outcome : Outcome File FileError (List UInt8)) : Prop
  | full (bytes : List UInt8) (round : Nat) (result : outcome.result = .ok (before ++ bytes))
      (next : bytes <+: file.upcoming) (noRoom : room round (before.length + bytes.length) = 0)
      (bounded : ∀ limit : Nat, (∀ round taken : Nat, room round taken ≤ limit - taken) →
        before.length ≤ limit → before.length + bytes.length ≤ limit)
      (state : outcome.state = file.landed bytes.length)
  | exhausted (round : Nat) (result : outcome.result = .ok (before ++ file.upcoming))
      (someRoom : room round (before.length + file.upcoming.length) ≠ 0)
      (state : outcome.state = file.finished)

theorem position_add_le (wellFormed : file.WellFormed) {first : List UInt8}
    (next : first <+: file.upcoming) : file.position.toNat + first.length ≤ file.size.toNat := by
  have inFile := next.length_le
  have position := wellFormed.position_le
  by_cases opened : file.Opened
  · rw [upcoming, if_pos opened, List.length_drop, length_contents wellFormed] at inFile
    omega
  · rw [upcoming, if_neg opened, List.length_nil] at inFile
    omega

theorem position_landed (wellFormed : file.WellFormed) {first : List UInt8}
    (next : first <+: file.upcoming) :
    (file.landed first.length).position.toNat = file.position.toNat + first.length := by
  have inFile := position_add_le wellFormed next
  rw [landed]
  split
  · omega
  · exact toNat_ofNat_of_le (Nat.le_trans inFile wellFormed.size_le)

/-- Only the cursor is moved on. -/
theorem landed_state (file : File) (count : Nat) :
    file.landed count = { file with cursor := (file.landed count).cursor } := by
  rw [landed]
  split <;> rfl

/-- A cursor that has been moved on has been put somewhere. -/
theorem opened_landed (wellFormed : file.WellFormed) {first : List UInt8}
    (next : first <+: file.upcoming) (opened : file.Opened) :
    (file.landed first.length).Opened := by
  rw [landed]
  split
  · exact opened
  · have inFile := position_add_le wellFormed next
    have last := Place.holds_locate wellFormed.total_le
      (show file.position.toNat + first.length - 1 ≤ totalLength file.blocks by
        rw [← wellFormed.size_eq]; omega)
    exact Place.opened_oneOn last.2.1

/-- What is upcoming, and where the cursor goes, is the same when it is seen from further on. -/
theorem landed_landed (wellFormed : file.WellFormed) {first : List UInt8} (some : first ≠ [])
    (next : first <+: file.upcoming) :
    (file.landed first.length).upcoming = file.upcoming.drop first.length ∧
      (file.landed first.length).finished = file.finished ∧
      ∀ count : Nat,
        (file.landed first.length).landed count = file.landed (first.length + count) := by
  have positive := List.length_pos_iff.mpr some
  have opened : file.Opened := by
    refine Decidable.byContradiction fun unopened => some ?_
    rw [upcoming, if_neg unopened] at next
    exact List.prefix_nil.mp next
  have openedThen := opened_landed wellFormed next opened
  have position := position_landed wellFormed next
  have same := file.landed_state first.length
  refine ⟨?_, ?_, fun count => ?_⟩
  · have contents : (file.landed first.length).contents = file.contents := by
      rw [same]
      rfl
    rw [upcoming, upcoming, if_pos opened, if_pos openedThen, contents, position, List.drop_drop]
  · rw [finished, finished, if_pos opened, if_pos openedThen, same]
  · by_cases zero : count = 0
    · rw [zero, Nat.add_zero, landed, if_pos rfl]
    · rw [landed_of_pos _ (Nat.pos_of_ne_zero zero),
        landed_of_pos file (Nat.add_pos_left positive _), position, same, Nat.add_assoc]

/-- A read into a buffer, and then reading again and again, is reading again and again. -/
theorem Collected.prepend {roomAt : Nat → Nat → Nat} {before first : List UInt8} {round : Nat}
    {outcome : Outcome File FileError (List UInt8)} (wellFormed : file.WellFormed)
    (some : first ≠ []) (next : first <+: file.upcoming)
    (fits : first.length ≤ roomAt round before.length)
    (collected : (file.landed first.length).Collected roomAt (before ++ first) outcome) :
    file.Collected roomAt before outcome := by
  obtain ⟨upcoming, finished, landed⟩ := landed_landed wellFormed some next
  obtain ⟨rest, split⟩ := next
  rw [← split, List.drop_left] at upcoming
  cases collected with
  | full bytes last result nextThen noRoom bounded state =>
    rw [upcoming] at nextThen
    rw [List.length_append, Nat.add_assoc, ← List.length_append] at noRoom
    refine .full (first ++ bytes) last ?_ ?_ noRoom ?_ ?_
    · rw [result, List.append_assoc]
    · rw [← split]
      exact (List.prefix_append_right_inj first).mpr nextThen
    · intro limit within enough
      have firstWithin := Nat.le_trans fits (within round before.length)
      have total := bounded limit within (by rw [List.length_append]; omega)
      rw [List.length_append] at total ⊢
      omega
    · rw [state, landed, List.length_append]
  | exhausted last result someRoom state =>
    rw [upcoming] at result someRoom
    rw [List.length_append, Nat.add_assoc, ← List.length_append, split] at someRoom
    refine .exhausted last ?_ someRoom (state.trans finished)
    rw [result, List.append_assoc, split]

theorem pullFrom_collected (wellFormed : file.WellFormed) (room : Nat → Nat → Nat)
    (fuel round : Nat) (taken : Array UInt8) (events : Array Event)
    (enough : file.remaining < fuel) :
    file.Collected room taken.toList (pullFrom room round taken events fuel file) := by
  -- A round that takes something leaves less to read, so the fuel outlasts the rounds.
  induction fuel generalizing round taken events file with
  | zero => exact absurd enough (Nat.not_lt_zero _)
  | succ fuel inductionHypothesis =>
    unfold pullFrom
    by_cases full : room round taken.size = 0
    · rw [if_pos full]
      exact .full [] round (congrArg Except.ok (List.append_nil _).symm) List.nil_prefix full
        (fun _ _ within => within) (if_pos rfl).symm
    · obtain ⟨bytes, result, fits, next, nothing, something⟩ := readSome_landed wellFormed full
      have later := wellFormed_kept.readSome file (room round taken.size) wellFormed
      rw [if_neg full]
      dsimp only
      rw [result]
      cases bytes with
      | nil =>
        obtain ⟨upcoming, state⟩ := nothing rfl
        refine .exhausted round ?_ ?_ state
        · rw [upcoming, List.append_nil]
          rfl
        · rw [upcoming]
          exact full
      | cons first rest =>
        have state := something (List.cons_ne_nil first rest)
        have shorter := remaining_readSome wellFormed result (List.cons_ne_nil first rest)
        have collected := inductionHypothesis later (round + 1) (taken ++ (first :: rest))
          (events ++ (file.readSome (room round taken.size)).events) (by omega)
        rw [Array.toList_appendList] at collected
        rw [state] at collected ⊢
        exact collected.prepend wellFormed (List.cons_ne_nil first rest) next fits

/-! ### The operations that read again and again -/

/-- The text that bytes spell, if they spell any. -/
def textOf (bytes : List UInt8) : Except StreamError String :=
  match String.fromUTF8? bytes.toByteArray with
  | some text => .ok text
  | none => .error .invalidText

/-- The file that a number of bytes has been read from, or all there were. -/
def through (file : File) (count : Nat) : File :=
  if count ≤ file.upcoming.length then file.landed count else file.finished

theorem pull_collected (wellFormed : file.WellFormed) (room : Nat → Nat → Nat) :
    file.Collected room [] (file.pull room) :=
  pullFrom_collected wellFormed room _ 0 #[] #[] (Nat.lt_succ_self _)

/-- Reading into buffers of which none is larger than what is missing takes as many bytes as were
asked for of those that are upcoming, whatever the buffers. -/
theorem pull_limited (wellFormed : file.WellFormed) {room : Nat → Nat → Nat} {limit : Nat}
    (within : ∀ round taken : Nat, room round taken ≤ limit - taken)
    (enough : ∀ round taken : Nat, room round taken = 0 → limit ≤ taken) :
    (file.pull room).result = .ok (file.upcoming.take limit) ∧
      (file.pull room).state = file.through limit := by
  have collected := pull_collected wellFormed room
  rw [through]
  cases collected with
  | full bytes round result next noRoom bounded state =>
    rw [List.length_nil, Nat.zero_add] at noRoom bounded
    have length : bytes.length = limit :=
      Nat.le_antisymm (bounded limit within (Nat.zero_le _)) (enough _ _ noRoom)
    rw [result, state, length, if_pos (length ▸ next.length_le), List.nil_append, ← length,
      ← List.prefix_iff_eq_take.mp next]
    exact ⟨rfl, rfl⟩
  | exhausted round result someRoom state =>
    rw [List.length_nil, Nat.zero_add] at someRoom
    have fits := within round file.upcoming.length
    have short : file.upcoming.length < limit := by omega
    rw [result, state, if_neg (Nat.not_le_of_lt short), List.nil_append,
      List.take_of_length_le (Nat.le_of_lt short)]
    exact ⟨rfl, rfl⟩

/-- Taking a number of bytes takes as many of those that are upcoming. -/
theorem take_collected (wellFormed : file.WellFormed) (limit : Nat) :
    (file.take limit).result = .ok (file.upcoming.take limit) ∧
      (file.take limit).state = file.through limit :=
  pull_limited wellFormed (fun _ _ => Nat.le_refl _) fun _ _ => Nat.sub_eq_zero_iff_le.mp

/-- Reading to the end reads everything that is upcoming, whatever the buffers. -/
theorem readToEnd_collected (wellFormed : file.WellFormed) (schedule : Schedule) :
    (file.readToEnd schedule).result = .ok file.upcoming ∧
      (file.readToEnd schedule).state = file.finished := by
  have collected := pull_collected wellFormed fun round _ => schedule.room round
  rw [readToEnd]
  cases collected with
  | full bytes round result next noRoom bounded state =>
    exact absurd noRoom (Nat.ne_of_gt (schedule.room_pos round))
  | exhausted round result someRoom state => exact ⟨result, state⟩

/-- Reading a number of bytes succeeds where there are so many. -/
theorem readExact_collected (wellFormed : file.WellFormed) (count : Nat) :
    (file.readExact count).result =
        (if count ≤ file.upcoming.length then .ok (file.upcoming.take count)
          else .error .unexpectedEnd) ∧
      (file.readExact count).state = file.through count := by
  obtain ⟨result, state⟩ := take_collected wellFormed count
  have taken : ((file.take count).mapFailure StreamError.file).result =
      .ok (file.upcoming.take count) := by
    rw [Outcome.mapFailure, result]
    rfl
  have length : (file.upcoming.take count).length = count ↔ count ≤ file.upcoming.length := by
    rw [List.length_take]
    omega
  rw [readExact, Outcome.andThen_of_ok taken, Outcome.mapFailure_state, state]
  simp only [length]
  split <;> exact ⟨rfl, rfl⟩

theorem readToString_collected (wellFormed : file.WellFormed) (schedule : Schedule) :
    (file.readToString schedule).result = textOf file.upcoming ∧
      (file.readToString schedule).state = file.finished := by
  obtain ⟨result, state⟩ := readToEnd_collected wellFormed schedule
  have taken : ((file.readToEnd schedule).mapFailure StreamError.file).result =
      .ok file.upcoming := by
    rw [Outcome.mapFailure, result]
    rfl
  rw [readToString, Outcome.andThen_of_ok taken, Outcome.mapFailure_state, state, textOf]
  cases String.fromUTF8? file.upcoming.toByteArray <;> exact ⟨rfl, rfl⟩

end File

end GappedFiles
