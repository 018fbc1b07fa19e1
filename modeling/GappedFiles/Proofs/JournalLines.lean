/-
This file reads the journal of a file. A line of the journal is a level and a wording, and the
wording is made of words and numbers with blanks between them. What a line has to say about the
layout and the position of a file is its notice. A reader who has nothing but the text of a line
finds its notice, so that no two events with different notices share a line.
-/

import GappedFiles.Event

namespace GappedFiles

/-! ### Notices -/

/-- What a line of the journal says about the layout and the position of a file. -/
inductive Notice
  /-- A block with a payload of `length` bytes begins at the offset `offset`. -/
  | appended (block length offset : Nat)
  /-- The gap of a block has `gap` bytes. -/
  | extended (block gap : Nat)
  /-- A pass begins over a file of `size` bytes in so many blocks. -/
  | opened (size blocks : Nat)
  /-- The position is `target`. -/
  | moved (target : Nat)
  /-- A piece of `length` bytes that begins at the offset `position` is delivered. -/
  | delivered (length position : Nat)
  /-- Something is refused. -/
  | refused
  deriving DecidableEq

/-- What an event has to say about the layout and the position of a file. -/
def Event.notice : Event → Notice
  | .blockAppended block length offset => .appended block length offset.toNat
  | .gapExtended block gap => .extended block gap.toNat
  | .passStarted size blocks => .opened size.toNat blocks
  | .soughtPayload target _ | .soughtGap target _ _ | .soughtEnd target => .moved target.toNat
  | .literalDelivered length position => .delivered length position.toNat
  | .fillerDelivered length position => .delivered length.toNat position.toNat
  | .gapFinished length position => .delivered length.toNat position.toNat
  | .writeTooLong .. | .fillerUnheld .. | .cursorStuck .. => .refused
  | .seekTooFar .. | .soughtNegative .. | .soughtPastEnd .. => .refused

/-- Refusals, and nothing else, are reported at the error level. -/
theorem Event.notice_eq_refused (event : Event) :
    event.notice = .refused ↔ event.isError = true := by
  cases event <;> simp [notice, isError, level]

/-! ### Reading a line -/

/-- The words of a line, which have blanks between them. -/
def words (line : String) : List String :=
  (line.toList.splitOn ' ').map String.ofList

/-- The number that some letters show, where all of them are decimal digits. -/
def number? (letters : List Char) : Option Nat :=
  if letters ≠ [] ∧ letters.all Char.isDigit then some (Nat.ofDigitChars 10 letters 0) else none

/-- The notice of a line, found by the words of it. -/
def Notice.read (line : String) : Option Notice :=
  match words line with
  | ["DEBUG", "appended", "block", block, "with", length, "literal", "bytes", "at", "offset",
      offset] =>
    return .appended (← number? block.toList) (← number? length.toList) (← number? offset.toList)
  | ["DEBUG", "extended", "gap", "of", "block", block, "to", gap] =>
    return .extended (← number? block.toList) (← number? gap.toList)
  | ["DEBUG", "opened", "file", "of", size, "bytes", "in", blocks, "blocks"] =>
    return .opened (← number? size.toList) (← number? blocks.toList)
  | ["DEBUG", "seek", "to", target, "block", _, "payload"] =>
    return .moved (← number? target.toList.dropLast)
  | ["DEBUG", "seek", "to", target, "block", _, "gap,", _, "remaining"] =>
    return .moved (← number? target.toList.dropLast)
  | ["DEBUG", "seek", "to", "end", "of", "stream", "at", target] =>
    return .moved (← number? target.toList)
  | ["TRACE", "literal", "chunk", "of", length, "bytes", "at", position] =>
    return .delivered (← number? length.toList) (← number? position.toList)
  | ["TRACE", "filler", "chunk", "of", length, "bytes", "at", position] =>
    return .delivered (← number? length.toList) (← number? position.toList)
  | ["TRACE", "final", "filler", "chunk", "of", length, "bytes", "at", position] =>
    return .delivered (← number? length.toList) (← number? position.toList)
  | "ERROR" :: _ => some .refused
  | _ => none

/-! ### The words of a line -/

/-- The first blank ends the first word. -/
theorem words_append {word : String} (unspaced : ' ' ∉ word.toList) (rest : String) :
    words (word ++ " " ++ rest) = word :: words rest := by
  have letters : (word ++ " " ++ rest).toList = word.toList ++ ' ' :: rest.toList := by simp
  rw [words, letters, List.splitOn_append_cons_self_of_not_mem unspaced, List.map_cons,
    String.ofList_toList, words]

/-- A line that is made of words has these words and no others. -/
theorem words_of_letters {line : String} {expected : List String} (nonempty : expected ≠ [])
    (letters : line.toList = (" ".intercalate expected).toList)
    (unspaced : ∀ word ∈ expected, ' ' ∉ word.toList) : words line = expected := by
  have joined : (" ".intercalate expected).toList = [' '].intercalate (expected.map String.toList) :=
    String.toList_intercalate
  rw [words, letters, joined, List.splitOn_intercalate, List.map_map, String.ofList_comp_toList,
    List.map_id]
  · intro word member
    obtain ⟨origin, inside, rfl⟩ := List.mem_map.mp member
    exact unspaced origin inside
  · exact fun empty => nonempty (List.map_eq_nil_iff.mp empty)

/-- A number is shown in one word. -/
@[simp] theorem blank_notMem_toDigits (number : Nat) : ' ' ∉ Nat.toDigits 10 number :=
  fun member => absurd (Nat.isDigit_of_mem_toDigits (by decide) (by decide) member) (by decide)

@[simp] theorem number?_toDigits (number : Nat) :
    number? (Nat.toDigits 10 number) = some number := by
  have digits : (Nat.toDigits 10 number).all Char.isDigit = true :=
    List.all_eq_true.mpr fun _ member =>
      Nat.isDigit_of_mem_toDigits (by decide) (by decide) member
  rw [number?, if_pos ⟨Nat.toDigits_ne_nil, digits⟩, Nat.ofDigitChars_ten_toDigits]

/-- The first word of an event's line is its level. -/
theorem words_line (event : Event) :
    words event.line = event.level.name :: words event.message := by
  have unspaced : ' ' ∉ event.level.name.toList := by
    cases event.level <;> decide
  exact words_append unspaced event.message

/-- The words of what an event says, its numbers as they are shown. -/
def Event.wording : Event → List String
  | .blockAppended block length offset =>
    ["appended", "block", block.repr, "with", length.repr, "literal", "bytes", "at", "offset",
      offset.toNat.repr]
  | .gapExtended block gap => ["extended", "gap", "of", "block", block.repr, "to", gap.toNat.repr]
  | .passStarted size blocks =>
    ["opened", "file", "of", size.toNat.repr, "bytes", "in", blocks.repr, "blocks"]
  | .soughtPayload target block =>
    ["seek", "to", target.toNat.repr ++ ":", "block", block.repr, "payload"]
  | .soughtGap target block left =>
    ["seek", "to", target.toNat.repr ++ ":", "block", block.repr, "gap,", left.toNat.repr,
      "remaining"]
  | .soughtEnd target => ["seek", "to", "end", "of", "stream", "at", target.toNat.repr]
  | .literalDelivered length position =>
    ["literal", "chunk", "of", length.repr, "bytes", "at", position.toNat.repr]
  | .fillerDelivered length position =>
    ["filler", "chunk", "of", length.toNat.repr, "bytes", "at", position.toNat.repr]
  | .gapFinished length position =>
    ["final", "filler", "chunk", "of", length.toNat.repr, "bytes", "at", position.toNat.repr]
  | refusal => words refusal.message

theorem words_message (event : Event) : words event.message = event.wording := by
  cases event with
  | blockAppended | gapExtended | passStarted | soughtPayload | soughtGap | soughtEnd
  | literalDelivered | fillerDelivered | gapFinished =>
    refine words_of_letters nofun ?_ ?_
    · simp [Event.message.eq_def, Event.wording, toString]
    · simp [Event.wording]
  | writeTooLong | fillerUnheld | seekTooFar | soughtNegative | soughtPastEnd | cursorStuck => rfl

/-- The text of an event's line is enough to know what the event has to say. -/
theorem read_line (event : Event) : Notice.read event.line = some event.notice := by
  rw [Notice.read, words_line, words_message]
  cases event with
  | blockAppended block length offset =>
    show (do
      let block ← number? block.repr.toList
      let length ← number? length.repr.toList
      let offset ← number? offset.toNat.repr.toList
      return Notice.appended block length offset) = _
    simp [Event.notice]
  | gapExtended block gap =>
    show (do
      let block ← number? block.repr.toList
      let gap ← number? gap.toNat.repr.toList
      return Notice.extended block gap) = _
    simp [Event.notice]
  | passStarted size blocks =>
    show (do
      let size ← number? size.toNat.repr.toList
      let blocks ← number? blocks.repr.toList
      return Notice.opened size blocks) = _
    simp [Event.notice]
  | soughtPayload target | soughtGap target =>
    show (do
      let target ← number? (target.toNat.repr ++ ":").toList.dropLast
      return Notice.moved target) = _
    simp [Event.notice]
  | soughtEnd target =>
    show (do
      let target ← number? target.toNat.repr.toList
      return Notice.moved target) = _
    simp [Event.notice]
  | literalDelivered length position =>
    show (do
      let length ← number? length.repr.toList
      let position ← number? position.toNat.repr.toList
      return Notice.delivered length position) = _
    simp [Event.notice]
  | fillerDelivered length position | gapFinished length position =>
    show (do
      let length ← number? length.toNat.repr.toList
      let position ← number? position.toNat.repr.toList
      return Notice.delivered length position) = _
    simp [Event.notice]
  | writeTooLong | fillerUnheld | seekTooFar | soughtNegative | soughtPastEnd | cursorStuck => rfl

end GappedFiles
