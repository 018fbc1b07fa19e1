/-
This file says what reading into a buffer comes to. A buffer with room for the
next piece gets all of it. A smaller one gets the first bytes of the piece, and the
seek that follows cannot be refused: it puts the cursor behind the bytes that were
taken, where a seek from anywhere else would put it.
-/

import GappedFiles.Proofs.Reachable

namespace GappedFiles

namespace File

variable {file : File} {room : Nat} {piece : Segment}

theorem readSome_of_none (positive : room ≠ 0) (nothing : file.read.result = .ok none) :
    file.readSome room = .success file.read.state [] file.read.events := by
  rw [readSome, if_neg positive, Outcome.andThen_of_ok nothing]
  show Outcome.mk file.read.state (.ok []) (file.read.events ++ []) = _
  rw [List.append_nil]
  rfl

/-- A buffer with room for the next piece gets all of it. -/
theorem readSome_of_le (positive : room ≠ 0) (delivered : file.read.result = .ok (some piece))
    (enough : piece.length ≤ room) :
    file.readSome room =
      .success file.read.state (piece.expand file.filler) file.read.events := by
  have whole : (piece.take room).expand file.filler = piece.expand file.filler := by
    rw [Segment.expand_take, List.take_of_length_le]
    rw [Segment.length_expand]
    exact enough
  rw [readSome, if_neg positive, Outcome.andThen_of_ok delivered]
  dsimp only
  rw [if_neg (Nat.not_lt.mpr enough), whole]
  show Outcome.mk file.read.state _ (file.read.events ++ []) = _
  rw [List.append_nil]
  rfl

/-- A cursor that is moved after a read is where it would have been moved without the read. -/
theorem moveTo_read (file : File) (target : UInt64) :
    file.read.state.moveTo target = file.moveTo target := by
  rw [read_state]
  rfl

/-- The seek that puts the cursor behind the bytes that were taken is not refused. -/
theorem seek_behind (wellFormed : file.WellFormed)
    (delivered : file.read.result = .ok (some piece)) (cut : room < piece.length) :
    file.read.state.seek (file.position + .ofNat room).toInt64 .start =
      .success (file.moveTo (.ofNat (file.position.toNat + room)))
        (.ofNat (file.position.toNat + room))
        [.sought (.ofNat (file.position.toNat + room))
          (file.moveTo (.ofNat (file.position.toNat + room))).cursor.place] := by
  have inFile := read_piece_le wellFormed delivered
  have limit := wellFormed.size_le
  have size : file.read.state.size = file.size := by rw [read_state]
  have count : (UInt64.ofNat room).toNat = room := toNat_ofNat_of_le (by omega)
  have sum : (file.position + .ofNat room).toNat = file.position.toNat + room := by
    rw [toNat_add_of_le (by omega), count]
  have target : ((file.position.toNat + room : Nat) : Int) =
      (file.read.state.base .start).toNat + (file.position + .ofNat room).toInt64.toInt := by
    rw [toInt_toInt64_of_le (by omega), sum, base, UInt64.toNat_zero]
    omega
  rw [seek_of_le (size.symm ▸ limit) target (by rw [size]; omega), moveTo_read]

/-- A smaller buffer gets the first bytes of the piece, and the cursor is put behind them. -/
theorem readSome_of_lt (wellFormed : file.WellFormed) (positive : room ≠ 0)
    (delivered : file.read.result = .ok (some piece)) (cut : room < piece.length) :
    file.readSome room =
      .success (file.moveTo (.ofNat (file.position.toNat + room)))
        ((piece.expand file.filler).take room)
        (file.read.events ++
          [.sought (.ofNat (file.position.toNat + room))
            (file.moveTo (.ofNat (file.position.toNat + room))).cursor.place]) := by
  rw [readSome, if_neg positive, Outcome.andThen_of_ok delivered]
  dsimp only
  rw [if_pos cut, seek_behind wellFormed delivered cut, Segment.expand_take]
  rfl

/-- Reading into a buffer never fails. It takes the next bytes of the file, moves the cursor on by
as many, and takes none only where there is no room, no byte, or no pass. -/
theorem readSome_taken (wellFormed : file.WellFormed) (room : Nat) :
    ∃ bytes : List UInt8, (file.readSome room).result = .ok bytes ∧ bytes.length ≤ room ∧
      bytes <+: file.contents.drop file.position.toNat ∧
      ((file.readSome room).state.Opened ↔ file.Opened) ∧
      (file.readSome room).state.position.toNat = file.position.toNat + bytes.length ∧
      (bytes = [] → room = 0 ∨ ¬ file.Opened ∨ file.position = file.size) := by
  by_cases noRoom : room = 0
  · rw [readSome, if_pos noRoom]
    exact ⟨[], rfl, Nat.zero_le _, List.nil_prefix, Iff.rfl, rfl, fun _ => Or.inl noRoom⟩
  rcases read_contents wellFormed with
    ⟨nothing, cause, opened, position⟩ | ⟨piece, delivered, opened, positive, bytes, later, moved⟩
  · rw [readSome_of_none noRoom nothing]
    refine ⟨[], rfl, Nat.zero_le _, List.nil_prefix, opened, ?_, fun _ => Or.inr cause⟩
    exact congrArg UInt64.toNat position
  · by_cases cut : room < piece.length
    · have inFile := read_piece_le wellFormed delivered
      have limit := wellFormed.size_le
      have total := wellFormed.size_eq
      have taken : ((piece.expand file.filler).take room).length = room := by
        rw [List.length_take, Segment.length_expand, Nat.min_eq_left (Nat.le_of_lt cut)]
      rw [readSome_of_lt wellFormed noRoom delivered cut]
      refine ⟨_, rfl, Nat.le_of_eq taken, (List.take_prefix _ _).trans bytes, ?_, ?_, ?_⟩
      · exact iff_of_true (opened_moveTo wellFormed (by omega)) opened
      · rw [taken]
        exact toNat_ofNat_of_le (by omega)
      · intro empty
        rw [empty] at taken
        exact Or.inl taken.symm
    · have enough := Nat.le_of_not_lt cut
      rw [readSome_of_le noRoom delivered enough]
      refine ⟨_, rfl, by rw [Segment.length_expand]; exact enough, bytes, iff_of_true later opened,
        by rw [Segment.length_expand]; exact moved, fun empty => ?_⟩
      rw [← Segment.length_expand file.filler, empty] at positive
      exact absurd positive (Nat.lt_irrefl 0)

/-- Reading into a buffer changes nothing but the cursor. -/
theorem readSome_state (file : File) (room : Nat) :
    (file.readSome room).state = { file with cursor := (file.readSome room).state.cursor } := by
  unfold readSome
  split
  · rfl
  · cases result : file.read.result with
    | error failure =>
      rw [Outcome.andThen_of_error result]
      exact file.read_state
    | ok delivered =>
      rw [Outcome.andThen_of_ok result]
      cases delivered with
      | none => exact file.read_state
      | some piece =>
        dsimp only
        split
        · rw [Outcome.map_state, seek_state, read_state]
        · exact file.read_state

/-- A read that brings something leaves less to read. -/
theorem remaining_readSome (wellFormed : file.WellFormed) {bytes : List UInt8}
    (taken : (file.readSome room).result = .ok bytes) (some : bytes ≠ []) :
    (file.readSome room).state.remaining < file.remaining := by
  obtain ⟨other, result, -, next, -, position, -⟩ := readSome_taken wellFormed room
  have same : other = bytes := Except.ok.inj (result.symm.trans taken)
  have size : (file.readSome room).state.size = file.size := by rw [readSome_state]
  have length := List.length_pos_iff.mpr some
  have inFile := next.length_le
  rw [List.length_drop, length_contents wellFormed] at inFile
  rw [same] at position inFile
  rw [remaining, remaining, size, position]
  omega

/-! ### Reading again and again -/

/-- What reading again and again comes to, after some bytes have been read before. -/
structure Pulled (file : File) (room : Nat → Nat → Nat) (before bytes : List UInt8)
    (outcome : Outcome File FileError (List UInt8)) : Prop where
  result : outcome.result = .ok (before ++ bytes)
  next : bytes <+: file.contents.drop file.position.toNat
  state : outcome.state = { file with cursor := outcome.state.cursor }
  wellFormed : outcome.state.WellFormed
  opened : outcome.state.Opened ↔ file.Opened
  position : outcome.state.position.toNat = file.position.toNat + bytes.length
  stops : (∃ round : Nat, room round (before.length + bytes.length) = 0) ∨ ¬ file.Opened ∨
    bytes.length = file.remaining
  bounded : ∀ limit : Nat, (∀ round taken : Nat, room round taken ≤ limit - taken) →
    before.length ≤ limit → before.length + bytes.length ≤ limit

/-- A read into a buffer, and then reading again and again, is reading again and again. -/
theorem Pulled.prepend {after : File} {round : Nat} {roomAt : Nat → Nat → Nat}
    {before first bytes : List UInt8} {outcome : Outcome File FileError (List UInt8)}
    (pulled : after.Pulled roomAt (before ++ first) bytes outcome) (wellFormed : file.WellFormed)
    (state : after = { file with cursor := after.cursor })
    (next : first <+: file.contents.drop file.position.toNat)
    (opened : after.Opened ↔ file.Opened)
    (position : after.position.toNat = file.position.toNat + first.length)
    (fits : first.length ≤ roomAt round before.length) :
    file.Pulled roomAt before (first ++ bytes) outcome := by
  have contents : after.contents = file.contents := by
    rw [state]
    rfl
  have size : after.size = file.size := by rw [state]
  constructor
  · rw [← List.append_assoc]
    exact pulled.result
  · have later := pulled.next
    rw [contents, position] at later
    exact append_prefix_drop next later
  · rw [pulled.state, state]
  · exact pulled.wellFormed
  · exact pulled.opened.trans opened
  · rw [pulled.position, position, List.length_append, Nat.add_assoc]
  · rcases pulled.stops with ⟨last, noRoom⟩ | unopened | atEnd
    · refine Or.inl ⟨last, ?_⟩
      rw [List.length_append, Nat.add_assoc, ← List.length_append] at noRoom
      exact noRoom
    · exact Or.inr (Or.inl fun isOpened => unopened (opened.mpr isOpened))
    · have inFile := next.length_le
      rw [List.length_drop, length_contents wellFormed] at inFile
      refine Or.inr (Or.inr ?_)
      rw [List.length_append, atEnd, remaining, remaining, size, position]
      omega
  · intro limit within enough
    have firstWithin := Nat.le_trans fits (within round before.length)
    have total := pulled.bounded limit within (by rw [List.length_append]; omega)
    rw [List.length_append] at total ⊢
    omega

/-- The loop takes the next bytes of the file and stops only where there is no room, no byte, or no
pass. -/
theorem pullFrom_pulled (wellFormed : file.WellFormed) (room : Nat → Nat → Nat) (fuel round : Nat)
    (taken : Array UInt8) (events : Array Event) (enough : file.remaining < fuel) :
    ∃ bytes : List UInt8,
      file.Pulled room taken.toList bytes (pullFrom room round taken events fuel file) := by
  induction fuel generalizing round taken events file with
  | zero => exact absurd enough (Nat.not_lt_zero _)
  | succ fuel inductionHypothesis =>
    unfold pullFrom
    by_cases full : room round taken.size = 0
    · rw [if_pos full]
      exact ⟨[], by rw [List.append_nil]; rfl, List.nil_prefix, rfl, wellFormed, Iff.rfl, rfl,
        Or.inl ⟨round, full⟩, fun _ _ within => within⟩
    · obtain ⟨bytes, result, fits, next, opened, position, cause⟩ :=
        readSome_taken wellFormed (room round taken.size)
      have later := wellFormed_kept.readSome file (room round taken.size) wellFormed
      have state := file.readSome_state (room round taken.size)
      rw [if_neg full]
      dsimp only
      rw [result]
      cases bytes with
      | nil =>
        refine ⟨[], by rw [List.append_nil]; rfl, List.nil_prefix, state, later, opened, position,
          ?_, fun _ _ within => within⟩
        rcases cause rfl with noRoom | unopened | atEnd
        · exact absurd noRoom full
        · exact Or.inr (Or.inl unopened)
        · refine Or.inr (Or.inr ?_)
          rw [remaining, atEnd, Nat.sub_self]
          rfl
      | cons first rest =>
        have shorter := remaining_readSome wellFormed result (List.cons_ne_nil first rest)
        obtain ⟨bytes, pulled⟩ := inductionHypothesis later (round + 1) (taken ++ (first :: rest))
          (events ++ (file.readSome (room round taken.size)).events) (by omega)
        rw [Array.toList_appendList] at pulled
        exact ⟨_, pulled.prepend wellFormed state next opened position fits⟩

theorem pull_pulled (wellFormed : file.WellFormed) (room : Nat → Nat → Nat) :
    ∃ bytes : List UInt8, file.Pulled room [] bytes (file.pull room) :=
  pullFrom_pulled wellFormed room _ 0 #[] #[] (Nat.lt_succ_self _)

/-- Reading a number of bytes that are there succeeds and moves the cursor on by as many. -/
theorem readExact_of_le (wellFormed : file.WellFormed) (opened : file.Opened) {count : Nat}
    (inFile : count ≤ file.remaining) :
    (file.readExact count).result = .ok ((file.contents.drop file.position.toNat).take count) ∧
      (file.readExact count).state =
        { file with cursor := (file.readExact count).state.cursor } ∧
      (file.readExact count).state.WellFormed ∧ (file.readExact count).state.Opened ∧
      (file.readExact count).state.position.toNat = file.position.toNat + count := by
  obtain ⟨bytes, pulled⟩ := pull_pulled wellFormed fun _ taken => count - taken
  have atMost := pulled.bounded count (fun _ _ => Nat.le_refl _) (Nat.zero_le _)
  have length : bytes.length = count := by
    rw [List.length_nil, Nat.zero_add] at atMost
    rcases pulled.stops with ⟨round, full⟩ | unopened | atEnd
    · rw [List.length_nil, Nat.zero_add] at full
      omega
    · exact absurd opened unopened
    · omega
  have taken : bytes = (file.contents.drop file.position.toNat).take count := by
    rw [← length]
    exact List.prefix_iff_eq_take.mp pulled.next
  have result : ((file.take count).mapFailure StreamError.file).result = .ok bytes := by
    rw [Outcome.mapFailure, take, pulled.result]
    rfl
  have same : file.readExact count =
      .success (file.take count).state bytes
        (((file.take count).mapFailure StreamError.file).events ++ []) := by
    rw [readExact, Outcome.andThen_of_ok result, if_pos length]
    rfl
  rw [same]
  exact ⟨congrArg Except.ok taken, pulled.state, pulled.wellFormed, pulled.opened.mpr opened,
    pulled.position.trans (congrArg (file.position.toNat + ·) length)⟩

end File

end GappedFiles
