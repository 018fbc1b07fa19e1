/-
This file says what the operations of a byte stream come to that read again and
again: reading an exact number of bytes, at most a number of bytes, or all.

The loop behind them is described here once more without a bound on its rounds, as
it goes on for as long as there is room and something comes. It ends on every file
that calls lead to, because a read that brings something leaves less to read, and it
comes to what the bounded loop comes to. What it returns is told by the bytes from
the position on, the number of bytes that were asked for and nothing else.
-/

import GappedFiles.Proofs.Growth
import GappedFiles.Proofs.Landing

namespace GappedFiles

namespace File

/-! ### The loop without a bound -/

/-- What reading again and again comes to, from the round `round` on and after some bytes have been
taken, if it ends at all. -/
inductive Loops (room : Nat → Nat → Nat) :
    Nat → List UInt8 → File → Outcome File FileError (List UInt8) → Prop
  | full (round : Nat) (taken : List UInt8) (file : File)
      (noRoom : room round taken.length = 0) :
      Loops room round taken file (.success file taken [])
  | ended (round : Nat) (taken : List UInt8) (file : File)
      (someRoom : room round taken.length ≠ 0)
      (nothing : (file.readSome (room round taken.length)).result = .ok []) :
      Loops room round taken file
        (.success (file.readSome (room round taken.length)).state taken
          (file.readSome (room round taken.length)).events)
  | further (round : Nat) (taken bytes : List UInt8) (file : File)
      (outcome : Outcome File FileError (List UInt8))
      (someRoom : room round taken.length ≠ 0) (some : bytes ≠ [])
      (read : (file.readSome (room round taken.length)).result = .ok bytes)
      (later : Loops room (round + 1) (taken ++ bytes)
        (file.readSome (room round taken.length)).state outcome) :
      Loops room round taken file
        { outcome with
          events := (file.readSome (room round taken.length)).events ++ outcome.events }
  | refused (round : Nat) (taken : List UInt8) (file : File) (error : FileError)
      (someRoom : room round taken.length ≠ 0)
      (failed : (file.readSome (room round taken.length)).result = .error error) :
      Loops room round taken file
        { state := (file.readSome (room round taken.length)).state
          result := .error error
          events := (file.readSome (room round taken.length)).events }

variable {file : File} {room : Nat → Nat → Nat} {round : Nat} {taken : List UInt8}

/-- The loop can end in one way only. -/
theorem Loops.unique {first second : Outcome File FileError (List UInt8)}
    (ends : Loops room round taken file first) (endsToo : Loops room round taken file second) :
    first = second := by
  induction ends generalizing second with
  | full round taken file noRoom =>
    cases endsToo with
    | full => rfl
    | ended _ _ _ someRoom => exact absurd noRoom someRoom
    | further _ _ _ _ _ someRoom => exact absurd noRoom someRoom
    | refused _ _ _ _ someRoom => exact absurd noRoom someRoom
  | ended round taken file someRoom nothing =>
    cases endsToo with
    | full _ _ _ noRoom => exact absurd noRoom someRoom
    | ended => rfl
    | further _ _ _ _ _ _ some read =>
      exact absurd (Except.ok.inj (read.symm.trans nothing)) some
    | refused _ _ _ _ _ failed => exact nomatch nothing.symm.trans failed
  | further round taken bytes file outcome someRoom some read later inductionHypothesis =>
    cases endsToo with
    | full _ _ _ noRoom => exact absurd noRoom someRoom
    | ended _ _ _ _ nothing => exact absurd (Except.ok.inj (read.symm.trans nothing)) some
    | further _ _ other _ _ _ _ readToo laterToo =>
      have same : bytes = other := Except.ok.inj (read.symm.trans readToo)
      subst same
      rw [inductionHypothesis laterToo]
    | refused _ _ _ _ _ failed => exact nomatch read.symm.trans failed
  | refused round taken file error someRoom failed =>
    cases endsToo with
    | full _ _ _ noRoom => exact absurd noRoom someRoom
    | ended _ _ _ _ nothing => exact nomatch nothing.symm.trans failed
    | further _ _ _ _ _ _ _ read => exact nomatch read.symm.trans failed
    | refused _ _ _ other _ failedToo =>
      have same : error = other := Except.error.inj (failed.symm.trans failedToo)
      rw [same]

/-- The bounded loop ends before its bound is reached, and then it is the loop without one. -/
theorem pullFrom_loops (wellFormed : file.WellFormed) (room : Nat → Nat → Nat) (fuel round : Nat)
    (taken : Array UInt8) (events : Array Event) (enough : file.remaining < fuel) :
    ∃ outcome : Outcome File FileError (List UInt8),
      Loops room round taken.toList file outcome ∧
        pullFrom room round taken events fuel file =
          { outcome with events := events.toList ++ outcome.events } := by
  -- A round that takes something leaves less to read, so the fuel outlasts the rounds.
  induction fuel generalizing round taken events file with
  | zero => exact absurd enough (Nat.not_lt_zero _)
  | succ fuel inductionHypothesis =>
    unfold pullFrom
    by_cases full : room round taken.size = 0
    · rw [if_pos full]
      exact ⟨_, .full round taken.toList file full,
        congrArg (Outcome.mk file (.ok taken.toList)) (List.append_nil _).symm⟩
    · rw [if_neg full]
      dsimp only
      cases result : (file.readSome (room round taken.size)).result with
      | error error =>
        refine ⟨_, .refused round taken.toList file error full result, ?_⟩
        rw [Array.toList_appendList]
        rfl
      | ok bytes =>
        cases bytes with
        | nil =>
          refine ⟨_, .ended round taken.toList file full result, ?_⟩
          rw [Array.toList_appendList]
          rfl
        | cons first rest =>
          have later := wellFormed_kept.readSome file (room round taken.size) wellFormed
          have shorter := remaining_readSome wellFormed result (List.cons_ne_nil first rest)
          obtain ⟨outcome, ends, same⟩ := inductionHypothesis later (round + 1)
            (taken ++ (first :: rest))
            (events ++ (file.readSome (room round taken.size)).events) (by omega)
          rw [Array.toList_appendList] at ends same
          rw [List.append_assoc] at same
          exact ⟨_, .further round taken.toList _ file outcome full (List.cons_ne_nil first rest)
            result ends, same⟩

/-- The loop ends, and in no other way than the bounded one. -/
theorem loops_iff_pull (wellFormed : file.WellFormed) (room : Nat → Nat → Nat)
    (outcome : Outcome File FileError (List UInt8)) :
    Loops room 0 [] file outcome ↔ outcome = file.pull room := by
  obtain ⟨ending, ends, same⟩ :=
    pullFrom_loops wellFormed room (file.remaining + 1) 0 #[] #[] (Nat.lt_succ_self _)
  have pulled : file.pull room = ending := same
  rw [pulled]
  exact ⟨fun endsToo => endsToo.unique ends, fun equal => equal ▸ ends⟩

/-! ### How far the cursor is moved -/

theorem position_finished (wellFormed : file.WellFormed) :
    file.finished.position.toNat = file.position.toNat + file.upcoming.length := by
  have position := wellFormed.position_le
  by_cases opened : file.Opened
  · rw [finished, upcoming, if_pos opened, if_pos opened, List.length_drop,
      length_contents wellFormed]
    show file.size.toNat = _
    omega
  · rw [finished, upcoming, if_neg opened, if_neg opened]
    rfl

/-- The cursor is moved on by as many bytes as are asked for, or as there are. -/
theorem position_through (wellFormed : file.WellFormed) (count : Nat) :
    (file.through count).position.toNat =
      file.position.toNat + min count file.upcoming.length := by
  rw [through]
  split
  · rename_i enough
    have length : (file.upcoming.take count).length = count := by
      rw [List.length_take, Nat.min_eq_left enough]
    have landed := position_landed wellFormed (List.take_prefix count file.upcoming)
    rw [length] at landed
    rw [landed, Nat.min_eq_left enough]
  · rename_i short
    rw [position_finished wellFormed, Nat.min_eq_right (Nat.le_of_not_le short)]

/-- What is upcoming is what was written, from the position on. -/
theorem upcoming_runAll (filler : Filler) (calls : List Call) :
    ((empty filler).runAll calls).upcoming =
      if ((empty filler).runAll calls).Opened then
        (((empty filler).accepted calls).flatMap (Segment.expand filler)).drop
          ((empty filler).runAll calls).position.toNat
      else [] := by
  have contents : ((empty filler).runAll calls).contents =
      ((empty filler).accepted calls).flatMap (Segment.expand filler) :=
    (contents_runAll (wellFormed_empty filler) calls).2
  rw [upcoming, contents]

end File

/-- Reading again and again consumes exactly what it should. On every file that calls lead to, and
for buffers of all sizes, the loop ends, in one way only, and changes nothing but the cursor. An
exact number of bytes is read if there are so many from the position on, and otherwise all of them
are consumed and the end was unexpected. Reading at most a number of bytes, into buffers of any
sizes that do not exceed what is missing, returns the first of them, as many as there are; reading
to the end returns them all and leaves the same file whatever the buffers are. The position is moved
on by as many bytes as were consumed. No refusal by the file is ever returned. -/
theorem collecting_consumes (filler : Filler) (calls : List Call) :
    let file := (File.empty filler).runAll calls
    let written := ((File.empty filler).accepted calls).flatMap (Segment.expand filler)
    let upcoming := if file.Opened then written.drop file.position.toNat else []
    (∀ room : Nat → Nat → Nat,
        (∀ outcome, File.Loops room 0 [] file outcome ↔ outcome = file.pull room) ∧
          file.Moved (file.pull room).state) ∧
      (∀ count : Nat, let read := file.readExact count
        (count ≤ upcoming.length → read.result = .ok (upcoming.take count) ∧
            read.state.position.toNat = file.position.toNat + count) ∧
          (upcoming.length < count → read.result = .error .unexpectedEnd ∧
            read.state.position.toNat = file.position.toNat + upcoming.length) ∧
          file.Moved read.state) ∧
      (∀ (limit : Nat) (room : Nat → Nat → Nat),
        (∀ round taken : Nat, room round taken ≤ limit - taken) →
          (∀ round taken : Nat, room round taken = 0 → limit ≤ taken) →
            let read := file.pull room
            read.result = .ok (upcoming.take limit) ∧
              read.state.position.toNat = file.position.toNat + min limit upcoming.length ∧
              (file.take limit).result = read.result ∧ (file.take limit).state = read.state) ∧
      ∀ schedule other : File.Schedule, let read := file.readToEnd schedule
        read.result = .ok upcoming ∧
          read.state.position.toNat = file.position.toNat + upcoming.length ∧
          file.Moved read.state ∧ (file.readToEnd other).state = read.state := by
  intro file written upcoming
  have wellFormed : file.WellFormed := File.Reachable.wellFormed ⟨filler, calls, rfl⟩
  have same : file.upcoming = upcoming := File.upcoming_runAll filler calls
  refine ⟨fun room => ⟨File.loops_iff_pull wellFormed room, File.moved_pullFrom _ _ _ _ _ file⟩,
    fun count => ?_, fun limit room within enough => ?_, fun schedule other => ?_⟩
  · obtain ⟨result, state⟩ := File.readExact_collected wellFormed count
    have position := File.position_through wellFormed count
    rw [← state] at position
    rw [same] at result position
    refine ⟨fun there => ?_, fun short => ?_, file.moved_readExact count⟩
    · rw [if_pos there] at result
      rw [Nat.min_eq_left there] at position
      exact ⟨result, position⟩
    · rw [if_neg (Nat.not_le_of_lt short)] at result
      rw [Nat.min_eq_right (Nat.le_of_lt short)] at position
      exact ⟨result, position⟩
  · obtain ⟨result, state⟩ := File.pull_limited wellFormed within enough
    obtain ⟨whole, final⟩ := File.take_collected wellFormed limit
    have position := File.position_through wellFormed limit
    rw [← state, same] at position
    exact ⟨same ▸ result, position, whole.trans result.symm, final.trans state.symm⟩
  · obtain ⟨result, state⟩ := File.readToEnd_collected wellFormed schedule
    have position := File.position_finished wellFormed
    rw [← state, same] at position
    exact ⟨same ▸ result, position, File.moved_pullFrom _ _ _ _ _ file,
      (File.readToEnd_collected wellFormed other).2.trans state.symm⟩

/-- From the last byte of a payload over a gap to a block behind it: fewer bytes than there are,
more, at most six of them one by one, and all of them into two sorts of buffers. -/
theorem collecting_consumes_over_gap :
    let filler : Filler := { size := 4, byte := 7, size_pos := by decide }
    let calls : List Call :=
      [.file (.write (.literal [1, 2, 3])), .file (.write (.filler 6)),
        .file (.write (.literal [9])), .file (.seek 2 .start)]
    let file := (File.empty filler).runAll calls
    let upcoming : List UInt8 := [3, 7, 7, 7, 7, 7, 7, 9]
    let single : Nat → Nat → Nat := fun _ taken => min 1 (6 - taken)
    let growing : File.Schedule := { room := fun round => round + 1, room_pos := Nat.succ_pos }
    File.Loops single 0 [] file (file.pull single) ∧
      (file.readExact 5).result = .ok [3, 7, 7, 7, 7] ∧
      (file.readExact 9).result = .error .unexpectedEnd ∧
      (file.readExact 9).state.position.toNat = 10 ∧
      (file.pull single).result = .ok (upcoming.take 6) ∧
      (file.readToEnd .steady).result = .ok upcoming ∧
      (file.readToEnd growing).state = (file.readToEnd .steady).state := by
  intro filler calls file upcoming single growing
  obtain ⟨loops, exact, limited, everything⟩ := collecting_consumes filler calls
  have enough := (exact 5).1 (by decide)
  have short := (exact 9).2.1 (by decide)
  have some := limited 6 single (fun _ _ => Nat.min_le_right _ _) (by
    intro _ taken noRoom
    change min 1 (6 - taken) = 0 at noRoom
    omega)
  have all := everything .steady growing
  exact ⟨((loops single).1 _).mpr rfl, enough.1.trans (by decide), short.1,
    short.2.trans (by decide), some.1.trans (by decide), all.1.trans (by decide), all.2.2.2⟩

end GappedFiles
