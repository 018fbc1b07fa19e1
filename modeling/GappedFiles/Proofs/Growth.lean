/-
This file relates a file to the segments that it has accepted.

Some things about a file are told by these segments alone, in their order: its
bytes are theirs, and so are its blocks and its size. What makes this so is the
same each time. The cursor is not looked at, and an accepted write adds its
segment. So it is enough to say what one write does, and it holds of every run of
calls, whatever was read and refused on the way.
-/

import GappedFiles.Proofs.FlatFile
import GappedFiles.Proofs.Movement

namespace GappedFiles

/-! ### Accepted segments -/

/-- The segment that a call has appended, if it returned a result. -/
def Call.accepted (call : Call) : Except CallError Answer → List Segment
  | .ok _ => call.segment?.toList
  | .error _ => []

/-- The segments that calls made one after the other have appended, in order. -/
def File.accepted (file : File) : List Call → List Segment
  | [] => []
  | call :: rest => call.accepted (call.run file).result ++ (call.run file).state.accepted rest

@[simp] theorem File.accepted_cons (file : File) (call : Call) (rest : List Call) :
    file.accepted (call :: rest) =
      call.accepted (call.run file).result ++ (call.run file).state.accepted rest :=
  rfl

/-- A call that appends a segment leaves the file as the write of the segment does, and has
appended it if the write was accepted. -/
theorem Call.run_of_segment? {call : Call} {segment : Segment} (file : File)
    (appends : call.segment? = some segment) :
    (call.run file).state = (file.write segment).state ∧
      call.accepted (call.run file).result =
        match (file.write segment).result with
        | .ok _ => [segment]
        | .error _ => [] := by
  obtain ⟨answer, report, -, run⟩ := Call.run_eq_write appends
  rw [run]
  refine ⟨rfl, ?_⟩
  show call.accepted (.mapError report (.map answer (file.write segment).result)) = _
  cases (file.write segment).result with
  | ok count => exact congrArg Option.toList appends
  | error error => rfl

/-! ### Properties that grow with the file -/

/-- The property relates a file to the segments that were appended to it: it does not look at the
cursor, and an accepted write adds its segment. -/
structure Grown (Property : File → List Segment → Prop) : Prop where
  moved : ∀ {file after : File} {segments : List Segment}, file.Moved after →
    Property file segments → Property after segments
  accepted : ∀ {file : File} {segments : List Segment} {segment : Segment} {count : Nat},
    file.WellFormed → (file.write segment).result = .ok count →
    Property file segments → Property (file.write segment).state (segments ++ [segment])

/-- A property that grows with the file does so over every run of calls. -/
theorem Grown.runAll {Property : File → List Segment → Prop} (grown : Grown Property)
    (calls : List Call) {file : File} {segments : List Segment} (wellFormed : file.WellFormed)
    (before : Property file segments) :
    Property (file.runAll calls) (segments ++ file.accepted calls) := by
  induction calls generalizing file segments with
  | nil =>
    rw [File.accepted, List.append_nil]
    exact before
  | cons call rest inductionHypothesis =>
    rw [File.accepted_cons, ← List.append_assoc]
    refine inductionHypothesis (wellFormed_kept.runAll [call] file wellFormed) ?_
    cases appends : call.segment? with
    | none =>
      have nothing : call.accepted (call.run file).result = [] := by
        cases (call.run file).result with
        | ok answer => rw [Call.accepted, appends]; rfl
        | error error => rfl
      rw [nothing, List.append_nil]
      exact grown.moved (file.moved_run appends) before
    | some segment =>
      obtain ⟨state, accepted⟩ := call.run_of_segment? file appends
      show Property (call.run file).state _
      rw [state, accepted]
      cases result : (file.write segment).result with
      | ok count => exact grown.accepted wellFormed result before
      | error error =>
        rw [File.write_state_of_error result, List.append_nil]
        exact before

/-- The contents are the bytes of what was appended. -/
theorem contents_grown (filler : Filler) (base : List UInt8) :
    Grown fun file segments =>
      file.filler = filler ∧ file.contents = base ++ segments.flatMap (Segment.expand filler) where
  moved := by
    rintro file after segments moved ⟨sameFiller, contents⟩
    rw [File.Moved] at moved
    rw [moved]
    exact ⟨sameFiller, contents⟩
  accepted := by
    rintro file segments segment count wellFormed accepted ⟨sameFiller, contents⟩
    refine ⟨(file.write_filler segment).trans sameFiller, ?_⟩
    rcases file.write_contents wellFormed segment with ⟨-, -, grown⟩ | ⟨error, refused, -⟩
    · rw [grown, contents, sameFiller, List.flatMap_append, List.flatMap_singleton,
        List.append_assoc]
    · cases accepted.symm.trans refused

theorem File.contents_runAll {file : File} (wellFormed : file.WellFormed) (calls : List Call) :
    (file.runAll calls).filler = file.filler ∧
      (file.runAll calls).contents =
        file.contents ++ (file.accepted calls).flatMap (Segment.expand file.filler) := by
  have start : file.contents = file.contents ++ [].flatMap (Segment.expand file.filler) :=
    (List.append_nil _).symm
  exact (contents_grown file.filler file.contents).runAll calls wellFormed ⟨rfl, start⟩

end GappedFiles
