/-
This file proves when a registry gets a new file, and that calls which fail leave
no trace in it.

A file comes into being in two ways: it is touched, or a segment is appended where
there is none. The second way is the first one followed by the write, but only
where the write is accepted; where it is refused, there is no file afterwards, as
there was none before. A call on a name without a file that does not create one
fails, and the action it carries is not performed. An action that fails on the way
is the one case in which something has changed: what it did before it failed is
kept, and it is kept in that file alone.
-/

import GappedFiles.Proofs.FlatFile
import GappedFiles.Proofs.Isolation

namespace GappedFiles

/-! ### Steps that fail -/

namespace File

/-- Among the calls, made one after the other, the one with the given number is the first to be
refused. -/
def FailsAt (file : File) (calls : List FileCall) (step : Nat) (error : FileError) : Prop :=
  (∀ entry ∈ (file.transcript calls).take step, entry.2.isOk = true) ∧
    (file.transcript calls)[step]?.map Prod.snd = some (.error error)

instance (file : File) (calls : List FileCall) (step : Nat) (error : FileError) :
    Decidable (file.FailsAt calls step error) :=
  inferInstanceAs (Decidable (_ ∧ _))

variable {file : File} {calls : List FileCall} {step : Nat} {error : FileError}

/-- Calls that are made as long as they succeed leave the file as the calls up to the refused one
do, that one included. -/
theorem attempt_of_failsAt (fails : file.FailsAt calls step error) :
    (file.attempt calls).result = .error error ∧
      (file.attempt calls).state = file.runAll ((calls.take (step + 1)).map .file) := by
  induction calls generalizing file step with
  | nil => exact nomatch fails.2
  | cons call rest inductionHypothesis =>
    obtain ⟨succeed, refused⟩ := fails
    cases step with
    | zero =>
      have failed : (call.run file).result = .error error := Option.some.inj refused
      rw [attempt, Outcome.andThen_of_error failed]
      exact ⟨rfl, rfl⟩
    | succ step =>
      have succeeded : (call.run file).result.isOk = true :=
        succeed (call, (call.run file).result) List.mem_cons_self
      have later : (call.run file).state.FailsAt rest step error :=
        ⟨fun entry member => succeed entry (List.mem_cons_of_mem _ member), refused⟩
      obtain ⟨result, state⟩ := inductionHypothesis later
      cases first : (call.run file).result with
      | error failure =>
        rw [first] at succeeded
        cases succeeded
      | ok answer =>
        rw [attempt, Outcome.andThen_of_ok first]
        exact ⟨congrArg (Except.map (answer :: ·)) result, state⟩

/-- Calls that are made as long as they succeed fail because one of them is the first to be
refused. -/
theorem exists_failsAt (refused : (file.attempt calls).result = .error error) :
    ∃ step : Nat, file.FailsAt calls step error := by
  induction calls generalizing file with
  | nil => exact nomatch refused
  | cons call rest inductionHypothesis =>
    rw [attempt] at refused
    cases result : (call.run file).result with
    | error failure =>
      rw [Outcome.andThen_of_error result] at refused
      have failed : (call.run file).result = .error error :=
        result.trans (congrArg Except.error (Except.error.inj refused))
      have before : ∀ entry ∈ (file.transcript (call :: rest)).take 0, entry.2.isOk = true :=
        fun _ member => nomatch member
      exact ⟨0, before, congrArg some failed⟩
    | ok answer =>
      rw [Outcome.andThen_of_ok result] at refused
      have later : ((call.run file).state.attempt rest).result = .error error :=
        Outcome.map_result_eq_error.mp refused
      obtain ⟨step, succeed, failed⟩ := inductionHypothesis later
      refine ⟨step + 1, fun entry member => ?_, failed⟩
      rcases List.mem_cons.mp member with first | other
      · rw [first, result]
        rfl
      · exact succeed entry other

/-- Calls that are made as long as they succeed return answers exactly if each of the calls, made
one after the other, returns the answer in its place. -/
theorem attempt_eq_ok_iff {answers : List Answer} :
    (file.attempt calls).result = .ok answers ↔
      (file.transcript calls).map Prod.snd = answers.map .ok := by
  induction calls generalizing file answers with
  | nil =>
    cases answers with
    | nil => exact iff_of_true rfl rfl
    | cons answer later => exact iff_of_false nofun nofun
  | cons call rest inductionHypothesis =>
    rw [attempt, transcript, List.map_cons]
    cases result : (call.run file).result with
    | error failure =>
      rw [Outcome.andThen_of_error result]
      cases answers with
      | nil => exact iff_of_false nofun nofun
      | cons answer later => exact iff_of_false nofun fun same => nomatch (List.cons.inj same).1
    | ok first =>
      rw [Outcome.andThen_of_ok result]
      dsimp only
      rw [Outcome.map_result_eq_ok]
      constructor
      · rintro ⟨later, succeeded, rfl⟩
        rw [inductionHypothesis.mp succeeded, List.map_cons]
      · intro same
        cases answers with
        | nil => cases same
        | cons answer later =>
          obtain ⟨head, tail⟩ := List.cons.inj same
          exact ⟨later, inductionHypothesis.mpr tail, congrArg (· :: later) (Except.ok.inj head)⟩

/-- Calls that all succeed leave the file as making all of them does. -/
theorem attempt_state_of_ok {answers : List Answer}
    (succeeded : (file.attempt calls).result = .ok answers) :
    (file.attempt calls).state = file.runAll (calls.map .file) := by
  induction calls generalizing file answers with
  | nil => rfl
  | cons call rest inductionHypothesis =>
    rw [attempt] at succeeded ⊢
    cases result : (call.run file).result with
    | error failure =>
      rw [Outcome.andThen_of_error result] at succeeded
      cases succeeded
    | ok first =>
      rw [Outcome.andThen_of_ok result] at succeeded ⊢
      obtain ⟨later, rest, -⟩ := Outcome.map_result_eq_ok.mp succeeded
      exact inductionHypothesis rest

/-! ### The first write to a file -/

/-- An empty file refuses filler of every length. -/
theorem write_filler_empty (filler : Filler) (length : UInt64) :
    ∃ error : FileError, ((empty filler).write (.filler length)).result = .error error := by
  have written := (empty filler).write_written (.filler length)
  generalize (empty filler).write (.filler length) = outcome at written ⊢
  cases written with
  | tooLong => exact ⟨_, rfl⟩
  | unheld => exact ⟨_, rfl⟩
  | extended earlier last length fits split => exact absurd split.symm (List.concat_ne_nil _ _)

theorem write_literal_nil (file : File) (limit : file.size.toNat ≤ maxOffset) :
    file.write (.literal []) = .success file 0 [] := by
  have written := file.write_written (.literal [])
  generalize file.write (.literal []) = outcome at written ⊢
  cases written with
  | tooLong segment exceeds => exact absurd limit (Nat.not_le_of_lt exceeds)
  | ignored => rfl

end File

/-! ### Calls that are refused -/

/-- Whether a call does one thing to the registry, instead of performing an action on a file in
it. -/
def RegistryCall.direct : RegistryCall → Bool
  | .touch _ | .append .. | .writeLiteral .. | .writeFiller .. | .length _ | .remove _ => true
  | .withFile .. | .attempt .. => false

/-- A direct call that is refused leaves its slot as it was. -/
theorem RegistryCall.runOn_state_of_error {filler : Filler} {slot : Option File}
    {call : RegistryCall} {error : FileError} (direct : call.direct = true)
    (refused : (call.runOn filler slot).result = .error error) :
    (call.runOn filler slot).state = slot := by
  cases call with
  | touch path => cases refused
  | append | writeLiteral | writeFiller =>
    exact writeSlot_state_of_error (Outcome.map_result_eq_error.mp refused)
  | length path => cases slot <;> rfl
  | remove path =>
    cases slot with
    | none => rfl
    | some file => cases refused
  | withFile | attempt => cases direct

namespace Registry

variable {registry : Registry} {path : String}

theorem run_unnamed (registry : Registry) {call : RegistryCall} (unnamed : call.path = "") :
    call.run registry = .failure registry (.invalidPath "Path cannot be empty") := by
  cases call <;> cases unnamed <;> rfl

/-- A direct call that is refused leaves the registry as it was, with all its files. -/
theorem run_state_of_error {call : RegistryCall} {error : FileError} (direct : call.direct = true)
    (refused : (call.run registry).result = .error error) : (call.run registry).state = registry := by
  by_cases unnamed : call.path = ""
  · rw [registry.run_unnamed unnamed]
    rfl
  · have changed := registry.run_changed call
    have own := registry.run_own unnamed
    refine eq_of_find? changed.filler fun other => ?_
    by_cases same : call.path = other
    · subst same
      have refusedOn : (call.runOn registry.filler (registry.find? call.path)).result =
          .error error := by
        rw [← own]
        exact refused
      exact (congrArg Outcome.state own).trans (RegistryCall.runOn_state_of_error direct refusedOn)
    · exact changed.find?_other same

/-- No file is ever stored under the empty name. -/
theorem find?_unnamed (calls : List RegistryCall) (absent : registry.find? "" = none) :
    (registry.runAll calls).find? "" = none := by
  induction calls generalizing registry with
  | nil => exact absent
  | cons call rest inductionHypothesis =>
    rw [runAll_cons]
    refine inductionHypothesis ?_
    by_cases unnamed : call.path = ""
    · rw [registry.run_unnamed unnamed]
      exact absent
    · rw [(registry.run_changed call).find?_other unnamed, absent]

theorem filler_runAll (registry : Registry) (calls : List RegistryCall) :
    (registry.runAll calls).filler = registry.filler := by
  induction calls generalizing registry with
  | nil => rfl
  | cons call rest inductionHypothesis =>
    exact (inductionHypothesis _).trans (registry.run_changed call).filler

/-! ### Files that are created -/

/-- A file that is put where it is already changes nothing. -/
theorem store_of_find? {file : File} (found : registry.find? path = some file) :
    registry.store path file = registry := by
  refine eq_of_find? rfl fun other => ?_
  rw [find?_store]
  split
  · rename_i same
    rw [← same, found]
  · rfl

theorem store_store (registry : Registry) (path : String) (first second : File) :
    (registry.store path first).store path second = registry.store path second := by
  refine eq_of_find? rfl fun other => ?_
  rw [find?_store, find?_store, find?_store]
  split <;> rfl

/-- Touching a name puts there the file that is there, or an empty one. -/
theorem touch_eq_store (named : path ≠ "") :
    registry.touch path =
      .success (registry.store path ((registry.find? path).getD (.empty registry.filler)))
        () [] := by
  rw [touch, guarded_of_named named]
  cases found : registry.find? path with
  | none => rfl
  | some file =>
    show Outcome.success registry () [] = .success (registry.store path file) () []
    rw [store_of_find? found]

/-- An accepted segment is written to the file that is there, or to an empty one. -/
theorem append_of_ok {segment : Segment} {count : Nat}
    (accepted : (registry.append path segment).result = .ok count) :
    path ≠ "" ∧
      registry.append path segment =
        (((registry.find? path).getD (.empty registry.filler)).write segment).mapState
          (registry.store path) := by
  by_cases unnamed : path = ""
  · subst unnamed
    cases accepted
  · refine ⟨unnamed, ?_⟩
    rw [append, guarded_of_named unnamed] at accepted ⊢
    cases found : registry.find? path with
    | some file => rfl
    | none =>
      rw [found] at accepted
      cases result : ((File.empty registry.filler).write segment).result with
      | ok written =>
        dsimp only [Option.getD_none]
        rw [result]
      | error failure =>
        dsimp only at accepted
        rw [result] at accepted
        change ((File.empty registry.filler).write segment).result = _ at accepted
        cases result.symm.trans accepted

/-- Performing an action on a file that is there changes that file as the action does. -/
theorem withFile_of_some {Result : Type} {file : File} (named : path ≠ "")
    (found : registry.find? path = some file)
    (action : File → Outcome File FileError Result) :
    registry.withFile path action = (action file).mapState (registry.store path) := by
  rw [withFile, guarded_of_named named, found]

/-- Where there is no file, nothing is performed. -/
theorem withFile_of_none {Result : Type} (named : path ≠ "") (absent : registry.find? path = none)
    (action : File → Outcome File FileError Result) :
    registry.withFile path action = .failure registry (.fileNotFound path) := by
  rw [withFile, guarded_of_named named, absent]

/-- Appending is touching the name and then writing to the file that is there. -/
theorem append_eq_touch_write {segment : Segment} {count : Nat}
    (accepted : (registry.append path segment).result = .ok count) :
    (registry.touch path).result = .ok () ∧
      (registry.touch path).state.withFile path (·.write segment) =
        registry.append path segment := by
  obtain ⟨named, append⟩ := append_of_ok accepted
  rw [append, touch_eq_store named]
  refine ⟨rfl, ?_⟩
  show (registry.store path ((registry.find? path).getD (.empty registry.filler))).withFile path
    (·.write segment) = _
  rw [withFile_of_some named (registry.find?_store_self path _)]
  exact congrArg (Outcome.mk · _ _) (registry.store_store path _ _)

/-- Where there is no file, appending returns what the first write to a new one returns, and puts
that file there exactly if the write is accepted. -/
theorem append_of_none (named : path ≠ "") (absent : registry.find? path = none)
    (segment : Segment) :
    let written := (File.empty registry.filler).write segment
    (registry.append path segment).result = written.result ∧
      ∀ file : File, (registry.append path segment).state.find? path = some file ↔
        (∃ count : Nat, written.result = .ok count) ∧ file = written.state := by
  intro written
  have own : (registry.append path segment).mapState (·.find? path) =
      writeSlot registry.filler (registry.find? path) segment :=
    append_own named segment
  rw [absent] at own
  refine ⟨congrArg Outcome.result own, fun file => ?_⟩
  have slot : (registry.append path segment).state.find? path =
      (writeSlot registry.filler none segment).state := congrArg Outcome.state own
  rw [slot]
  cases result : written.result with
  | ok count =>
    rw [writeSlot_of_ok none result]
    exact ⟨fun found => ⟨⟨count, rfl⟩, (Option.some.inj found).symm⟩,
      fun created => congrArg some created.2.symm⟩
  | error error =>
    rw [writeSlot_of_error none result]
    refine iff_of_false (fun found => nomatch found) ?_
    rintro ⟨⟨count, accepted⟩, -⟩
    cases accepted

/-- Where there is no file, filler does not create one. -/
theorem append_filler_of_none (named : path ≠ "") (absent : registry.find? path = none)
    (length : UInt64) : (registry.append path (.filler length)).state = registry := by
  obtain ⟨error, refused⟩ := File.write_filler_empty registry.filler length
  have result : (RegistryCall.run registry (.append path (.filler length))).result =
      .error error :=
    Outcome.map_result_eq_error.mpr ((append_of_none named absent _).1.trans refused)
  exact run_state_of_error rfl result

/-- Calls made on a file up to the first that is refused fail exactly if there is such a call, and
then they have changed this file as far as they were made, and no other. -/
theorem attempt_of_some {file : File} (named : path ≠ "")
    (found : registry.find? path = some file) (calls : List FileCall) (error : FileError) :
    let outcome := registry.withFile path (·.attempt calls)
    (outcome.result = .error error ↔ ∃ step : Nat, file.FailsAt calls step error) ∧
      ∀ step : Nat, file.FailsAt calls step error → ∀ other : String,
        outcome.state.find? other =
          if path = other then some (file.runAll ((calls.take (step + 1)).map .file))
          else registry.find? other := by
  intro outcome
  have performed : outcome = (file.attempt calls).mapState (registry.store path) :=
    withFile_of_some named found (·.attempt calls)
  rw [performed]
  refine ⟨⟨fun refused => File.exists_failsAt refused, ?_⟩, ?_⟩
  · rintro ⟨step, fails⟩
    exact (File.attempt_of_failsAt fails).1
  · intro step fails other
    rw [← (File.attempt_of_failsAt fails).2]
    exact registry.find?_store path other _

end Registry

/-- A registry is changed by what succeeds, and by nothing else but actions on its files. No file is
ever under the empty name, and every call on that name is refused. A call that does one thing to the
registry and is refused leaves it as it was, with all files and their cursors. Where there is no
file, appending creates one exactly if an empty file accepts the segment, and returns what the write
to that file returns; so an empty literal creates a file, and filler creates none. An accepted
append is a touch and then a write to the file that is there. An action on a name without a file is
refused and not performed. Calls made on a file up to the first that is refused leave this file as
these calls do, the refused one included, and no other file is changed. -/
theorem registry_atomic (filler : Filler) (history : List RegistryCall) :
    let registry := (Registry.empty filler).runAll history
    let fresh := File.empty filler
    (registry.find? "" = none ∧
        ∀ call : RegistryCall, call.path = "" →
          call.run registry = .failure registry (.invalidPath "Path cannot be empty")) ∧
      (∀ (call : RegistryCall) (error : FileError), call.direct = true →
        (call.run registry).result = .error error → (call.run registry).state = registry) ∧
      (∀ path : String, path ≠ "" → registry.find? path = none →
        (∀ segment : Segment,
          (registry.append path segment).result = (fresh.write segment).result ∧
            ∀ file : File, (registry.append path segment).state.find? path = some file ↔
              (∃ count : Nat, (fresh.write segment).result = .ok count) ∧
                file = (fresh.write segment).state) ∧
          (registry.append path (.literal [])).state.find? path = some fresh ∧
          ∀ length : UInt64, (registry.append path (.filler length)).state = registry) ∧
      (∀ (path : String) (segment : Segment) (count : Nat),
        (registry.append path segment).result = .ok count →
          (registry.touch path).result = .ok () ∧
            (registry.touch path).state.withFile path (·.write segment) =
              registry.append path segment) ∧
      (∀ path : String, path ≠ "" → registry.find? path = none →
        ∀ (Result : Type) (action : File → Outcome File FileError Result),
          registry.withFile path action = .failure registry (.fileNotFound path)) ∧
      ∀ (path : String) (file : File), registry.find? path = some file →
        ∀ (calls : List FileCall) (error : FileError),
          let outcome := registry.withFile path (·.attempt calls)
          (outcome.result = .error error ↔ ∃ step : Nat, file.FailsAt calls step error) ∧
            ∀ step : Nat, file.FailsAt calls step error → ∀ other : String,
              outcome.state.find? other =
                if path = other then some (file.runAll ((calls.take (step + 1)).map .file))
                else registry.find? other := by
  intro registry fresh
  have sameFiller : registry.filler = filler := (Registry.empty filler).filler_runAll history
  have unnamed : registry.find? "" = none :=
    Registry.find?_unnamed history (Registry.find?_empty filler "")
  refine ⟨⟨unnamed, fun call => registry.run_unnamed⟩, fun call error => Registry.run_state_of_error,
    fun path named absent => ?_, fun path segment count => Registry.append_eq_touch_write,
    fun path named absent Result => Registry.withFile_of_none named absent,
    fun path file found => ?_⟩
  · have created := fun segment => Registry.append_of_none named absent segment
    rw [sameFiller] at created
    have nothing : fresh.write (.literal []) = .success fresh 0 [] :=
      fresh.write_literal_nil (Nat.zero_le _)
    refine ⟨created, ((created (.literal [])).2 fresh).mpr ?_,
      Registry.append_filler_of_none named absent⟩
    rw [nothing]
    exact ⟨⟨0, rfl⟩, rfl⟩
  · have named : path ≠ "" := by
      intro empty
      rw [empty, unnamed] at found
      cases found
    exact Registry.attempt_of_some named found

/-- Steps of which the third fails on a file that holds two bytes, and appends to names without a
file. -/
theorem registry_atomic_third_step :
    let filler : Filler := { size := 4, byte := 7, size_pos := by decide }
    let registry := (Registry.empty filler).runAll [.append "a" (.literal [1, 2])]
    let file := ((File.empty filler).write (.literal [1, 2])).state
    let steps : List FileCall := [.startPass, .read, .skip 5, .write (.literal [3])]
    let outcome := registry.withFile "a" (·.attempt steps)
    file.FailsAt steps 2 (.seekPastEnd 7 2) ∧ outcome.result = .error (.seekPastEnd 7 2) ∧
      outcome.state.find? "a" =
        some (file.runAll [.file .startPass, .file .read, .file (.skip 5)]) ∧
      outcome.state.find? "b" = none ∧
      (registry.append "b" (.literal [])).state.find? "b" = some (.empty filler) ∧
      (registry.append "b" (.filler 0)).state = registry ∧
      (registry.append "" (.literal [1])).state = registry := by
  intro filler registry file steps outcome
  obtain ⟨-, refused, created, -, -, attempted⟩ :=
    registry_atomic filler [.append "a" (.literal [1, 2])]
  have found : registry.find? "a" = some file := by decide +kernel
  have absent : registry.find? "b" = none := by decide +kernel
  have fails : file.FailsAt steps 2 (.seekPastEnd 7 2) := by decide
  obtain ⟨failure, states⟩ := attempted "a" file found steps (.seekPastEnd 7 2)
  obtain ⟨-, literal, filler⟩ := created "b" (by decide) absent
  exact ⟨fails, failure.mpr ⟨2, fails⟩, states 2 fails "a", (states 2 fails "b").trans absent,
    literal, filler 0,
    refused (.append "" (.literal [1])) (.invalidPath "Path cannot be empty") rfl rfl⟩

end GappedFiles
