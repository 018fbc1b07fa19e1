/-
This file proves that the files of a registry do not see each other.

What the calls on one name come to is told by a slot, which holds a file or none.
It knows of no other names. A call on a name does to the registry what it does to
the slot of that name, and it changes no other slot. So whoever looks at one name
only sees, in every run of calls, a slot that the calls on this name drive alone,
and the calls on other names can be struck out of the run without a trace.
-/

import GappedFiles.Proofs.Operations
import GappedFiles.Registry.Call

namespace GappedFiles

/-! ### Slots -/

/-- Performs an action on the file of a slot, where there is one. -/
def onPresent {Result : Type} (slot : Option File) (path : String)
    (action : File → Outcome (Option File) FileError Result) :
    Outcome (Option File) FileError Result :=
  match slot with
  | some file => action file
  | none => .failure none (.fileNotFound path)

/-- Writes a segment to the file of a slot, or to a new one where there is none. A write that is
refused leaves the slot as it was. -/
def writeSlot (filler : Filler) (slot : Option File) (segment : Segment) :
    Outcome (Option File) FileError Nat :=
  let written := (slot.getD (.empty filler)).write segment
  { written with state := if written.result.isOk then some written.state else slot }

theorem writeSlot_of_ok {filler : Filler} (slot : Option File) {segment : Segment} {count : Nat}
    (accepted : ((slot.getD (.empty filler)).write segment).result = .ok count) :
    writeSlot filler slot segment = ((slot.getD (.empty filler)).write segment).mapState some := by
  unfold writeSlot
  dsimp only
  rw [accepted]
  exact congrArg (Outcome.mk _ · _) accepted.symm

theorem writeSlot_of_error {filler : Filler} (slot : Option File) {segment : Segment}
    {error : FileError}
    (refused : ((slot.getD (.empty filler)).write segment).result = .error error) :
    writeSlot filler slot segment =
      ((slot.getD (.empty filler)).write segment).mapState fun _ => slot := by
  unfold writeSlot
  dsimp only
  rw [refused]
  exact congrArg (Outcome.mk _ · _) refused.symm

/-- A write that is refused leaves the slot as it was. -/
theorem writeSlot_state_of_error {filler : Filler} {slot : Option File} {segment : Segment}
    {error : FileError} (refused : (writeSlot filler slot segment).result = .error error) :
    (writeSlot filler slot segment).state = slot := by
  have written : ((slot.getD (.empty filler)).write segment).result = .error error := refused
  rw [writeSlot_of_error slot written]
  rfl

/-- What a call comes to on a slot. -/
def RegistryCall.runOn (filler : Filler) (slot : Option File) :
    RegistryCall → Outcome (Option File) FileError RegistryAnswer
  | .touch _ => .success (some (slot.getD (.empty filler))) .done []
  | .append _ segment => (writeSlot filler slot segment).map .count
  | .writeLiteral _ bytes => (writeSlot filler slot (.literal bytes)).map .count
  | .writeFiller _ count => (writeSlot filler slot (.filler count)).map .count
  | .length path => (onPresent slot path fun file => .success (some file) file.size []).map .size
  | .withFile path calls =>
    (onPresent slot path fun file =>
      .success (some (file.runAll calls)) (file.history calls) []).map .history
  | .attempt path calls =>
    (onPresent slot path fun file => (file.attempt calls).mapState some).map .answers
  | .remove path => (onPresent slot path fun file => .success none file []).map .removed

/-- The outcomes of calls made on a slot one after the other. -/
def slotHistory (filler : Filler) (slot : Option File) :
    List RegistryCall → List (Outcome (Option File) FileError RegistryAnswer)
  | [] => []
  | call :: rest =>
    let outcome := call.runOn filler slot
    outcome :: slotHistory filler outcome.state rest

/-- The slot after calls made on it one after the other. -/
def slotAfter (filler : Filler) (slot : Option File) (calls : List RegistryCall) : Option File :=
  calls.foldl (fun slot call => (call.runOn filler slot).state) slot

namespace Registry

variable {registry after : Registry} {path : String}

/-- What calls made one after the other show of one name: the outcomes of the calls on it, and the
file that each of them has left under it. -/
def historyAt (registry : Registry) (path : String) (calls : List RegistryCall) :
    List (Outcome (Option File) FileError RegistryAnswer) :=
  ((calls.zip (registry.history calls)).filter fun entry => entry.1.path = path).map
    fun entry => entry.2.mapState (·.find? path)

/-! ### What a call does to the registry -/

/-- A registry in which at most the file under one name is another one. -/
inductive Changed (registry : Registry) (path : String) : Registry → Prop
  | kept : Changed registry path registry
  | stored (file : File) : Changed registry path (registry.store path file)
  | discarded : Changed registry path (registry.discard path)

theorem Changed.filler (changed : registry.Changed path after) :
    after.filler = registry.filler := by
  cases changed <;> rfl

theorem Changed.find?_other (changed : registry.Changed path after) {other : String}
    (differs : path ≠ other) : after.find? other = registry.find? other := by
  cases changed with
  | kept => rfl
  | stored file => rw [find?_store, if_neg differs]
  | discarded => rw [find?_discard, if_neg differs]

/-- A guarded operation changes what the operation behind the guard changes, or nothing. -/
theorem Changed.guarded {Result : Type} {operation : Outcome Registry FileError Result}
    (changed : registry.Changed path operation.state) :
    registry.Changed path (registry.guarded path operation).state := by
  unfold Registry.guarded
  split
  · exact .kept
  · exact changed

theorem withFile_changed {Result : Type} (registry : Registry) (path : String)
    (action : File → Outcome File FileError Result) :
    registry.Changed path (registry.withFile path action).state := by
  refine Changed.guarded ?_
  split
  · exact .stored _
  · exact .kept

theorem append_changed (registry : Registry) (path : String) (segment : Segment) :
    registry.Changed path (registry.append path segment).state := by
  refine Changed.guarded ?_
  split
  · exact .stored _
  · dsimp only
    split
    · exact .stored _
    · exact .kept

theorem run_changed (registry : Registry) (call : RegistryCall) :
    registry.Changed call.path (call.run registry).state := by
  cases call with
  | touch path =>
    show registry.Changed path (registry.touch path).state
    refine Changed.guarded ?_
    split
    · exact .kept
    · exact .stored _
  | append path segment => exact registry.append_changed path segment
  | writeLiteral path bytes => exact registry.append_changed path (.literal bytes)
  | writeFiller path length => exact registry.append_changed path (.filler length)
  | length path =>
    show registry.Changed path (registry.length path).state
    refine Changed.guarded ?_
    split <;> exact .kept
  | withFile path calls => exact registry.withFile_changed path (·.recorded calls)
  | attempt path calls => exact registry.withFile_changed path (·.attempt calls)
  | remove path =>
    show registry.Changed path (registry.remove path).state
    refine Changed.guarded ?_
    split
    · exact .discarded
    · exact .kept

/-! ### What a call does to its own slot -/

theorem guarded_of_named {Result : Type} (named : path ≠ "")
    (operation : Outcome Registry FileError Result) :
    registry.guarded path operation = operation :=
  if_neg named

/-- A file that is put under a name is found there. -/
theorem find?_store_self (registry : Registry) (path : String) (file : File) :
    (registry.store path file).find? path = some file := by
  rw [find?_store, if_pos rfl]

/-- What happens to a file that is kept under a name happens to the slot of the name. -/
theorem mapState_store {Result : Type} (registry : Registry) (path : String)
    (outcome : Outcome File FileError Result) :
    (outcome.mapState (registry.store path)).mapState (·.find? path) =
      outcome.mapState some := by
  show Outcome.mk ((registry.store path outcome.state).find? path) _ _ = _
  rw [find?_store_self]
  rfl

/-- What is refused where there is no file leaves an empty slot. -/
theorem failure_of_absent {Result : Type} (absent : registry.find? path = none)
    (error : FileError) :
    (Outcome.failure registry error : Outcome Registry FileError Result).mapState (·.find? path) =
      .failure none error := by
  show Outcome.mk (registry.find? path) _ _ = _
  rw [absent]
  rfl

section Own

variable (named : path ≠ "")

include named

theorem touch_own :
    (registry.touch path).mapState (·.find? path) =
      .success (some ((registry.find? path).getD (.empty registry.filler))) () [] := by
  rw [touch, guarded_of_named named]
  cases found : registry.find? path with
  | none => exact congrArg (Outcome.mk · (.ok ()) []) (registry.find?_store_self path _)
  | some file => exact congrArg (Outcome.mk · (.ok ()) []) found

theorem append_own (segment : Segment) :
    (registry.append path segment).mapState (·.find? path) =
      writeSlot registry.filler (registry.find? path) segment := by
  rw [append, guarded_of_named named]
  cases found : registry.find? path with
  | none =>
    dsimp only
    cases result : ((File.empty registry.filler).write segment).result with
    | ok count =>
      rw [mapState_store, writeSlot_of_ok none result]
      rfl
    | error error =>
      rw [writeSlot_of_error none result]
      exact congrArg (Outcome.mk · _ _) found
  | some file =>
    dsimp only
    rw [mapState_store]
    cases result : (file.write segment).result with
    | ok count =>
      rw [writeSlot_of_ok (some file) result]
      rfl
    | error error =>
      rw [writeSlot_of_error (some file) result]
      exact congrArg (Outcome.mk · _ _) (congrArg some (File.write_state_of_error result))

theorem length_own :
    (registry.length path).mapState (·.find? path) =
      onPresent (registry.find? path) path fun file => .success (some file) file.size [] := by
  rw [length, guarded_of_named named]
  cases found : registry.find? path with
  | none => exact failure_of_absent found _
  | some file => exact congrArg (Outcome.mk · (.ok file.size) []) found

theorem withFile_own {Result : Type} (action : File → Outcome File FileError Result) :
    (registry.withFile path action).mapState (·.find? path) =
      onPresent (registry.find? path) path fun file => (action file).mapState some := by
  rw [withFile, guarded_of_named named]
  cases found : registry.find? path with
  | none => exact failure_of_absent found _
  | some file => exact registry.mapState_store path (action file)

theorem remove_own :
    (registry.remove path).mapState (·.find? path) =
      onPresent (registry.find? path) path fun file => .success none file [] := by
  rw [remove, guarded_of_named named]
  cases found : registry.find? path with
  | none => exact failure_of_absent found _
  | some file =>
    have gone : (registry.discard path).find? path = none := by
      rw [find?_discard, if_pos rfl]
    exact congrArg (Outcome.mk · (.ok file) []) gone

end Own

/-- A call does to the registry what it does to the slot of its name. -/
theorem run_own (registry : Registry) {call : RegistryCall} (named : call.path ≠ "") :
    (call.run registry).mapState (·.find? call.path) =
      call.runOn registry.filler (registry.find? call.path) := by
  cases call with
  | touch path => exact congrArg (Outcome.map fun _ => RegistryAnswer.done) (touch_own named)
  | append path segment =>
    exact congrArg (Outcome.map RegistryAnswer.count) (append_own named segment)
  | writeLiteral path bytes =>
    exact congrArg (Outcome.map RegistryAnswer.count) (append_own named (.literal bytes))
  | writeFiller path length =>
    exact congrArg (Outcome.map RegistryAnswer.count) (append_own named (.filler length))
  | length path => exact congrArg (Outcome.map RegistryAnswer.size) (length_own named)
  | withFile path calls =>
    have recorded : ∀ file : File, (file.recorded calls).mapState some =
        .success (some (file.runAll calls)) (file.history calls) [] :=
      fun file => congrArg (Outcome.mk · _ _) (congrArg some (file.recorded_state calls))
    have own : (registry.withFile path (·.recorded calls)).mapState (·.find? path) =
        onPresent (registry.find? path) path fun file =>
          .success (some (file.runAll calls)) (file.history calls) [] :=
      (withFile_own named _).trans (congrArg (onPresent _ path) (funext recorded))
    exact congrArg (Outcome.map RegistryAnswer.history) own
  | attempt path calls =>
    exact congrArg (Outcome.map RegistryAnswer.answers) (withFile_own named (·.attempt calls))
  | remove path => exact congrArg (Outcome.map RegistryAnswer.removed) (remove_own named)

/-! ### Runs -/

theorem historyAt_cons_own (registry : Registry) {call : RegistryCall} (rest : List RegistryCall)
    (own : call.path = path) :
    registry.historyAt path (call :: rest) =
      (call.run registry).mapState (·.find? path) ::
        (call.run registry).state.historyAt path rest := by
  rw [historyAt, history, List.zip_cons_cons, List.filter_cons_of_pos (by simpa using own)]
  rfl

theorem historyAt_cons_other (registry : Registry) {call : RegistryCall} (rest : List RegistryCall)
    (other : call.path ≠ path) :
    registry.historyAt path (call :: rest) = (call.run registry).state.historyAt path rest := by
  rw [historyAt, history, List.zip_cons_cons,
    List.filter_cons_of_neg (by simpa using other)]
  rfl

/-- What a run of calls shows of one name is a slot that is driven by the calls on that name. -/
theorem isolated (registry : Registry) (named : path ≠ "") (calls : List RegistryCall) :
    let own := calls.filter fun call => call.path = path
    registry.historyAt path calls = slotHistory registry.filler (registry.find? path) own ∧
      (registry.runAll calls).find? path =
        slotAfter registry.filler (registry.find? path) own := by
  induction calls generalizing registry with
  | nil => exact ⟨rfl, rfl⟩
  | cons call rest inductionHypothesis =>
    have changed := registry.run_changed call
    obtain ⟨shown, final⟩ := inductionHypothesis (call.run registry).state
    rw [changed.filler] at shown final
    -- A call on the name takes the slot along; any other leaves it as it was.
    by_cases same : call.path = path
    · subst same
      have own := registry.run_own named
      have slot : (call.run registry).state.find? call.path =
          (call.runOn registry.filler (registry.find? call.path)).state :=
        congrArg Outcome.state own
      rw [slot] at shown final
      rw [historyAt_cons_own registry rest rfl, List.filter_cons_of_pos (by simp), shown, own]
      exact ⟨rfl, final⟩
    · rw [changed.find?_other same] at shown final
      rw [historyAt_cons_other registry rest same, List.filter_cons_of_neg (by simpa using same)]
      exact ⟨shown, final⟩

end Registry

/-- The files of a registry are isolated. What the calls on a name return and report, and the file
that is under the name at each point, are those of a slot of its own: it is empty at first, touching
it and an accepted write put a new file there, the calls on the name change that file and no others
do, and removing it leaves the slot empty again. So the calls on other names can be struck out of
any run, and the calls on this one show the same. -/
theorem registry_isolated (filler : Filler) (calls : List RegistryCall) {path : String}
    (named : path ≠ "") :
    let start := Registry.empty filler
    let own := calls.filter fun call => call.path = path
    start.historyAt path calls = slotHistory filler none own ∧
      (start.runAll calls).find? path = slotAfter filler none own ∧
      start.historyAt path own = start.historyAt path calls ∧
      (start.runAll own).find? path = (start.runAll calls).find? path := by
  intro start own
  have absent : start.find? path = none := Registry.find?_empty filler path
  have again : own.filter (fun call => call.path = path) = own := by
    rw [List.filter_filter]
    simp only [Bool.and_self]
    rfl
  obtain ⟨shown, final⟩ := start.isolated named calls
  obtain ⟨shownAlone, finalAlone⟩ := start.isolated named own
  rw [absent] at shown final shownAlone finalAlone
  rw [again] at shownAlone finalAlone
  exact ⟨shown, final, shownAlone.trans shown.symm, finalAlone.trans final.symm⟩

/-- A file that is refused at first, then written and read up to a seek that fails, taken out and
put back, with calls on another file in between. -/
theorem registry_isolated_recreated :
    let filler : Filler := { size := 4, byte := 7, size_pos := by decide }
    let calls : List RegistryCall :=
      [.append "a" (.filler 2), .append "b" (.literal [8]), .append "a" (.literal [1, 2]),
        .attempt "a" [.startPass, .read, .skip 5], .attempt "b" [.startPass], .remove "b",
        .withFile "a" [.file (.write (.filler 3)), .file .read], .remove "a", .touch "b",
        .append "a" (.literal [5]), .append "b" (.literal [6, 6])]
    let own : List RegistryCall :=
      [.append "a" (.filler 2), .append "a" (.literal [1, 2]),
        .attempt "a" [.startPass, .read, .skip 5],
        .withFile "a" [.file (.write (.filler 3)), .file .read], .remove "a",
        .append "a" (.literal [5])]
    let start := Registry.empty filler
    "a" ≠ "" ∧ start.historyAt "a" calls = slotHistory filler none own ∧
      (slotHistory filler none own).map (fun outcome => outcome.state.map (·.contents)) =
        [none, some [1, 2], some [1, 2], some [1, 2, 7, 7, 7], none, some [5]] ∧
      (slotHistory filler none own).map (fun outcome => outcome.state.map (·.cursor)) =
        [none, some { place := .unset, position := 0 },
          some { place := .gap 0 0, position := 2 }, some { place := .done, position := 5 }, none,
          some { place := .unset, position := 0 }] ∧
      ((start.runAll calls).find? "a").map (·.contents) = some [5] ∧
      start.historyAt "a" own = start.historyAt "a" calls := by
  intro filler calls own start
  have named : "a" ≠ "" := by decide
  have ownCalls : (calls.filter fun call => call.path = "a") = own := rfl
  obtain ⟨shown, final, alone, -⟩ := registry_isolated filler calls named
  rw [ownCalls] at shown final alone
  refine ⟨named, shown, by decide, by decide, ?_, alone⟩
  rw [final]
  decide

end GappedFiles
