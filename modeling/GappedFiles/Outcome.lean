/-
This file defines what an operation comes to: the state it leaves behind, its
result, and the events it reports, in order. A refused operation leaves a state
behind as well, so that "nothing has changed" is a statement about that state
and not a convention about exceptions.
-/

import GappedFiles.Event

namespace GappedFiles

/-! ### Outcomes -/

/-- What an operation comes to: a state, a result, and the events reported on the way. -/
structure Outcome (State Failure Result : Type) where
  /-- The state the operation leaves behind. -/
  state : State
  /-- What the operation returns, or why it was refused. -/
  result : Except Failure Result
  /-- What the operation reports, in order. -/
  events : List Event

namespace Outcome

variable {State Failure Result : Type}

/-- An operation that succeeds. -/
def success (state : State) (result : Result) (events : List Event) :
    Outcome State Failure Result where
  state
  result := .ok result
  events

/-- An operation that is refused, which it reports. -/
def refusal (state : State) (failure : Failure) (event : Event) :
    Outcome State Failure Result where
  state
  result := .error failure
  events := [event]

/-- An operation that is refused and reports nothing. -/
def failure (state : State) (failure : Failure) : Outcome State Failure Result where
  state
  result := .error failure
  events := []

/-- The outcome with its result replaced by what `convert` makes of it. -/
def map {Converted : Type} (convert : Result → Converted)
    (outcome : Outcome State Failure Result) : Outcome State Failure Converted where
  state := outcome.state
  result := outcome.result.map convert
  events := outcome.events

/-- The outcome with its failure replaced by what `convert` makes of it. -/
def mapFailure {Converted : Type} (convert : Failure → Converted)
    (outcome : Outcome State Failure Result) : Outcome State Converted Result where
  state := outcome.state
  result := outcome.result.mapError convert
  events := outcome.events

/-- The outcome as it appears inside a larger state. -/
def mapState {Larger : Type} (embed : State → Larger)
    (outcome : Outcome State Failure Result) : Outcome Larger Failure Result where
  state := embed outcome.state
  result := outcome.result
  events := outcome.events

/-- The outcome without its events. -/
def quiet (outcome : Outcome State Failure Result) : Outcome State Failure Result :=
  { outcome with events := [] }

/-- One operation, and where it succeeds another one on the state it leaves behind. -/
def andThen {Final : Type} (first : Outcome State Failure Result)
    (next : State → Result → Outcome State Failure Final) : Outcome State Failure Final :=
  match first.result with
  | .ok result =>
    let second := next first.state result
    { second with events := first.events ++ second.events }
  | .error failure =>
    { state := first.state, result := .error failure, events := first.events }

/-! ### What the combinations leave alone -/

@[simp] theorem map_state {Converted : Type} (convert : Result → Converted)
    (outcome : Outcome State Failure Result) : (outcome.map convert).state = outcome.state :=
  rfl

@[simp] theorem map_events {Converted : Type} (convert : Result → Converted)
    (outcome : Outcome State Failure Result) : (outcome.map convert).events = outcome.events :=
  rfl

@[simp] theorem mapFailure_state {Converted : Type} (convert : Failure → Converted)
    (outcome : Outcome State Failure Result) :
    (outcome.mapFailure convert).state = outcome.state :=
  rfl

@[simp] theorem mapFailure_events {Converted : Type} (convert : Failure → Converted)
    (outcome : Outcome State Failure Result) :
    (outcome.mapFailure convert).events = outcome.events :=
  rfl

@[simp] theorem mapState_result {Larger : Type} (embed : State → Larger)
    (outcome : Outcome State Failure Result) :
    (outcome.mapState embed).result = outcome.result :=
  rfl

@[simp] theorem quiet_state (outcome : Outcome State Failure Result) :
    outcome.quiet.state = outcome.state :=
  rfl

@[simp] theorem quiet_result (outcome : Outcome State Failure Result) :
    outcome.quiet.result = outcome.result :=
  rfl

theorem map_map {Converted Final : Type} (convert : Result → Converted)
    (finish : Converted → Final) (outcome : Outcome State Failure Result) :
    (outcome.map convert).map finish = outcome.map (finish ∘ convert) := by
  obtain ⟨state, result, events⟩ := outcome
  cases result <;> rfl

theorem mapFailure_mapFailure {Converted Final : Type} (convert : Failure → Converted)
    (finish : Converted → Final) (outcome : Outcome State Failure Result) :
    (outcome.mapFailure convert).mapFailure finish = outcome.mapFailure (finish ∘ convert) := by
  obtain ⟨state, result, events⟩ := outcome
  cases result <;> rfl

/-- An operation is refused for the same reason whatever its result would have been made into. -/
theorem map_result_eq_error {Converted : Type} {convert : Result → Converted} {failure : Failure}
    {outcome : Outcome State Failure Result} :
    (outcome.map convert).result = .error failure ↔ outcome.result = .error failure := by
  obtain ⟨state, result, events⟩ := outcome
  cases result with
  | ok result => exact ⟨nofun, nofun⟩
  | error other =>
    exact ⟨fun same => congrArg Except.error (Except.error.inj same),
      fun same => congrArg Except.error (Except.error.inj same)⟩

theorem map_result_eq_ok {Converted : Type} {convert : Result → Converted} {converted : Converted}
    {outcome : Outcome State Failure Result} :
    (outcome.map convert).result = .ok converted ↔
      ∃ result : Result, outcome.result = .ok result ∧ convert result = converted := by
  obtain ⟨state, result, events⟩ := outcome
  cases result with
  | ok result =>
    refine ⟨fun same => ⟨result, rfl, Except.ok.inj same⟩, ?_⟩
    rintro ⟨_, ⟨⟩, rfl⟩
    rfl
  | error failure => exact ⟨nofun, nofun⟩

/-- It is enough to know what a result is converted into where there is one. -/
theorem map_congr {Converted : Type} {convert other : Result → Converted}
    {outcome : Outcome State Failure Result}
    (agree : ∀ result : Result, outcome.result = .ok result → convert result = other result) :
    outcome.map convert = outcome.map other := by
  obtain ⟨state, result, events⟩ := outcome
  cases result with
  | ok result => exact congrArg (Outcome.mk state · events) (congrArg Except.ok (agree result rfl))
  | error failure => rfl

/-- After a success the second operation decides, and the events of both are reported. -/
theorem andThen_of_ok {Final : Type} {first : Outcome State Failure Result} {result : Result}
    (succeeded : first.result = .ok result)
    (next : State → Result → Outcome State Failure Final) :
    first.andThen next =
      { next first.state result with
        events := first.events ++ (next first.state result).events } := by
  rw [andThen, succeeded]

/-- After a failure there is no second operation. -/
theorem andThen_of_error {Final : Type} {first : Outcome State Failure Result}
    {failure : Failure} (failed : first.result = .error failure)
    (next : State → Result → Outcome State Failure Final) :
    first.andThen next =
      { state := first.state, result := .error failure, events := first.events } := by
  rw [andThen, failed]

end Outcome

end GappedFiles
