/-! # Runs of event-driven systems

Finite runs of a system that reacts to one event at a time. A step that returns
`none` has raised an exception nobody catches: the run has no further state.
-/

namespace ConnectSDK

/-- The state reached from `state` by handling the events in order. -/
def runFrom (step : State → Event → Option State) :
    State → List Event → Option State
  | state, [] => some state
  | state, event :: events =>
      match step state event with
      | none => none
      | some next => runFrom step next events

theorem runFrom_append (step : State → Event → Option State) :
    ∀ (state : State) (events later : List Event),
      runFrom step state (events ++ later) =
        (runFrom step state events).bind fun middle => runFrom step middle later
  | state, [], later => rfl
  | state, event :: events, later => by
      rw [List.cons_append, runFrom, runFrom]
      cases step state event with
      | none => rfl
      | some next => exact runFrom_append step next events later

/-- Steps that never raise take a run to its end. -/
theorem exists_runFrom (step : State → Event → State) :
    ∀ (state : State) (events : List Event),
      ∃ final, runFrom (fun state event => some (step state event)) state events = some final
  | state, [] => ⟨state, rfl⟩
  | state, event :: events => exists_runFrom step (step state event) events

/-- Every event of a run is `allowed` in the state that handles it. -/
def EveryStep (step : State → Event → Option State)
    (allowed : State → Event → Prop) : State → List Event → Prop
  | _, [] => True
  | state, event :: events =>
      allowed state event ∧
        match step state event with
        | none => True
        | some next => EveryStep step allowed next events

def decidableEveryStep (step : State → Event → Option State)
    (allowed : State → Event → Prop)
    [decide : ∀ state event, Decidable (allowed state event)] :
    ∀ state events, Decidable (EveryStep step allowed state events)
  | _, [] => isTrue trivial
  | state, event :: events =>
      match decide state event, taken : step state event with
      | isFalse refused, _ => isFalse fun holds => refused holds.1
      | isTrue admitted, none => isTrue ⟨admitted, by rw [taken]; trivial⟩
      | isTrue admitted, some next =>
          match decidableEveryStep step allowed next events with
          | isTrue rest => isTrue ⟨admitted, by rw [taken]; exact rest⟩
          | isFalse broken => isFalse fun holds => broken (by
              have rest := holds.2
              rw [taken] at rest
              exact rest)

instance (step : State → Event → Option State)
    (allowed : State → Event → Prop)
    [∀ state event, Decidable (allowed state event)] (state : State)
    (events : List Event) : Decidable (EveryStep step allowed state events) :=
  decidableEveryStep step allowed state events

theorem EveryStep.cons {step : State → Event → Option State}
    {allowed : State → Event → Prop} {state next : State} {event : Event}
    {events : List Event} (admitted : allowed state event)
    (taken : step state event = some next) (rest : EveryStep step allowed next events) :
    EveryStep step allowed state (event :: events) := by
  refine ⟨admitted, ?_⟩
  rw [taken]
  exact rest

theorem EveryStep.head {step : State → Event → Option State}
    {allowed : State → Event → Prop} {state next : State} {event : Event}
    {events : List Event} (holds : EveryStep step allowed state (event :: events))
    (taken : step state event = some next) :
    EveryStep step allowed next events := by
  have rest := holds.2
  rw [taken] at rest
  exact rest

theorem EveryStep.mono {step : State → Event → Option State}
    {allowed weaker : State → Event → Prop}
    (implies : ∀ state event, allowed state event → weaker state event) :
    ∀ {state : State} {events : List Event}, EveryStep step allowed state events →
      EveryStep step weaker state events
  | _, [], _ => trivial
  | state, event :: events, holds => by
      refine ⟨implies state event holds.1, ?_⟩
      cases taken : step state event with
      | none => trivial
      | some next => exact (holds.head taken).mono implies

/-- A condition on events alone may be asked of the events. -/
theorem everyStep_of_mem {step : State → Event → Option State}
    {allowed : Event → Prop} :
    ∀ {state : State} {events : List Event}, (∀ event ∈ events, allowed event) →
      EveryStep step (fun _ event => allowed event) state events
  | _, [], _ => trivial
  | state, event :: events, every => by
      refine ⟨every event List.mem_cons_self, ?_⟩
      cases step state event with
      | none => trivial
      | some next =>
          exact everyStep_of_mem fun later member =>
            every later (List.mem_cons_of_mem event member)

/-- Without a condition every run is allowed. -/
theorem everyStep_of_forall {step : State → Event → Option State}
    {allowed : State → Event → Prop}
    (always : ∀ state event, allowed state event) :
    ∀ state events, EveryStep step allowed state events
  | _, [] => trivial
  | state, event :: events => by
      refine ⟨always state event, ?_⟩
      cases step state event with
      | none => trivial
      | some next => exact everyStep_of_forall always next events

/-- What an invariant allows is allowed throughout a run. -/
theorem everyStep_of_invariant {step : State → Event → Option State}
    {allowed : State → Event → Prop} {invariant : State → Prop}
    (preserved : ∀ state event next, invariant state → step state event = some next →
      invariant next)
    (implies : ∀ state event, invariant state → allowed state event) :
    ∀ {state : State} (events : List Event), invariant state →
      EveryStep step allowed state events
  | _, [], _ => trivial
  | state, event :: events, holds => by
      refine ⟨implies state event holds, ?_⟩
      cases taken : step state event with
      | none => trivial
      | some next =>
          exact everyStep_of_invariant preserved implies events
            (preserved state event next holds taken)

/-- What one allowed step preserves holds at the end of an allowed run. Since
a prefix of an allowed run is one too, it holds in every state reached. -/
theorem runFrom_invariant {step : State → Event → Option State}
    {allowed : State → Event → Prop} {invariant : State → Prop}
    (preserved : ∀ state event next, invariant state → allowed state event →
      step state event = some next → invariant next) :
    ∀ {state final : State} {events : List Event}, invariant state →
      EveryStep step allowed state events →
      runFrom step state events = some final → invariant final
  | state, final, [], initially, _, reached => by
      cases reached
      exact initially
  | state, final, event :: events, initially, holds, reached => by
      cases taken : step state event with
      | none =>
          rw [runFrom, taken] at reached
          cases reached
      | some next =>
          rw [runFrom, taken] at reached
          exact runFrom_invariant preserved
            (preserved state event next initially holds.1 taken)
            (holds.head taken) reached

/-- In a run that raises nothing, conditions that agree wherever the invariant holds hold
alike. -/
theorem everyStep_congr {step : State → Event → Option State}
    {left right : State → Event → Prop} {invariant : State → Prop}
    (preserved : ∀ state event next, invariant state → step state event = some next →
      invariant next)
    (agree : ∀ state event next, invariant state → step state event = some next →
      (left state event ↔ right state event)) :
    ∀ {state final : State} {events : List Event}, invariant state →
      runFrom step state events = some final →
      (EveryStep step left state events ↔ EveryStep step right state events)
  | state, final, [], _, _ => Iff.rfl
  | state, final, event :: events, initially, reached => by
      cases taken : step state event with
      | none =>
          rw [runFrom, taken] at reached
          cases reached
      | some next =>
          rw [runFrom, taken] at reached
          have here := agree state event next initially taken
          have later := everyStep_congr preserved agree
            (preserved state event next initially taken) reached
          constructor
          · intro holds
            exact EveryStep.cons (here.mp holds.1) taken (later.mp (holds.head taken))
          · intro holds
            exact EveryStep.cons (here.mpr holds.1) taken (later.mpr (holds.head taken))

/-- Every state of a run is good. -/
def Throughout (step : State → Event → Option State) (good : State → Prop) :
    State → List Event → Prop
  | state, [] => good state
  | state, event :: events =>
      good state ∧
        match step state event with
        | none => True
        | some next => Throughout step good next events

/-- Allowed steps keep every state of a run good that follows from an invariant. -/
theorem EveryStep.throughout {step : State → Event → Option State}
    {allowed : State → Event → Prop} {invariant good : State → Prop}
    (preserved : ∀ state event next, invariant state → allowed state event →
      step state event = some next → invariant next)
    (implies : ∀ state, invariant state → good state) :
    ∀ {state : State} {events : List Event}, invariant state →
      EveryStep step allowed state events → Throughout step good state events
  | state, [], keeps, _ => implies state keeps
  | state, event :: events, keeps, holds => by
      refine ⟨implies state keeps, ?_⟩
      cases taken : step state event with
      | none => trivial
      | some next =>
          exact EveryStep.throughout preserved implies
            (preserved state event next keeps holds.1 taken) (holds.head taken)

/-- Every state of a run that raises nothing is good exactly as long as every step is
allowed, where a step from a good state is allowed exactly when it leads to one. -/
theorem everyStep_iff_throughout {step : State → Event → Option State}
    {allowed : State → Event → Prop} {invariant good : State → Prop}
    (preserved : ∀ state event next, invariant state → step state event = some next →
      invariant next)
    (agree : ∀ state event next, invariant state → good state →
      step state event = some next → (allowed state event ↔ good next)) :
    ∀ {state final : State} {events : List Event}, invariant state → good state →
      runFrom step state events = some final →
      (EveryStep step allowed state events ↔ Throughout step good state events)
  | state, final, [], _, initially, _ => ⟨fun _ => initially, fun _ => trivial⟩
  | state, final, event :: events, keeps, initially, reached => by
      cases taken : step state event with
      | none =>
          rw [runFrom, taken] at reached
          cases reached
      | some next =>
          rw [runFrom, taken] at reached
          have here := agree state event next keeps initially taken
          have keepsNext := preserved state event next keeps taken
          rw [Throughout, taken]
          constructor
          · intro holds
            refine ⟨initially, ?_⟩
            have goodNext := here.mp holds.1
            exact (everyStep_iff_throughout preserved agree keepsNext goodNext reached).mp
              (holds.head taken)
          · rintro ⟨_, holds⟩
            have goodNext : good next := by
              cases events with
              | nil => exact holds
              | cons event events => exact holds.1
            exact EveryStep.cons (here.mpr goodNext) taken
              ((everyStep_iff_throughout preserved agree keepsNext goodNext reached).mpr
                holds)

/-- The run raises nothing, and every step goes where it should. -/
def Completes (step : State → Event → Option State)
    (meets : State → Event → State → Prop) : State → List Event → Prop
  | _, [] => True
  | state, event :: events =>
      ∃ next, step state event = some next ∧ meets state event next ∧
        Completes step meets next events

/-- Where a step is allowed exactly when it is taken and goes where it should, the same
holds of whole runs. -/
theorem everyStep_iff_completes {step : State → Event → Option State}
    {allowed : State → Event → Prop} {meets : State → Event → State → Prop}
    {invariant : State → Prop}
    (preserved : ∀ state event next, invariant state → step state event = some next →
      meets state event next → invariant next)
    (agree : ∀ state event, invariant state →
      (allowed state event ↔ ∃ next, step state event = some next ∧ meets state event next)) :
    ∀ {state : State} {events : List Event}, invariant state →
      (EveryStep step allowed state events ↔ Completes step meets state events)
  | state, [], _ => Iff.rfl
  | state, event :: events, keeps => by
      constructor
      · intro holds
        rcases (agree state event keeps).mp holds.1 with ⟨next, taken, good⟩
        have keepsNext := preserved state event next keeps taken good
        exact ⟨next, taken, good,
          (everyStep_iff_completes preserved agree keepsNext).mp (holds.head taken)⟩
      · rintro ⟨next, taken, good, rest⟩
        have keepsNext := preserved state event next keeps taken good
        have here := (agree state event keeps).mpr ⟨next, taken, good⟩
        exact EveryStep.cons here taken
          ((everyStep_iff_completes preserved agree keepsNext).mpr rest)

end ConnectSDK
