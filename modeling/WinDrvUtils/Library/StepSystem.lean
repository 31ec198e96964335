import Mathlib.Logic.Function.Basic

/-!
# Runs of a partial step function

A system is a step function `state → event → Option state`: an event carries
every choice that is not the program's own (a scheduler's pick, the answer of
a callee), and `none` says that the event cannot happen in that state.

Three predicates on runs are used throughout:

* `Always` says that a property holds in every state a run passes through;
* `EveryStep` says that a relation holds of every step a run takes;
* `Guarded` is `EveryStep` for a condition on the state before the step.

For the end of a run there are `run_invariant`, its form for runs of allowed
events, and `run_established` for what one event brings about.
`always_of_guarded` is the rule for conditional invariants, and
`always_iff_guarded` its exact form, for a guard that is also necessary;
`always_iff_guarded_of_step` asks for that of one step.

A condition on what has happened so far is one on the state of `recorded`,
the run with a record of its events.
-/

namespace StepSystem

universe u v

variable {State : Type u} {Event : Type v}

/-- Execute events in order. An event that cannot happen ends the run. -/
def run (step : State → Event → Option State) :
    State → List Event → Option State
  | state, [] => some state
  | state, event :: rest =>
      (step state event).bind fun next => run step next rest

def EveryStep (step : State → Event → Option State)
    (relation : State → Event → State → Prop) :
    State → List Event → Prop
  | _, [] => True
  | state, event :: rest =>
      ∀ next, step state event = some next →
        relation state event next ∧ EveryStep step relation next rest

def Guarded (step : State → Event → Option State)
    (guard : State → Event → Prop) : State → List Event → Prop :=
  EveryStep step fun state event _ => guard state event

/-- `property` holds in the first state of the run and in every state that
the run reaches. -/
def Always (step : State → Event → Option State)
    (property : State → Prop) : State → List Event → Prop
  | state, [] => property state
  | state, event :: rest =>
      property state ∧
        ∀ next, step state event = some next →
          Always step property next rest

variable {step : State → Event → Option State}

@[simp]
theorem run_nil (state : State) : run step state [] = some state := rfl

theorem run_cons_of_step
    {state next : State} {event : Event} (rest : List Event)
    (stepped : step state event = some next) :
    run step state (event :: rest) = run step next rest := by
  simp [run, stepped]

theorem exists_of_run_cons
    {state last : State} {event : Event} {rest : List Event}
    (reached : run step state (event :: rest) = some last) :
    ∃ next, step state event = some next ∧ run step next rest = some last :=
  Option.bind_eq_some_iff.mp reached

/-- The rule for runs all of whose events are allowed. -/
theorem run_invariant_of_allowed
    {invariant : State → Prop} {allowed : Event → Prop}
    (preserved :
      ∀ state event next,
        invariant state → allowed event →
          step state event = some next → invariant next)
    {state last : State} {events : List Event}
    (initial : invariant state) (all : ∀ event ∈ events, allowed event)
    (reached : run step state events = some last) :
    invariant last := by
  induction events generalizing state with
  | nil =>
      cases reached
      exact initial
  | cons event rest inductionHypothesis =>
      obtain ⟨next, stepped, later⟩ := exists_of_run_cons reached
      have kept :=
        preserved state event next initial (all event List.mem_cons_self)
          stepped
      refine inductionHypothesis kept ?_ later
      intro other member
      exact all other (List.mem_cons_of_mem event member)

theorem run_invariant
    {invariant : State → Prop}
    (preserved :
      ∀ state event next,
        invariant state → step state event = some next → invariant next)
    {state last : State} {events : List Event}
    (initial : invariant state)
    (reached : run step state events = some last) :
    invariant last :=
  run_invariant_of_allowed
    (fun state event next before (_ : True) stepped =>
      preserved state event next before stepped)
    initial (fun _ _ => trivial) reached

/-- What an event brings about, whatever state it finds, still holds at the
end of the run when every step keeps it. -/
theorem run_established
    {invariant : State → Prop} {event : Event}
    (established :
      ∀ state next, step state event = some next → invariant next)
    (preserved :
      ∀ state event next,
        invariant state → step state event = some next → invariant next)
    {state last : State} {events : List Event} (member : event ∈ events)
    (reached : run step state events = some last) :
    invariant last := by
  induction events generalizing state with
  | nil => cases member
  | cons first rest inductionHypothesis =>
      obtain ⟨next, stepped, later⟩ := exists_of_run_cons reached
      rcases List.mem_cons.mp member with rfl | member
      · exact run_invariant preserved (established state next stepped) later
      · exact inductionHypothesis member later

theorem Always.first
    {property : State → Prop} {state : State} {events : List Event}
    (always : Always step property state events) :
    property state := by
  cases events with
  | nil => exact always
  | cons event rest => exact always.1

theorem Always.last
    {property : State → Prop} {state last : State} {events : List Event}
    (always : Always step property state events)
    (reached : run step state events = some last) :
    property last := by
  induction events generalizing state with
  | nil =>
      cases reached
      exact always
  | cons event rest inductionHypothesis =>
      obtain ⟨next, stepped, later⟩ := exists_of_run_cons reached
      exact inductionHypothesis (always.2 next stepped) later

theorem Always.mono
    {weak strong : State → Prop}
    (implies : ∀ state, strong state → weak state)
    {state : State} {events : List Event}
    (always : Always step strong state events) :
    Always step weak state events := by
  induction events generalizing state with
  | nil =>
      exact implies state always
  | cons event rest inductionHypothesis =>
      exact
        ⟨implies state always.1, fun next stepped =>
          inductionHypothesis (always.2 next stepped)⟩

theorem Guarded.cons
    {guard : State → Event → Prop} {state next : State} {event : Event}
    {rest : List Event} (stepped : step state event = some next)
    (met : guard state event) (later : Guarded step guard next rest) :
    Guarded step guard state (event :: rest) := by
  intro other reached
  rw [stepped] at reached
  cases reached
  exact ⟨met, later⟩

/-- A property that fails in a reached state does not always hold. -/
theorem not_always_of_run
    {property : State → Prop} {state last : State} {events : List Event}
    (reached : run step state events = some last)
    (fails : ¬ property last) :
    ¬ Always step property state events :=
  fun always => fails (always.last reached)

/-- The rule for conditional invariants: if every guarded step keeps the
invariant, it always holds along a guarded run. -/
theorem always_of_guarded
    {invariant : State → Prop} {guard : State → Event → Prop}
    (preserved :
      ∀ state event next,
        invariant state → guard state event →
          step state event = some next → invariant next)
    {state : State} {events : List Event}
    (initial : invariant state)
    (guarded : Guarded step guard state events) :
    Always step invariant state events := by
  induction events generalizing state with
  | nil =>
      exact initial
  | cons event rest inductionHypothesis =>
      refine ⟨initial, fun next stepped => ?_⟩
      obtain ⟨met, later⟩ := guarded next stepped
      exact
        inductionHypothesis
          (preserved state event next initial met stepped) later

/-- The rule for invariants that every step keeps. -/
theorem always_of_preserved
    {invariant property : State → Prop}
    (implies : ∀ state, invariant state → property state)
    (preserved :
      ∀ state event next,
        invariant state → step state event = some next → invariant next)
    {state : State} (initial : invariant state) (events : List Event) :
    Always step property state events := by
  induction events generalizing state with
  | nil =>
      exact implies state initial
  | cons event rest inductionHypothesis =>
      exact
        ⟨implies state initial, fun next stepped =>
          inductionHypothesis (preserved state event next initial stepped)⟩

/-- Along a guarded run, every step taken from a state with the invariant
has what one guarded step has. -/
theorem everyStep_of_guarded
    {invariant : State → Prop} {guard : State → Event → Prop}
    {relation : State → Event → State → Prop}
    (preserved :
      ∀ state event next,
        invariant state → guard state event →
          step state event = some next → invariant next)
    (related :
      ∀ state event next,
        invariant state → guard state event →
          step state event = some next → relation state event next)
    {state : State} {events : List Event}
    (initial : invariant state)
    (guarded : Guarded step guard state events) :
    EveryStep step relation state events := by
  induction events generalizing state with
  | nil =>
      trivial
  | cons event rest inductionHypothesis =>
      intro next stepped
      obtain ⟨met, later⟩ := guarded next stepped
      exact
        ⟨related state event next initial met stepped,
          inductionHypothesis
            (preserved state event next initial met stepped) later⟩

/-- The same over an invariant that every step keeps. -/
theorem everyStep_of_preserved
    {invariant : State → Prop} {relation : State → Event → State → Prop}
    (preserved :
      ∀ state event next,
        invariant state → step state event = some next → invariant next)
    (related :
      ∀ state event next,
        invariant state → step state event = some next →
          relation state event next)
    {state : State} (initial : invariant state) (events : List Event) :
    EveryStep step relation state events := by
  induction events generalizing state with
  | nil =>
      trivial
  | cons event rest inductionHypothesis =>
      intro next stepped
      exact
        ⟨related state event next initial stepped,
          inductionHypothesis (preserved state event next initial stepped)⟩

/-- The exact rule: when a step from a state with the invariant keeps the
property only if it is guarded, the property always holds along exactly the
guarded runs. -/
theorem always_iff_guarded
    {invariant property : State → Prop} {guard : State → Event → Prop}
    (implies : ∀ state, invariant state → property state)
    (preserved :
      ∀ state event next,
        invariant state → guard state event →
          step state event = some next → invariant next)
    (necessary :
      ∀ state event next,
        invariant state → step state event = some next →
          property next → guard state event)
    {state : State} {events : List Event}
    (initial : invariant state) :
    Always step property state events ↔
      Guarded step guard state events := by
  constructor
  · intro always
    induction events generalizing state with
    | nil =>
        trivial
    | cons event rest inductionHypothesis =>
        intro next stepped
        have later := always.2 next stepped
        have met : guard state event :=
          necessary state event next initial stepped later.first
        exact
          ⟨met,
            inductionHypothesis
              (preserved state event next initial met stepped) later⟩
  · intro guarded
    exact (always_of_guarded preserved initial guarded).mono implies

/-- The exact rule for a property that one step keeps exactly when it is
guarded, over an invariant that every step keeps. -/
theorem always_iff_guarded_of_step
    {invariant property : State → Prop} {guard : State → Event → Prop}
    (preserved :
      ∀ state event next,
        invariant state → step state event = some next → invariant next)
    (kept_iff :
      ∀ state event next,
        invariant state → property state →
          step state event = some next →
            (property next ↔ guard state event))
    {state : State} {events : List Event}
    (initial : invariant state) (holds : property state) :
    Always step property state events ↔
      Guarded step guard state events := by
  refine
    @always_iff_guarded _ _ step
      (fun state => invariant state ∧ property state) property guard
      (fun _ now => now.2) (fun state event next now met stepped => ?_)
      (fun state event next now stepped kept => ?_) state events
      ⟨initial, holds⟩
  · exact
      ⟨preserved state event next now.1 stepped,
        (kept_iff state event next now.1 now.2 stepped).mpr met⟩
  · exact (kept_iff state event next now.1 now.2 stepped).mp kept

/-! ## Runs with a record -/

section Recorded

variable {Record : Type v} {record : Record → Event → Record}

/-- The same run, with a record of its events beside the state. -/
def recorded (step : State → Event → Option State)
    (record : Record → Event → Record) :
    State × Record → Event → Option (State × Record)
  | (state, history), event =>
      (step state event).map fun next => (next, record history event)

theorem recorded_of_step
    {state next : State} {event : Event}
    (stepped : step state event = some next) (history : Record) :
    recorded step record (state, history) event =
      some (next, record history event) := by
  rw [recorded, stepped]
  rfl

theorem step_of_recorded
    {state : State} {history : Record} {event : Event}
    {next : State × Record}
    (stepped : recorded step record (state, history) event = some next) :
    step state event = some next.1 ∧ next.2 = record history event := by
  obtain ⟨reached, taken, rfl⟩ := Option.map_eq_some_iff.mp stepped
  exact ⟨taken, rfl⟩

/-- The record takes no part in the run. -/
theorem always_of_recorded
    {property : State → Prop} {state : State} {history : Record}
    {events : List Event}
    (always :
      Always (recorded step record) (fun pair => property pair.1)
        (state, history) events) :
    Always step property state events := by
  induction events generalizing state history with
  | nil =>
      exact always
  | cons event rest inductionHypothesis =>
      refine ⟨always.1, fun next stepped => ?_⟩
      exact
        inductionHypothesis (always.2 _ (recorded_of_step stepped history))

end Recorded

end StepSystem
