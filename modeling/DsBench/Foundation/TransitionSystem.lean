import Mathlib.Logic.Relation

/-! # Transition systems

The shared vocabulary of every state machine in this development: an initial
predicate, a step relation, and the induction rules that turn a fact about one
step into a fact about every reachable state.
-/

namespace DsBench

/-- A nondeterministic machine. Every interleaving of its parties is one of its
runs, so a party is modelled by the steps it contributes. -/
structure TransitionSystem (State : Type u) where
  Initial : State → Prop
  Step : State → State → Prop

namespace TransitionSystem

variable {State : Type u}

/-- `Run before after`: some finite sequence of steps leads from one to the other. -/
def Run (system : TransitionSystem State) : State → State → Prop :=
  Relation.ReflTransGen system.Step

def Reachable (system : TransitionSystem State) (state : State) : Prop :=
  ∃ start, system.Initial start ∧ system.Run start state

/-- An invariant holds initially and is kept by every step out of a state that
has it. -/
structure Invariant (system : TransitionSystem State)
    (Property : State → Prop) : Prop where
  initially : ∀ state, system.Initial state → Property state
  preserved : ∀ before after, Property before → system.Step before after →
    Property after

theorem Reachable.initial {system : TransitionSystem State} {state : State}
    (initial : system.Initial state) : system.Reachable state :=
  ⟨state, initial, .refl⟩

theorem Reachable.step {system : TransitionSystem State} {before after : State}
    (reachable : system.Reachable before) (step : system.Step before after) :
    system.Reachable after := by
  rcases reachable with ⟨start, initial, run⟩
  exact ⟨start, initial, run.tail step⟩

/-- A property that no step destroys survives a whole run. -/
theorem Run.preserves {system : TransitionSystem State} {Property : State → Prop}
    (preserved : ∀ before after, Property before → system.Step before after →
      Property after)
    {before after : State} (run : system.Run before after)
    (holds : Property before) : Property after := by
  induction run with
  | refl => exact holds
  | tail _ step induction => exact preserved _ _ induction step

theorem Invariant.of_reachable {system : TransitionSystem State}
    {Property : State → Prop} (invariant : system.Invariant Property)
    {state : State} (reachable : system.Reachable state) : Property state := by
  rcases reachable with ⟨start, initial, run⟩
  exact run.preserves invariant.preserved (invariant.initially start initial)

/-- Every way of taking steps for as long as there is one leads to the goal. -/
inductive Inevitably (system : TransitionSystem State) (Goal : State → Prop) :
    State → Prop
  | reached {state : State} : Goal state → Inevitably system Goal state
  | later {state : State} : (∃ next, system.Step state next) →
      (∀ next, system.Step state next → Inevitably system Goal next) →
      Inevitably system Goal state

/-- A goal is inevitable where short of it some step is possible, and every step
brings it nearer. -/
theorem Inevitably.of_measure {system : TransitionSystem State}
    {Property Goal : State → Prop} (distance : State → Nat)
    (enabled : ∀ state, Property state → ¬ Goal state →
      ∃ next, system.Step state next)
    (nearer : ∀ state next, Property state → system.Step state next →
      Property next ∧ distance next < distance state)
    {state : State} (holds : Property state) : system.Inevitably Goal state := by
  by_cases reached : Goal state
  · exact .reached reached
  · apply Inevitably.later (enabled state holds reached)
    intro next step
    have closer := nearer state next holds step
    exact Inevitably.of_measure distance enabled nearer closer.1
termination_by distance state
decreasing_by exact closer.2

theorem Inevitably.of_wellFounded {Distance : Type*} [WellFoundedRelation Distance]
    {system : TransitionSystem State} {Property Goal : State → Prop}
    (distance : State → Distance)
    (enabled : ∀ state, Property state → ¬ Goal state →
      ∃ next, system.Step state next)
    (nearer : ∀ state next, Property state → system.Step state next →
      Property next ∧ WellFoundedRelation.rel (distance next) (distance state))
    {state : State} (holds : Property state) : system.Inevitably Goal state := by
  by_cases reached : Goal state
  · exact .reached reached
  · apply Inevitably.later (enabled state holds reached)
    intro next step
    have closer := nearer state next holds step
    exact Inevitably.of_wellFounded distance enabled nearer closer.1
termination_by distance state
decreasing_by exact closer.2

theorem Inevitably.exists_run {system : TransitionSystem State} {Goal : State → Prop}
    {state : State} (inevitable : system.Inevitably Goal state) :
    ∃ after, system.Run state after ∧ Goal after := by
  induction inevitable with
  | reached goal => exact ⟨_, .refl, goal⟩
  | later possible _ induction =>
      rcases possible with ⟨next, step⟩
      rcases induction next step with ⟨after, run, goal⟩
      exact ⟨after, .head step run, goal⟩

theorem Inevitably.mono {system : TransitionSystem State} {Goal Goal' : State → Prop}
    (weaker : ∀ state, Goal state → Goal' state) {state : State}
    (inevitable : system.Inevitably Goal state) : system.Inevitably Goal' state := by
  induction inevitable with
  | reached goal => exact .reached (weaker _ goal)
  | later possible _ induction => exact .later possible induction

/-! ## Machines given by their actions -/

section

variable {Action : Type v}

/-- The machine whose steps are the allowed actions. `act` says what an action makes of
a state in which it is possible. -/
def ofActions (start : State → Prop) (allowed : State → Action → Bool)
    (act : State → Action → Option State) : TransitionSystem State where
  Initial := start
  Step before after := ∃ action, allowed before action = true ∧
    act before action = some after

def perform (allowed : State → Action → Bool) (act : State → Action → Option State) :
    State → List Action → Option State
  | state, [] => some state
  | state, action :: actions =>
      if allowed state action then
        match act state action with
        | some next => perform allowed act next actions
        | none => none
      else none

theorem reachable_of_perform {start : State → Prop} {allowed : State → Action → Bool}
    {act : State → Action → Option State} {state final : State} {actions : List Action}
    (reachable : (ofActions start allowed act).Reachable state)
    (performed : perform allowed act state actions = some final) :
    (ofActions start allowed act).Reachable final := by
  induction actions generalizing state with
  | nil =>
      cases performed
      exact reachable
  | cons action actions induction =>
      rw [perform] at performed
      split at performed
      · rename_i permitted
        cases possible : act state action with
        | none => simp [possible] at performed
        | some next =>
            simp only [possible] at performed
            exact induction (reachable.step ⟨action, permitted, possible⟩) performed
      · cases performed

end

/-! ## Independent machines side by side -/

variable {Index : Type v}

def parallel (systems : Index → TransitionSystem State) :
    TransitionSystem (Index → State) where
  Initial states := ∀ index, (systems index).Initial (states index)
  Step before after := ∃ index, (systems index).Step (before index) (after index) ∧
    ∀ other, other ≠ index → after other = before other

theorem parallel_reachable {systems : Index → TransitionSystem State}
    {states : Index → State} (reachable : (parallel systems).Reachable states)
    (index : Index) : (systems index).Reachable (states index) := by
  rcases reachable with ⟨start, initial, run⟩
  induction run with
  | refl => exact .initial (initial index)
  | tail _ step induction =>
      rcases step with ⟨mover, moved, others⟩
      by_cases own : index = mover
      · subst own
        exact induction.step moved
      · rw [others index own]
        exact induction

end TransitionSystem

end DsBench
