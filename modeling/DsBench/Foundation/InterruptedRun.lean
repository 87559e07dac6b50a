/-! # Runs that may be interrupted

A run makes a sequence of writes to a state that outlives it, and may be cut off after
any of them. What it would have written later does not happen.
-/

namespace DsBench

/-- A state on the way, with the writes that are left before the interruption if there
is one. -/
structure Budgeted (State : Type u) where
  state : State
  budget : Option Nat

namespace Budgeted

variable {State : Type u}

def Alive (progress : Budgeted State) : Prop := progress.budget ≠ some 0

/-- A write takes place unless the run has been cut off. -/
def write (progress : Budgeted State) (change : State → State) : Budgeted State :=
  match progress.budget with
  | none => ⟨change progress.state, none⟩
  | some 0 => progress
  | some (left + 1) => ⟨change progress.state, some left⟩

theorem write_of_not_alive {progress : Budgeted State} {change : State → State}
    (spent : ¬ progress.Alive) : progress.write change = progress := by
  have none_left : progress.budget = some 0 := Decidable.not_not.mp spent
  simp only [write, none_left]

theorem state_write_of_alive {progress : Budgeted State} {change : State → State}
    (alive : progress.Alive) : (progress.write change).state = change progress.state := by
  rw [write]
  split
  · rfl
  · rename_i spent
    exact (alive spent).elim
  · rfl

theorem alive_of_alive_write {progress : Budgeted State} {change : State → State}
    (alive : (progress.write change).Alive) : progress.Alive := by
  by_cases before : progress.Alive
  · exact before
  · rwa [write_of_not_alive before] at alive

/-- A property that a change keeps is kept by the write, interrupted or not. -/
theorem write_preserves {Property : State → Prop} {progress : Budgeted State}
    {change : State → State} (holds : Property progress.state)
    (kept : Property progress.state → Property (change progress.state)) :
    Property (progress.write change).state := by
  by_cases alive : progress.Alive
  · rw [state_write_of_alive alive]
    exact kept holds
  · rw [write_of_not_alive alive]
    exact holds

end Budgeted

end DsBench
