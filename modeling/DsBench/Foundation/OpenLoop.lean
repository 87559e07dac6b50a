import Mathlib.Algebra.Order.Field.Basic
import Mathlib.Data.Rat.Defs
import Mathlib.Tactic.Linarith

/-! # Open-loop tasks with a deadline

A task repeats turns while its clock is before a deadline. A turn may first sleep
until an instant it is due at; what it then issues may or may not count.
-/

namespace DsBench

/-- One turn of an open loop. A paced turn has a due instant; `oversleep` is how much
later than that a sleep ends. -/
structure Turn where
  began : ℚ
  due : Option ℚ
  oversleep : ℚ
  counted : Bool
deriving DecidableEq, Repr

namespace Turn

def issued (turn : Turn) : ℚ :=
  match turn.due with
  | some due => if turn.began < due then due + turn.oversleep else turn.began
  | none => turn.began

/-- The turn's pacing put it to sleep until the deadline or later. -/
def SleptPast (deadline : ℚ) (turn : Turn) : Prop :=
  ∃ due, turn.due = some due ∧ turn.began < due ∧ deadline ≤ due + turn.oversleep

theorem issued_lt_iff {deadline : ℚ} {turn : Turn} (inTime : turn.began < deadline) :
    turn.issued < deadline ↔ ¬ turn.SleptPast deadline := by
  rw [issued, SleptPast]
  cases due : turn.due with
  | none => simp [inTime]
  | some instant =>
      by_cases sleeps : turn.began < instant
      · simp [sleeps]
      · simp [sleeps, inTime]

theorem not_sleptPast_of_unpaced {deadline : ℚ} {turn : Turn} (unpaced : turn.due = none) :
    ¬ turn.SleptPast deadline := by
  intro slept
  rcases slept with ⟨_, due, -⟩
  rw [unpaced] at due
  cases due

end Turn

/-! ## The loop -/

section

variable {State Input : Type*}

def openLoop (clock : State → ℚ) (turn : State → Input → Turn × State) (deadline : ℚ) :
    State → List Input → List Turn × State
  | state, [] => ([], state)
  | state, input :: inputs =>
      if clock state < deadline then
        let taken := turn state input
        let later := openLoop clock turn deadline taken.2 inputs
        (taken.1 :: later.1, later.2)
      else ([], state)

variable {clock : State → ℚ} {turn : State → Input → Turn × State} {deadline : ℚ}

theorem openLoop_forall {Property : Turn → Prop}
    (each : ∀ state input, clock state < deadline → Property (turn state input).1)
    (state : State) (inputs : List Input) :
    ∀ taken ∈ (openLoop clock turn deadline state inputs).1, Property taken := by
  induction inputs generalizing state with
  | nil => simp [openLoop]
  | cons input inputs induction =>
      intro taken member
      simp only [openLoop] at member
      split at member
      · rename_i inTime
        rcases List.mem_cons.mp member with here | later
        · rw [here]
          exact each state input inTime
        · exact induction _ taken later
      · cases member

theorem openLoop_count {count : State → Nat}
    (each : ∀ state input, count (turn state input).2 =
      count state + if (turn state input).1.counted then 1 else 0)
    (state : State) (inputs : List Input) :
    count (openLoop clock turn deadline state inputs).2 = count state +
      (openLoop clock turn deadline state inputs).1.countP Turn.counted := by
  induction inputs generalizing state with
  | nil => simp [openLoop]
  | cons input inputs induction =>
      simp only [openLoop]
      split
      · simp only [induction, each, List.countP_cons]
        omega
      · simp

/-- Every counted operation was issued before the deadline exactly when no counted
turn slept past it. -/
theorem openLoop_window_iff (turn : State → Input → Turn × State)
    (begins : ∀ state input, (turn state input).1.began = clock state)
    (state : State) (inputs : List Input) :
    (∀ taken ∈ (openLoop clock turn deadline state inputs).1,
        taken.counted = true → taken.issued < deadline) ↔
      ∀ taken ∈ (openLoop clock turn deadline state inputs).1,
        taken.counted = true → ¬ taken.SleptPast deadline := by
  have inTime : ∀ taken ∈ (openLoop clock turn deadline state inputs).1,
      taken.began < deadline :=
    openLoop_forall (fun state input early => by rw [begins]; exact early) state inputs
  constructor
  · intro window taken member counted
    exact (Turn.issued_lt_iff (inTime taken member)).mp (window taken member counted)
  · intro awake taken member counted
    exact (Turn.issued_lt_iff (inTime taken member)).mpr (awake taken member counted)

end

end DsBench
