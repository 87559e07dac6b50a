import Mathlib.Data.Fintype.Card

/-! # A barrier that counts its waiters

The barrier lets nobody past until as many tasks wait as it was made for, and then
everybody. Its own state is only a count; whose waits were counted is kept beside it.
-/

namespace DsBench

inductive Place where
  | outside
  | waiting
  | past
deriving DecidableEq, Repr

structure CyclicBarrier (Task : Type u) where
  arrived : Nat
  place : Task → Place

namespace CyclicBarrier

section

variable {Task : Type u}

def fresh : CyclicBarrier Task := ⟨0, fun _ => .outside⟩

variable [DecidableEq Task]

/-- One call of `wait`. The call that completes the count opens the barrier and
starts a new count. -/
def wait (size : Nat) (barrier : CyclicBarrier Task) (task : Task) :
    CyclicBarrier Task :=
  if barrier.arrived + 1 < size then
    ⟨barrier.arrived + 1, Function.update barrier.place task .waiting⟩
  else
    ⟨0, fun other =>
      if other = task ∨ barrier.place other = .waiting then .past
      else barrier.place other⟩

@[simp] theorem wait_outside_iff (size : Nat) (barrier : CyclicBarrier Task)
    (task other : Task) :
    (barrier.wait size task).place other = .outside ↔
      other ≠ task ∧ barrier.place other = .outside := by
  rw [wait]
  by_cases own : other = task
  · split
    · simp [own]
    · simp [own]
  · split
    · simp [own]
    · cases place : barrier.place other with
      | outside => simp [own, place]
      | waiting => simp [place]
      | past => simp [own, place]

end

section

variable {Task : Type u} [Fintype Task]

def tasksAt (barrier : CyclicBarrier Task) (place : Place) : Finset Task :=
  Finset.univ.filter fun task => barrier.place task = place

@[simp] theorem mem_tasksAt (barrier : CyclicBarrier Task) (place : Place)
    (task : Task) : task ∈ barrier.tasksAt place ↔ barrier.place task = place := by
  simp [tasksAt]

/-- The barrier is still closed and counts the tasks that wait, or it is past for
everybody. -/
def Sound (barrier : CyclicBarrier Task) : Prop :=
  ((∀ task, barrier.place task ≠ .past) ∧
      barrier.arrived = (barrier.tasksAt .waiting).card ∧
      barrier.arrived < Fintype.card Task) ∨
    ∀ task, barrier.place task = .past

theorem fresh_sound : (fresh : CyclicBarrier Task).Sound := by
  rcases isEmpty_or_nonempty Task with empty | inhabited
  · right
    intro task
    exact (IsEmpty.false task).elim
  · left
    refine ⟨by simp [fresh], ?_, Fintype.card_pos⟩
    simp [fresh, tasksAt]

/-- While somebody waits at a sound barrier, somebody has not come yet. -/
theorem Sound.exists_outside {barrier : CyclicBarrier Task} (sound : barrier.Sound)
    {task : Task} (waits : barrier.place task = .waiting) :
    ∃ other, barrier.place other = .outside := by
  rcases sound with ⟨closed, counted, open_seats⟩ | all
  · by_contra nobody
    have everybody : barrier.tasksAt .waiting = Finset.univ := by
      apply Finset.eq_univ_of_forall
      intro other
      rw [mem_tasksAt]
      cases place : barrier.place other with
      | outside => exact (nobody ⟨other, place⟩).elim
      | waiting => rfl
      | past => exact (closed other place).elim
    rw [everybody, Finset.card_univ] at counted
    omega
  · rw [all task] at waits
    cases waits

theorem Sound.all_past {barrier : CyclicBarrier Task} (sound : barrier.Sound)
    (nobody : ∀ task, barrier.place task ≠ .outside) (task : Task) :
    barrier.place task = .past := by
  cases place : barrier.place task with
  | outside => exact (nobody task place).elim
  | waiting =>
      rcases sound.exists_outside place with ⟨other, outside⟩
      exact (nobody other outside).elim
  | past => rfl

variable [DecidableEq Task]

theorem wait_sound {barrier : CyclicBarrier Task} (sound : barrier.Sound) {task : Task}
    (first : barrier.place task = .outside) :
    (barrier.wait (Fintype.card Task) task).Sound := by
  rcases sound with ⟨closed, counted, open_seats⟩ | all
  · have fresh_waiter : task ∉ barrier.tasksAt .waiting := by simp [first]
    have more := Finset.card_insert_of_notMem fresh_waiter
    rw [wait]
    split
    · rename_i fewer
      left
      refine ⟨?_, ?_, fewer⟩
      · intro other
        by_cases own : other = task
        · simp [own]
        · simpa [own] using closed other
      · have waiters : tasksAt ⟨barrier.arrived + 1,
            Function.update barrier.place task .waiting⟩ .waiting =
            insert task (barrier.tasksAt .waiting) := by
          ext other
          by_cases own : other = task
          · simp [own]
          · simp [own]
        rw [waiters, more, counted]
    · right
      have everybody : insert task (barrier.tasksAt .waiting) = Finset.univ := by
        apply Finset.eq_univ_of_card
        omega
      intro other
      have member : other ∈ insert task (barrier.tasksAt .waiting) := by
        rw [everybody]
        exact Finset.mem_univ other
      have here : other = task ∨ barrier.place other = .waiting := by
        simpa using member
      simp only [if_pos here]
  · rw [all task] at first
    cases first

theorem wait_outside_lt (barrier : CyclicBarrier Task) (size : Nat) {task : Task}
    (first : barrier.place task = .outside) :
    ((barrier.wait size task).tasksAt .outside).card <
      (barrier.tasksAt .outside).card := by
  apply Finset.card_lt_card
  rw [Finset.ssubset_iff_of_subset]
  · refine ⟨task, by simpa using first, ?_⟩
    intro member
    simp at member
  · intro other member
    rw [mem_tasksAt, wait_outside_iff] at member
    rw [mem_tasksAt]
    exact member.2

end

end CyclicBarrier

end DsBench
