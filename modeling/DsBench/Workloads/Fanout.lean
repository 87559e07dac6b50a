import DsBench.Foundation.CyclicBarrier
import DsBench.Foundation.TransitionSystem
import DsBench.Workloads.HttpReply
import Mathlib.Data.Fintype.Option

/-! # The fan-out workload

One writer and many subscribers of one stream meet at a barrier made for all of them. A
subscriber that cannot connect returns its error before it comes to the barrier.
-/

namespace DsBench.Workloads.Fanout

/-- What becomes of a subscriber's GET. -/
inductive Connect where
  | transportError
  | response (status : Nat)
deriving DecidableEq, Repr

/-- The subscriber gets a stream to read from. -/
def Connect.Opened : Connect → Prop
  | .transportError => False
  | .response status => isSuccess status

instance (connect : Connect) : Decidable connect.Opened := by
  cases connect
  · exact inferInstanceAs (Decidable False)
  · exact inferInstanceAs (Decidable (isSuccess _))

/-- A subscriber's task up to its barrier: it waits for the connect, has a stream, or
has returned an error. -/
inductive Subscriber where
  | connecting
  | connected
  | failed
deriving DecidableEq, Repr

/-- The tasks of a run: the writer is `none`. -/
abbrev Task (subscribers : Nat) := Option (Fin subscribers)

structure State (subscribers : Nat) where
  subscriber : Fin subscribers → Subscriber
  subscriberErrors : Nat
  barrier : CyclicBarrier (Task subscribers)

section

variable {subscribers : Nat} (connect : Fin subscribers → Connect)

/-- The barrier is made for `subscribers + 1` tasks. A task waits at it once. -/
inductive Step : State subscribers → State subscribers → Prop where
  | connected (state : State subscribers) (idx : Fin subscribers) :
      state.subscriber idx = .connecting → (connect idx).Opened →
      Step state { state with subscriber := Function.update state.subscriber idx .connected }
  | failed (state : State subscribers) (idx : Fin subscribers) :
      state.subscriber idx = .connecting → ¬ (connect idx).Opened →
      Step state
        { state with
          subscriber := Function.update state.subscriber idx .failed
          subscriberErrors := state.subscriberErrors + 1 }
  | subscriberWaits (state : State subscribers) (idx : Fin subscribers) :
      state.subscriber idx = .connected → state.barrier.place (some idx) = .outside →
      Step state { state with barrier := state.barrier.wait (subscribers + 1) (some idx) }
  | writerWaits (state : State subscribers) :
      state.barrier.place none = .outside →
      Step state { state with barrier := state.barrier.wait (subscribers + 1) none }

def fanout : TransitionSystem (State subscribers) where
  Initial state := state = ⟨fun _ => .connecting, 0, .fresh⟩
  Step := Step connect

def CanArrive (state : State subscribers) : Task subscribers → Prop
  | none => state.barrier.place none = .outside
  | some idx => state.barrier.place (some idx) = .outside ∧ state.subscriber idx ≠ .failed

/-- A task waits at the barrier and nobody is left to come. -/
def Stuck (state : State subscribers) : Prop :=
  (∃ task, state.barrier.place task = .waiting) ∧ ∀ task, ¬ CanArrive state task

/-- The barrier counts the tasks that wait, and each subscriber's state tells what
became of its connect. -/
structure Kept (state : State subscribers) : Prop where
  sound : state.barrier.Sound
  connected : ∀ idx, state.subscriber idx = .connected → (connect idx).Opened
  failed : ∀ idx, state.subscriber idx = .failed →
    ¬ (connect idx).Opened ∧ state.barrier.place (some idx) = .outside
  connecting : ∀ idx, state.subscriber idx = .connecting →
    state.barrier.place (some idx) = .outside

end

section

variable {subscribers : Nat} {connect : Fin subscribers → Connect}

theorem Kept.wait {state : State subscribers} (kept : Kept connect state)
    (task : Task subscribers) (first : state.barrier.place task = .outside)
    (may : ∀ idx, task = some idx → state.subscriber idx = .connected) :
    Kept connect
      { state with barrier := state.barrier.wait (subscribers + 1) task } := by
  have size : subscribers + 1 = Fintype.card (Task subscribers) := by simp
  have stays : ∀ idx, state.subscriber idx ≠ .connected →
      state.barrier.place (some idx) = .outside →
      (state.barrier.wait (subscribers + 1) task).place (some idx) = .outside := by
    intro idx other outside
    rw [CyclicBarrier.wait_outside_iff]
    exact ⟨fun own => other (may idx own.symm), outside⟩
  refine ⟨?_, kept.connected, ?_, ?_⟩
  · rw [size]
    exact CyclicBarrier.wait_sound kept.sound first
  · intro idx (gone : state.subscriber idx = .failed)
    have before := kept.failed idx gone
    exact ⟨before.1, stays idx (by simp [gone]) before.2⟩
  · intro idx (trying : state.subscriber idx = .connecting)
    exact stays idx (by simp [trying]) (kept.connecting idx trying)

theorem Kept.settle {state : State subscribers} (kept : Kept connect state)
    {idx : Fin subscribers} (trying : state.subscriber idx = .connecting)
    (outcome : Subscriber) (settled : outcome ≠ .connecting)
    (opened : outcome = .connected → (connect idx).Opened)
    (refused : outcome = .failed → ¬ (connect idx).Opened) (errors : Nat) :
    Kept connect
      { state with
        subscriber := Function.update state.subscriber idx outcome
        subscriberErrors := errors } := by
  refine ⟨kept.sound, ?_, ?_, ?_⟩
  · intro other now
    by_cases own : other = idx
    · subst own
      exact opened (by simpa using now)
    · exact kept.connected other (by simpa [own] using now)
  · intro other now
    by_cases own : other = idx
    · subst own
      exact ⟨refused (by simpa using now), kept.connecting other trying⟩
    · exact kept.failed other (by simpa [own] using now)
  · intro other now
    by_cases own : other = idx
    · subst own
      exact (settled (by simpa using now)).elim
    · exact kept.connecting other (by simpa [own] using now)

theorem fanout_kept : (fanout connect).Invariant (Kept connect) where
  initially := by
    intro state initial
    subst initial
    refine ⟨CyclicBarrier.fresh_sound, ?_, ?_, ?_⟩
    · intro idx open_stream
      cases open_stream
    · intro idx gone
      cases gone
    · intro idx _
      rfl
  preserved := by
    intro before after kept step
    cases step with
    | connected idx trying opened =>
        exact kept.settle trying .connected nofun (fun _ => opened) nofun _
    | failed idx trying refused =>
        exact kept.settle trying .failed nofun nofun (fun _ => refused) _
    | subscriberWaits idx connected first =>
        apply kept.wait (some idx) first
        intro other own
        cases own
        exact connected
    | writerWaits first =>
        apply kept.wait none first
        intro other own
        cases own

/-! ## How a run ends -/

def Quiet (state : State subscribers) : Prop := ∀ task, ¬ CanArrive state task

def remaining (state : State subscribers) : Nat :=
  (Finset.univ.filter fun idx => state.subscriber idx = .connecting).card +
    (state.barrier.tasksAt .outside).card

theorem fanout_moves {state : State subscribers} (loud : ¬ Quiet state) :
    ∃ next, (fanout connect).Step state next := by
  rw [Quiet, not_forall] at loud
  rcases loud with ⟨task, comes⟩
  rw [not_not] at comes
  cases task with
  | none => exact ⟨_, .writerWaits state comes⟩
  | some idx =>
      rcases comes with ⟨outside, alive⟩
      cases now : state.subscriber idx with
      | connecting =>
          by_cases opened : (connect idx).Opened
          · exact ⟨_, .connected state idx now opened⟩
          · exact ⟨_, .failed state idx now opened⟩
      | connected => exact ⟨_, .subscriberWaits state idx now outside⟩
      | failed => exact (alive now).elim

theorem connecting_lt (state : State subscribers) {idx : Fin subscribers}
    (trying : state.subscriber idx = .connecting) {result : Subscriber}
    (ended : result ≠ .connecting) :
    (Finset.univ.filter fun other =>
        Function.update state.subscriber idx result other = .connecting).card <
      (Finset.univ.filter fun other => state.subscriber other = .connecting).card := by
  apply Finset.card_lt_card
  rw [Finset.ssubset_iff_of_subset]
  · exact ⟨idx, by simpa using trying, by simpa using ended⟩
  · intro other member
    rw [Finset.mem_filter_univ] at member ⊢
    by_cases own : other = idx
    · rwa [own]
    · simpa [own] using member

theorem remaining_lt {state next : State subscribers}
    (step : (fanout connect).Step state next) : remaining next < remaining state := by
  cases step with
  | connected idx trying _ =>
      exact Nat.add_lt_add_right (connecting_lt state trying (by decide)) _
  | failed idx trying _ =>
      exact Nat.add_lt_add_right (connecting_lt state trying (by decide)) _
  | subscriberWaits idx _ first =>
      exact Nat.add_lt_add_left (state.barrier.wait_outside_lt _ first) _
  | writerWaits first =>
      exact Nat.add_lt_add_left (state.barrier.wait_outside_lt _ first) _

theorem quiet_inevitable {state : State subscribers} (kept : Kept connect state) :
    (fanout connect).Inevitably (fun after => Kept connect after ∧ Quiet after) state := by
  have enabled : ∀ now, Kept connect now → ¬ (Kept connect now ∧ Quiet now) →
      ∃ next, (fanout connect).Step now next :=
    fun now holds unfinished => fanout_moves fun quiet => unfinished ⟨holds, quiet⟩
  have nearer : ∀ now next, Kept connect now → (fanout connect).Step now next →
      Kept connect next ∧ remaining next < remaining now := fun now next holds step =>
    ⟨fanout_kept.preserved now next holds step, remaining_lt step⟩
  exact .of_measure remaining enabled nearer kept

theorem Kept.all_past {state : State subscribers} (kept : Kept connect state)
    (opened : ∀ idx, (connect idx).Opened) (quiet : Quiet state)
    (task : Task subscribers) : state.barrier.place task = .past := by
  apply kept.sound.all_past
  intro other outside
  cases other with
  | none => exact quiet none outside
  | some idx =>
      exact quiet (some idx) ⟨outside, fun gone => (kept.failed idx gone).1 (opened idx)⟩

/-- A subscriber that failed stays outside for good, so the barrier stays closed and the
writer waits at it. -/
theorem Kept.writer_waits {state : State subscribers} (kept : Kept connect state)
    {idx : Fin subscribers} (refused : ¬ (connect idx).Opened) (quiet : Quiet state) :
    state.barrier.place none = .waiting := by
  have missing : state.barrier.place (some idx) = .outside := by
    cases now : state.subscriber idx with
    | connecting => exact kept.connecting idx now
    | connected => exact (refused (kept.connected idx now)).elim
    | failed => exact (kept.failed idx now).2
  rcases kept.sound with ⟨closed, _, _⟩ | all
  · cases place : state.barrier.place none with
    | outside => exact (quiet none place).elim
    | waiting => rfl
    | past => exact (closed none place).elim
  · rw [all (some idx)] at missing
    cases missing

/-- When every subscriber gets a stream the barrier opens for everybody. -/
theorem barrier_opens (opened : ∀ idx, (connect idx).Opened) {state : State subscribers}
    (reachable : (fanout connect).Reachable state) :
    (fanout connect).Inevitably (fun after => ∀ task, after.barrier.place task = .past)
      state := by
  apply (quiet_inevitable (fanout_kept.of_reachable reachable)).mono
  intro after settled
  exact settled.1.all_past opened settled.2

/-- When a subscriber gets none the run hangs, whatever the others do. -/
theorem run_hangs {idx : Fin subscribers} (refused : ¬ (connect idx).Opened)
    {state : State subscribers} (reachable : (fanout connect).Reachable state) :
    (fanout connect).Inevitably Stuck state := by
  apply (quiet_inevitable (fanout_kept.of_reachable reachable)).mono
  intro after settled
  exact ⟨⟨none, settled.1.writer_waits refused settled.2⟩, settled.2⟩

end

/-- No task is ever left waiting for nobody exactly when every subscriber gets a
stream. -/
theorem never_stuck_iff {subscribers : Nat} (connect : Fin subscribers → Connect) :
    (∀ state, (fanout connect).Reachable state → ¬ Stuck state) ↔
      ∀ idx, (connect idx).Opened := by
  constructor
  · intro never idx
    by_contra refused
    have begun : (fanout connect).Reachable ⟨fun _ => .connecting, 0, .fresh⟩ :=
      .initial rfl
    rcases (run_hangs refused begun).exists_run with ⟨after, run, stuck⟩
    exact never after ⟨_, rfl, run⟩ stuck
  · intro opened state reachable stuck
    rcases stuck with ⟨⟨task, waits⟩, quiet⟩
    rw [(fanout_kept.of_reachable reachable).all_past opened quiet task] at waits
    cases waits

/-- One subscriber whose stream is refused with 503 leaves the writer at the barrier. -/
theorem stuck_after_refusal :
    ∃ state, (fanout fun _ : Fin 1 => .response 503).Reachable state ∧ Stuck state := by
  have begun : (fanout fun _ : Fin 1 => .response 503).Reachable
      ⟨fun _ => .connecting, 0, .fresh⟩ := .initial rfl
  have refused := begun.step (.failed _ ⟨0, Nat.one_pos⟩ rfl (by decide))
  have waits := refused.step (.writerWaits _ rfl)
  refine ⟨_, waits, ⟨none, rfl⟩, ?_⟩
  intro task comes
  cases task with
  | none => simp [CanArrive] at comes
  | some idx => exact comes.2 (by simp [Subsingleton.elim idx ⟨0, Nat.one_pos⟩])

end DsBench.Workloads.Fanout
