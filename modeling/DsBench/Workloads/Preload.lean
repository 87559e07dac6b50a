import DsBench.Foundation.GuardedDriver
import DsBench.Workloads.HttpReply
import DsBench.Workloads.SseUtil
import Mathlib.Data.List.Perm.Subperm

/-! # Records before the drive window

The mixed workload appends some records to each of its streams before it measures, so that
its readers have a body to replay. It does not look at the answers.
-/

namespace DsBench.Workloads.Preload

/-- What `preload_streams` is called with. -/
structure Args where
  streams : Nat
  eventsPerStream : Nat
  payloadBytes : Nat
  concurrency : Nat
deriving DecidableEq, Repr

/-- Where an append is: under way, over with an answer of some status or without one, or in a
task that has panicked. -/
inductive Phase where
  | flying
  | answered (status : Nat)
  | lost
  | panicked
deriving DecidableEq, Repr

/-- The append that was launched after `launched` others. -/
structure Task where
  launched : Nat
  phase : Phase
  stored : Bool
deriving DecidableEq, Repr

inductive Input where
  | store
  | answer (status : Nat)
  | lose
  | panic
deriving DecidableEq, Repr

section

variable (args : Args) (stamp : Nat → BitVec 128)

def total : Nat := args.streams * args.eventsPerStream

/-- The record of an append. `stamp` is what the wall clock shows when it is built. -/
def payload (launched : Nat) : Bytes :=
  buildPayload launched.toUInt64 (stamp launched) (max args.payloadBytes 49)

/-- The server may store a record for as long as it has not, also when nobody waits for its
answer any more. It may answer with any status, but with a success only what is stored. -/
def act (streams : Nat → List Bytes) (task : Task) : Input → Option ((Nat → List Bytes) × Task)
  | .store =>
      if task.stored then none
      else
        let stream := task.launched % args.streams
        some (Function.update streams stream
          (streams stream ++ [payload args stamp task.launched]), { task with stored := true })
  | .answer status =>
      if task.phase = .flying ∧ (isSuccess status → task.stored = true) then
        some (streams, { task with phase := .answered status })
      else none
  | .lose =>
      if task.phase = .flying then some (streams, { task with phase := .lost }) else none
  | .panic =>
      if task.phase = .flying then some (streams, { task with phase := .panicked }) else none

theorem act_cases {streams : Nat → List Bytes} {task : Task} {input : Input}
    {next : (Nat → List Bytes) × Task} (acted : act args stamp streams task input = some next) :
    (task.stored = false ∧
      next = (Function.update streams (task.launched % args.streams)
        (streams (task.launched % args.streams) ++ [payload args stamp task.launched]),
          { task with stored := true })) ∨
    ∃ phase, task.phase = .flying ∧ phase ≠ .flying ∧
      (∀ status, phase = .answered status → isSuccess status → task.stored = true) ∧
      next = (streams, { task with phase := phase }) := by
  cases input with
  | store =>
      rw [act] at acted
      split at acted
      · cases acted
      · rename_i unstored
        cases acted
        exact .inl ⟨Bool.not_eq_true _ ▸ unstored, rfl⟩
  | answer status =>
      rw [act] at acted
      split at acted
      · rename_i possible
        cases acted
        refine .inr ⟨.answered status, possible.1, by simp, ?_, rfl⟩
        intro other same
        cases same
        exact possible.2
      · cases acted
  | lose =>
      rw [act] at acted
      split at acted
      · rename_i flying
        cases acted
        exact .inr ⟨.lost, flying, by simp, by simp, rfl⟩
      · cases acted
  | panic =>
      rw [act] at acted
      split at acted
      · rename_i flying
        cases acted
        exact .inr ⟨.panicked, flying, by simp, by simp, rfl⟩
      · cases acted

def ended (task : Task) : Bool := decide (task.phase ≠ .flying)

theorem ended_stays {streams : Nat → List Bytes} {task : Task} {input : Input}
    {next : (Nat → List Bytes) × Task} (acted : act args stamp streams task input = some next)
    (done : ended task = true) : ended next.2 = true := by
  rcases act_cases args stamp acted with ⟨_, result⟩ | ⟨phase, _, other, _, result⟩
  · rw [result]
    exact done
  · rw [result]
    exact decide_eq_true other

theorem ended_begins (launched : Nat) : ended ⟨launched, .flying, false⟩ = false := rfl

/-- `preload_streams` over streams that hold what `resident` says. -/
def preloadStreams (resident : Nat → List Bytes) :
    GuardedDriver (Nat → List Bytes) Task Input where
  count := total args
  limit := max args.concurrency 1
  roomy := Nat.lt_of_lt_of_le Nat.one_pos (Nat.le_max_right _ _)
  start := resident
  task := fun launched => ⟨launched, .flying, false⟩
  act := act args stamp
  ended := ended
  failed := fun task => decide (task.phase = .panicked)
  begins := ended_begins
  stays := fun _ _ _ _ acted done => ended_stays args stamp acted done

/-! ## What is stored -/

/-- Each stream holds what it held, and behind it the records of appends to it, each once.
An append that is answered with a success is stored. -/
structure Stored (resident streams : Nat → List Bytes) (tasks : Nat → Task) : Prop where
  numbered : ∀ i, (tasks i).launched = i
  answered : ∀ i status, (tasks i).phase = .answered status → isSuccess status →
    (tasks i).stored = true
  placed : ∀ stream, ∃ order : List Nat, order.Nodup ∧
    (∀ i, i ∈ order ↔ (tasks i).stored = true ∧ i % args.streams = stream) ∧
    streams stream = resident stream ++ order.map (payload args stamp)

variable {args stamp}

theorem Stored.store {resident streams : Nat → List Bytes} {tasks : Nat → Task}
    (stored : Stored args stamp resident streams tasks) {i : Nat}
    (unstored : (tasks i).stored = false) :
    Stored args stamp resident
      (Function.update streams (i % args.streams)
        (streams (i % args.streams) ++ [payload args stamp i]))
      (Function.update tasks i { tasks i with stored := true }) := by
  refine ⟨?_, ?_, ?_⟩
  · rw [Function.forall_update_iff tasks fun j task => task.launched = j]
    exact ⟨stored.numbered i, fun j _ => stored.numbered j⟩
  · rw [Function.forall_update_iff tasks fun _ task =>
      ∀ status, task.phase = .answered status → isSuccess status → task.stored = true]
    exact ⟨fun _ _ _ => rfl, fun j _ => stored.answered j⟩
  · intro stream
    rcases stored.placed stream with ⟨order, distinct, members, shape⟩
    by_cases here : i % args.streams = stream
    · subst here
      have outside : i ∉ order := by
        intro member
        rw [(members i).mp member |>.1] at unstored
        cases unstored
      refine ⟨order ++ [i], ?_, ?_, ?_⟩
      · exact List.nodup_append_comm.mp (List.nodup_cons.mpr ⟨outside, distinct⟩)
      · intro j
        rw [List.mem_append, List.mem_singleton, members j]
        by_cases own : j = i
        · subst own
          simp
        · rw [Function.update_of_ne own]
          simp [own]
      · rw [Function.update_self, shape, List.map_append, List.append_assoc]
        rfl
    · refine ⟨order, distinct, ?_, ?_⟩
      · intro j
        rw [members j]
        by_cases own : j = i
        · subst own
          simp [here]
        · rw [Function.update_of_ne own]
      · rw [Function.update_of_ne (Ne.symm here)]
        exact shape

theorem Stored.close {resident streams : Nat → List Bytes} {tasks : Nat → Task}
    (stored : Stored args stamp resident streams tasks) {i : Nat} {phase : Phase}
    (sound : ∀ status, phase = .answered status → isSuccess status →
      (tasks i).stored = true) :
    Stored args stamp resident streams
      (Function.update tasks i { tasks i with phase := phase }) := by
  have same : ∀ j, (Function.update tasks i { tasks i with phase := phase } j).stored =
      (tasks j).stored := by
    intro j
    by_cases own : j = i
    · subst own
      rw [Function.update_self]
    · rw [Function.update_of_ne own]
  refine ⟨?_, ?_, ?_⟩
  · rw [Function.forall_update_iff tasks fun j task => task.launched = j]
    exact ⟨stored.numbered i, fun j _ => stored.numbered j⟩
  · rw [Function.forall_update_iff tasks fun _ task =>
      ∀ status, task.phase = .answered status → isSuccess status → task.stored = true]
    exact ⟨sound, fun j _ => stored.answered j⟩
  · intro stream
    rcases stored.placed stream with ⟨order, distinct, members, shape⟩
    refine ⟨order, distinct, ?_, shape⟩
    intro j
    rw [members j, same]

section

variable {resident : Nat → List Bytes}
  {state : GuardedDriver.State (Nat → List Bytes) Task}

theorem stored_of_reachable
    (reachable : (preloadStreams args stamp resident).system.Reachable state) :
    Stored args stamp resident state.shared state.tasks := by
  apply GuardedDriver.driver_holds (Stored args stamp resident) ?_ ?_ reachable
  · refine ⟨fun _ => rfl, ?_, ?_⟩
    · intro i status answered
      cases answered
    · intro stream
      refine ⟨[], List.nodup_nil, ?_, (List.append_nil _).symm⟩
      intro i
      simp [preloadStreams]
  · intro i streams tasks input next stored acted
    have number := stored.numbered i
    rcases act_cases args stamp acted with ⟨unstored, result⟩ | ⟨phase, _, _, sound, result⟩
    · rw [result]
      simpa only [number] using stored.store unstored
    · rw [result]
      exact stored.close sound

def share (args : Args) (stream : Nat) : List Nat :=
  (List.range args.eventsPerStream).map fun round => stream + round * args.streams

theorem mem_share_iff {stream : Nat} (inside : stream < args.streams) (i : Nat) :
    i ∈ share args stream ↔ i < total args ∧ i % args.streams = stream := by
  rw [share, List.mem_map, total]
  constructor
  · intro found
    rcases found with ⟨round, member, same⟩
    rw [List.mem_range] at member
    rw [← same]
    refine ⟨?_, ?_⟩
    · have whole : (round + 1) * args.streams ≤ args.eventsPerStream * args.streams :=
        Nat.mul_le_mul_right _ member
      rw [Nat.succ_mul] at whole
      rw [Nat.mul_comm args.streams]
      omega
    · rw [Nat.add_mul_mod_self_right, Nat.mod_eq_of_lt inside]
  · intro here
    rcases here with ⟨below, same⟩
    refine ⟨i / args.streams, ?_, ?_⟩
    · rw [List.mem_range]
      exact Nat.div_lt_of_lt_mul below
    · rw [← same, Nat.mul_comm]
      exact Nat.mod_add_div i args.streams

theorem nodup_share {stream : Nat} (inside : stream < args.streams) :
    (share args stream).Nodup := by
  apply List.Nodup.map ?_ List.nodup_range
  intro first second same
  have scaled : first * args.streams = second * args.streams := Nat.add_left_cancel same
  exact Nat.eq_of_mul_eq_mul_right (Nat.zero_lt_of_lt inside) scaled

theorem lt_of_stored (reachable : (preloadStreams args stamp resident).system.Reachable state)
    {i : Nat} (stored : (state.tasks i).stored = true) : i < total args := by
  have kept := (GuardedDriver.system_kept _).of_reachable reachable
  by_contra beyond
  have fresh := kept.fresh i (kept.spawns.trans (Nat.le_of_not_lt beyond))
  rw [fresh] at stored
  cases stored

theorem appended (reachable : (preloadStreams args stamp resident).system.Reachable state)
    {stream : Nat} (inside : stream < args.streams) :
    ∃ order : List Nat, order.Subperm (share args stream) ∧
      (∀ i, i ∈ order ↔ i ∈ share args stream ∧ (state.tasks i).stored = true) ∧
      state.shared stream = resident stream ++ order.map (payload args stamp) := by
  rcases (stored_of_reachable reachable).placed stream with
    ⟨order, distinct, members, shape⟩
  have only : ∀ i, i ∈ order ↔ i ∈ share args stream ∧ (state.tasks i).stored = true := by
    intro i
    rw [members i, mem_share_iff inside]
    constructor
    · intro here
      exact ⟨⟨lt_of_stored reachable here.1, here.2⟩, here.1⟩
    · intro here
      exact ⟨here.2, here.1.2⟩
  refine ⟨order, ?_, only, shape⟩
  exact List.subperm_of_subset distinct fun i member => ((only i).mp member).1

def acts (task : Task) : Nat :=
  (if task.stored then 0 else 1) + (if task.phase = .flying then 1 else 0)

theorem act_nearer {streams : Nat → List Bytes} {task : Task} {input : Input}
    {next : (Nat → List Bytes) × Task}
    (acted : act args stamp streams task input = some next) : acts next.2 < acts task := by
  rcases act_cases args stamp acted with ⟨unstored, result⟩ | ⟨phase, flying, other, _, result⟩
  · rw [result]
    simp [acts, unstored]
  · rw [result]
    simp [acts, flying, other]

theorem panicked_settled {streams : Nat → List Bytes} {task : Task} {input : Input}
    {next : (Nat → List Bytes) × Task}
    (acted : act args stamp streams task input = some next) (done : ended task = true) :
    decide (next.2.phase = .panicked) = decide (task.phase = .panicked) := by
  rcases act_cases args stamp acted with ⟨_, result⟩ | ⟨phase, flying, _, _, _⟩
  · rw [result]
  · rw [ended, flying] at done
    cases done

theorem failed_iff_panicked
    (reachable : (preloadStreams args stamp resident).system.Reachable state) :
    state.control = .failed ↔ ∃ i ∈ state.taken, (state.tasks i).phase = .panicked := by
  have failed := GuardedDriver.failed_iff
    (fun _ _ _ _ acted done => panicked_settled acted done) reachable
  simp only [preloadStreams, decide_eq_true_eq] at failed
  exact failed

/-- Where the driver succeeds every append is over, and none of the tasks panicked. -/
theorem over_of_returned
    (reachable : (preloadStreams args stamp resident).system.Reachable state)
    (returned : state.control = .returned) {i : Nat} (below : i < total args) :
    (state.tasks i).phase ≠ .flying ∧ (state.tasks i).phase ≠ .panicked := by
  have kept := (GuardedDriver.system_kept _).of_reachable reachable
  have taken : i ∈ state.taken := kept.taken_of_returned returned below
  constructor
  · exact of_decide_eq_true (kept.taken i taken).2
  · intro panicked
    have failed := (failed_iff_panicked reachable).mpr ⟨i, taken, panicked⟩
    rw [returned] at failed
    cases failed

/-- In every run of `preload_streams`, however the appends, their answers and the driver
interleave: the driver never waits for a permit, and no more appends are under way than it
may have; each stream gets only records of its own share, each at most once. The driver fails
exactly when it takes the result of a task that panicked: no status and no lost answer makes
it fail. When it succeeds every append is over, and a stream whose appends were all stored, as
those are that were answered with a success, has its whole share. And the driver does come to
an end. -/
theorem preload_covers
    (reachable : (preloadStreams args stamp resident).system.Reachable state) :
    (state.control = .acquiring → 0 < state.free) ∧
    (state.holding (preloadStreams args stamp resident)).card ≤ max args.concurrency 1 ∧
    (∀ stream, stream < args.streams → ∃ order : List Nat,
      order.Subperm (share args stream) ∧
      state.shared stream = resident stream ++ order.map (payload args stamp)) ∧
    (state.control = .failed ↔ ∃ i ∈ state.taken, (state.tasks i).phase = .panicked) ∧
    (∀ i status, (state.tasks i).phase = .answered status → isSuccess status →
      (state.tasks i).stored = true) ∧
    (state.control = .returned →
      (∀ i, i < total args →
        (state.tasks i).phase ≠ .flying ∧ (state.tasks i).phase ≠ .panicked) ∧
      ∀ stream, stream < args.streams →
        (∀ i ∈ share args stream, (state.tasks i).stored = true) →
        ∃ order : List Nat, order.Perm (share args stream) ∧
          order.length = args.eventsPerStream ∧
          state.shared stream = resident stream ++ order.map (payload args stamp)) ∧
    (preloadStreams args stamp resident).system.Inevitably GuardedDriver.Over state := by
  have kept := (GuardedDriver.system_kept _).of_reachable reachable
  refine ⟨kept.free_of_acquiring, kept.holding_le.trans kept.bounded, ?_,
    failed_iff_panicked reachable, (stored_of_reachable reachable).answered, ?_, ?_⟩
  · intro stream inside
    rcases appended reachable inside with ⟨order, part, _, shape⟩
    exact ⟨order, part, shape⟩
  · intro returned
    refine ⟨fun i below => over_of_returned reachable returned below, ?_⟩
    intro stream inside stored
    rcases appended reachable inside with ⟨order, part, members, shape⟩
    have whole : order.Perm (share args stream) := by
      apply part.perm_of_length_le
      apply List.Subperm.length_le
      apply List.subperm_of_subset (nodup_share inside)
      intro i member
      rw [members i]
      exact ⟨member, stored i member⟩
    refine ⟨order, whole, ?_, shape⟩
    rw [whole.length_eq, share, List.length_map, List.length_range]
  · apply GuardedDriver.inevitably_over (fun _ _ _ _ acted => act_nearer acted) ?_ reachable
    intro streams task running
    have flying : task.phase = .flying := by
      by_contra ends
      have closed : ended task = true := decide_eq_true ends
      rw [show ended task = false from running] at closed
      cases closed
    exact ⟨.lose, _, if_pos flying⟩

end

end

/-! ## Two streams -/

def oneByOne : Args := ⟨2, 1, 256, 1⟩

def oneByOneActions : List (GuardedDriver.Action Input) :=
  [.go, .go, .go, .go, .act 0 (.answer 503), .join 0, .go, .go, .go, .go, .act 1 .lose,
    .join 1, .act 1 .store, .go]

theorem preload_covers_one_by_one :
    ∃ state : GuardedDriver.State (Nat → List Bytes) Task,
      (preloadStreams oneByOne (fun _ => 0) fun _ => []).system.Reachable state ∧
      state.control = .returned ∧
      (¬ ∃ i ∈ state.taken, (state.tasks i).phase = .panicked) ∧
      ∃ order : List Nat, order.Perm (share oneByOne 1) ∧
        state.shared 1 = order.map (payload oneByOne fun _ => 0) := by
  have run : (TransitionSystem.perform (fun _ _ => true)
      (preloadStreams oneByOne (fun _ => 0) fun _ => []).perform
      (preloadStreams oneByOne (fun _ => 0) fun _ => []).initial oneByOneActions).map
        (fun state => (state.control, (state.tasks 1).stored)) =
          some (.returned, true) := by
    decide +kernel
  rw [Option.map_eq_some_iff] at run
  rcases run with ⟨state, performed, facts⟩
  rw [Prod.mk.injEq] at facts
  have reachable : (preloadStreams oneByOne (fun _ => 0) fun _ => []).system.Reachable state :=
    TransitionSystem.reachable_of_perform (.initial rfl) performed
  rcases preload_covers reachable with ⟨-, -, -, failed, -, complete, -⟩
  have stored : ∀ i ∈ share oneByOne 1, (state.tasks i).stored = true := by
    intro i member
    rw [List.mem_singleton.mp member]
    exact facts.2
  have unfailed : ¬ ∃ i ∈ state.taken, (state.tasks i).phase = .panicked := by
    rw [← failed, facts.1]
    intro same
    cases same
  rcases (complete facts.1).2 1 (by decide) stored with ⟨order, whole, _, shape⟩
  exact ⟨state, reachable, facts.1, unfailed, order, whole, shape⟩

end DsBench.Workloads.Preload
