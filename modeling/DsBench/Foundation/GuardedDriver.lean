import DsBench.Foundation.Crew
import Mathlib.Algebra.BigOperators.Group.Finset.Basic
import Mathlib.Data.Finset.Card
import Mathlib.Data.List.Perm.Subperm

/-! # Drivers that take a permit for each task

A driver keeps a bounded number of tasks pending, and takes a permit of a semaphore besides
for each task that it spawns. A task gives its permit back when it ends; the driver takes
the results of tasks that have ended, in any order. The semaphore has as many permits as
the driver may have tasks pending.
-/

namespace DsBench

/-- `act` says what an input makes of the shared state and of a task, if it is possible.
A task that has ended may have failed. -/
structure GuardedDriver (Shared : Type u) (Task : Type v) (Input : Type w) where
  count : Nat
  limit : Nat
  roomy : 0 < limit
  start : Shared
  task : Nat → Task
  act : Shared → Task → Input → Option (Shared × Task)
  ended : Task → Bool
  failed : Task → Bool
  begins : ∀ i, ended (task i) = false
  stays : ∀ shared worker input next, act shared worker input = some next →
    ended worker = true → ended next.2 = true

namespace GuardedDriver

/-- Where the driver's code stands: at the head of its loop, at the head of the loop that
spawns, before a permit, before a result, or at one of its two ends. -/
inductive Control where
  | heading
  | filling
  | acquiring
  | awaiting
  | returned
  | failed
deriving DecidableEq, Repr

/-- A task that is not spawned yet stands as it will begin. -/
structure State (Shared : Type u) (Task : Type v) where
  control : Control
  free : Nat
  spawned : Nat
  taken : List Nat
  shared : Shared
  tasks : Nat → Task

inductive Action (Input : Type w) where
  | go
  | act (i : Nat) (input : Input)
  | join (i : Nat)
deriving DecidableEq, Repr

section

variable {Shared : Type u} {Task : Type v} {Input : Type w}
  (driver : GuardedDriver Shared Task Input)

def State.pending (state : State Shared Task) : Nat := state.spawned - state.taken.length

def State.moved (state : State Shared Task) (i : Nat) (next : Shared × Task) :
    State Shared Task :=
  { state with
    free := if driver.ended (state.tasks i) = driver.ended next.2 then state.free
      else state.free + 1
    shared := next.1
    tasks := Function.update state.tasks i next.2 }

/-- The driver going on by itself. Where nothing is pending there is nothing to wait for. -/
def goOn (state : State Shared Task) : Option (State Shared Task) :=
  match state.control with
  | .heading =>
      if state.spawned < driver.count ∨ state.pending ≠ 0 then
        some { state with control := .filling }
      else some { state with control := .returned }
  | .filling =>
      if state.spawned < driver.count ∧ state.pending < driver.limit then
        some { state with control := .acquiring }
      else some { state with control := .awaiting }
  | .acquiring =>
      if 0 < state.free then
        some { state with
          control := .filling, free := state.free - 1, spawned := state.spawned + 1 }
      else none
  | .awaiting => if state.pending = 0 then some { state with control := .heading } else none
  | _ => none

def perform (state : State Shared Task) : Action Input → Option (State Shared Task)
  | .go => driver.goOn state
  | .act i input =>
      if i < state.spawned then
        (driver.act state.shared (state.tasks i) input).map (state.moved driver i)
      else none
  | .join i =>
      if state.control = .awaiting ∧ i < state.spawned ∧ i ∉ state.taken ∧
          driver.ended (state.tasks i) = true then
        some { state with
          control := if driver.failed (state.tasks i) then .failed else .heading
          taken := state.taken ++ [i] }
      else none

def initial : State Shared Task :=
  ⟨.heading, driver.limit, 0, [], driver.start, driver.task⟩

def system : TransitionSystem (State Shared Task) :=
  .ofActions (fun state => state = driver.initial) (fun _ _ => true) driver.perform

def State.holding (state : State Shared Task) : Finset Nat :=
  (Finset.range state.spawned).filter fun i => driver.ended (state.tasks i) = false

/-! ## What a step can be -/

inductive Moves (state : State Shared Task) : State Shared Task → Prop where
  | fill : state.control = .heading → state.spawned < driver.count ∨ state.pending ≠ 0 →
      Moves state { state with control := .filling }
  | finish : state.control = .heading → driver.count ≤ state.spawned → state.pending = 0 →
      Moves state { state with control := .returned }
  | acquire : state.control = .filling → state.spawned < driver.count →
      state.pending < driver.limit → Moves state { state with control := .acquiring }
  | await : state.control = .filling →
      ¬ (state.spawned < driver.count ∧ state.pending < driver.limit) →
      Moves state { state with control := .awaiting }
  | spawn : state.control = .acquiring → 0 < state.free →
      Moves state { state with
        control := .filling, free := state.free - 1, spawned := state.spawned + 1 }
  | idle : state.control = .awaiting → state.pending = 0 →
      Moves state { state with control := .heading }
  | act (i : Nat) (input : Input) (next : Shared × Task) : i < state.spawned →
      driver.act state.shared (state.tasks i) input = some next →
      Moves state (state.moved driver i next)
  | join (i : Nat) (control : Control) : state.control = .awaiting → i < state.spawned →
      i ∉ state.taken → driver.ended (state.tasks i) = true →
      control = (if driver.failed (state.tasks i) then .failed else .heading) →
      Moves state { state with control := control, taken := state.taken ++ [i] }

end

variable {Shared : Type u} {Task : Type v} {Input : Type w}
  {driver : GuardedDriver Shared Task Input} {state : State Shared Task}

theorem step_moves {after : State Shared Task} (step : driver.system.Step state after) :
    driver.Moves state after := by
  rcases step with ⟨action, _, performed⟩
  cases action with
  | go =>
      rw [perform, goOn] at performed
      split at performed
      · rename_i place
        split at performed
        · rename_i more
          cases performed
          exact .fill place more
        · rename_i done
          cases performed
          exact .finish place (by omega) (by omega)
      · rename_i place
        split at performed
        · rename_i more
          cases performed
          exact .acquire place more.1 more.2
        · rename_i full
          cases performed
          exact .await place full
      · rename_i place
        split at performed
        · rename_i available
          cases performed
          exact .spawn place available
        · cases performed
      · rename_i place
        split at performed
        · rename_i drained
          cases performed
          exact .idle place drained
        · cases performed
      · cases performed
  | act i input =>
      rw [perform] at performed
      split at performed
      · rename_i born
        rcases Option.map_eq_some_iff.mp performed with ⟨next, acted, result⟩
        rw [← result]
        exact .act i input next born acted
      · cases performed
  | join i =>
      rw [perform] at performed
      split at performed
      · rename_i possible
        cases performed
        exact .join i _ possible.1 possible.2.1 possible.2.2.1 possible.2.2.2 rfl
      · cases performed

/-! ## Permits -/

/-- The results taken are of tasks that have ended, every permit is free or held, and no
more is pending than the limit. -/
structure Kept (driver : GuardedDriver Shared Task Input) (state : State Shared Task) :
    Prop where
  spawns : state.spawned ≤ driver.count
  fresh : ∀ i, state.spawned ≤ i → state.tasks i = driver.task i
  distinct : state.taken.Nodup
  taken : ∀ i ∈ state.taken, i < state.spawned ∧ driver.ended (state.tasks i) = true
  permits : state.free + (state.holding driver).card = driver.limit
  bounded : state.pending ≤ driver.limit
  filling : state.control = .filling → state.spawned < driver.count ∨ state.pending ≠ 0
  acquiring : state.control = .acquiring →
    state.spawned < driver.count ∧ state.pending < driver.limit
  awaiting : state.control = .awaiting → state.pending ≠ 0
  returned : state.control = .returned → state.spawned = driver.count ∧ state.pending = 0

theorem Kept.taken_le (kept : driver.Kept state) : state.taken.length ≤ state.spawned := by
  have inside : state.taken ⊆ List.range state.spawned := by
    intro i member
    exact List.mem_range.mpr (kept.taken i member).1
  have fewer := (List.subperm_of_subset kept.distinct inside).length_le
  rwa [List.length_range] at fewer

theorem Kept.holding_le (kept : driver.Kept state) :
    (state.holding driver).card ≤ state.pending := by
  have inside : state.holding driver ⊆
      Finset.range state.spawned \ state.taken.toFinset := by
    intro i member
    rw [State.holding, Finset.mem_filter] at member
    rw [Finset.mem_sdiff, List.mem_toFinset]
    refine ⟨member.1, ?_⟩
    intro taken
    rw [(kept.taken i taken).2] at member
    cases member.2
  have within : state.taken.toFinset ⊆ Finset.range state.spawned := by
    intro i member
    exact Finset.mem_range.mpr (kept.taken i (List.mem_toFinset.mp member)).1
  have fewer := Finset.card_le_card inside
  rwa [Finset.card_sdiff_of_subset within, Finset.card_range,
    List.toFinset_card_of_nodup kept.distinct] at fewer

theorem Kept.free_of_acquiring (kept : driver.Kept state)
    (acquiring : state.control = .acquiring) : 0 < state.free := by
  have held := kept.holding_le
  have total := kept.permits
  have room := (kept.acquiring acquiring).2
  omega

theorem holding_spawn (kept : driver.Kept state) (control : Control) (free : Nat) :
    State.holding driver
        { state with control := control, free := free, spawned := state.spawned + 1 } =
      insert state.spawned (state.holding driver) := by
  have running : driver.ended (state.tasks state.spawned) = false := by
    rw [kept.fresh _ (Nat.le_refl _)]
    exact driver.begins _
  rw [State.holding, State.holding, Finset.range_add_one, Finset.filter_insert]
  dsimp only
  rw [if_pos running]

theorem holding_moved {i : Nat} {next : Shared × Task} (born : i < state.spawned)
    (stays : driver.ended (state.tasks i) = true → driver.ended next.2 = true) :
    (state.moved driver i next).holding driver =
      if driver.ended next.2 = true then (state.holding driver).erase i
      else state.holding driver := by
  ext j
  by_cases own : j = i
  · subst own
    cases now : driver.ended next.2 with
    | false =>
        have before : driver.ended (state.tasks j) = false := by
          cases running : driver.ended (state.tasks j) with
          | false => rfl
          | true => rw [stays running] at now; cases now
        simp [State.holding, State.moved, now, before, born]
    | true => simp [State.holding, State.moved, now]
  · cases now : driver.ended next.2 <;> simp [State.holding, State.moved, own, now]

theorem Kept.moved {i : Nat} {input : Input} {next : Shared × Task} (kept : driver.Kept state)
    (born : i < state.spawned)
    (acted : driver.act state.shared (state.tasks i) input = some next) :
    driver.Kept (state.moved driver i next) := by
  have stays := driver.stays _ _ _ _ acted
  refine ⟨kept.spawns, ?_, kept.distinct, ?_, ?_, kept.bounded, kept.filling, kept.acquiring,
    kept.awaiting, kept.returned⟩
  · intro j later
    have behind : state.spawned ≤ j := later
    have other : j ≠ i := by omega
    rw [State.moved]
    dsimp only
    rw [Function.update_of_ne other]
    exact kept.fresh j later
  · intro j member
    refine ⟨(kept.taken j member).1, ?_⟩
    rw [State.moved]
    dsimp only
    by_cases own : j = i
    · subst own
      rw [Function.update_self]
      exact stays (kept.taken j member).2
    · rw [Function.update_of_ne own]
      exact (kept.taken j member).2
  · have total := kept.permits
    rw [holding_moved born stays, State.moved]
    dsimp only
    cases earlier : driver.ended (state.tasks i) with
    | true =>
        have outside : i ∉ state.holding driver := by simp [State.holding, earlier]
        rw [stays earlier, if_pos rfl, if_pos rfl, Finset.erase_eq_of_notMem outside]
        exact total
    | false =>
        have inside : i ∈ state.holding driver := by simp [State.holding, earlier, born]
        cases now : driver.ended next.2 with
        | false =>
            rw [if_pos rfl, if_neg (by simp)]
            exact total
        | true =>
            have some_held := Finset.card_pos.mpr ⟨i, inside⟩
            rw [if_neg (by simp), if_pos rfl, Finset.card_erase_of_mem inside]
            omega

theorem Kept.spawn (kept : driver.Kept state) (acquiring : state.control = .acquiring)
    (available : 0 < state.free) :
    driver.Kept { state with
      control := .filling, free := state.free - 1, spawned := state.spawned + 1 } := by
  rcases kept.acquiring acquiring with ⟨more, room⟩
  have taken_le := kept.taken_le
  have one_more : state.spawned + 1 - state.taken.length = state.pending + 1 := by
    rw [State.pending]
    omega
  refine ⟨more, ?_, kept.distinct, ?_, ?_, ?_, ?_, by simp, by simp, by simp⟩
  · intro i later
    exact kept.fresh i (Nat.le_of_succ_le later)
  · intro i member
    exact ⟨(kept.taken i member).1.trans (Nat.lt_succ_self _), (kept.taken i member).2⟩
  · have outside : state.spawned ∉ state.holding driver := by simp [State.holding]
    have total := kept.permits
    rw [holding_spawn kept, Finset.card_insert_of_notMem outside]
    dsimp only
    omega
  · rw [State.pending]
    dsimp only
    omega
  · intro _
    right
    rw [State.pending]
    dsimp only
    omega

theorem Kept.join {i : Nat} {control : Control} (kept : driver.Kept state)
    (born : i < state.spawned) (untaken : i ∉ state.taken)
    (ended : driver.ended (state.tasks i) = true)
    (goes : control = .failed ∨ control = .heading) :
    driver.Kept { state with control := control, taken := state.taken ++ [i] } := by
  have fewer : State.pending { state with control := control, taken := state.taken ++ [i] } ≤
      state.pending := by
    rw [State.pending, State.pending]
    dsimp only
    rw [List.length_append]
    omega
  refine ⟨kept.spawns, kept.fresh, ?_, ?_, kept.permits, fewer.trans kept.bounded, ?_, ?_, ?_,
    ?_⟩
  · exact (List.nodup_append_comm.mp (List.nodup_cons.mpr ⟨untaken, kept.distinct⟩))
  · intro j member
    rcases List.mem_append.mp member with old | new
    · exact kept.taken j old
    · rw [List.mem_singleton.mp new]
      exact ⟨born, ended⟩
  all_goals
    intro now
    rcases goes with place | place
    · rw [place] at now
      cases now
    · rw [place] at now
      cases now

theorem system_kept (driver : GuardedDriver Shared Task Input) :
    driver.system.Invariant driver.Kept where
  initially := by
    intro state initial
    cases initial
    refine ⟨Nat.zero_le _, fun _ _ => rfl, List.nodup_nil, by simp [GuardedDriver.initial], ?_,
      Nat.zero_le _, by simp [GuardedDriver.initial], by simp [GuardedDriver.initial],
      by simp [GuardedDriver.initial], by simp [GuardedDriver.initial]⟩
    rw [State.holding, GuardedDriver.initial, Finset.range_zero]
    rfl
  preserved := by
    intro before after kept step
    cases step_moves step with
    | fill place more =>
        exact ⟨kept.spawns, kept.fresh, kept.distinct, kept.taken, kept.permits, kept.bounded,
          fun _ => more, by simp, by simp, by simp⟩
    | finish place all drained =>
        exact ⟨kept.spawns, kept.fresh, kept.distinct, kept.taken, kept.permits, kept.bounded,
          by simp, by simp, by simp, fun _ => ⟨Nat.le_antisymm kept.spawns all, drained⟩⟩
    | acquire place more room =>
        exact ⟨kept.spawns, kept.fresh, kept.distinct, kept.taken, kept.permits, kept.bounded,
          by simp, fun _ => ⟨more, room⟩, by simp, by simp⟩
    | await place full =>
        refine ⟨kept.spawns, kept.fresh, kept.distinct, kept.taken, kept.permits, kept.bounded,
          by simp, by simp, ?_, by simp⟩
        intro _ (drained : before.pending = 0)
        have roomy := driver.roomy
        rcases kept.filling place with more | some_pending
        · exact full ⟨more, by omega⟩
        · exact some_pending drained
    | spawn place available => exact kept.spawn place available
    | idle place drained => exact (kept.awaiting place drained).elim
    | act i input next born acted => exact kept.moved born acted
    | join i control place born untaken ended goes =>
        apply kept.join born untaken ended
        rw [goes]
        split
        · exact .inl rfl
        · exact .inr rfl

/-! ## What the tasks keep -/

theorem driver_holds (Property : Shared → (Nat → Task) → Prop)
    (initially : Property driver.start driver.task)
    (kept : ∀ i shared tasks input next, Property shared tasks →
      driver.act shared (tasks i) input = some next →
        Property next.1 (Function.update tasks i next.2))
    (reachable : driver.system.Reachable state) : Property state.shared state.tasks := by
  have invariant : driver.system.Invariant fun state =>
      Property state.shared state.tasks := by
    constructor
    · intro state initial
      rw [initial]
      exact initially
    · intro before after holds step
      cases step_moves step with
      | act i input next born acted => exact kept i _ _ input next holds acted
      | _ => exact holds
  exact invariant.of_reachable reachable

/-! ## What the driver makes of a failed task -/

theorem Kept.taken_of_returned (kept : driver.Kept state)
    (returned : state.control = .returned) {i : Nat} (inside : i < driver.count) :
    i ∈ state.taken := by
  rcases kept.returned returned with ⟨all, drained⟩
  have whole : List.range driver.count ⊆ state.taken := by
    have listed : state.taken ⊆ List.range driver.count := by
      intro j member
      have born := (kept.taken j member).1
      exact List.mem_range.mpr (by omega)
    have part := List.subperm_of_subset kept.distinct listed
    have enough : (List.range driver.count).length ≤ state.taken.length := by
      rw [State.pending] at drained
      rw [List.length_range]
      omega
    exact (part.perm_of_length_le enough).symm.subset
  exact whole (List.mem_range.mpr inside)

/-- The driver has failed exactly when a task whose result it took has, if a task that has
ended does not fail any more. -/
theorem failed_iff
    (settled : ∀ shared worker input next, driver.act shared worker input = some next →
      driver.ended worker = true → driver.failed next.2 = driver.failed worker)
    (reachable : driver.system.Reachable state) :
    state.control = .failed ↔ ∃ i ∈ state.taken, driver.failed (state.tasks i) = true := by
  have invariant : driver.system.Invariant fun state => driver.Kept state ∧
      (state.control = .failed ↔
        ∃ i ∈ state.taken, driver.failed (state.tasks i) = true) := by
    constructor
    · intro state initial
      refine ⟨(system_kept driver).initially state initial, ?_⟩
      rw [initial, GuardedDriver.initial]
      simp
    · intro before after held step
      rcases held with ⟨kept, same⟩
      refine ⟨(system_kept driver).preserved before after kept step, ?_⟩
      have running : ∀ place, before.control = place → place ≠ .failed →
          ¬ ∃ i ∈ before.taken, driver.failed (before.tasks i) = true := by
        intro place now other failed
        exact other (now.symm.trans (same.mpr failed))
      cases step_moves step with
      | fill place _ => exact iff_of_false (by simp) (running _ place (by simp))
      | finish place _ _ => exact iff_of_false (by simp) (running _ place (by simp))
      | acquire place _ _ => exact iff_of_false (by simp) (running _ place (by simp))
      | await place _ => exact iff_of_false (by simp) (running _ place (by simp))
      | spawn place _ => exact iff_of_false (by simp) (running _ place (by simp))
      | idle place _ => exact iff_of_false (by simp) (running _ place (by simp))
      | act i input next born acted =>
          have kept_failed : ∀ j ∈ before.taken,
              driver.failed (Function.update before.tasks i next.2 j) =
                driver.failed (before.tasks j) := by
            intro j member
            by_cases own : j = i
            · subst own
              rw [Function.update_self]
              exact settled _ _ _ _ acted (kept.taken j member).2
            · rw [Function.update_of_ne own]
          refine same.trans (exists_congr fun j => and_congr_right fun member => ?_)
          exact (congrArg (· = true) (kept_failed j member).symm).to_iff
      | join i control place born untaken ended goes =>
          have earlier := running _ place (by simp)
          dsimp only
          rw [goes]
          cases failed : driver.failed (before.tasks i) with
          | true =>
              rw [if_pos rfl]
              exact iff_of_true rfl ⟨i, List.mem_append_right _ (.head _), failed⟩
          | false =>
              rw [if_neg (by simp)]
              apply iff_of_false (by simp)
              rintro ⟨j, member, broken⟩
              rcases List.mem_append.mp member with old | new
              · exact earlier ⟨j, old, broken⟩
              · rw [List.mem_singleton.mp new, failed] at broken
                cases broken
  exact (invariant.of_reachable reachable).2

/-! ## The driver gets through -/

def Control.rank : Control → Nat
  | .heading => 3
  | .filling => 2
  | .acquiring => 1
  | .awaiting => 1
  | _ => 0

def State.left (driver : GuardedDriver Shared Task Input) (acts : Task → Nat)
    (state : State Shared Task) : Nat :=
  4 * (driver.count - state.spawned) + 4 * (driver.count - state.taken.length) +
    state.control.rank + ∑ i ∈ Finset.range driver.count, acts (state.tasks i)

/-- The driver is at one of its two ends. -/
def Over (state : State Shared Task) : Prop :=
  state.control = .returned ∨ state.control = .failed

theorem step_left {acts : Task → Nat}
    (nearer : ∀ shared worker input next, driver.act shared worker input = some next →
      acts next.2 < acts worker)
    {after : State Shared Task} (kept : driver.Kept state)
    (step : driver.system.Step state after) :
    after.left driver acts < state.left driver acts := by
  cases step_moves step with
  | fill place more => simp [State.left, place, Control.rank]
  | finish place all drained => simp [State.left, place, Control.rank]
  | acquire place more room => simp [State.left, place, Control.rank]
  | await place full => simp [State.left, place, Control.rank]
  | spawn place available =>
      have more := (kept.acquiring place).1
      simp only [State.left, place, Control.rank]
      omega
  | idle place drained => exact (kept.awaiting place drained).elim
  | act i input next born acted =>
      have inside : i ∈ Finset.range driver.count :=
        Finset.mem_range.mpr (born.trans_le kept.spawns)
      have fewer : ∑ j ∈ Finset.range driver.count,
          acts (Function.update state.tasks i next.2 j) <
            ∑ j ∈ Finset.range driver.count, acts (state.tasks j) :=
        sum_update_lt acts inside (nearer _ _ _ _ acted)
      rw [State.left, State.left, State.moved]
      dsimp only
      omega
  | join i control place born untaken ended goes =>
      have some_pending := kept.awaiting place
      have spawns := kept.spawns
      rw [State.pending] at some_pending
      have rank : control.rank ≤ 3 := by cases control <;> simp [Control.rank]
      simp only [State.left, place, List.length_append, List.length_singleton]
      have here : Control.rank .awaiting = 1 := rfl
      omega

theorem step_possible
    (active : ∀ shared worker, driver.ended worker = false →
      ∃ input next, driver.act shared worker input = some next)
    (kept : driver.Kept state) (going : ¬ Over state) :
    ∃ after, driver.system.Step state after := by
  cases place : state.control with
  | heading =>
      by_cases more : state.spawned < driver.count ∨ state.pending ≠ 0
      · exact ⟨_, .go, rfl, by simp only [perform, goOn, place]; exact if_pos more⟩
      · exact ⟨_, .go, rfl, by simp only [perform, goOn, place]; exact if_neg more⟩
  | filling =>
      by_cases more : state.spawned < driver.count ∧ state.pending < driver.limit
      · exact ⟨_, .go, rfl, by simp only [perform, goOn, place]; exact if_pos more⟩
      · exact ⟨_, .go, rfl, by simp only [perform, goOn, place]; exact if_neg more⟩
  | acquiring =>
      have available := kept.free_of_acquiring place
      exact ⟨_, .go, rfl, by simp only [perform, goOn, place]; exact if_pos available⟩
  | awaiting =>
      have some_pending := kept.awaiting place
      have untaken : ∃ i, i < state.spawned ∧ i ∉ state.taken := by
        by_contra none_left
        have inside : List.range state.spawned ⊆ state.taken := by
          intro i member
          by_contra missing
          exact none_left ⟨i, List.mem_range.mp member, missing⟩
        have fewer := (List.subperm_of_subset List.nodup_range inside).length_le
        rw [List.length_range] at fewer
        rw [State.pending] at some_pending
        omega
      rcases untaken with ⟨i, born, untaken⟩
      cases ended : driver.ended (state.tasks i) with
      | true =>
          exact ⟨_, .join i, rfl, by
            rw [perform]
            exact if_pos ⟨place, born, untaken, ended⟩⟩
      | false =>
          rcases active state.shared (state.tasks i) ended with ⟨input, next, acted⟩
          exact ⟨_, .act i input, rfl, by rw [perform, if_pos born, acted]; rfl⟩
  | returned => exact (going (.inl place)).elim
  | failed => exact (going (.inr place)).elim

/-- However the steps fall, the driver comes to one of its ends. -/
theorem inevitably_over {acts : Task → Nat}
    (nearer : ∀ shared worker input next, driver.act shared worker input = some next →
      acts next.2 < acts worker)
    (active : ∀ shared worker, driver.ended worker = false →
      ∃ input next, driver.act shared worker input = some next)
    (reachable : driver.system.Reachable state) : driver.system.Inevitably Over state :=
  TransitionSystem.Inevitably.of_measure (State.left driver acts)
    (fun _ kept going => step_possible active kept going)
    (fun _ next kept step =>
      ⟨(system_kept driver).preserved _ next kept step, step_left nearer kept step⟩)
    ((system_kept driver).of_reachable reachable)

end GuardedDriver

end DsBench
