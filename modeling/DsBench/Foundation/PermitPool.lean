import DsBench.Foundation.Crew
import Mathlib.Algebra.BigOperators.Group.Finset.Basic
import Mathlib.Tactic.Abel

/-! # Tasks behind a semaphore

A main thread spawns one task after another, each with a permit of a semaphore, and then
joins them in their order. A task gives its permit back when it ends. Whoever a task has
asked for something may still act on its behalf after that.
-/

namespace DsBench

/-- `act` says what an input makes of the shared state and of a task, if it is possible. -/
structure PermitPool (Shared : Type u) (Task : Type v) (Input : Type w) where
  count : Nat
  permits : Nat
  start : Shared
  task : Nat → Task
  act : Shared → Task → Input → Option (Shared × Task)
  ended : Task → Bool
  begins : ∀ i, ended (task i) = false
  stays : ∀ shared worker input next, act shared worker input = some next →
    ended worker = true → ended next.2 = true

namespace PermitPool

/-- A task that is not spawned yet stands as it will begin. -/
structure State (Shared : Type u) (Task : Type v) where
  free : Nat
  spawned : Nat
  joined : Nat
  shared : Shared
  tasks : Nat → Task

inductive Action (Input : Type w) where
  | spawn
  | act (i : Nat) (input : Input)
  | join
deriving DecidableEq, Repr

section

variable {Shared : Type u} {Task : Type v} {Input : Type w} (pool : PermitPool Shared Task Input)

def State.moved (state : State Shared Task) (i : Nat) (next : Shared × Task) :
    State Shared Task :=
  { state with
    free := if pool.ended (state.tasks i) = pool.ended next.2 then state.free
      else state.free + 1
    shared := next.1
    tasks := Function.update state.tasks i next.2 }

def perform (state : State Shared Task) : Action Input → Option (State Shared Task)
  | .spawn =>
      if state.spawned < pool.count ∧ 0 < state.free then
        some { state with free := state.free - 1, spawned := state.spawned + 1 }
      else none
  | .act i input =>
      if i < state.spawned then
        (pool.act state.shared (state.tasks i) input).map (state.moved pool i)
      else none
  | .join =>
      if state.spawned = pool.count ∧ state.joined < pool.count ∧
          pool.ended (state.tasks state.joined) = true then
        some { state with joined := state.joined + 1 }
      else none

def initial : State Shared Task := ⟨pool.permits, 0, 0, pool.start, pool.task⟩

def system : TransitionSystem (State Shared Task) :=
  .ofActions (fun state => state = pool.initial) (fun _ _ => true) pool.perform

def State.holding (state : State Shared Task) : Finset Nat :=
  (Finset.range state.spawned).filter fun i => pool.ended (state.tasks i) = false

/-- Everything the main thread waits for has happened. -/
def Joined (state : State Shared Task) : Prop := state.joined = pool.count

end

variable {Shared : Type u} {Task : Type v} {Input : Type w} {pool : PermitPool Shared Task Input}
  {state : State Shared Task}

theorem step_cases {before after : State Shared Task} (step : pool.system.Step before after) :
    (before.spawned < pool.count ∧ 0 < before.free ∧
      after = { before with free := before.free - 1, spawned := before.spawned + 1 }) ∨
    (∃ i input next, i < before.spawned ∧
      pool.act before.shared (before.tasks i) input = some next ∧
      after = before.moved pool i next) ∨
    (before.spawned = pool.count ∧ before.joined < pool.count ∧
      pool.ended (before.tasks before.joined) = true ∧
      after = { before with joined := before.joined + 1 }) := by
  rcases step with ⟨action, _, performed⟩
  cases action with
  | spawn =>
      rw [perform] at performed
      split at performed
      · rename_i possible
        cases performed
        exact .inl ⟨possible.1, possible.2, rfl⟩
      · cases performed
  | act i input =>
      rw [perform] at performed
      split at performed
      · rename_i born
        rcases Option.map_eq_some_iff.mp performed with ⟨next, acted, result⟩
        exact .inr (.inl ⟨i, input, next, born, acted, result.symm⟩)
      · cases performed
  | join =>
      rw [perform] at performed
      split at performed
      · rename_i possible
        cases performed
        exact .inr (.inr ⟨possible.1, possible.2.1, possible.2.2, rfl⟩)
      · cases performed

/-! ## Permits -/

/-- The main thread has come so far, and every permit is free or held. -/
structure Kept (pool : PermitPool Shared Task Input) (state : State Shared Task) : Prop where
  spawns : state.spawned ≤ pool.count
  joins : state.joined ≤ state.spawned
  fresh : ∀ i, state.spawned ≤ i → state.tasks i = pool.task i
  joined : ∀ i, i < state.joined → pool.ended (state.tasks i) = true
  permits : state.free + (state.holding pool).card = pool.permits

theorem holding_spawn (kept : pool.Kept state) (free : Nat) :
    State.holding pool { state with free := free, spawned := state.spawned + 1 } =
      insert state.spawned (state.holding pool) := by
  have running : pool.ended (state.tasks state.spawned) = false := by
    rw [kept.fresh _ (Nat.le_refl _)]
    exact pool.begins _
  rw [State.holding, State.holding, Finset.range_add_one, Finset.filter_insert]
  dsimp only
  rw [if_pos running]

theorem Kept.spawn (kept : pool.Kept state) (more : state.spawned < pool.count)
    (available : 0 < state.free) :
    pool.Kept { state with free := state.free - 1, spawned := state.spawned + 1 } := by
  refine ⟨more, kept.joins.trans (Nat.le_succ _), ?_, kept.joined, ?_⟩
  · intro i later
    exact kept.fresh i (Nat.le_of_succ_le later)
  · have outside : state.spawned ∉ state.holding pool := by
      simp [State.holding]
    have total := kept.permits
    rw [holding_spawn kept, Finset.card_insert_of_notMem outside]
    dsimp only
    omega

theorem holding_moved {i : Nat} {next : Shared × Task} (born : i < state.spawned)
    (stays : pool.ended (state.tasks i) = true → pool.ended next.2 = true) :
    (state.moved pool i next).holding pool =
      if pool.ended next.2 = true then (state.holding pool).erase i
      else state.holding pool := by
  ext j
  by_cases own : j = i
  · subst own
    cases now : pool.ended next.2 with
    | false =>
        have before : pool.ended (state.tasks j) = false := by
          cases running : pool.ended (state.tasks j) with
          | false => rfl
          | true => rw [stays running] at now; cases now
        simp [State.holding, State.moved, now, before, born]
    | true => simp [State.holding, State.moved, now]
  · cases now : pool.ended next.2 <;> simp [State.holding, State.moved, own, now]

theorem Kept.moved {i : Nat} {input : Input} {next : Shared × Task} (kept : pool.Kept state)
    (born : i < state.spawned)
    (acted : pool.act state.shared (state.tasks i) input = some next) :
    pool.Kept (state.moved pool i next) := by
  have stays := pool.stays _ _ _ _ acted
  refine ⟨kept.spawns, kept.joins, ?_, ?_, ?_⟩
  · intro j later
    have other : j ≠ i := by
      have behind : state.spawned ≤ j := later
      omega
    rw [State.moved]
    dsimp only
    rw [Function.update_of_ne other]
    exact kept.fresh j later
  · intro j before
    rw [State.moved]
    dsimp only
    by_cases own : j = i
    · subst own
      rw [Function.update_self]
      exact stays (kept.joined j before)
    · rw [Function.update_of_ne own]
      exact kept.joined j before
  · have total := kept.permits
    rw [holding_moved born stays, State.moved]
    dsimp only
    cases earlier : pool.ended (state.tasks i) with
    | true =>
        have outside : i ∉ state.holding pool := by simp [State.holding, earlier]
        rw [stays earlier, if_pos rfl, if_pos rfl, Finset.erase_eq_of_notMem outside]
        exact total
    | false =>
        have inside : i ∈ state.holding pool := by simp [State.holding, earlier, born]
        cases now : pool.ended next.2 with
        | false =>
            rw [if_pos rfl, if_neg (by simp)]
            exact total
        | true =>
            have some_held := Finset.card_pos.mpr ⟨i, inside⟩
            rw [if_neg (by simp), if_pos rfl, Finset.card_erase_of_mem inside]
            omega

theorem Kept.join (kept : pool.Kept state) (all : state.spawned = pool.count)
    (more : state.joined < pool.count)
    (ended : pool.ended (state.tasks state.joined) = true) :
    pool.Kept { state with joined := state.joined + 1 } := by
  refine ⟨kept.spawns, ?_, kept.fresh, ?_, kept.permits⟩
  · rw [all]
    exact more
  · intro i before
    rcases Nat.lt_succ_iff_lt_or_eq.mp before with earlier | same
    · exact kept.joined i earlier
    · rw [same]
      exact ended

theorem holding_initial (pool : PermitPool Shared Task Input) :
    pool.initial.holding pool = ∅ := by
  rw [State.holding, initial, Finset.range_zero]
  exact Finset.filter_empty _

theorem system_kept (pool : PermitPool Shared Task Input) : pool.system.Invariant pool.Kept where
  initially := by
    intro state initial
    cases initial
    refine ⟨Nat.zero_le _, Nat.le_refl _, fun _ _ => rfl, ?_, ?_⟩
    · intro i before
      cases before
    · rw [holding_initial]
      rfl
  preserved := by
    intro before after kept step
    rcases step_cases step with ⟨more, free, result⟩ | ⟨i, input, next, born, acted, result⟩ |
      ⟨all, more, ended, result⟩
    · rw [result]
      exact kept.spawn more free
    · rw [result]
      exact kept.moved born acted
    · rw [result]
      exact kept.join all more ended

/-- Never do more tasks run than there are permits. -/
theorem holding_bounded (reachable : pool.system.Reachable state) :
    (state.holding pool).card ≤ pool.permits := by
  have total := ((system_kept pool).of_reachable reachable).permits
  omega

/-! ## What the tasks keep -/

theorem pool_holds (Common : Shared → Prop) (Own : Nat → Task → Prop)
    (initially : Common pool.start ∧ ∀ i, Own i (pool.task i))
    (kept : ∀ i shared worker input next, Common shared → Own i worker →
      pool.act shared worker input = some next → Common next.1 ∧ Own i next.2)
    (reachable : pool.system.Reachable state) :
    Common state.shared ∧ ∀ i, Own i (state.tasks i) := by
  have invariant : pool.system.Invariant fun state =>
      Common state.shared ∧ ∀ i, Own i (state.tasks i) := by
    constructor
    · intro state initial
      rw [initial]
      exact initially
    · intro before after holds step
      rcases step_cases step with ⟨_, _, result⟩ | ⟨i, input, next, _, acted, result⟩ |
        ⟨_, _, _, result⟩
      · rw [result]
        exact holds
      · have left := kept i _ _ input next holds.1 (holds.2 i) acted
        rw [result]
        refine ⟨left.1, ?_⟩
        rw [State.moved]
        dsimp only
        rw [Function.forall_update_iff before.tasks Own]
        exact ⟨left.2, fun j _ => holds.2 j⟩
      · rw [result]
        exact holds
  exact invariant.of_reachable reachable

theorem pool_conserves {Amount : Type*} [AddCommGroup Amount] (common : Shared → Amount)
    (own : Task → Amount) (nothing : ∀ i, own (pool.task i) = 0)
    (conserved : ∀ shared worker input next, pool.act shared worker input = some next →
      common next.1 + own next.2 = common shared + own worker)
    (reachable : pool.system.Reachable state) :
    common state.shared + ∑ i ∈ Finset.range pool.count, own (state.tasks i) =
      common pool.start := by
  have invariant : pool.system.Invariant fun state => pool.Kept state ∧
      common state.shared + ∑ i ∈ Finset.range pool.count, own (state.tasks i) =
        common pool.start := by
    constructor
    · intro state initial
      refine ⟨(system_kept pool).initially state initial, ?_⟩
      rw [initial]
      dsimp only [PermitPool.initial]
      rw [Finset.sum_eq_zero fun i _ => nothing i, add_zero]
    · intro before after holds step
      rcases holds with ⟨kept, balanced⟩
      refine ⟨(system_kept pool).preserved before after kept step, ?_⟩
      rcases step_cases step with ⟨_, _, result⟩ | ⟨i, input, next, born, acted, result⟩ |
        ⟨_, _, _, result⟩
      · rw [result]
        exact balanced
      · have inside : i ∈ Finset.range pool.count :=
          Finset.mem_range.mpr (born.trans_le kept.spawns)
        have others : ∑ j ∈ (Finset.range pool.count).erase i,
            own (Function.update before.tasks i next.2 j) =
              ∑ j ∈ (Finset.range pool.count).erase i, own (before.tasks j) := by
          apply Finset.sum_congr rfl
          intro j member
          rw [Function.update_of_ne (Finset.ne_of_mem_erase member)]
        have same := conserved _ _ _ _ acted
        rw [← Finset.add_sum_erase _ _ inside] at balanced
        rw [result, State.moved]
        dsimp only
        rw [← Finset.add_sum_erase _ _ inside, others, Function.update_self, ← add_assoc,
          same, add_assoc]
        exact balanced
      · rw [result]
        exact balanced
  exact (invariant.of_reachable reachable).2

/-! ## The main thread gets through -/

def State.left (pool : PermitPool Shared Task Input) (acts : Task → Nat)
    (state : State Shared Task) : Nat :=
  (pool.count - state.spawned) + (pool.count - state.joined) +
    ∑ i ∈ Finset.range pool.count, acts (state.tasks i)

theorem step_left {acts : Task → Nat}
    (nearer : ∀ shared worker input next, pool.act shared worker input = some next →
      acts next.2 < acts worker)
    {after : State Shared Task} (kept : pool.Kept state) (step : pool.system.Step state after) :
    after.left pool acts < state.left pool acts := by
  rcases step_cases step with ⟨more, _, result⟩ | ⟨i, input, next, born, acted, result⟩ |
    ⟨all, more, _, result⟩
  · rw [result, State.left, State.left]
    dsimp only
    omega
  · have inside : i ∈ Finset.range pool.count :=
      Finset.mem_range.mpr (born.trans_le kept.spawns)
    have fewer : ∑ j ∈ Finset.range pool.count,
        acts (Function.update state.tasks i next.2 j) <
          ∑ j ∈ Finset.range pool.count, acts (state.tasks j) :=
      sum_update_lt acts inside (nearer _ _ _ _ acted)
    rw [result, State.left, State.left, State.moved]
    dsimp only
    omega
  · rw [result, State.left, State.left]
    dsimp only
    omega

theorem step_possible (somePermit : 0 < pool.permits)
    (active : ∀ shared worker, pool.ended worker = false →
      ∃ input next, pool.act shared worker input = some next)
    (kept : pool.Kept state) (waiting : ¬ pool.Joined state) :
    ∃ after, pool.system.Step state after := by
  have act_possible : ∀ i, i < state.spawned → pool.ended (state.tasks i) = false →
      ∃ after, pool.system.Step state after := by
    intro i born running
    rcases active state.shared (state.tasks i) running with ⟨input, next, acted⟩
    exact ⟨_, .act i input, rfl, by rw [perform, if_pos born, acted]; rfl⟩
  have total := kept.permits
  have spawns := kept.spawns
  have joins := kept.joins
  by_cases more : state.spawned < pool.count
  · by_cases free : 0 < state.free
    · exact ⟨_, .spawn, rfl, by rw [perform, if_pos ⟨more, free⟩]⟩
    · have held : 0 < (state.holding pool).card := by omega
      rcases Finset.card_pos.mp held with ⟨i, holds⟩
      rw [State.holding, Finset.mem_filter, Finset.mem_range] at holds
      exact act_possible i holds.1 holds.2
  · have all : state.spawned = pool.count := by omega
    have left : state.joined < pool.count := by
      rw [Joined] at waiting
      omega
    cases ended : pool.ended (state.tasks state.joined) with
    | false => exact act_possible state.joined (by omega) ended
    | true => exact ⟨_, .join, rfl, by rw [perform, if_pos ⟨all, left, ended⟩]⟩

end PermitPool

end DsBench
