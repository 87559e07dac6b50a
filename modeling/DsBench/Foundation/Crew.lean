import DsBench.Foundation.TransitionSystem
import Mathlib.Algebra.BigOperators.Group.Finset.Basic
import Mathlib.Algebra.Order.BigOperators.Group.Finset
import Mathlib.Tactic.Abel

/-! # Crews that share a state

Workers act on a shared state one at a time, in any order. What a step leaves of the sum
of the shared state's account and the acting worker's, a run leaves of the sum over all.
-/

namespace DsBench

variable {Index : Type*} [DecidableEq Index] {Shared Worker Input : Type*}

def crewAct (act : Index → Shared → Worker → Input → Option (Shared × Worker))
    (state : Shared × (Index → Worker)) (action : Index × Input) :
    Option (Shared × (Index → Worker)) :=
  (act action.1 state.1 (state.2 action.1) action.2).map fun next =>
    (next.1, Function.update state.2 action.1 next.2)

/-- The machine of a crew. `act` says what a worker makes of the shared state and of
itself on an input, if that input is possible. -/
def crew (act : Index → Shared → Worker → Input → Option (Shared × Worker))
    (start : Shared × (Index → Worker)) : TransitionSystem (Shared × (Index → Worker)) :=
  .ofActions (fun state => state = start) (fun _ _ => true) (crewAct act)

theorem sum_update_lt (share : Worker → Nat) {among : Finset Index} {workers : Index → Worker}
    {mover : Index} {next : Worker} (inside : mover ∈ among)
    (fewer : share next < share (workers mover)) :
    ∑ index ∈ among, share (Function.update workers mover next index) <
      ∑ index ∈ among, share (workers index) := by
  apply Finset.sum_lt_sum
  · intro index _
    by_cases own : index = mover
    · subst own
      rw [Function.update_self]
      exact fewer.le
    · rw [Function.update_of_ne own]
  · refine ⟨mover, inside, ?_⟩
    rw [Function.update_self]
    exact fewer

variable {act : Index → Shared → Worker → Input → Option (Shared × Worker)}
  {start state : Shared × (Index → Worker)}

theorem crew_step_iff {before after : Shared × (Index → Worker)} :
    (crew act start).Step before after ↔
      ∃ index input next, act index before.1 (before.2 index) input = some next ∧
        (next.1, Function.update before.2 index next.2) = after := by
  simp [crew, TransitionSystem.ofActions, crewAct, Option.map_eq_some_iff]

theorem crew_keeps (Property : Worker → Prop)
    (initially : ∀ index, Property (start.2 index))
    (kept : ∀ index shared worker input next, Property worker →
      act index shared worker input = some next → Property next.2)
    (reachable : (crew act start).Reachable state) : ∀ index, Property (state.2 index) := by
  have invariant : (crew act start).Invariant fun state =>
      ∀ index, Property (state.2 index) := by
    constructor
    · intro state initial
      rw [initial]
      exact initially
    · intro before after holds step
      rcases crew_step_iff.mp step with ⟨mover, input, next, moved, result⟩
      rw [← result]
      dsimp only
      rw [Function.forall_update_iff before.2 fun _ worker => Property worker]
      exact ⟨kept mover before.1 _ input next (holds mover) moved, fun index _ => holds index⟩
  exact invariant.of_reachable reachable

theorem crew_holds {Common : Shared → Prop} {Own : Index → Worker → Prop}
    (initially : Common start.1 ∧ ∀ index, Own index (start.2 index))
    (kept : ∀ index shared worker input next, Common shared → Own index worker →
      act index shared worker input = some next → Common next.1 ∧ Own index next.2)
    (reachable : (crew act start).Reachable state) :
    Common state.1 ∧ ∀ index, Own index (state.2 index) := by
  have invariant : (crew act start).Invariant fun state =>
      Common state.1 ∧ ∀ index, Own index (state.2 index) := by
    constructor
    · intro state initial
      rw [initial]
      exact initially
    · intro before after holds step
      rcases crew_step_iff.mp step with ⟨mover, input, next, moved, result⟩
      have left := kept mover before.1 _ input next holds.1 (holds.2 mover) moved
      rw [← result]
      refine ⟨left.1, ?_⟩
      dsimp only
      rw [Function.forall_update_iff before.2 Own]
      exact ⟨left.2, fun index _ => holds.2 index⟩
  exact invariant.of_reachable reachable

/-- A property of a worker that speaks of the shared state holds of all, if every step
leaves it true of the one who acts and changes the shared state only in a way that all
others can rely on. -/
theorem crew_relies {Common : Shared → Prop} {Own : Index → Shared → Worker → Prop}
    {Guarantee : Shared → Shared → Prop}
    (initially : Common start.1 ∧ ∀ index, Own index start.1 (start.2 index))
    (kept : ∀ index shared worker input next, Common shared → Own index shared worker →
      act index shared worker input = some next →
        Guarantee shared next.1 ∧ Common next.1 ∧ Own index next.1 next.2)
    (stable : ∀ index before after worker, Guarantee before after →
      Own index before worker → Own index after worker)
    (reachable : (crew act start).Reachable state) :
    Common state.1 ∧ ∀ index, Own index state.1 (state.2 index) := by
  have invariant : (crew act start).Invariant fun state =>
      Common state.1 ∧ ∀ index, Own index state.1 (state.2 index) := by
    constructor
    · intro state initial
      rw [initial]
      exact initially
    · intro before after holds step
      rcases crew_step_iff.mp step with ⟨mover, input, next, moved, result⟩
      rcases kept mover before.1 _ input next holds.1 (holds.2 mover) moved with
        ⟨guaranteed, common, mine⟩
      rw [← result]
      refine ⟨common, ?_⟩
      intro index
      dsimp only
      by_cases own : index = mover
      · subst own
        rw [Function.update_self]
        exact mine
      · rw [Function.update_of_ne own]
        exact stable index before.1 next.1 _ guaranteed (holds.2 index)
  exact invariant.of_reachable reachable

/-- A property of a worker that speaks of the shared state holds of all, if the worker's
own steps keep it and the steps of no other worker disturb it. -/
theorem crew_apart (Own : Index → Shared → Worker → Prop)
    (initially : ∀ index, Own index start.1 (start.2 index))
    (kept : ∀ index shared worker input next, Own index shared worker →
      act index shared worker input = some next → Own index next.1 next.2)
    (undisturbed : ∀ index other shared worker input next mine, index ≠ other →
      act other shared worker input = some next → Own index shared mine →
        Own index next.1 mine)
    (reachable : (crew act start).Reachable state) :
    ∀ index, Own index state.1 (state.2 index) := by
  have invariant : (crew act start).Invariant fun state =>
      ∀ index, Own index state.1 (state.2 index) := by
    constructor
    · intro state initial
      rw [initial]
      exact initially
    · intro before after holds step index
      rcases crew_step_iff.mp step with ⟨mover, input, next, moved, result⟩
      rw [← result]
      dsimp only
      by_cases own : index = mover
      · subst own
        rw [Function.update_self]
        exact kept index before.1 _ input next (holds index) moved
      · rw [Function.update_of_ne own]
        exact undisturbed index mover before.1 _ input next _ own moved (holds index)
  exact invariant.of_reachable reachable

section

variable [Fintype Index] {Amount : Type*} [AddCommGroup Amount]

def total (common : Shared → Amount) (own : Worker → Amount)
    (state : Shared × (Index → Worker)) : Amount :=
  common state.1 + ∑ index, own (state.2 index)

theorem total_update (common : Shared → Amount) (own : Worker → Amount) (shared : Shared)
    (worker : Worker) (index : Index) :
    total common own (shared, Function.update state.2 index worker) =
      total common own state - (common state.1 + own (state.2 index)) +
        (common shared + own worker) := by
  have others : ∑ other ∈ Finset.univ.erase index,
      own (Function.update state.2 index worker other) =
        ∑ other ∈ Finset.univ.erase index, own (state.2 other) := by
    apply Finset.sum_congr rfl
    intro other member
    rw [Function.update_of_ne (Finset.ne_of_mem_erase member)]
  rw [total, total]
  dsimp only
  rw [← Finset.add_sum_erase _ _ (Finset.mem_univ index), others, Function.update_self,
    ← Finset.add_sum_erase _ (fun other => own (state.2 other)) (Finset.mem_univ index)]
  abel

theorem crew_step_conserves {common : Shared → Amount} {own : Worker → Amount}
    (conserved : ∀ index shared worker input next,
      act index shared worker input = some next →
        common next.1 + own next.2 = common shared + own worker)
    {before after : Shared × (Index → Worker)} (step : (crew act start).Step before after) :
    total common own after = total common own before := by
  rcases crew_step_iff.mp step with ⟨mover, input, next, moved, result⟩
  have same := conserved mover before.1 (before.2 mover) input next moved
  rw [← result, total_update, same, sub_add_cancel]

theorem crew_conserves {common : Shared → Amount} {own : Worker → Amount}
    (conserved : ∀ index shared worker input next,
      act index shared worker input = some next →
        common next.1 + own next.2 = common shared + own worker)
    (reachable : (crew act start).Reachable state) :
    total common own state = total common own start := by
  have invariant : (crew act start).Invariant fun state =>
      total common own state = total common own start := by
    constructor
    · intro state initial
      rw [initial]
    · intro before after holds step
      rw [crew_step_conserves conserved step, holds]
  exact invariant.of_reachable reachable

theorem crew_balances (common : Shared → Amount) (own : Index → Worker → Amount)
    (conserved : ∀ index shared worker input next,
      act index shared worker input = some next →
        common next.1 + own index next.2 = common shared + own index worker)
    (reachable : (crew act start).Reachable state) :
    common state.1 + ∑ index, own index (state.2 index) =
      common start.1 + ∑ index, own index (start.2 index) := by
  have invariant : (crew act start).Invariant fun state =>
      common state.1 + ∑ index, own index (state.2 index) =
        common start.1 + ∑ index, own index (start.2 index) := by
    constructor
    · intro state initial
      rw [initial]
    · intro before after holds step
      rcases crew_step_iff.mp step with ⟨mover, input, next, moved, result⟩
      have same := conserved mover before.1 (before.2 mover) input next moved
      have others : ∑ other ∈ Finset.univ.erase mover,
          own other (Function.update before.2 mover next.2 other) =
            ∑ other ∈ Finset.univ.erase mover, own other (before.2 other) := by
        apply Finset.sum_congr rfl
        intro other member
        rw [Function.update_of_ne (Finset.ne_of_mem_erase member)]
      rw [← Finset.add_sum_erase _ _ (Finset.mem_univ mover), ← add_assoc, ← same] at holds
      rw [← result, ← holds]
      dsimp only
      rw [← Finset.add_sum_erase _ _ (Finset.mem_univ mover), others, Function.update_self,
        ← add_assoc]
  exact invariant.of_reachable reachable

end

end DsBench
