import DsBench.Foundation.TransitionSystem
import Mathlib.Data.List.Perm.Basic
import Mathlib.Data.List.Range

/-! # Drivers with a bound on what is in flight

A driver launches one request for each index of a range. It first fills up to its bound,
and from then on launches the next one for each result it takes. Requests complete in any
order, and completed ones wait in any order until the driver takes their result.
-/

namespace DsBench

/-- What a driver makes of the results: they are folded into an account until one of
them fails the fold. -/
structure BoundedDriver (Result : Type u) (Account : Type v) (Failure : Type w) where
  lo : Nat
  hi : Nat
  limit : Nat
  outcome : Nat → Result
  start : Account
  absorb : Account → Result → Except Failure Account

namespace BoundedDriver

inductive Control (Account : Type v) (Failure : Type w) where
  | filling
  | joining
  | returned (result : Except Failure Account)

/-- `launched` and `joined` are histories, oldest first. -/
structure State (Account : Type v) (Failure : Type w) where
  control : Control Account Failure
  next : Nat
  running : List Nat
  ready : List Nat
  account : Account
  launched : List Nat
  joined : List Nat

section

variable {Result : Type u} {Account : Type v} {Failure : Type w}

def State.push (state : State Account Failure) : State Account Failure :=
  { state with
    next := state.next + 1
    running := state.next :: state.running
    launched := state.launched ++ [state.next] }

def State.refill (hi : Nat) (state : State Account Failure) : State Account Failure :=
  if state.next < hi then state.push else state

def State.pending (state : State Account Failure) : List Nat := state.running ++ state.ready

variable (driver : BoundedDriver Result Account Failure)

def bound : Nat := max driver.limit 1

inductive Step : State Account Failure → State Account Failure → Prop where
  | push (state : State Account Failure) :
      state.control = .filling → state.next < driver.hi →
      state.pending.length < driver.bound → Step state state.push
  | filled (state : State Account Failure) :
      state.control = .filling →
      ¬ (state.next < driver.hi ∧ state.pending.length < driver.bound) →
      Step state { state with control := .joining }
  | complete (state : State Account Failure) (i : Nat) :
      i ∈ state.running →
      Step state
        { state with running := state.running.erase i, ready := i :: state.ready }
  | join (state : State Account Failure) (i : Nat) (account : Account) :
      state.control = .joining → i ∈ state.ready →
      driver.absorb state.account (driver.outcome i) = .ok account →
      Step state (State.refill driver.hi
        { state with
          ready := state.ready.erase i
          account := account
          joined := state.joined ++ [i] })
  | fail (state : State Account Failure) (i : Nat) (failure : Failure) :
      state.control = .joining → i ∈ state.ready →
      driver.absorb state.account (driver.outcome i) = .error failure →
      Step state
        { state with
          control := .returned (.error failure)
          ready := state.ready.erase i
          joined := state.joined ++ [i] }
  | finish (state : State Account Failure) :
      state.control = .joining → state.pending = [] →
      Step state { state with control := .returned (.ok state.account) }

def system : TransitionSystem (State Account Failure) where
  Initial state := state = ⟨.filling, driver.lo, [], [], driver.start, [], []⟩
  Step := driver.Step

def State.verdict (state : State Account Failure) : Except Failure Account :=
  match state.control with
  | .returned result => result
  | _ => .ok state.account

/-- The launched requests are the first ones of the range, each of them is in one place,
and the result so far is that of the results taken. -/
structure Accounted (state : State Account Failure) : Prop where
  above : driver.lo ≤ state.next
  below : state.next ≤ max driver.lo driver.hi
  launched : state.launched = List.range' driver.lo (state.next - driver.lo)
  placed : state.launched.Perm (state.pending ++ state.joined)
  folded : (state.joined.map driver.outcome).foldlM driver.absorb driver.start =
    state.verdict

/-- What every state keeps: it never has more in flight than its bound, and nothing is
left when it has nothing in flight. -/
structure Kept (state : State Account Failure) : Prop where
  accounted : driver.Accounted state
  bounded : state.pending.length ≤ driver.bound
  joining : state.control = .joining → state.pending = [] → driver.hi ≤ state.next
  succeeded : ∀ account, state.control = .returned (.ok account) →
    state.pending = [] ∧ driver.hi ≤ state.next

end

section

variable {Result : Type u} {Account : Type v} {Failure : Type w}
  {driver : BoundedDriver Result Account Failure} {state : State Account Failure}

theorem bound_pos (driver : BoundedDriver Result Account Failure) : 0 < driver.bound :=
  Nat.le_max_right _ _

theorem verdict_filling (filling : state.control = .filling) :
    state.verdict = .ok state.account := by
  rw [State.verdict, filling]

theorem verdict_joining (joining : state.control = .joining) :
    state.verdict = .ok state.account := by
  rw [State.verdict, joining]

theorem State.length_push_pending (state : State Account Failure) :
    state.push.pending.length = state.pending.length + 1 := by
  simp only [State.pending, State.push, List.length_append, List.length_cons]
  omega

theorem Accounted.push (accounted : driver.Accounted state)
    (more : state.next < driver.hi) : driver.Accounted state.push := by
  have above := accounted.above
  have count : state.next + 1 - driver.lo = state.next - driver.lo + 1 := by omega
  have place : driver.lo + (state.next - driver.lo) = state.next := by omega
  refine ⟨above.trans (Nat.le_succ _), ?_, ?_, ?_, accounted.folded⟩
  · exact (Nat.succ_le_of_lt more).trans (Nat.le_max_right _ _)
  · rw [State.push]
    dsimp only
    rw [count, List.range'_1_concat, place, accounted.launched]
  · have moved : (state.launched ++ [state.next]).Perm (state.next :: state.launched) :=
      List.perm_append_singleton _ _
    exact moved.trans (accounted.placed.cons state.next)

theorem Accounted.refill (accounted : driver.Accounted state) :
    driver.Accounted (state.refill driver.hi) := by
  rw [State.refill]
  split
  · rename_i more
    exact accounted.push more
  · exact accounted

theorem pending_complete {i : Nat} (running : i ∈ state.running) :
    (state.running.erase i ++ i :: state.ready).Perm state.pending := by
  have back := (List.perm_cons_erase running).symm
  exact List.perm_middle.trans (back.append_right state.ready)

theorem pending_join {i : Nat} (ready : i ∈ state.ready) :
    ((state.running ++ state.ready.erase i) ++ (state.joined ++ [i])).Perm
      (state.pending ++ state.joined) := by
  have back : (i :: state.ready.erase i).Perm state.ready :=
    (List.perm_cons_erase ready).symm
  have moved : (state.ready.erase i ++ (state.joined ++ [i])).Perm
      (i :: state.ready.erase i ++ state.joined) :=
    ((List.perm_append_singleton i state.joined).append_left _).trans List.perm_middle
  rw [State.pending, List.append_assoc, List.append_assoc]
  exact (moved.trans (back.append_right state.joined)).append_left state.running

theorem Accounted.complete {i : Nat} (accounted : driver.Accounted state)
    (running : i ∈ state.running) :
    driver.Accounted
      { state with running := state.running.erase i, ready := i :: state.ready } := by
  rcases accounted with ⟨above, below, launched, placed, folded⟩
  refine ⟨above, below, launched, ?_, folded⟩
  exact placed.trans ((pending_complete running).symm.append_right state.joined)

theorem Accounted.take {i : Nat} (accounted : driver.Accounted state)
    (going : state.verdict = .ok state.account) (ready : i ∈ state.ready)
    {after : State Account Failure}
    (moved : after.next = state.next ∧ after.launched = state.launched ∧
      after.running = state.running ∧ after.ready = state.ready.erase i ∧
      after.joined = state.joined ++ [i])
    (result : driver.absorb state.account (driver.outcome i) = after.verdict) :
    driver.Accounted after := by
  rcases accounted with ⟨above, below, launched, placed, folded⟩
  rcases moved with ⟨next, launches, running, still_ready, joined⟩
  refine ⟨by rwa [next], by rwa [next], by rwa [launches, next], ?_, ?_⟩
  · rw [launches, State.pending, running, still_ready, joined]
    exact placed.trans (pending_join ready).symm
  · rw [joined, List.map_append, List.foldlM_append, folded, going]
    simp only [List.map_cons, List.map_nil, List.foldlM_cons, List.foldlM_nil, bind_pure]
    exact result

theorem length_complete_pending {i : Nat} (running : i ∈ state.running) :
    (state.running.erase i ++ i :: state.ready).length = state.pending.length :=
  (pending_complete running).length_eq

theorem length_erase_ready {i : Nat} (ready : i ∈ state.ready) :
    (state.running ++ state.ready.erase i).length + 1 = state.pending.length := by
  have some_ready := List.length_pos_of_mem ready
  rw [State.pending, List.length_append, List.length_append, List.length_erase_of_mem ready]
  omega

theorem refill_drained {hi : Nat} (drained : (state.refill hi).pending = []) :
    hi ≤ (state.refill hi).next := by
  rw [State.refill] at drained ⊢
  split at drained
  · have some_pending := state.length_push_pending
    rw [drained] at some_pending
    cases some_pending
  · rename_i none_left
    rw [if_neg none_left]
    exact Nat.le_of_not_lt none_left

theorem length_refill_pending (hi : Nat) (state : State Account Failure) :
    (state.refill hi).pending.length ≤ state.pending.length + 1 := by
  rw [State.refill]
  split
  · exact state.length_push_pending.le
  · exact Nat.le_succ _

@[simp] theorem control_refill (hi : Nat) (state : State Account Failure) :
    (state.refill hi).control = state.control := by
  rw [State.refill]
  split <;> rfl

/-! ## Every run -/

theorem Kept.push (kept : driver.Kept state) (filling : state.control = .filling)
    (more : state.next < driver.hi) (room : state.pending.length < driver.bound) :
    driver.Kept state.push := by
  refine ⟨kept.accounted.push more, ?_, ?_, ?_⟩
  · rw [State.length_push_pending]
    exact room
  · intro (now : state.control = .joining)
    rw [filling] at now
    cases now
  · intro account (now : state.control = .returned (.ok account))
    rw [filling] at now
    cases now

theorem Kept.filled (kept : driver.Kept state) (filling : state.control = .filling)
    (stop : ¬ (state.next < driver.hi ∧ state.pending.length < driver.bound)) :
    driver.Kept { state with control := .joining } := by
  have accounted := kept.accounted
  refine ⟨⟨accounted.above, accounted.below, accounted.launched, accounted.placed,
    accounted.folded.trans (verdict_filling filling)⟩, kept.bounded, ?_, ?_⟩
  · intro _ (drained : state.pending = [])
    by_contra left
    apply stop
    refine ⟨Nat.lt_of_not_le left, ?_⟩
    rw [drained]
    exact driver.bound_pos
  · intro account returned
    cases returned

theorem Kept.complete {i : Nat} (kept : driver.Kept state) (running : i ∈ state.running) :
    driver.Kept
      { state with running := state.running.erase i, ready := i :: state.ready } := by
  have some_ready : state.running.erase i ++ i :: state.ready ≠ [] := by simp
  refine ⟨kept.accounted.complete running, ?_, ?_, ?_⟩
  · exact (length_complete_pending running).trans_le kept.bounded
  · intro _ drained
    exact (some_ready drained).elim
  · intro account returned
    have drained := (kept.succeeded account returned).1
    rw [State.pending, List.append_eq_nil_iff] at drained
    rw [drained.1] at running
    cases running

theorem Kept.join {i : Nat} {account : Account} (kept : driver.Kept state)
    (going : state.control = .joining) (ready : i ∈ state.ready)
    (result : driver.absorb state.account (driver.outcome i) = .ok account) :
    driver.Kept (State.refill driver.hi
      { state with
        ready := state.ready.erase i
        account := account
        joined := state.joined ++ [i] }) := by
  let taken : State Account Failure :=
    { state with
      ready := state.ready.erase i
      account := account
      joined := state.joined ++ [i] }
  have still : taken.verdict = .ok account := verdict_joining going
  have accounted : driver.Accounted taken := kept.accounted.take (verdict_joining going)
    ready ⟨rfl, rfl, rfl, rfl, rfl⟩ (result.trans still.symm)
  refine ⟨accounted.refill, ?_, ?_, ?_⟩
  · apply (length_refill_pending _ _).trans
    exact (length_erase_ready ready).trans_le kept.bounded
  · intro _ drained
    exact refill_drained drained
  · intro _ returned
    rw [control_refill] at returned
    rw [going] at returned
    cases returned

theorem Kept.fail {i : Nat} {failure : Failure} (kept : driver.Kept state)
    (going : state.control = .joining) (ready : i ∈ state.ready)
    (result : driver.absorb state.account (driver.outcome i) = .error failure) :
    driver.Kept
      { state with
        control := .returned (.error failure)
        ready := state.ready.erase i
        joined := state.joined ++ [i] } := by
  refine ⟨kept.accounted.take (verdict_joining going) ready
    ⟨rfl, rfl, rfl, rfl, rfl⟩ result, ?_, ?_, ?_⟩
  · exact Nat.le_of_succ_le ((length_erase_ready ready).trans_le kept.bounded)
  · intro now
    cases now
  · intro _ returned
    cases returned

theorem Kept.finish (kept : driver.Kept state) (going : state.control = .joining)
    (drained : state.pending = []) :
    driver.Kept { state with control := .returned (.ok state.account) } := by
  have accounted := kept.accounted
  refine ⟨⟨accounted.above, accounted.below, accounted.launched, accounted.placed,
    accounted.folded.trans (verdict_joining going)⟩, kept.bounded, ?_, ?_⟩
  · intro now
    cases now
  · intro _ _
    exact ⟨drained, kept.joining going drained⟩

theorem system_kept : driver.system.Invariant driver.Kept where
  initially := by
    intro state initial
    cases initial
    refine ⟨⟨Nat.le_refl _, Nat.le_max_left _ _, ?_, .refl _, rfl⟩, Nat.zero_le _, ?_, ?_⟩
    · simp
    · intro joining
      cases joining
    · intro account returned
      cases returned
  preserved := by
    intro before after kept step
    cases step with
    | push filling more room => exact kept.push filling more room
    | filled filling stop => exact kept.filled filling stop
    | complete i running => exact kept.complete running
    | join i account going ready result => exact kept.join going ready result
    | fail i failure going ready result => exact kept.fail going ready result
    | finish going drained => exact kept.finish going drained

/-- No request is launched twice or from outside of the range. -/
theorem launched_once (reachable : driver.system.Reachable state) :
    state.launched.Nodup ∧ ∀ i ∈ state.launched, driver.lo ≤ i ∧ i < driver.hi := by
  have accounted := (system_kept.of_reachable reachable).accounted
  rw [accounted.launched]
  refine ⟨List.nodup_range', ?_⟩
  intro i member
  have below := accounted.below
  rw [List.mem_range'_1] at member
  omega

theorem pending_bounded (reachable : driver.system.Reachable state) :
    state.pending.length ≤ max driver.limit 1 :=
  (system_kept.of_reachable reachable).bounded

/-- Where a driver succeeds it has launched the whole range and taken every result, in
some order. -/
theorem succeeded_whole (reachable : driver.system.Reachable state) {account : Account}
    (returned : state.control = .returned (.ok account)) :
    state.launched = List.range' driver.lo (driver.hi - driver.lo) ∧
      state.pending = [] ∧
      state.joined.Perm (List.range' driver.lo (driver.hi - driver.lo)) ∧
      (state.joined.map driver.outcome).foldlM driver.absorb driver.start =
        .ok account := by
  have kept := system_kept.of_reachable reachable
  rcases kept.succeeded account returned with ⟨drained, done⟩
  rcases kept.accounted with ⟨above, below, launched, placed, folded⟩
  have count : state.next - driver.lo = driver.hi - driver.lo := by omega
  rw [count] at launched
  refine ⟨launched, drained, ?_, ?_⟩
  · rw [drained, List.nil_append, launched] at placed
    exact placed.symm
  · rw [folded, State.verdict, returned]

/-! ## Every driver returns -/

def Control.steps : Control Account Failure → Nat
  | .filling => 2
  | .joining => 1
  | .returned _ => 0

def remaining (driver : BoundedDriver Result Account Failure)
    (state : State Account Failure) : Nat :=
  3 * (driver.hi - state.next) + 2 * state.running.length + state.ready.length +
    state.control.steps

theorem remaining_refill_le (state : State Account Failure) :
    driver.remaining (state.refill driver.hi) ≤ driver.remaining state := by
  rw [State.refill]
  split
  · simp only [remaining, State.push, List.length_cons]
    omega
  · exact Nat.le_refl _

theorem remaining_lt {next : State Account Failure}
    (step : driver.system.Step state next) :
    driver.remaining next < driver.remaining state := by
  cases step with
  | push _ more _ =>
      simp only [remaining, State.push, List.length_cons]
      omega
  | filled filling _ => simp [remaining, filling, Control.steps]
  | complete i running =>
      have some_running := List.length_pos_of_mem running
      simp only [remaining, List.length_cons, List.length_erase_of_mem running]
      omega
  | join i account going ready _ =>
      have some_ready := List.length_pos_of_mem ready
      apply (remaining_refill_le _).trans_lt
      simp only [remaining, List.length_erase_of_mem ready]
      omega
  | fail i failure going ready _ =>
      have some_ready := List.length_pos_of_mem ready
      simp only [remaining, List.length_erase_of_mem ready, going, Control.steps]
      omega
  | finish going _ => simp [remaining, going, Control.steps]

theorem moves_on (unfinished : ¬ ∃ result, state.control = .returned result) :
    ∃ next, driver.system.Step state next := by
  cases control : state.control with
  | filling =>
      by_cases room : state.next < driver.hi ∧ state.pending.length < driver.bound
      · exact ⟨_, .push state control room.1 room.2⟩
      · exact ⟨_, .filled state control room⟩
  | joining =>
      cases readies : state.ready with
      | cons i others =>
          have ready : i ∈ state.ready := by simp [readies]
          cases result : driver.absorb state.account (driver.outcome i) with
          | ok account => exact ⟨_, .join state i account control ready result⟩
          | error failure => exact ⟨_, .fail state i failure control ready result⟩
      | nil =>
          cases runnings : state.running with
          | cons i others => exact ⟨_, .complete state i (by simp [runnings])⟩
          | nil => exact ⟨_, .finish state control (by simp [State.pending, *])⟩
  | returned result => exact (unfinished ⟨result, control⟩).elim

/-- In whatever order the requests complete, the driver returns. -/
theorem returns (state : State Account Failure) :
    driver.system.Inevitably (fun after => ∃ result, after.control = .returned result)
      state := by
  have enabled : ∀ now, True → ¬ (∃ result, now.control = .returned result) →
      ∃ next, driver.system.Step now next := fun _ _ unfinished => moves_on unfinished
  have nearer : ∀ now next, True → driver.system.Step now next →
      True ∧ driver.remaining next < driver.remaining now :=
    fun _ _ _ step => ⟨trivial, remaining_lt step⟩
  exact .of_measure driver.remaining enabled nearer trivial

/-- What a state of a run shows of the range: every request launched at most once, no
more than the bound in flight, all of them launched and none in flight where the driver
has succeeded, and no way around returning. -/
structure Covers (driver : BoundedDriver Result Account Failure)
    (state : State Account Failure) : Prop where
  once : state.launched.Nodup
  inside : ∀ i ∈ state.launched, driver.lo ≤ i ∧ i < driver.hi
  bounded : state.pending.length ≤ max driver.limit 1
  whole : ∀ account, state.control = .returned (.ok account) →
    state.launched = List.range' driver.lo (driver.hi - driver.lo) ∧ state.pending = []
  returns : driver.system.Inevitably
    (fun after => ∃ result, after.control = .returned result) state

theorem covers (reachable : driver.system.Reachable state) : driver.Covers state where
  once := (launched_once reachable).1
  inside := (launched_once reachable).2
  bounded := pending_bounded reachable
  whole := fun _ returned =>
    have whole := succeeded_whole reachable returned
    ⟨whole.1, whole.2.1⟩
  returns := returns state

/-! ## A failed result ends the run -/

/-- What an error that is returned comes from: the last result taken, where those before it
were folded. -/
def FailedLast (driver : BoundedDriver Result Account Failure)
    (state : State Account Failure) (failure : Failure) : Prop :=
  ∃ earlier i account, state.joined = earlier ++ [i] ∧
    (earlier.map driver.outcome).foldlM driver.absorb driver.start = .ok account ∧
    driver.absorb account (driver.outcome i) = .error failure

theorem failedLast_fold {failure : Failure} (failed : driver.FailedLast state failure) :
    (state.joined.map driver.outcome).foldlM driver.absorb driver.start =
      .error failure := by
  rcases failed with ⟨earlier, i, account, joined, folded, result⟩
  rw [joined, List.map_append, List.foldlM_append, folded]
  simp only [List.map_cons, List.map_nil, List.foldlM_cons, List.foldlM_nil, bind_pure]
  exact result

theorem failedLast_step {next : State Account Failure} (kept : driver.Kept state)
    (before : ∀ failure, state.control = .returned (.error failure) →
      driver.FailedLast state failure)
    (step : driver.Step state next) :
    ∀ failure, next.control = .returned (.error failure) →
      driver.FailedLast next failure := by
  intro failure returned
  cases step with
  | push filling _ _ =>
      rw [State.push, filling] at returned
      cases returned
  | filled _ _ => cases returned
  | complete i running => exact before failure returned
  | join i account going _ _ =>
      rw [control_refill] at returned
      rw [going] at returned
      cases returned
  | fail i caught going ready result =>
      cases returned
      refine ⟨state.joined, i, state.account, rfl, ?_, result⟩
      rw [kept.accounted.folded, verdict_joining going]
  | finish _ _ => cases returned

theorem failedLast_of_returned (reachable : driver.system.Reachable state)
    {failure : Failure} (returned : state.control = .returned (.error failure)) :
    driver.FailedLast state failure := by
  have invariant : driver.system.Invariant fun state => driver.Kept state ∧
      ∀ failure, state.control = .returned (.error failure) →
        driver.FailedLast state failure := by
    constructor
    · intro state initial
      refine ⟨system_kept.initially state initial, ?_⟩
      intro failure returned
      cases initial
      cases returned
    · intro state next held step
      exact ⟨system_kept.preserved state next held.1 step, failedLast_step held.1 held.2 step⟩
  exact (invariant.of_reachable reachable).2 failure returned

theorem append_singleton_ne_self {joined : List Nat} {i : Nat} : joined ≠ joined ++ [i] := by
  intro same
  have length := congrArg List.length same
  simp at length

/-- What a driver does about a failed result: a run returns an error exactly when the last
result it took failed. Where it takes one it returns it in that step, with what is in flight
still in flight and nothing launched, and it can take one as soon as it is there. After it
has returned it neither launches nor takes anything. -/
structure Stops (driver : BoundedDriver Result Account Failure)
    (state : State Account Failure) : Prop where
  failed : ∀ failure, state.control = .returned (.error failure) ↔
    driver.FailedLast state failure
  taken : ∀ i failure next, driver.Step state next → next.joined = state.joined ++ [i] →
    driver.absorb state.account (driver.outcome i) = .error failure →
      next.control = .returned (.error failure) ∧ next.running = state.running ∧
        next.launched = state.launched
  prompt : ∀ i failure, state.control = .joining → i ∈ state.ready →
    driver.absorb state.account (driver.outcome i) = .error failure →
      ∃ next, driver.Step state next ∧ next.control = .returned (.error failure) ∧
        next.running = state.running
  still : ∀ result next, state.control = .returned result → driver.Step state next →
    next.control = .returned result ∧ next.launched = state.launched ∧
      next.joined = state.joined

theorem stops_taken {i : Nat} {failure : Failure} {next : State Account Failure}
    (step : driver.Step state next) (joined : next.joined = state.joined ++ [i])
    (result : driver.absorb state.account (driver.outcome i) = .error failure) :
    next.control = .returned (.error failure) ∧ next.running = state.running ∧
      next.launched = state.launched := by
  cases step with
  | push _ _ _ => exact (append_singleton_ne_self joined).elim
  | filled _ _ => exact (append_singleton_ne_self joined).elim
  | complete _ _ => exact (append_singleton_ne_self joined).elim
  | finish _ _ => exact (append_singleton_ne_self joined).elim
  | join other account _ _ absorbed =>
      have took : ∀ hi (taken : State Account Failure),
          (State.refill hi taken).joined = taken.joined := by
        intro hi taken
        rw [State.refill]
        split <;> rfl
      rw [took] at joined
      cases List.append_cancel_left joined
      rw [absorbed] at result
      cases result
  | fail other caught _ _ absorbed =>
      cases List.append_cancel_left joined
      rw [absorbed] at result
      cases result
      exact ⟨rfl, rfl, rfl⟩

theorem stops_still {result : Except Failure Account} {next : State Account Failure}
    (returned : state.control = .returned result) (step : driver.Step state next) :
    next.control = .returned result ∧ next.launched = state.launched ∧
      next.joined = state.joined := by
  cases step with
  | complete i running => exact ⟨returned, rfl, rfl⟩
  | push filling _ _ =>
      rw [returned] at filling
      cases filling
  | filled filling _ =>
      rw [returned] at filling
      cases filling
  | join i account going _ _ =>
      rw [returned] at going
      cases going
  | fail i failure going _ _ =>
      rw [returned] at going
      cases going
  | finish going _ =>
      rw [returned] at going
      cases going

theorem stops (reachable : driver.system.Reachable state) : driver.Stops state where
  failed := by
    intro failure
    constructor
    · exact failedLast_of_returned reachable
    · intro failed
      have folded := (system_kept.of_reachable reachable).accounted.folded
      rw [failedLast_fold failed, State.verdict] at folded
      split at folded
      · rename_i result returned
        rw [returned, folded]
      · cases folded
  taken := fun _ _ _ => stops_taken
  prompt := fun i failure joining ready result =>
    ⟨_, .fail state i failure joining ready result, rfl, rfl⟩
  still := fun _ _ => stops_still

end

end BoundedDriver

end DsBench
