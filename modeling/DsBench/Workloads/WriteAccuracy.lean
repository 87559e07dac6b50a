import DsBench.Foundation.AppendLedger
import DsBench.Workloads.PoolAccounting
import Mathlib.Data.Fintype.Prod

/-! # A fleet's writes and what the server keeps of them

A fleet of pods appends to one server. The server is free to store an append before or
after it answers, to answer what it does not store, and to store what it never
acknowledges.
-/

namespace DsBench.Workloads.WriteAccuracy

open MultiStreamPool PoolAccounting

/-! ## The fleet and the server -/

/-- The pods' own states, and the server beside what it told them. -/
structure Cluster (pods : Nat) where
  pods : Fin pods → Shared
  ledger : AppendLedger Nat

structure Client where
  worker : Worker
  arrived : Bool

/-- What happens next where a client is: it takes a step of its own, the server stores the
append it waits for, or the server stores an append of an earlier time. -/
inductive Happening where
  | work (input : Input)
  | stores
  | settles (key : Nat)
  | straggles (key : Nat)

def asking : Control → Option Nat
  | .waiting _ global _ => some global
  | .retrying _ global _ => some global
  | _ => none

def succeeds : Input → Bool
  | .answer answer => Answer.succeeds answer
  | _ => false

def follow (ledger : AppendLedger Nat) (asked : Option Nat) (arrived : Bool) :
    Input → AppendLedger Nat
  | .answer answer =>
      match asked with
      | some key =>
          if Answer.succeeds answer then ledger.acknowledge key arrived
          else ledger.abandon key arrived
      | none => ledger
  | _ => ledger

section

variable (fleet : Fleet) (args : Fin fleet.pods → PoolArgs)

abbrev connections : Nat := max fleet.connections 1

abbrev ClientIndex := Fin fleet.pods × Fin (connections fleet)

/-- `pool_worker` as a pod starts it for a client. -/
def clientStep (index : ClientIndex fleet) : Shared → Worker → Input →
    Option (Shared × Worker) :=
  workerStep (args index.1)
    (workerSlice (fleet.slice index.1).1 (fleet.slice index.1).2 (connections fleet)
      index.2).1.1
    (span (fleet.slice index.1).1 (fleet.slice index.1).2 (connections fleet) index.2)

def clientAct (index : ClientIndex fleet) (cluster : Cluster fleet.pods)
    (client : Client) : Happening → Option (Cluster fleet.pods × Client)
  | .work input =>
      (clientStep fleet args index (cluster.pods index.1) client.worker input).map
        fun next =>
          (⟨Function.update cluster.pods index.1 next.1,
              follow cluster.ledger (asking client.worker.control) client.arrived input⟩,
            ⟨next.2, false⟩)
  | .stores =>
      match asking client.worker.control, client.arrived with
      | some key, false =>
          some ({ cluster with ledger := cluster.ledger.store key }, ⟨client.worker, true⟩)
      | _, _ => none
  | .settles key =>
      (cluster.ledger.settle key).map fun ledger => ({ cluster with ledger }, client)
  | .straggles key =>
      (cluster.ledger.straggle key).map fun ledger => ({ cluster with ledger }, client)

def beginning : Cluster fleet.pods × (ClientIndex fleet → Client) :=
  (⟨fun _ => .start, .empty⟩, fun index =>
    ⟨startWorker (fleet.slice index.1).1 (fleet.slice index.1).2 (connections fleet)
      index.2, false⟩)

def cluster : TransitionSystem (Cluster fleet.pods × (ClientIndex fleet → Client)) :=
  crew (clientAct fleet args) (beginning fleet)

end

/-! ## Steps of a client -/

theorem asking_of_step {args : PoolArgs} {lo span : Nat} {shared : Shared}
    {worker : Worker} {input : Input} {next : Shared × Worker}
    (step : workerStep args lo span shared worker input = some next) :
    (∃ answer key, input = .answer answer ∧ asking worker.control = some key) ∨
      (asking worker.control = none ∧ succeeds input = false ∧
        ∀ ledger arrived, follow ledger (asking worker.control) arrived input = ledger) := by
  rcases worker with ⟨control, rr, samples⟩
  cases input with
  | look checked now started =>
      cases control with
      | head => exact .inr ⟨rfl, rfl, fun _ _ => rfl⟩
      | _ => cases step
  | answer answer =>
      cases control with
      | waiting counting global started => exact .inl ⟨answer, global, rfl, rfl⟩
      | retrying counting global started => exact .inl ⟨answer, global, rfl, rfl⟩
      | _ => cases step
  | created ok =>
      cases control with
      | creating counting global started => exact .inr ⟨rfl, rfl, fun _ _ => rfl⟩
      | _ => cases step
  | go now =>
      cases control with
      | applying effects => exact .inr ⟨rfl, rfl, fun _ _ => rfl⟩
      | leaving => exact .inr ⟨rfl, rfl, fun _ _ => rfl⟩
      | _ => cases step

theorem excess_follow {args : PoolArgs} {lo span : Nat} {shared : Shared}
    {worker : Worker} {input : Input} {next : Shared × Worker}
    (step : workerStep args lo span shared worker input = some next)
    (ledger : AppendLedger Nat) (arrived : Bool) (key : Nat) :
    (follow ledger (asking worker.control) arrived input).excess key =
      ledger.excess key - AppendLedger.held (asking worker.control) arrived key := by
  rcases asking_of_step step with ⟨answer, asked, same, waits⟩ | ⟨waits, _, unchanged⟩
  · rw [same, waits, follow]
    split
    · exact AppendLedger.excess_acknowledge ledger key asked arrived
    · exact AppendLedger.excess_abandon ledger key asked arrived
  · rw [unchanged, waits, AppendLedger.held_none, sub_zero]

theorem acknowledged_abandon (ledger : AppendLedger Nat) (key : Nat) (arrived : Bool) :
    (ledger.abandon key arrived).acknowledged = ledger.acknowledged := by
  cases arrived <;> rfl

theorem length_follow {args : PoolArgs} {lo span : Nat} {shared : Shared}
    {worker : Worker} {input : Input} {next : Shared × Worker}
    (step : workerStep args lo span shared worker input = some next)
    (ledger : AppendLedger Nat) (arrived : Bool) :
    (follow ledger (asking worker.control) arrived input).acknowledged.length =
      ledger.acknowledged.length + if succeeds input then 1 else 0 := by
  rcases asking_of_step step with ⟨answer, asked, same, waits⟩ | ⟨_, refused, unchanged⟩
  · rw [same, waits, follow, succeeds]
    split
    · simp [AppendLedger.acknowledge]
    · simp [acknowledged_abandon]
  · rw [unchanged, refused]
    rfl

theorem successes_afterAppend (shared : Shared) (counting : Bool) (global started : Nat)
    (answer : Answer) :
    (afterAppend shared counting global started answer).1.successes = shared.successes := by
  cases answer with
  | error message => rfl
  | ok status =>
      rw [afterAppend]
      split
      · rfl
      · split
        · rfl
        · split <;> rfl

theorem successes_of_step {args : PoolArgs} {lo span : Nat} {shared : Shared}
    {worker : Worker} {input : Input} {next : Shared × Worker}
    (step : workerStep args lo span shared worker input = some next) :
    next.1.successes = shared.successes + if succeeds input then 1 else 0 := by
  rcases worker with ⟨control, rr, samples⟩
  cases input with
  | look checked now started =>
      cases control with
      | head =>
          simp only [workerStep] at step
          split at step
          · split at step
            · cases step
              rfl
            · cases step
              rw [successes_observe]
              rfl
          · cases step
            rfl
      | _ => cases step
  | answer answer =>
      cases control with
      | waiting counting global started =>
          cases step
          rw [successes_afterAppend, successes_observe]
          rfl
      | retrying counting global started =>
          cases step
          rw [successes_observe]
          rfl
      | _ => cases step
  | created ok =>
      cases control with
      | creating counting global started =>
          cases ok with
          | true =>
              cases step
              rfl
          | false =>
              cases step
              rfl
      | _ => cases step
  | go now =>
      cases control with
      | applying effects =>
          cases effects with
          | nil =>
              cases step
              rfl
          | cons effect effects =>
              cases step
              cases effect <;> rfl
      | leaving =>
          cases step
          rfl
      | _ => cases step

/-! ## The balance of the server -/

section

variable {fleet : Fleet} {args : Fin fleet.pods → PoolArgs}

theorem clientAct_cases {index : ClientIndex fleet} {before : Cluster fleet.pods}
    {client : Client} {happening : Happening} {next : Cluster fleet.pods × Client}
    (acted : clientAct fleet args index before client happening = some next) :
    (∃ input moved, clientStep fleet args index (before.pods index.1) client.worker input =
        some moved ∧
      next = (⟨Function.update before.pods index.1 moved.1,
        follow before.ledger (asking client.worker.control) client.arrived input⟩,
          ⟨moved.2, false⟩)) ∨
    (∃ key, asking client.worker.control = some key ∧ client.arrived = false ∧
      next = ({ before with ledger := before.ledger.store key }, ⟨client.worker, true⟩)) ∨
    (∃ key ledger, (before.ledger.settle key = some ledger ∨
        before.ledger.straggle key = some ledger) ∧
      next = ({ before with ledger := ledger }, client)) := by
  cases happening with
  | work input =>
      rw [clientAct, Option.map_eq_some_iff] at acted
      rcases acted with ⟨moved, step, same⟩
      exact .inl ⟨input, moved, step, same.symm⟩
  | stores =>
      rw [clientAct] at acted
      split at acted
      · rename_i key asks waits
        cases acted
        exact .inr (.inl ⟨key, asks, waits, rfl⟩)
      · cases acted
  | settles key =>
      rw [clientAct, Option.map_eq_some_iff] at acted
      rcases acted with ⟨ledger, settled, same⟩
      exact .inr (.inr ⟨key, ledger, .inl settled, same.symm⟩)
  | straggles key =>
      rw [clientAct, Option.map_eq_some_iff] at acted
      rcases acted with ⟨ledger, straggled, same⟩
      exact .inr (.inr ⟨key, ledger, .inr straggled, same.symm⟩)

def Client.lien (key : Nat) (client : Client) : ℤ :=
  -AppendLedger.held (asking client.worker.control) client.arrived key

def Cluster.excess {pods : Nat} (key : Nat) (cluster : Cluster pods) : ℤ :=
  cluster.ledger.excess key

def Cluster.unheard {pods : Nat} (cluster : Cluster pods) : ℤ :=
  ((∑ pod, (cluster.pods pod).successes : ℕ) : ℤ) - cluster.ledger.acknowledged.length

def Client.nothing (_ : Client) : ℤ := 0

theorem clientAct_excess {index : ClientIndex fleet} {before : Cluster fleet.pods}
    {client : Client} {happening : Happening} {next : Cluster fleet.pods × Client}
    (acted : clientAct fleet args index before client happening = some next) (key : Nat) :
    next.1.excess key + next.2.lien key = before.excess key + client.lien key := by
  rcases clientAct_cases acted with ⟨input, moved, step, same⟩ | ⟨asked, asks, waits, same⟩ |
    ⟨asked, ledger, later, same⟩
  · cases same
    rw [Cluster.excess, excess_follow step, Client.lien, Client.lien, Cluster.excess,
      AppendLedger.held_false]
    ring
  · cases same
    rw [Cluster.excess, AppendLedger.excess_store, Client.lien, Client.lien, Cluster.excess,
      asks, waits, AppendLedger.held_false]
    ring
  · cases same
    rw [Cluster.excess, Cluster.excess]
    rcases later with settled | straggled
    · rw [AppendLedger.excess_settle settled]
    · rw [AppendLedger.excess_straggle straggled]

theorem clientAct_acknowledged {index : ClientIndex fleet} {before : Cluster fleet.pods}
    {client : Client} {happening : Happening} {next : Cluster fleet.pods × Client}
    (acted : clientAct fleet args index before client happening = some next) :
    next.1.unheard + next.2.nothing = before.unheard + client.nothing := by
  rcases clientAct_cases acted with ⟨input, moved, step, same⟩ | ⟨asked, asks, waits, same⟩ |
    ⟨asked, ledger, later, same⟩
  · cases same
    have mine := successes_of_step step
    have theirs : ∑ pod ∈ Finset.univ.erase index.1,
        (Function.update before.pods index.1 moved.1 pod).successes =
          ∑ pod ∈ Finset.univ.erase index.1, (before.pods pod).successes := by
      apply Finset.sum_congr rfl
      intro pod member
      rw [Function.update_of_ne (Finset.ne_of_mem_erase member)]
    rw [Cluster.unheard, Cluster.unheard, length_follow step, Client.nothing, Client.nothing]
    dsimp only
    rw [← Finset.add_sum_erase _ _ (Finset.mem_univ index.1), theirs, Function.update_self,
      mine, ← Finset.add_sum_erase _ (fun pod => (before.pods pod).successes)
        (Finset.mem_univ index.1)]
    push_cast
    ring
  · cases same
    rfl
  · cases same
    rcases later with settled | straggled
    · rw [AppendLedger.settle, Option.ite_none_right_eq_some] at settled
      cases settled.2
      rfl
    · rw [AppendLedger.straggle, Option.ite_none_right_eq_some] at straggled
      cases straggled.2
      rfl

abbrev FleetState (fleet : Fleet) := Cluster fleet.pods × (ClientIndex fleet → Client)

def podState (state : FleetState fleet) (pod : Fin fleet.pods) :
    Shared × (Fin (connections fleet) → Worker) :=
  (state.1.pods pod, fun w => (state.2 (pod, w)).worker)

theorem podState_congr {state next : FleetState fleet} {pod : Fin fleet.pods}
    (shared : next.1.pods pod = state.1.pods pod)
    (workers : ∀ w, (next.2 (pod, w)).worker = (state.2 (pod, w)).worker) :
    podState next pod = podState state pod := by
  apply Prod.ext shared
  funext w
  exact workers w

theorem podState_moved (before : FleetState fleet) (index : ClientIndex fleet)
    (ledger : AppendLedger Nat) (moved : Shared × Worker) :
    podState (⟨Function.update before.1.pods index.1 moved.1, ledger⟩,
        Function.update before.2 index ⟨moved.2, false⟩) index.1 =
      (moved.1, Function.update (podState before index.1).2 index.2 moved.2) := by
  apply Prod.ext
  · exact Function.update_self _ _ _
  · funext w
    by_cases mine : w = index.2
    · subst mine
      simp [podState]
    · have other : (index.1, w) ≠ index := fun equal => mine (congrArg Prod.snd equal)
      simp [podState, mine, other]

/-- A pod in the fleet does nothing it could not do alone. -/
theorem podState_reachable {state : FleetState fleet}
    (reachable : (cluster fleet args).Reachable state) (pod : Fin fleet.pods) :
    (runPool (args pod) (fleet.slice pod).1 (fleet.slice pod).2
      (connections fleet)).Reachable (podState state pod) := by
  rcases reachable with ⟨start, initial, run⟩
  induction run with
  | refl =>
      apply TransitionSystem.Reachable.initial
      cases initial
      rfl
  | @tail before after _ step induction =>
      rcases crew_step_iff.mp step with ⟨index, happening, next, acted, result⟩
      cases result
      -- A happening that leaves the worker alone leaves every pod as it was.
      have idle : next.1.pods = before.1.pods → next.2.worker = (before.2 index).worker →
          podState (next.1, Function.update before.2 index next.2) pod =
            podState before pod := by
        intro pods worker
        apply podState_congr (by rw [pods])
        intro w
        by_cases own : (pod, w) = index
        · simp only [own, Function.update_self, worker]
        · simp only [Function.update_of_ne own]
      rcases clientAct_cases acted with ⟨input, moved, stepped, same⟩ | ⟨_, _, _, same⟩ |
        ⟨_, _, _, same⟩
      · cases same
        by_cases own : pod = index.1
        · subst own
          rw [podState_moved]
          exact induction.step (crew_step_iff.mpr ⟨index.2, input, moved, stepped, rfl⟩)
        · have others : podState (⟨Function.update before.1.pods index.1 moved.1,
              follow before.1.ledger (asking (before.2 index).worker.control)
                (before.2 index).arrived input⟩,
              Function.update before.2 index ⟨moved.2, false⟩) pod =
                podState before pod := by
            apply podState_congr (Function.update_of_ne own _ _)
            intro w
            have other : (pod, w) ≠ index := fun equal => own (congrArg Prod.fst equal)
            simp only [Function.update_of_ne other]
          rw [others]
          exact induction
      · rw [idle (by rw [same]) (by rw [same])]
        exact induction
      · rw [idle (by rw [same]) (by rw [same])]
        exact induction

/-- Every worker of the fleet has come to its end. -/
def Finished (state : FleetState fleet) : Prop :=
  ∀ index, (state.2 index).worker.control = .finished

/-- At the end of the fleet the records that are stored or owed are those that were
acknowledged or are in doubt. -/
theorem ledger_balanced {state : FleetState fleet}
    (reachable : (cluster fleet args).Reachable state) (finished : Finished state) :
    (state.1.ledger.stored ++ state.1.ledger.owed).Perm
      (state.1.ledger.acknowledged ++ state.1.ledger.doubtful) := by
  apply AppendLedger.balanced
  intro key
  have conserved := crew_conserves
    (fun _ _ _ _ _ acted => clientAct_excess acted key) reachable
  have last : ∑ index, (state.2 index).lien key = 0 := by
    apply Finset.sum_eq_zero
    intro index _
    simp [Client.lien, finished index, asking]
  have first : ∑ index, ((beginning fleet).2 index).lien key = 0 := by
    apply Finset.sum_eq_zero
    intro index _
    simp [Client.lien, beginning]
  rw [total, total, last, first] at conserved
  simpa [Cluster.excess, beginning, AppendLedger.empty, AppendLedger.excess] using conserved

theorem acknowledged_eq {state : FleetState fleet}
    (reachable : (cluster fleet args).Reachable state) :
    state.1.ledger.acknowledged.length = ∑ pod, (state.1.pods pod).successes := by
  have conserved := crew_conserves (fun _ _ _ _ _ acted => clientAct_acknowledged acted)
    reachable
  have heard : (beginning fleet).1.unheard = 0 := by
    simp [Cluster.unheard, beginning, AppendLedger.empty, Shared.start, Shared.successes]
  simp only [total, Client.nothing, Finset.sum_const_zero, add_zero, heard] at conserved
  rw [Cluster.unheard, sub_eq_zero] at conserved
  exact_mod_cast conserved.symm

/-! ## The keys of the fleet -/

def keyOf : Control → Option Nat
  | .waiting _ global _ => some global
  | .creating _ global _ => some global
  | .retrying _ global _ => some global
  | _ => none

theorem keyOf_of_asking {control : Control} {key : Nat} (asks : asking control = some key) :
    keyOf control = some key := by
  cases control with
  | waiting counting global started => exact asks
  | retrying counting global started => exact asks
  | _ => cases asks

theorem keyOf_afterAppend {shared : Shared} {counting : Bool} {global started key : Nat}
    {answer : Answer}
    (holds : keyOf (afterAppend shared counting global started answer).2 = some key) :
    key = global := by
  cases answer with
  | error message => cases holds
  | ok status =>
      rw [afterAppend] at holds
      split at holds
      · cases holds
      · split at holds
        · cases holds
          rfl
        · split at holds
          · cases holds
          · cases holds

theorem keyOf_afterRetry (counting : Bool) (started : Nat) (answer : Answer) :
    keyOf (afterRetry counting started answer) = none := by
  cases answer with
  | error message => rfl
  | ok status =>
      rw [afterRetry]
      split <;> rfl

/-- The worker's cursor and the key it is at lie within its range, and below `upper`. -/
def Inside (span upper : Nat) (worker : Worker) : Prop :=
  worker.rr < span ∧ ∀ key, keyOf worker.control = some key → key < upper

theorem workerStep_inside {args : PoolArgs} {lo span upper : Nat} {shared : Shared}
    {worker : Worker} {input : Input} {next : Shared × Worker} (fits : lo + span ≤ upper)
    (inside : Inside span upper worker)
    (step : workerStep args lo span shared worker input = some next) :
    Inside span upper next.2 := by
  have move := workerStep_moves step
  rcases worker with ⟨control, rr, samples⟩
  rcases inside with ⟨cursor, keys⟩
  dsimp only at cursor keys move
  have idle : ∀ control, keyOf control = none →
      Inside span upper ⟨control, rr, samples⟩ := by
    intro control nothing
    refine ⟨cursor, ?_⟩
    intro key holds
    rw [show keyOf control = some key from holds] at nothing
    cases nothing
  cases move with
  | idle => exact idle .head rfl
  | issue counting started =>
      refine ⟨Nat.mod_lt _ (by omega), ?_⟩
      intro key holds
      cases holds
      omega
  | leave => exact idle .leaving rfl
  | answered counting global started answer =>
      refine ⟨cursor, ?_⟩
      intro key holds
      rw [keyOf_afterAppend holds]
      exact keys global rfl
  | retried counting global started answer =>
      exact idle _ (keyOf_afterRetry counting started answer)
  | created counting global started => exact ⟨cursor, keys⟩
  | notCreated counting global started => exact idle _ rfl
  | done => exact idle .head rfl
  | carry now effect effects =>
      cases effect with
      | record started =>
          refine ⟨cursor, ?_⟩
          intro key holds
          cases holds
      | _ => exact idle (.applying effects) rfl
  | merge =>
      refine ⟨cursor, ?_⟩
      intro key holds
      cases holds

theorem Only.follow {upper : Nat} {ledger : AppendLedger Nat} {asked : Option Nat}
    (only : ledger.Only (· < upper)) (keys : ∀ key, asked = some key → key < upper)
    (arrived : Bool) (input : Input) : (follow ledger asked arrived input).Only (· < upper) := by
  cases input with
  | answer answer =>
      cases asked with
      | none => exact only
      | some key =>
          rw [WriteAccuracy.follow]
          split
          · exact only.acknowledge (keys key rfl) arrived
          · exact only.abandon (keys key rfl) arrived
  | _ => exact only

theorem slice_le (sized : fleet.Sized) {pod : Nat} (member : pod < fleet.pods) :
    (fleet.slice pod).2 ≤ fleet.streams := by
  have partition := Fleet.slices_partition sized
  have some_key := partition.nonempty pod member
  have covered := (partition.covers ((fleet.slice pod).2 - 1)).mpr
    ⟨pod, member, by omega, by omega⟩
  omega

theorem worker_fits (sized : fleet.Sized) (index : ClientIndex fleet) :
    (workerSlice (fleet.slice index.1).1 (fleet.slice index.1).2 (connections fleet)
      index.2).1.1 + span (fleet.slice index.1).1 (fleet.slice index.1).2
        (connections fleet) index.2 ≤ fleet.streams := by
  have working : index.2.val < fleet.connections := by
    have small := index.2.isLt
    have some_connections := sized.connections
    simp only [connections] at small
    omega
  have within := Fleet.worker_within sized index.1.isLt working
  have last := slice_le sized index.1.isLt
  rw [Fleet.worker] at within
  simp only [span, connections]
  omega

def Cluster.Within {pods : Nat} (upper : Nat) (cluster : Cluster pods) : Prop :=
  cluster.ledger.Only (· < upper)

def Client.Within (index : ClientIndex fleet) (client : Client) : Prop :=
  Inside (span (fleet.slice index.1).1 (fleet.slice index.1).2 (connections fleet) index.2)
    fleet.streams client.worker

theorem clientAct_within (sized : fleet.Sized) {index : ClientIndex fleet}
    {before : Cluster fleet.pods} {client : Client} {happening : Happening}
    {next : Cluster fleet.pods × Client} (ledger : before.Within fleet.streams)
    (inside : client.Within index)
    (acted : clientAct fleet args index before client happening = some next) :
    next.1.Within fleet.streams ∧ next.2.Within index := by
  have asks : ∀ key, asking client.worker.control = some key → key < fleet.streams :=
    fun key waits => inside.2 key (keyOf_of_asking waits)
  rcases clientAct_cases acted with ⟨input, moved, step, same⟩ | ⟨key, waits, _, same⟩ |
    ⟨key, later, stored, same⟩
  · cases same
    exact ⟨Only.follow ledger asks client.arrived input,
      workerStep_inside (worker_fits sized index) inside step⟩
  · cases same
    exact ⟨AppendLedger.Only.store ledger (asks key waits), inside⟩
  · cases same
    rcases stored with settled | straggled
    · exact ⟨AppendLedger.Only.settle ledger settled, inside⟩
    · exact ⟨AppendLedger.Only.straggle ledger straggled, inside⟩

/-- Every key on the server is one of the fleet's streams. -/
theorem stored_lt (sized : fleet.Sized) {state : FleetState fleet}
    (reachable : (cluster fleet args).Reachable state) :
    ∀ key ∈ state.1.ledger.stored, key < fleet.streams := by
  have begins : (beginning fleet).1.Within fleet.streams ∧
      ∀ index, ((beginning fleet).2 index).Within index := by
    refine ⟨AppendLedger.Only.empty, ?_⟩
    intro index
    have some_key : 0 < span (fleet.slice index.1).1 (fleet.slice index.1).2
        (connections fleet) index.2 := Nat.lt_of_lt_of_le Nat.one_pos (Nat.le_max_right _ _)
    refine ⟨Nat.mod_lt _ some_key, ?_⟩
    intro key holds
    cases holds
  have within := crew_holds begins (fun _ _ _ _ _ ledger inside acted =>
    clientAct_within sized ledger inside acted) reachable
  exact within.1.stored

end

end DsBench.Workloads.WriteAccuracy
