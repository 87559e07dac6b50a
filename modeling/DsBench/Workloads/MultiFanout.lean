import DsBench.Foundation.CyclicBarrier
import DsBench.Foundation.TransitionSystem
import Mathlib.Data.List.Nodup
import Mathlib.Data.Nat.ModEq

/-! # The multi-fanout workload

A fixed fan-out of streams and subscribers split over the pods of a fleet. Each pod
creates the streams it owns, spawns its subscribers and writers, and holds them all
at one barrier until every subscriber has tried to connect.
-/

namespace DsBench.Workloads.MultiFanout

structure FanoutArgs where
  streams : Nat
  subscribersPerStream : Nat
  shardIndex : Nat
  shardCount : Nat
  setupConcurrency : Nat

/-- Which part of the fan-out one pod takes. -/
structure Shard where
  k : Nat
  shard : Nat
  below : shard < k

/-- The shard from the parsed `DS_BENCH_SHARDS` and `DS_BENCH_INSTANCE`, with the
arguments where a variable is not usable. -/
def Shard.ofEnvironment (args : FanoutArgs) (shards inst : Option Nat) : Shard :=
  let k := max ((shards.filter fun n => 0 < n).getD args.shardCount) 1
  ⟨k, min (inst.getD args.shardIndex) (k - 1), by omega⟩

/-! ## Tasks -/

/-- A spawned task: a subscriber by its stream and global slot, or a stream's
writer. -/
inductive Task where
  | subscriber (streamIdx slot : Nat)
  | writer (streamIdx : Nat)
deriving DecidableEq, Repr

/-- How many of the first `n` indices fall to the shard, in closed form. -/
def Shard.countCong (shard : Shard) (n : Nat) : Nat :=
  if shard.shard ≥ n then 0 else (n - 1 - shard.shard) / shard.k + 1

section

variable (args : FanoutArgs) (shard : Shard)

def subscriberTasks : List Task :=
  (List.range args.streams).flatMap fun streamIdx =>
    (List.range args.subscribersPerStream).filterMap fun subLocalIdx =>
      let subGlobalIdx := streamIdx * args.subscribersPerStream + subLocalIdx
      if subGlobalIdx % shard.k ≠ shard.shard then none
      else some (.subscriber streamIdx subGlobalIdx)

def writerTasks : List Task :=
  (List.range args.streams).filterMap fun streamIdx =>
    if streamIdx % shard.k ≠ shard.shard then none else some (.writer streamIdx)

def tasks : List Task := subscriberTasks args shard ++ writerTasks args shard

def totalSubscribers : Nat :=
  shard.countCong (args.streams * args.subscribersPerStream)

def totalWriters : Nat := shard.countCong args.streams

/-- What `Barrier::new` is called with. -/
def barrierSize : Nat := max (totalSubscribers args shard + totalWriters args shard) 1

end

/-! ## Connecting -/

/-- One connect attempt: whether it opened the stream, and whether the connect
deadline had passed once it had failed. -/
structure Attempt where
  opened : Bool
  late : Bool
deriving DecidableEq, Repr

def connectResult : List Attempt → Option Bool
  | [] => none
  | attempt :: attempts =>
      if attempt.opened then some true
      else if attempt.late then some false
      else connectResult attempts

/-! ## A pod's run -/

structure Creation where
  next : Nat
  pending : List Nat
  requested : List Nat
deriving DecidableEq, Repr

namespace Creation

def push (count step : Nat) (creation : Creation) : Creation :=
  if creation.next < count then
    ⟨creation.next + step, creation.pending ++ [creation.next],
      creation.requested ++ [creation.next]⟩
  else creation

def fill (count step : Nat) : Nat → Creation → Creation
  | 0, creation => creation
  | slots + 1, creation => fill count step slots (creation.push count step)

def join (count step : Nat) (creation : Creation) (i : Nat) : Creation :=
  ({ creation with pending := creation.pending.erase i } : Creation).push count step

end Creation

/-- How far a pod has come: creating its streams, given up on an error, or running
its tasks, each with what its connect loop has come to. -/
inductive Stage (Index : Type) where
  | creating
  | aborted
  | running (connects : Index → Option Bool) (barrier : CyclicBarrier Index)

structure PodState (Index : Type) where
  creation : Creation
  stage : Stage Index

section

variable (args : FanoutArgs) (shard : Shard)

abbrev Position : Type := Fin (tasks args shard).length

def creationStart : Creation :=
  .fill args.streams shard.k (max args.setupConcurrency 1) ⟨shard.shard, [], []⟩

def connectsStart (position : Position args shard) : Option Bool :=
  match (tasks args shard).get position with
  | .subscriber _ _ => none
  | .writer _ => some true

inductive Step : PodState (Position args shard) → PodState (Position args shard) → Prop
  where
  | created (creation : Creation) (i : Nat) : i ∈ creation.pending →
      Step ⟨creation, .creating⟩ ⟨creation.join args.streams shard.k i, .creating⟩
  | refused (creation : Creation) (i : Nat) : i ∈ creation.pending →
      Step ⟨creation, .creating⟩ ⟨creation, .aborted⟩
  | spawned (creation : Creation) : creation.pending = [] →
      Step ⟨creation, .creating⟩
        ⟨creation, .running (connectsStart args shard) .fresh⟩
  | resolved (creation : Creation) (connects : Position args shard → Option Bool)
      (barrier : CyclicBarrier (Position args shard)) (position : Position args shard)
      (attempts : List Attempt) (connected : Bool) :
      connects position = none → connectResult attempts = some connected →
      Step ⟨creation, .running connects barrier⟩
        ⟨creation, .running (Function.update connects position (some connected)) barrier⟩
  | waited (creation : Creation) (connects : Position args shard → Option Bool)
      (barrier : CyclicBarrier (Position args shard)) (position : Position args shard)
      (connected : Bool) :
      connects position = some connected → barrier.place position = .outside →
      Step ⟨creation, .running connects barrier⟩
        ⟨creation, .running connects (barrier.wait (barrierSize args shard) position)⟩

def pod : TransitionSystem (PodState (Position args shard)) where
  Initial state := state = ⟨creationStart args shard, .creating⟩
  Step := Step args shard

end

/-! ## The closed forms count the tasks -/

namespace Shard

variable (shard : Shard)

/-- The indices below `n` that fall to the shard. -/
def owned (n : Nat) : List Nat :=
  (List.range n).filter fun i => i % shard.k = shard.shard

theorem owned_succ (n : Nat) :
    shard.owned (n + 1) =
      shard.owned n ++ if n % shard.k = shard.shard then [n] else [] := by
  rw [owned, List.range_succ, List.filter_append]
  by_cases own : n % shard.k = shard.shard
  · simp [owned, own]
  · simp [owned, own]

@[simp] theorem mem_owned (n i : Nat) :
    i ∈ shard.owned n ↔ i < n ∧ i % shard.k = shard.shard := by
  simp [owned]

theorem countCong_succ (n : Nat) :
    shard.countCong (n + 1) =
      shard.countCong n + if n % shard.k = shard.shard then 1 else 0 := by
  have below := shard.below
  simp only [countCong]
  rcases Nat.lt_trichotomy n shard.shard with before | first | after
  · have residue : n % shard.k = n := Nat.mod_eq_of_lt (by omega)
    rw [if_pos (by omega), if_pos (by omega), residue, if_neg (by omega)]
  · have residue : n % shard.k = n := Nat.mod_eq_of_lt (by omega)
    rw [if_neg (by omega), if_pos (by omega), residue, if_pos first, first]
    simp
  · rw [if_neg (by omega), if_neg (by omega)]
    have step : (n - 1 - shard.shard + 1) / shard.k =
        (n - 1 - shard.shard) / shard.k +
          if shard.k ∣ n - 1 - shard.shard + 1 then 1 else 0 := Nat.succ_div
    have distance : n - 1 - shard.shard + 1 = n - shard.shard := by omega
    have whole : n + 1 - 1 - shard.shard = n - shard.shard := by omega
    have congruent : shard.k ∣ n - shard.shard ↔ n % shard.k = shard.shard := by
      rw [← Nat.modEq_iff_dvd' (by omega), Nat.ModEq, Nat.mod_eq_of_lt below, eq_comm]
    rw [distance] at step
    rw [whole, step]
    simp only [congruent]
    omega

theorem countCong_eq (n : Nat) : shard.countCong n = (shard.owned n).length := by
  induction n with
  | zero => simp [countCong, owned]
  | succ n induction =>
      rw [countCong_succ, owned_succ, List.length_append, induction]
      split <;> rfl

theorem owned_nodup (n : Nat) : (shard.owned n).Nodup :=
  List.nodup_range.filter _

end Shard

/-- The subscriber slots of the first `streams` streams are consecutive. -/
theorem slots_flatMap (streams perStream : Nat) :
    ((List.range streams).flatMap fun streamIdx =>
      (List.range perStream).map fun subLocalIdx => streamIdx * perStream + subLocalIdx) =
      List.range (streams * perStream) := by
  induction streams with
  | zero => simp
  | succ streams induction =>
      rw [List.range_succ, List.flatMap_append, induction, Nat.succ_mul, List.range_add]
      simp

section

variable (args : FanoutArgs) (shard : Shard)

def Task.index : Task → Nat
  | .subscriber _ slot => slot
  | .writer streamIdx => streamIdx

theorem subscriberTasks_index :
    (subscriberTasks args shard).map Task.index =
      shard.owned (args.streams * args.subscribersPerStream) := by
  rw [Shard.owned, ← slots_flatMap, subscriberTasks, List.map_flatMap,
    List.filter_flatMap]
  apply List.flatMap_congr
  intro streamIdx _
  rw [List.map_filterMap, List.filter_map, ← List.filterMap_eq_filter, List.map_filterMap]
  apply List.filterMap_congr
  intro subLocalIdx _
  by_cases own : (streamIdx * args.subscribersPerStream + subLocalIdx) % shard.k =
      shard.shard
  · simp [own, Task.index]
  · simp [own]

theorem writerTasks_eq :
    writerTasks args shard = (shard.owned args.streams).map .writer := by
  rw [writerTasks, Shard.owned, ← List.filterMap_eq_filter, List.map_filterMap]
  apply List.filterMap_congr
  intro streamIdx _
  by_cases own : streamIdx % shard.k = shard.shard
  · simp [own]
  · simp [own]

theorem totalSubscribers_eq :
    totalSubscribers args shard = (subscriberTasks args shard).length := by
  rw [totalSubscribers, Shard.countCong_eq, ← subscriberTasks_index, List.length_map]

theorem totalWriters_eq : totalWriters args shard = (writerTasks args shard).length := by
  rw [totalWriters, Shard.countCong_eq, writerTasks_eq, List.length_map]

theorem mem_subscriberTasks (streamIdx slot : Nat) :
    .subscriber streamIdx slot ∈ subscriberTasks args shard ↔
      slot % shard.k = shard.shard ∧ streamIdx < args.streams ∧
        streamIdx * args.subscribersPerStream ≤ slot ∧
          slot < (streamIdx + 1) * args.subscribersPerStream := by
  simp only [subscriberTasks, List.mem_flatMap, List.mem_filterMap, List.mem_range]
  constructor
  · intro present
    rcases present with ⟨_, streamInside, subLocalIdx, localInside, spawned⟩
    split at spawned
    · cases spawned
    · rename_i own
      cases spawned
      rw [Nat.succ_mul]
      exact ⟨by omega, streamInside, by omega, by omega⟩
  · intro facts
    rcases facts with ⟨own, streamInside, above, under⟩
    rw [Nat.succ_mul] at under
    refine ⟨streamIdx, streamInside, slot - streamIdx * args.subscribersPerStream,
      by omega, ?_⟩
    rw [Nat.add_sub_of_le above, if_neg (by simpa using own)]

theorem writer_notMem_subscriberTasks (streamIdx : Nat) :
    .writer streamIdx ∉ subscriberTasks args shard := by
  intro present
  simp only [subscriberTasks, List.mem_flatMap, List.mem_filterMap] at present
  rcases present with ⟨_, _, _, _, spawned⟩
  split at spawned
  · cases spawned
  · cases spawned

@[simp] theorem mem_tasks_subscriber (streamIdx slot : Nat) :
    .subscriber streamIdx slot ∈ tasks args shard ↔
      slot % shard.k = shard.shard ∧ streamIdx < args.streams ∧
        streamIdx * args.subscribersPerStream ≤ slot ∧
          slot < (streamIdx + 1) * args.subscribersPerStream := by
  rw [tasks, List.mem_append, mem_subscriberTasks]
  simp [writerTasks_eq]

@[simp] theorem mem_tasks_writer (streamIdx : Nat) :
    .writer streamIdx ∈ tasks args shard ↔
      streamIdx < args.streams ∧ streamIdx % shard.k = shard.shard := by
  rw [tasks, List.mem_append]
  simp [writerTasks_eq, writer_notMem_subscriberTasks]

theorem tasks_nodup : (tasks args shard).Nodup := by
  rw [tasks, List.nodup_append']
  refine ⟨?_, ?_, ?_⟩
  · apply List.Nodup.of_map Task.index
    rw [subscriberTasks_index]
    exact shard.owned_nodup _
  · apply List.Nodup.of_map Task.index
    rw [writerTasks_eq, List.map_map]
    exact (List.map_id (shard.owned args.streams)).symm ▸ shard.owned_nodup _
  · intro task subscribed written
    rw [writerTasks_eq] at written
    rcases List.mem_map.mp written with ⟨streamIdx, _, same⟩
    subst same
    exact writer_notMem_subscriberTasks args shard streamIdx subscribed

end

/-! ## Creation -/

theorem Shard.owned_next (shard : Shard) {next upper : Nat}
    (own : next % shard.k = shard.shard) (above : next < upper)
    (near : upper ≤ next + shard.k) : shard.owned upper = shard.owned next ++ [next] := by
  induction upper with
  | zero => omega
  | succ upper induction =>
      rw [owned_succ]
      by_cases last : upper = next
      · rw [last, if_pos own]
      · have between : ¬ upper % shard.k = shard.shard := by
          intro again
          have same : next ≡ upper [MOD shard.k] := own.trans again.symm
          have divides := (Nat.modEq_iff_dvd' (show next ≤ upper by omega)).mp same
          have far := Nat.le_of_dvd (by omega) divides
          omega
        rw [induction (by omega) (by omega), if_neg between, List.append_nil]

namespace Creation

/-- The loop stands at an index of its own and has requested exactly the owned ones
before it. -/
structure Tracks (shard : Shard) (count : Nat) (creation : Creation) : Prop where
  own : creation.next % shard.k = shard.shard
  requested : creation.requested = shard.owned (min creation.next count)

theorem push_tracks {shard : Shard} {count : Nat} {creation : Creation}
    (tracks : creation.Tracks shard count) :
    (creation.push count shard.k).Tracks shard count := by
  rcases tracks with ⟨own, requested⟩
  have positive : 0 < shard.k := lt_of_le_of_lt (Nat.zero_le _) shard.below
  rw [push]
  split
  · rename_i more
    refine ⟨by simpa using own, ?_⟩
    simp only [requested]
    rw [min_eq_left more.le]
    exact (shard.owned_next own (by omega) (by omega)).symm
  · exact ⟨own, requested⟩

theorem push_drained {count step : Nat} {creation : Creation}
    (drained : (creation.push count step).pending = []) :
    count ≤ (creation.push count step).next := by
  rw [push] at drained ⊢
  split at drained
  · simp at drained
  · rename_i done
    rw [if_neg done]
    exact Nat.le_of_not_lt done

theorem fill_tracks {shard : Shard} {count slots : Nat} {creation : Creation}
    (tracks : creation.Tracks shard count) :
    (creation.fill count shard.k slots).Tracks shard count := by
  induction slots generalizing creation with
  | zero => exact tracks
  | succ slots induction => exact induction (push_tracks tracks)

theorem fill_drained {count step slots : Nat} {creation : Creation}
    (kept : creation.pending = [] → count ≤ creation.next)
    (drained : (creation.fill count step slots).pending = []) :
    count ≤ (creation.fill count step slots).next := by
  induction slots generalizing creation with
  | zero => exact kept drained
  | succ slots induction => exact induction push_drained drained

theorem join_tracks {shard : Shard} {count : Nat} {creation : Creation}
    (tracks : creation.Tracks shard count) (i : Nat) :
    (creation.join count shard.k i).Tracks shard count :=
  push_tracks ⟨tracks.own, tracks.requested⟩

end Creation

section

variable {args : FanoutArgs} {shard : Shard}

theorem creationStart_tracks : (creationStart args shard).Tracks shard args.streams := by
  apply Creation.fill_tracks
  refine ⟨Nat.mod_eq_of_lt shard.below, ?_⟩
  symm
  rw [List.eq_nil_iff_forall_not_mem]
  intro i present
  rw [Shard.mem_owned] at present
  have early : i < shard.shard := lt_of_lt_of_le present.1 (Nat.min_le_left _ _)
  rw [Nat.mod_eq_of_lt (early.trans shard.below)] at present
  omega

theorem creationStart_drained (drained : (creationStart args shard).pending = []) :
    args.streams ≤ (creationStart args shard).next := by
  rw [creationStart] at drained ⊢
  have slots : max args.setupConcurrency 1 = max args.setupConcurrency 1 - 1 + 1 := by
    omega
  rw [slots, Creation.fill] at drained ⊢
  exact Creation.fill_drained Creation.push_drained drained

/-! ## The invariant of a pod's run -/

theorem barrierSize_eq : barrierSize args shard = max (tasks args shard).length 1 := by
  rw [barrierSize, tasks, List.length_append, totalSubscribers_eq, totalWriters_eq]

theorem barrierSize_eq_card (position : Position args shard) :
    barrierSize args shard = Fintype.card (Position args shard) := by
  rw [barrierSize_eq, Fintype.card_fin]
  exact max_eq_left position.pos

/-- What every state of a pod's run keeps: it has requested only streams it owns, all
of them once its tasks run, and the barrier counts the tasks that wait. -/
structure Kept (state : PodState (Position args shard)) : Prop where
  tracks : state.creation.Tracks shard args.streams
  drained : state.creation.pending = [] → args.streams ≤ state.creation.next
  running : ∀ connects barrier, state.stage = .running connects barrier →
    args.streams ≤ state.creation.next ∧ barrier.Sound ∧
      ∀ position, connects position = none → barrier.place position = .outside

theorem pod_kept : (pod args shard).Invariant Kept where
  initially := by
    intro state initial
    subst initial
    refine ⟨creationStart_tracks, creationStart_drained, ?_⟩
    intro connects barrier running
    cases running
  preserved := by
    intro before after kept step
    rcases kept with ⟨tracks, drained, running⟩
    cases step with
    | created creation i member =>
        refine ⟨Creation.join_tracks tracks i, Creation.push_drained, ?_⟩
        intro connects barrier running
        cases running
    | refused creation i member =>
        refine ⟨tracks, drained, ?_⟩
        intro connects barrier running
        cases running
    | spawned creation done =>
        refine ⟨tracks, drained, ?_⟩
        intro connects barrier running
        cases running
        exact ⟨drained done, CyclicBarrier.fresh_sound, fun _ _ => rfl⟩
    | resolved creation connects barrier position attempts connected trying result =>
        refine ⟨tracks, drained, ?_⟩
        intro later_connects later_barrier same
        cases same
        rcases running connects barrier rfl with ⟨complete, sound, outside⟩
        refine ⟨complete, sound, ?_⟩
        intro other unresolved
        by_cases own : other = position
        · simp [own] at unresolved
        · exact outside other (by simpa [own] using unresolved)
    | waited creation connects barrier position connected resolved first =>
        refine ⟨tracks, drained, ?_⟩
        intro later_connects later_barrier same
        cases same
        rcases running connects barrier rfl with ⟨complete, sound, outside⟩
        refine ⟨complete, ?_, ?_⟩
        · rw [barrierSize_eq_card position]
          exact CyclicBarrier.wait_sound sound first
        · intro other unresolved
          have different : other ≠ position := by
            intro own
            rw [own, resolved] at unresolved
            cases unresolved
          rw [CyclicBarrier.wait_outside_iff]
          exact ⟨different, outside other unresolved⟩

/-! ## Release -/

/-- The tasks run and every connect loop has ended. -/
def Settled (state : PodState (Position args shard)) : Prop :=
  ∃ connects barrier, state.stage = .running connects barrier ∧
    ∀ position, connects position ≠ none

/-- Every task is past the barrier. -/
def Released (state : PodState (Position args shard)) : Prop :=
  ∃ connects barrier, state.stage = .running connects barrier ∧
    ∀ position, barrier.place position = .past

def missing (state : PodState (Position args shard)) : Nat :=
  match state.stage with
  | .running _ barrier => (barrier.tasksAt .outside).card
  | _ => 0

theorem settled_enabled (state : PodState (Position args shard))
    (holds : Kept state ∧ Settled state) (closed : ¬ Released state) :
    ∃ next, (pod args shard).Step state next := by
  rcases state with ⟨creation, stage⟩
  rcases holds with ⟨kept, connects, barrier, running, settled⟩
  simp only at running
  subst running
  rcases kept.running connects barrier rfl with ⟨-, sound, -⟩
  have absent : ∃ position, barrier.place position = .outside := by
    by_contra nobody
    apply closed
    exact ⟨connects, barrier, rfl, sound.all_past (not_exists.mp nobody)⟩
  rcases absent with ⟨position, outside⟩
  rcases Option.ne_none_iff_exists'.mp (settled position) with ⟨connected, resolved⟩
  exact ⟨_, Step.waited creation connects barrier position connected resolved outside⟩

theorem settled_nearer (before after : PodState (Position args shard))
    (holds : Kept before ∧ Settled before) (step : (pod args shard).Step before after) :
    (Kept after ∧ Settled after) ∧ missing after < missing before := by
  rcases holds with ⟨kept, connects, barrier, running, settled⟩
  have keeps := pod_kept.preserved before after kept step
  cases step with
  | created creation i member => cases running
  | refused creation i member => cases running
  | spawned creation done => cases running
  | resolved creation connects barrier position attempts connected trying result =>
      cases running
      exact (settled position trying).elim
  | waited creation connects barrier position connected resolved first =>
      cases running
      refine ⟨⟨keeps, connects, _, rfl, settled⟩, ?_⟩
      exact barrier.wait_outside_lt _ first

/-- Once every connect loop has ended, every way on opens the barrier for all. -/
theorem settled_released {state : PodState (Position args shard)}
    (reachable : (pod args shard).Reachable state) (settled : Settled state) :
    (pod args shard).Inevitably Released state :=
  .of_measure missing settled_enabled settled_nearer
    ⟨pod_kept.of_reachable reachable, settled⟩

end

/-! ## The fleet -/

/-- The shard of pod number `i` of an indexed Job of `k` pods. -/
def podShard (args : FanoutArgs) (k i : Nat) : Shard :=
  Shard.ofEnvironment args (some k) (some i)

theorem podShard_eq (args : FanoutArgs) {k i : Nat} (member : i < k) :
    podShard args k i = ⟨k, i, member⟩ := by
  have positive : 0 < k := by omega
  simp only [podShard, Shard.ofEnvironment, Option.filter_some, decide_eq_true positive,
    if_true, Option.getD_some, Shard.mk.injEq]
  omega

/-- One residue class per pod. -/
theorem exists_unique_pod {k : Nat} (positive : 0 < k) (n : Nat) :
    ∃! i : Fin k, n % k = i.val :=
  ⟨⟨n % k, Nat.mod_lt n positive⟩, rfl, fun _ own => Fin.ext own.symm⟩

theorem slot_run_once (args : FanoutArgs) {k : Nat} (positive : 0 < k) {slot : Nat}
    (inside : slot < args.streams * args.subscribersPerStream) :
    ∃! i : Fin k, ∃ streamIdx,
      .subscriber streamIdx slot ∈ tasks args (podShard args k i) := by
  have some_subscribers : 0 < args.subscribersPerStream := by
    by_contra none
    have zero : args.subscribersPerStream = 0 := by omega
    simp [zero] at inside
  have quotient : slot / args.subscribersPerStream < args.streams := by
    rwa [Nat.div_lt_iff_lt_mul some_subscribers]
  have above := Nat.div_mul_le_self slot args.subscribersPerStream
  have under : slot < slot / args.subscribersPerStream * args.subscribersPerStream +
      args.subscribersPerStream := Nat.lt_div_mul_add some_subscribers
  rw [← Nat.succ_mul] at under
  apply (existsUnique_congr _).mp (exists_unique_pod positive slot)
  intro i
  rw [podShard_eq args i.isLt]
  simp only [mem_tasks_subscriber]
  constructor
  · intro own
    exact ⟨slot / args.subscribersPerStream, own, quotient, above, under⟩
  · intro spawned
    rcases spawned with ⟨_, own, -⟩
    exact own

theorem writer_run_once (args : FanoutArgs) {k : Nat} (positive : 0 < k) {streamIdx : Nat}
    (inside : streamIdx < args.streams) :
    ∃! i : Fin k, .writer streamIdx ∈ tasks args (podShard args k i) := by
  apply (existsUnique_congr _).mp (exists_unique_pod positive streamIdx)
  intro i
  rw [podShard_eq args i.isLt, mem_tasks_writer]
  simp [inside]

theorem created_by_writer {args : FanoutArgs} {shard : Shard}
    {state : PodState (Position args shard)} (reachable : (pod args shard).Reachable state) :
    state.creation.requested.Nodup ∧
      (∀ i ∈ state.creation.requested, .writer i ∈ tasks args shard) ∧
      ∀ connects barrier, state.stage = .running connects barrier →
        ∀ i, .writer i ∈ tasks args shard → i ∈ state.creation.requested := by
  have kept := pod_kept.of_reachable reachable
  rw [kept.tracks.requested]
  refine ⟨shard.owned_nodup _, ?_, ?_⟩
  · intro i present
    rw [Shard.mem_owned] at present
    rw [mem_tasks_writer]
    exact ⟨by omega, present.2⟩
  · intro connects barrier running i written
    rw [mem_tasks_writer] at written
    rw [Shard.mem_owned, min_eq_right (kept.running connects barrier running).1]
    exact written

/-- The barrier of every pod is as large as its task set, so no task is left waiting
once all connects have ended, and the fleet splits slots, writers and creation. -/
theorem fan_out_sharded (args : FanoutArgs) :
    (∀ shard,
      totalSubscribers args shard = (subscriberTasks args shard).length ∧
        totalWriters args shard = (writerTasks args shard).length ∧
        barrierSize args shard = max (tasks args shard).length 1 ∧
        (tasks args shard).Nodup) ∧
      (∀ shard state, (pod args shard).Reachable state → Settled state →
        (pod args shard).Inevitably Released state) ∧
      (∀ k, 0 < k →
        (∀ slot, slot < args.streams * args.subscribersPerStream →
          ∃! i : Fin k, ∃ streamIdx,
            .subscriber streamIdx slot ∈ tasks args (podShard args k i)) ∧
        ∀ streamIdx, streamIdx < args.streams →
          ∃! i : Fin k, .writer streamIdx ∈ tasks args (podShard args k i)) ∧
      ∀ shard state, (pod args shard).Reachable state →
        state.creation.requested.Nodup ∧
          (∀ i ∈ state.creation.requested, .writer i ∈ tasks args shard) ∧
          ∀ connects barrier, state.stage = .running connects barrier →
            ∀ i, .writer i ∈ tasks args shard → i ∈ state.creation.requested := by
  refine ⟨?_, ?_, ?_, ?_⟩
  · intro shard
    exact ⟨totalSubscribers_eq args shard, totalWriters_eq args shard, barrierSize_eq,
      tasks_nodup args shard⟩
  · intro shard state reachable settled
    exact settled_released reachable settled
  · intro k positive
    constructor
    · intro slot inside
      exact slot_run_once args positive inside
    · intro streamIdx inside
      exact writer_run_once args positive inside
  · intro shard state reachable
    exact created_by_writer reachable

/-- One stream with two subscribers on two pods: the second pod has one subscriber and
no writer. -/
def twoSubscribers : FanoutArgs := ⟨1, 2, 0, 1, 1⟩

def subscriberConnected : PodState (Position twoSubscribers (podShard twoSubscribers 2 1)) :=
  ⟨creationStart twoSubscribers (podShard twoSubscribers 2 1),
    .running
      (Function.update (connectsStart twoSubscribers (podShard twoSubscribers 2 1))
        ⟨0, by decide⟩ (some true)) .fresh⟩

theorem subscriberConnected_reachable :
    (pod twoSubscribers (podShard twoSubscribers 2 1)).Reachable subscriberConnected := by
  have spawned : Step twoSubscribers (podShard twoSubscribers 2 1) _ _ :=
    Step.spawned (creationStart twoSubscribers (podShard twoSubscribers 2 1)) rfl
  have opened : Step twoSubscribers (podShard twoSubscribers 2 1) _ subscriberConnected :=
    Step.resolved _ _ _ ⟨0, by decide⟩ [⟨false, false⟩, ⟨true, false⟩] true rfl rfl
  exact ((TransitionSystem.Reachable.initial rfl).step spawned).step opened

theorem subscriberConnected_settled : Settled subscriberConnected := by
  refine ⟨_, _, rfl, ?_⟩
  intro position
  have alone : (tasks twoSubscribers (podShard twoSubscribers 2 1)).length = 1 := by decide
  have only : position = ⟨0, by decide⟩ := Fin.ext (by omega)
  simp [only]

theorem two_subscribers_sharded :
    (∃! i : Fin 2, .writer 0 ∈ tasks twoSubscribers (podShard twoSubscribers 2 i)) ∧
      (pod twoSubscribers (podShard twoSubscribers 2 1)).Inevitably Released
        subscriberConnected := by
  have sharded := fan_out_sharded twoSubscribers
  exact ⟨(sharded.2.2.1 2 (by decide)).2 0 (by decide),
    sharded.2.1 _ _ subscriberConnected_reachable subscriberConnected_settled⟩

end DsBench.Workloads.MultiFanout
