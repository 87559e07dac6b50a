import DsBench.Fleet.ProducerOwnership
import DsBench.Foundation.FollowedLogs
import DsBench.Workloads.Mixed
import DsBench.Workloads.MixedResult
import DsBench.Workloads.MultiFanoutWindow

/-! # The clocks of a delivery latency

Four workloads time a delivery by a send time in the record: whichever pod wrote it, the
subscriber's pod subtracts it from its own clock. Which pods write and subscribe to each
stream is read off the arguments; only live reads refuse a fleet of several pods.
-/

namespace DsBench.Workloads

open FollowedLogs
open MultiFanout (seconds)

/-! ## Reads -/

inductive ReadMode where
  | catchup
  | longPoll
  | sse
deriving DecidableEq, Repr

/-- The mode as `Debug` prints it. -/
def ReadMode.debug : ReadMode → Text
  | .catchup => "Catchup".toList
  | .longPoll => "LongPoll".toList
  | .sse => "Sse".toList

structure ReadsArgs where
  mode : ReadMode
  apiStyle : ApiStyle
  stream : Text
  streams : Nat
  connections : Nat
  durationSecs : Nat
  warmupSecs : Nat
  settleSecs : Nat

def assertSinglePodForLive (mode : ReadMode) (shards : Nat) : Except Text Unit :=
  let isLive := mode = .longPoll ∨ mode = .sse
  if isLive ∧ 1 < shards then
    .error ("live-tail read mode (".toList ++ mode.debug ++
      ") requires a single fleet pod (DS_BENCH_SHARDS=".toList ++ decimal shards ++
      ("): its delivery latency compares a writer send-time to a reader receive-time on " ++
        "ONE process clock. Across pods that measures cross-node clock skew, not latency. " ++
        "Run live reads with pods=1, or use catch-up for multi-pod read scaling.").toList)
  else .ok ()

/-- Reader `idx` reads stream `idx % streams.len()`. -/
def streamFor (streams : List Text) (idx : Nat) : Option Text :=
  streams[idx % streams.length]?

namespace ReadsArgs

variable (args : ReadsArgs)

def streamNames : List Text :=
  (List.range (max args.streams 1)).map fun i => args.stream ++ '-' :: decimal i

def runCatchup (Pod : Type) : Roster Pod Text where
  preloads _ := []
  writers _ := []
  followers _ := []
  gate := .none
  reconnects := true
  drive := seconds (args.warmupSecs + args.settleSecs + args.durationSecs)
  setsDeadline _ := true
  window := some (seconds args.durationSecs)

/-- `run_longpoll` and `run_sse`: a writer per stream, and readers at the tails. -/
def runLive (Pod : Type) : Roster Pod Text :=
  { args.runCatchup Pod with
    writers := fun _ => args.streamNames
    followers := fun _ =>
      (List.range args.connections).filterMap (streamFor args.streamNames) }

/-- What the pods run whose `DS_BENCH_SHARDS` parses to `shards`. -/
def run (Pod : Type) (shards : Option Nat) : Except Text (Roster Pod Text) :=
  if args.apiStyle = .s2 then
    .error ("reads workload is not supported for S2: its paginated JSON read is not " ++
      "comparable to the Durable Streams read path").toList
  else do
    assertSinglePodForLive args.mode (shards.getD 1)
    match args.mode with
    | .catchup => .ok (args.runCatchup Pod)
    | .longPoll => .ok (args.runLive Pod)
    | .sse => .ok (args.runLive Pod)

end ReadsArgs

/-! ## Mixed -/

structure MixedDeliveryArgs extends Mixed.MixedArgs where
  apiStyle : ApiStyle
  subscribers : Nat
  backfillEvents : Nat

namespace MixedDeliveryArgs

variable (args : MixedDeliveryArgs)

def streamOf (idx : Nat) : Text := Fleet.Mixed.streamName (idx % args.streams)

def roster (Pod : Type) : Roster Pod Text where
  preloads _ := (List.range (args.streams * args.backfillEvents)).map args.streamOf
  writers _ := (List.range args.totalWriters).map args.streamOf
  followers _ := (List.range args.subscribers).map args.streamOf
  gate := .attempted
  reconnects := false
  drive := seconds args.durationSecs
  setsDeadline _ := decide (0 < args.totalWriters + args.readers)
  window := none

/-- Without streams the index of a subscriber's or reader's stream is a division by zero,
which panics. -/
def run (Pod : Type) : Except Text (Roster Pod Text) :=
  if args.apiStyle = .s2 then
    .error "mixed workload is not supported for S2 Lite (no comparable catch-up read)".toList
  else if args.streams = 0 ∧ 0 < args.subscribers + args.readers then
    .error "attempt to calculate the remainder with a divisor of zero".toList
  else .ok (args.roster Pod)

end MixedDeliveryArgs

/-! ## Multi-fanout -/

namespace MultiFanout

def streamName (idx : Nat) : Text := "mf".toList ++ padded 6 idx

def Task.stream : Task → Text
  | .subscriber streamIdx _ => streamName streamIdx
  | .writer streamIdx => streamName streamIdx

/-- A pod's tasks come from its shard; its writers set the deadline its subscribers need. -/
def WindowArgs.roster (args : WindowArgs) (pods : Nat) : Roster (Fin pods) Text where
  preloads _ := []
  writers pod := (writerTasks args.toFanoutArgs (podShard args.toFanoutArgs pods pod)).map
    Task.stream
  followers pod :=
    (subscriberTasks args.toFanoutArgs (podShard args.toFanoutArgs pods pod)).map Task.stream
  gate := .attempted
  reconnects := false
  drive := args.drive
  setsDeadline pod :=
    decide (writerTasks args.toFanoutArgs (podShard args.toFanoutArgs pods pod) ≠ [])
  window := some args.measure

end MultiFanout

/-! ## Fan-out -/

structure FanOutArgs where
  stream : Text
  subscribers : Nat
  durationSecs : Nat

/-- One writer and all subscribers on one stream. A subscriber that cannot connect does not
come to the barrier. -/
def FanOutArgs.roster (args : FanOutArgs) (Pod : Type) : Roster Pod Text where
  preloads _ := []
  writers _ := [args.stream]
  followers _ := List.replicate args.subscribers args.stream
  gate := .connected
  reconnects := false
  drive := seconds args.durationSecs
  setsDeadline _ := true
  window := none

/-! ## Fleets -/

/-- The workloads that subtract an embedded send time from the receive time. -/
inductive DeliveryWorkload where
  | reads (args : ReadsArgs)
  | mixed (args : MixedDeliveryArgs)
  | multiFanout (args : MultiFanout.WindowArgs)
  | fanOut (args : FanOutArgs)

namespace DeliveryWorkload

def fleet (pods : Nat) : DeliveryWorkload → Except Text (Roster (Fin pods) Text)
  | .reads args => args.run (Fin pods) (some pods)
  | .mixed args => args.run (Fin pods)
  | .multiFanout args => .ok (args.roster pods)
  | .fanOut args => .ok (args.roster (Fin pods))

/-- The fleets in which nobody subscribes to what another pod stamps. -/
def OneClock (pods : Nat) : DeliveryWorkload → Prop
  | .reads _ => True
  | .mixed args =>
      pods ≤ 1 ∨ args.apiStyle = .s2 ∨ args.streams = 0 ∨ args.subscribers = 0 ∨
        args.backfillEvents = 0 ∧ (args.writersPerStream = 0 ∨ args.durationSecs = 0)
  | .multiFanout args =>
      pods ≤ 1 ∨ args.streams ≤ 1 ∨ args.subscribersPerStream ≤ 1 ∨ args.drive = 0
  | .fanOut args => pods ≤ 1 ∨ args.subscribers = 0 ∨ args.durationSecs = 0

end DeliveryWorkload

/-! ## Fleets whose pods run the same -/

theorem singleClock_of_le_one {pods : Nat} (roster : Roster (Fin pods) Text)
    (single : pods ≤ 1) : roster.SingleClock := by
  rw [singleClock_iff]
  intro sender receiver _ _ _
  apply Fin.ext
  omega

/-- Where all pods run the same, samples compare one clock only on a single pod, or if nobody
follows a stream that is stamped. -/
theorem replicated_singleClock_iff {pods : Nat} {roster : Roster (Fin pods) Text}
    (stamped followed : Text → Prop)
    (stamps : ∀ pod topic, roster.Stamps pod topic ↔ stamped topic)
    (listens : ∀ pod topic, roster.Listens pod topic ↔ followed topic) :
    roster.SingleClock ↔ pods ≤ 1 ∨ ∀ topic, stamped topic → ¬ followed topic := by
  constructor
  · intro single
    by_contra neither
    rw [not_or, Nat.not_le] at neither
    rcases neither with ⟨several, shared⟩
    apply shared
    intro topic inLog heard
    rw [singleClock_iff] at single
    have same := single ⟨0, by omega⟩ ⟨1, several⟩ topic ((stamps _ topic).mpr inLog)
      ((listens _ topic).mpr heard)
    cases same
  · intro either
    rcases either with single | disjoint
    · exact singleClock_of_le_one roster single
    · rw [singleClock_iff]
      intro sender receiver topic inLog heard
      exact (disjoint topic ((stamps sender topic).mp inLog)
        ((listens receiver topic).mp heard)).elim

theorem seconds_pos_iff (n : Nat) : 0 < seconds n ↔ 0 < n := by
  rw [seconds]
  omega

theorem assertSinglePodForLive_ok {mode : ReadMode} {shards : Nat}
    (passed : assertSinglePodForLive mode shards = .ok ()) : mode = .catchup ∨ shards ≤ 1 := by
  by_cases refused : (mode = .longPoll ∨ mode = .sse) ∧ 1 < shards
  · rw [assertSinglePodForLive, if_pos refused] at passed
    cases passed
  · rw [not_and_or, Nat.not_lt] at refused
    apply refused.imp_left
    intro notLive
    cases mode with
    | catchup => rfl
    | longPoll => exact (notLive (.inl rfl)).elim
    | sse => exact (notLive (.inr rfl)).elim

theorem reads_singleClock {args : ReadsArgs} {pods : Nat} {roster : Roster (Fin pods) Text}
    (accepted : args.run (Fin pods) (some pods) = .ok roster) : roster.SingleClock := by
  rw [ReadsArgs.run] at accepted
  split at accepted
  · cases accepted
  · rw [Option.getD_some] at accepted
    cases guarded : assertSinglePodForLive args.mode pods with
    | error refusal =>
        rw [guarded] at accepted
        cases accepted
    | ok passed =>
        rw [guarded] at accepted
        rcases assertSinglePodForLive_ok guarded with replays | single
        · rw [replays] at accepted
          cases accepted
          rw [singleClock_iff]
          intro sender receiver topic _ heard
          cases heard.1
        · exact singleClock_of_le_one roster single

theorem mixed_shared_iff (args : MixedDeliveryArgs) (writes followers : Nat) :
    (∀ topic ∈ (List.range writes).map args.streamOf,
        topic ∉ (List.range followers).map args.streamOf) ↔
      writes = 0 ∨ followers = 0 := by
  constructor
  · intro disjoint
    by_contra both
    rw [not_or] at both
    apply disjoint (args.streamOf 0)
    · exact List.mem_map_of_mem (List.mem_range.mpr (Nat.pos_of_ne_zero both.1))
    · exact List.mem_map_of_mem (List.mem_range.mpr (Nat.pos_of_ne_zero both.2))
  · intro either topic written followed
    rcases either with none | none
    · simp [none] at written
    · simp [none] at followed

theorem mixed_singleClock_iff (args : MixedDeliveryArgs) (pods : Nat) :
    (args.roster (Fin pods)).SingleClock ↔
      pods ≤ 1 ∨ args.streams = 0 ∨ args.subscribers = 0 ∨
        args.backfillEvents = 0 ∧ (args.writersPerStream = 0 ∨ args.durationSecs = 0) := by
  have preloaded := mixed_shared_iff args (args.streams * args.backfillEvents) args.subscribers
  have written := mixed_shared_iff args args.totalWriters args.subscribers
  rw [Nat.mul_eq_zero] at preloaded
  rw [Mixed.MixedArgs.totalWriters, Nat.mul_eq_zero] at written
  rw [replicated_singleClock_iff
    (fun topic =>
      topic ∈ (List.range (args.streams * args.backfillEvents)).map args.streamOf ∨
        topic ∈ (List.range args.totalWriters).map args.streamOf ∧ 0 < args.durationSecs)
    (fun topic => topic ∈ (List.range args.subscribers).map args.streamOf)]
  · apply or_congr_right
    constructor
    · intro disjoint
      have setup := preloaded.mp fun topic inLog => disjoint topic (.inl inLog)
      by_cases drives : 0 < args.durationSecs
      · have drive := written.mp fun topic inLog => disjoint topic (.inr ⟨inLog, drives⟩)
        omega
      · omega
    · intro either topic inLog
      rcases inLog with setup | ⟨drive, drives⟩
      · exact preloaded.mpr (by omega) topic setup
      · exact written.mpr (by omega) topic drive
  · intro pod topic
    have sets : topic ∈ (List.range args.totalWriters).map args.streamOf →
        0 < args.totalWriters + args.readers := by
      intro inLog
      by_contra none
      have noWriters : args.totalWriters = 0 := by omega
      simp [noWriters] at inLog
    simp only [Roster.Stamps, MixedDeliveryArgs.roster, decide_eq_true_eq, seconds_pos_iff]
    apply or_congr_right
    exact and_congr_right fun inLog => and_iff_right (sets inLog)
  · intro pod topic
    simp [Roster.Listens, MixedDeliveryArgs.roster]

theorem fanOut_singleClock_iff (args : FanOutArgs) (pods : Nat) :
    (args.roster (Fin pods)).SingleClock ↔
      pods ≤ 1 ∨ args.subscribers = 0 ∨ args.durationSecs = 0 := by
  rw [replicated_singleClock_iff
    (fun topic => topic = args.stream ∧ 0 < args.durationSecs)
    (fun topic => args.subscribers ≠ 0 ∧ topic = args.stream)]
  · apply or_congr_right
    constructor
    · intro disjoint
      by_contra both
      rw [not_or] at both
      exact disjoint args.stream ⟨rfl, Nat.pos_of_ne_zero both.2⟩ ⟨both.1, rfl⟩
    · intro either topic stamped followed
      rcases stamped with ⟨-, drives⟩
      rcases either with none | instant
      · exact followed.1 none
      · omega
  · intro pod topic
    simp [Roster.Stamps, FanOutArgs.roster, seconds_pos_iff]
  · intro pod topic
    simp [Roster.Listens, FanOutArgs.roster, List.mem_replicate]

/-! ## Shards of a multi-fanout -/

namespace MultiFanout

theorem streamName_injective : Function.Injective streamName := by
  intro left right same
  exact padded_injective 6 (List.append_cancel_left same)

variable {args : FanoutArgs} {shard : Shard} {topic : Text}

theorem mem_writerTasks_stream :
    topic ∈ (writerTasks args shard).map Task.stream ↔
      ∃ streamIdx < args.streams,
        streamIdx % shard.k = shard.shard ∧ streamName streamIdx = topic := by
  rw [writerTasks_eq, List.map_map]
  simp [Task.stream, and_assoc]

theorem mem_subscriberTasks_stream :
    topic ∈ (subscriberTasks args shard).map Task.stream ↔
      ∃ streamIdx < args.streams, ∃ subLocalIdx < args.subscribersPerStream,
        (streamIdx * args.subscribersPerStream + subLocalIdx) % shard.k = shard.shard ∧
          streamName streamIdx = topic := by
  simp only [List.mem_map, subscriberTasks, List.mem_flatMap, List.mem_filterMap,
    List.mem_range]
  constructor
  · intro subscribed
    rcases subscribed with ⟨_, ⟨streamIdx, inside, subLocalIdx, localInside, spawned⟩, named⟩
    split at spawned
    · cases spawned
    · rename_i own
      cases spawned
      exact ⟨streamIdx, inside, subLocalIdx, localInside, not_not.mp own, named⟩
  · intro subscribed
    rcases subscribed with ⟨streamIdx, inside, subLocalIdx, localInside, own, named⟩
    exact ⟨_, ⟨streamIdx, inside, subLocalIdx, localInside, if_neg (not_not.mpr own)⟩, named⟩

theorem writerTasks_ne_nil : writerTasks args shard ≠ [] ↔ shard.shard < args.streams := by
  rw [writerTasks_eq, Ne, List.map_eq_nil_iff]
  constructor
  · intro some_owned
    rcases List.exists_mem_of_ne_nil _ some_owned with ⟨streamIdx, owned⟩
    rw [Shard.mem_owned] at owned
    have above := Nat.mod_le streamIdx shard.k
    omega
  · intro inside none_owned
    have first : shard.shard ∈ shard.owned args.streams := by
      rw [Shard.mem_owned]
      exact ⟨inside, Nat.mod_eq_of_lt shard.below⟩
    rw [none_owned] at first
    cases first

theorem roster_stamps (args : WindowArgs) {pods : Nat} (pod : Fin pods) (topic : Text) :
    (args.roster pods).Stamps pod topic ↔
      (∃ streamIdx < args.streams, streamIdx % pods = pod ∧ streamName streamIdx = topic) ∧
        0 < args.drive := by
  rw [Roster.Stamps, WindowArgs.roster]
  simp only [podShard_eq _ pod.isLt, mem_writerTasks_stream, writerTasks_ne_nil,
    decide_eq_true_eq, List.not_mem_nil, false_or]
  constructor
  · intro stamps
    exact ⟨stamps.1, stamps.2.2⟩
  · intro stamps
    rcases stamps with ⟨⟨streamIdx, inside, own, named⟩, drives⟩
    have above := Nat.mod_le streamIdx pods
    exact ⟨⟨streamIdx, inside, own, named⟩, by omega, drives⟩

/-- A subscriber samples only where its pod's own writers have set the deadline. -/
theorem roster_listens (args : WindowArgs) {pods : Nat} (pod : Fin pods) (topic : Text) :
    (args.roster pods).Listens pod topic ↔
      (∃ streamIdx < args.streams, ∃ subLocalIdx < args.subscribersPerStream,
        (streamIdx * args.subscribersPerStream + subLocalIdx) % pods = pod ∧
          streamName streamIdx = topic) ∧ pod.val < args.streams := by
  rw [Roster.Listens, WindowArgs.roster]
  simp only [podShard_eq _ pod.isLt, mem_subscriberTasks_stream, writerTasks_ne_nil,
    decide_eq_true_eq, reduceCtorEq, false_or]

theorem roster_singleClock_iff (args : WindowArgs) (pods : Nat) :
    (args.roster pods).SingleClock ↔
      pods ≤ 1 ∨ args.streams ≤ 1 ∨ args.subscribersPerStream ≤ 1 ∨ args.drive = 0 := by
  constructor
  · intro single
    by_contra all
    simp only [not_or, Nat.not_le] at all
    rcases all with ⟨several, streams, subscribers, drives⟩
    -- The first stream is written by the first pod; its second subscriber is in the second.
    rw [singleClock_iff] at single
    have same := single ⟨0, by omega⟩ ⟨1, several⟩ (streamName 0)
      ((roster_stamps args _ _).mpr
        ⟨⟨0, by omega, Nat.zero_mod pods, rfl⟩, Nat.pos_of_ne_zero drives⟩)
      ((roster_listens args _ _).mpr
        ⟨⟨0, by omega, 1, subscribers, by
          rw [Nat.zero_mul, Nat.zero_add]
          exact Nat.mod_eq_of_lt several, rfl⟩, streams⟩)
    cases same
  · intro either
    by_cases single : pods ≤ 1
    · exact singleClock_of_le_one _ single
    rw [singleClock_iff]
    intro sender receiver topic stamps listens
    rw [roster_stamps] at stamps
    rw [roster_listens] at listens
    rcases stamps with ⟨⟨written, writtenInside, writer, writtenName⟩, drives⟩
    rcases listens with ⟨⟨streamIdx, inside, subLocalIdx, localInside, slot, named⟩, owner⟩
    have same : streamIdx = written := streamName_injective (named.trans writtenName.symm)
    subst same
    apply Fin.ext
    rcases either with few | oneStream | oneSubscriber | instant
    · exact (single few).elim
    · have first : streamIdx = 0 := by omega
      rw [first, Nat.zero_mod] at writer
      omega
    · have alone : args.subscribersPerStream = 1 := by omega
      have only : subLocalIdx = 0 := by omega
      rw [alone, only, Nat.mul_one, Nat.add_zero] at slot
      rw [← slot, ← writer]
    · omega

end MultiFanout

/-! ## Which fleets have one clock -/

theorem mixed_accepted_iff (args : MixedDeliveryArgs) (pods : Nat) :
    (∀ roster, args.run (Fin pods) = .ok roster → roster.SingleClock) ↔
      args.apiStyle = .s2 ∨ (args.streams = 0 ∧ 0 < args.subscribers + args.readers) ∨
        (args.roster (Fin pods)).SingleClock := by
  rw [MixedDeliveryArgs.run]
  by_cases s2 : args.apiStyle = .s2
  · simp [s2]
  · rw [if_neg s2]
    by_cases panics : args.streams = 0 ∧ 0 < args.subscribers + args.readers
    · simp [panics]
    · rw [if_neg panics]
      simp only [Except.ok.injEq, forall_eq', s2, panics, false_or]

namespace DeliveryWorkload

/-- All delivery latencies of a fleet that is accepted come from one clock each, exactly where
nobody subscribes to what another pod stamps. -/
theorem delivery_single_clock_iff (workload : DeliveryWorkload) (pods : Nat) :
    (∀ roster, workload.fleet pods = .ok roster → roster.SingleClock) ↔
      workload.OneClock pods := by
  cases workload with
  | reads args =>
      rw [OneClock, iff_true]
      intro roster accepted
      exact reads_singleClock accepted
  | mixed args =>
      rw [OneClock]
      simp only [fleet]
      rw [mixed_accepted_iff, mixed_singleClock_iff]
      by_cases s2 : args.apiStyle = .s2
      · simp [s2]
      · simp only [s2, false_or]
        omega
  | multiFanout args =>
      rw [OneClock, fleet, ← MultiFanout.roster_singleClock_iff]
      simp
  | fanOut args =>
      rw [OneClock, fleet, ← fanOut_singleClock_iff]
      simp

/-- One stream, one writer and one subscriber in every pod. -/
def sharedStream : MixedDeliveryArgs where
  apiStyle := .durable
  streams := 1
  writersPerStream := 1
  readers := 0
  readRate := 0
  readIntervalMs := 0
  subscribers := 1
  backfillEvents := 0
  writerRate := 50
  durationSecs := 30

/-- Two mixed pods: the second samples what the first has stamped. -/
theorem mixed_pods_compare_clocks :
    (mixed sharedStream).fleet 2 = .ok (sharedStream.roster (Fin 2)) ∧
      ∃ state, (sharedStream.roster (Fin 2)).system.Reachable state ∧
        ∃ sample ∈ state.samples, sample.sent.party = 0 ∧ sample.received.party = 1 := by
  have stamps : (sharedStream.roster (Fin 2)).Stamps 0 (Fleet.Mixed.streamName 0) :=
    .inr ⟨by decide, by decide, by decide⟩
  have listens : (sharedStream.roster (Fin 2)).Listens 1 (Fleet.Mixed.streamName 0) :=
    ⟨by decide, .inl rfl⟩
  exact ⟨rfl, exists_sample (by decide) stamps listens⟩

end DeliveryWorkload

end DsBench.Workloads
