import DsBench.Foundation.ProportionalSplit
import DsBench.Harness.Plateau
import DsBench.Workloads.HttpReply

/-! # The pool model of the multi-stream workload

A global key space cut into one slice per pod, each slice cut again into one range
per worker, and the workers that append round-robin over their ranges.
-/

namespace DsBench.Workloads.MultiStreamPool

/-! ## Slices -/

/-- `usize` arithmetic of a release build. -/
def wrap (value : Nat) : Nat := value % 2 ^ 64

theorem wrap_of_lt {value : Nat} (fits : value < 2 ^ 64) : wrap value = value :=
  Nat.mod_eq_of_lt fits

/-- Part `i` of the proportional split of `[lo, hi)`. -/
def splitRange (lo hi parts i : Nat) : Nat × Nat :=
  let n := wrap (hi + 2 ^ 64 - lo)
  let parts := max parts 1
  (wrap (lo + wrap (i * n) / parts), wrap (lo + wrap (wrap (i + 1) * n) / parts))

/-- A pod's slice of `[0, domain)`, from the parsed `DS_BENCH_INSTANCE` and
`DS_BENCH_SHARDS`. -/
def podSlice (inst shards : Option Nat) (domain : Nat) : Nat × Nat :=
  let inst := inst.getD 0
  let shards := max (shards.getD 1) 1
  let inst := min inst (shards - 1)
  splitRange 0 domain shards inst

/-- The range of worker `w` with the phase it starts at. A worker whose own range is
empty cycles the whole slice. -/
def workerSlice (lo hi c w : Nat) : (Nat × Nat) × Nat :=
  let own := splitRange lo hi c w
  if own.1 = own.2 then ((lo, hi), w) else (own, 0)

/-! ## One worker -/

/-- What a worker puts on the wire, by the global index of the stream. -/
inductive Sent where
  | append (global : Nat)
  | create (global : Nat)
  | retry (global : Nat)
deriving DecidableEq, Repr

def Sent.global : Sent → Nat
  | .append global => global
  | .create global => global
  | .retry global => global

/-- The append request of a key, be it the first one of a turn or the retry. -/
def Sent.AsksFor (key : Nat) (sent : Sent) : Bool :=
  sent == .append key || sent == .retry key

/-- The phase instants every worker shares, and how many records one request holds. -/
structure PoolArgs where
  recsPerPost : Nat
  warmupEnd : Nat
  measureStart : Nat
  deadline : Nat

abbrev Answer := Except Text Nat

/-- What the world does during one pass of the loop: the two clock readings at its
head, and the answers to the requests it may send. -/
structure Pass where
  checked : Nat
  now : Nat
  answer : Answer
  created : Bool
  retried : Answer
  elapsed : Nat

structure PoolState where
  rr : Nat
  okAll : Nat
  ok : Nat
  lazyCreates : Nat
  bp : Nat
  err : Nat
  errors : List Text
  latencies : List Nat
  sent : List Sent

namespace PoolState

def start (rr : Nat) : PoolState := ⟨rr, 0, 0, 0, 0, 0, [], [], []⟩

def send (state : PoolState) (sent : Sent) : PoolState :=
  { state with sent := state.sent ++ [sent] }

def succeed (state : PoolState) (args : PoolArgs) (counting : Bool) (elapsed : Nat) :
    PoolState :=
  { state with
    okAll := state.okAll + args.recsPerPost
    ok := if counting then state.ok + args.recsPerPost else state.ok
    latencies := if counting then state.latencies ++ [elapsed] else state.latencies }

def fail (state : PoolState) (counting : Bool) (error : Text) : PoolState :=
  if counting then
    { state with err := state.err + 1, errors := state.errors ++ [error] }
  else state

def afterRetry (state : PoolState) (args : PoolArgs) (counting : Bool) (pass : Pass) :
    PoolState :=
  match pass.retried with
  | .ok status =>
      if isSuccess status then state.succeed args counting pass.elapsed
      else state.fail counting
        ("http_status_".toList ++ decimal status ++ "_after_create".toList)
  | .error message => state.fail counting message

def createAndRetry (state : PoolState) (args : PoolArgs) (global : Nat)
    (counting : Bool) (pass : Pass) : PoolState :=
  let asked := ({ state with lazyCreates := state.lazyCreates + 1 } : PoolState).send
    (.create global)
  if pass.created then (asked.send (.retry global)).afterRetry args counting pass
  else asked.fail counting "create_failed".toList

def afterReply (state : PoolState) (args : PoolArgs) (global : Nat) (counting : Bool)
    (pass : Pass) : PoolState :=
  match pass.answer with
  | .ok status =>
      if isSuccess status then state.succeed args counting pass.elapsed
      else if status = 404 then state.createAndRetry args global counting pass
      else if isBackpressure status then
        { state with bp := if counting then state.bp + 1 else state.bp }
      else state.fail counting ("http_status_".toList ++ decimal status)
  | .error message => state.fail counting message

def turn (state : PoolState) (args : PoolArgs) (lo span : Nat) (pass : Pass) :
    PoolState :=
  if args.warmupEnd ≤ pass.now ∧ pass.now < args.measureStart then state
  else
    let counting := decide (args.measureStart ≤ pass.now)
    let global := lo + state.rr
    let moved := { state with rr := (state.rr + 1) % span }
    (moved.send (.append global)).afterReply args global counting pass

def loop (args : PoolArgs) (lo span : Nat) : PoolState → List Pass → PoolState
  | state, [] => state
  | state, pass :: passes =>
      if pass.checked < args.deadline then
        loop args lo span (state.turn args lo span pass) passes
      else state

end PoolState

/-- `pool_worker` over what the world does in its passes. -/
def poolWorker (args : PoolArgs) (lo hi phase : Nat) (passes : List Pass) : PoolState :=
  let span := max (hi - lo) 1
  PoolState.loop args lo span (.start (phase % span)) passes

/-! ## The fleet -/

/-- The size of a run: every pod of the fleet gets the same arguments. -/
structure Fleet where
  streams : Nat
  pods : Nat
  connections : Nat

namespace Fleet

variable (fleet : Fleet)

/-- The slice that pod number `pod` sets up and loads. -/
def slice (pod : Nat) : Nat × Nat :=
  podSlice (some pod) (some fleet.pods) (max fleet.streams 1)

/-- The part of the pod's slice that worker `w` would own. -/
def share (pod w : Nat) : Nat × Nat :=
  splitRange (fleet.slice pod).1 (fleet.slice pod).2 (max fleet.connections 1) w

/-- The range and phase worker `w` of the pod is started with. -/
def worker (pod w : Nat) : (Nat × Nat) × Nat :=
  workerSlice (fleet.slice pod).1 (fleet.slice pod).2 (max fleet.connections 1) w

/-- Everything worker `w` of a pod sends in a run. -/
def sent (args : PoolArgs) (pod w : Nat) (passes : List Pass) : List Sent :=
  (poolWorker args (fleet.worker pod w).1.1 (fleet.worker pod w).1.2
    (fleet.worker pod w).2 passes).sent

/-- The pod has a key for each of its workers. -/
def Roomy (pod : Nat) : Prop :=
  fleet.connections ≤ (fleet.slice pod).2 - (fleet.slice pod).1

instance (pod : Nat) : Decidable (fleet.Roomy pod) :=
  inferInstanceAs (Decidable (_ ≤ _))

/-- A run the harness can start: at most one pod per stream, at least one connection,
and products that fit a machine word. -/
structure Sized : Prop where
  pods : 1 ≤ fleet.pods
  capped : fleet.pods ≤ fleet.streams
  connections : 1 ≤ fleet.connections
  podProducts : fleet.pods * fleet.streams < 2 ^ 64
  workerProducts : ∀ pod, pod < fleet.pods →
    fleet.connections * ((fleet.slice pod).2 - (fleet.slice pod).1) < 2 ^ 64

end Fleet

/-! ## Splits without overflow -/

theorem splitRange_eq {lo hi parts i : Nat} (inhabited : lo < hi) (small : hi < 2 ^ 64)
    (bounded : i < parts) (products : parts * (hi - lo) < 2 ^ 64) :
    splitRange lo hi parts i =
      (lo + cut (hi - lo) parts i, lo + cut (hi - lo) parts (i + 1)) := by
  have length : wrap (hi + 2 ^ 64 - lo) = hi - lo := by
    rw [wrap]
    omega
  have someParts : max parts 1 = parts := by omega
  have partsFit : parts ≤ parts * (hi - lo) := Nat.le_mul_of_pos_right parts (by omega)
  have upper : (i + 1) * (hi - lo) ≤ parts * (hi - lo) := Nat.mul_le_mul_right _ bounded
  have lower : i * (hi - lo) ≤ parts * (hi - lo) := Nat.mul_le_mul_right _ bounded.le
  have fromCut : cut (hi - lo) parts i ≤ hi - lo := by
    rw [cut]
    exact Nat.div_le_of_le_mul lower
  have toCut : cut (hi - lo) parts (i + 1) ≤ hi - lo := by
    rw [cut]
    exact Nat.div_le_of_le_mul upper
  rw [cut] at fromCut toCut
  simp only [splitRange, length, someParts]
  rw [wrap_of_lt (lt_of_le_of_lt lower products),
    wrap_of_lt (show i + 1 < 2 ^ 64 by omega),
    wrap_of_lt (lt_of_le_of_lt upper products), wrap_of_lt (by omega),
    wrap_of_lt (by omega)]
  rfl

namespace Fleet

variable {fleet : Fleet}

theorem Sized.of_rung {ladder : List Nat}
    (rung : fleet.pods ∈ Harness.capLadder ladder fleet.streams)
    (connections : 1 ≤ fleet.connections)
    (podProducts : fleet.pods * fleet.streams < 2 ^ 64)
    (workerProducts : ∀ pod, pod < fleet.pods →
      fleet.connections * ((fleet.slice pod).2 - (fleet.slice pod).1) < 2 ^ 64) :
    fleet.Sized := by
  have bounds := (Harness.capLadder_capped ladder fleet.streams).2 fleet.pods rung
  exact ⟨bounds.1, bounds.2, connections, podProducts, workerProducts⟩

theorem slice_eq (sized : fleet.Sized) {pod : Nat} (member : pod < fleet.pods) :
    fleet.slice pod =
      (0 + cut fleet.streams fleet.pods pod, 0 + cut fleet.streams fleet.pods (pod + 1)) := by
  have positive := sized.pods
  have capped := sized.capped
  have someStreams : max fleet.streams 1 = fleet.streams := by omega
  have somePods : max fleet.pods 1 = fleet.pods := by omega
  have inRange : min pod (fleet.pods - 1) = pod := by omega
  have streamsFit : fleet.streams ≤ fleet.pods * fleet.streams :=
    Nat.le_mul_of_pos_left _ positive
  have products := sized.podProducts
  simp only [slice, podSlice, Option.getD_some, someStreams, somePods, inRange]
  exact splitRange_eq (by omega) (by omega) member products

theorem slices_partition (sized : fleet.Sized) :
    EvenPartition 0 fleet.streams fleet.pods fleet.slice := by
  have partition := evenPartition_cut 0 sized.pods sized.capped
  rw [Nat.zero_add] at partition
  apply partition.congr sized.pods
  intro pod member
  exact slice_eq sized member

theorem slice_inhabited (sized : fleet.Sized) {pod : Nat} (member : pod < fleet.pods) :
    (fleet.slice pod).1 < (fleet.slice pod).2 :=
  (slices_partition sized).nonempty pod member

theorem slice_small (sized : fleet.Sized) {pod : Nat} (member : pod < fleet.pods) :
    (fleet.slice pod).2 < 2 ^ 64 := by
  have last := cut_mono fleet.streams sized.pods (Nat.succ_le_of_lt member)
  rw [cut_parts fleet.streams sized.pods] at last
  have streamsFit : fleet.streams ≤ fleet.pods * fleet.streams :=
    Nat.le_mul_of_pos_left _ sized.pods
  have products := sized.podProducts
  rw [slice_eq sized member]
  simp only [Nat.succ_eq_add_one] at last
  simp only
  omega

theorem share_eq (sized : fleet.Sized) {pod w : Nat} (member : pod < fleet.pods)
    (working : w < fleet.connections) :
    fleet.share pod w =
      ((fleet.slice pod).1 +
          cut ((fleet.slice pod).2 - (fleet.slice pod).1) fleet.connections w,
        (fleet.slice pod).1 +
          cut ((fleet.slice pod).2 - (fleet.slice pod).1) fleet.connections (w + 1)) := by
  have some_connections : max fleet.connections 1 = fleet.connections := by omega
  rw [share, some_connections]
  exact splitRange_eq (slice_inhabited sized member) (slice_small sized member) working
    (sized.workerProducts pod member)

theorem shares_partition (sized : fleet.Sized) {pod : Nat} (member : pod < fleet.pods)
    (roomy : fleet.Roomy pod) :
    EvenPartition (fleet.slice pod).1 (fleet.slice pod).2 fleet.connections
      (fleet.share pod) := by
  have partition := evenPartition_cut (fleet.slice pod).1 sized.connections roomy
  rw [Nat.add_sub_of_le (slice_inhabited sized member).le] at partition
  apply partition.congr sized.connections
  intro w working
  exact share_eq sized member working

theorem worker_of_roomy (sized : fleet.Sized) {pod w : Nat} (member : pod < fleet.pods)
    (working : w < fleet.connections) (roomy : fleet.Roomy pod) :
    fleet.worker pod w = (fleet.share pod w, 0) := by
  have inhabited := ((shares_partition sized member roomy).nonempty w working).ne
  rw [share] at inhabited
  simp only [worker, workerSlice, share, if_neg inhabited]

/-- A worker never leaves its pod's slice, not even one that has no range of its own. -/
theorem worker_within (sized : fleet.Sized) {pod w : Nat} (member : pod < fleet.pods)
    (working : w < fleet.connections) :
    (fleet.slice pod).1 ≤ (fleet.worker pod w).1.1 ∧
      (fleet.worker pod w).1.1 < (fleet.worker pod w).1.2 ∧
      (fleet.worker pod w).1.2 ≤ (fleet.slice pod).2 := by
  have inhabited := slice_inhabited sized member
  have shared := share_eq sized member working
  have up := cut_mono ((fleet.slice pod).2 - (fleet.slice pod).1) sized.connections
    (Nat.le_succ w)
  have last := cut_mono ((fleet.slice pod).2 - (fleet.slice pod).1) sized.connections
    (Nat.succ_le_of_lt working)
  rw [cut_parts _ sized.connections] at last
  simp only [Nat.succ_eq_add_one] at up last
  rw [share] at shared
  simp only [worker, workerSlice, shared]
  split
  · exact ⟨le_rfl, inhabited, le_rfl⟩
  · rename_i own
    simp only at own ⊢
    omega

end Fleet

/-! ## What one pass sends -/

namespace PoolState

@[simp] theorem succeed_sent (state : PoolState) (args : PoolArgs) (counting : Bool)
    (elapsed : Nat) : (state.succeed args counting elapsed).sent = state.sent := rfl

@[simp] theorem succeed_rr (state : PoolState) (args : PoolArgs) (counting : Bool)
    (elapsed : Nat) : (state.succeed args counting elapsed).rr = state.rr := rfl

@[simp] theorem fail_sent (state : PoolState) (counting : Bool) (error : Text) :
    (state.fail counting error).sent = state.sent := by
  cases counting <;> rfl

@[simp] theorem fail_rr (state : PoolState) (counting : Bool) (error : Text) :
    (state.fail counting error).rr = state.rr := by
  cases counting <;> rfl

@[simp] theorem afterRetry_sent (state : PoolState) (args : PoolArgs) (counting : Bool)
    (pass : Pass) : (state.afterRetry args counting pass).sent = state.sent := by
  rw [afterRetry]
  split
  · split <;> simp
  · simp

@[simp] theorem afterRetry_rr (state : PoolState) (args : PoolArgs) (counting : Bool)
    (pass : Pass) : (state.afterRetry args counting pass).rr = state.rr := by
  rw [afterRetry]
  split
  · split <;> simp
  · simp

theorem afterReply_spec (state : PoolState) (args : PoolArgs) (global : Nat)
    (counting : Bool) (pass : Pass) :
    (state.afterReply args global counting pass).rr = state.rr ∧
      ∃ extra, (state.afterReply args global counting pass).sent = state.sent ++ extra ∧
        ∀ sent ∈ extra, sent = .create global ∨ sent = .retry global := by
  rw [afterReply]
  cases pass.answer with
  | error message => simp
  | ok status =>
      simp only
      split
      · simp
      · split
        · rw [createAndRetry]
          split
          · refine ⟨by simp [send], [.create global, .retry global], by simp [send], ?_⟩
            simp
          · refine ⟨by simp [send], [.create global], by simp [send], ?_⟩
            simp
        · split
          · simp
          · simp

/-- The loop after `turns` turns: where its cursor stands, which streams it has
touched, and how often it began a turn with each key. -/
structure RoundRobin (lo span phase turns : Nat) (state : PoolState) : Prop where
  cursor : state.rr = cursor span phase turns
  inside : ∀ sent ∈ state.sent, lo ≤ sent.global ∧ sent.global < lo + span
  counts : ∀ key, key < span →
    state.sent.count (.append (lo + key)) = visits span phase turns key

theorem start_roundRobin (lo span phase : Nat) :
    RoundRobin lo span phase 0 (.start (phase % span)) where
  cursor := by simp [start, DsBench.cursor]
  inside := by simp [start]
  counts := by simp [start, visits]

theorem turn_roundRobin {lo span phase turns : Nat} {state : PoolState}
    (positive : 0 < span) (round : RoundRobin lo span phase turns state)
    (args : PoolArgs) (pass : Pass) :
    ∃ later, RoundRobin lo span phase later (state.turn args lo span pass) := by
  rcases round with ⟨atCursor, inside, counts⟩
  have inRange := cursor_lt positive phase turns
  rw [turn]
  split
  · exact ⟨turns, atCursor, inside, counts⟩
  · refine ⟨turns + 1, ?_⟩
    simp only
    rcases afterReply_spec
      (({ state with rr := (state.rr + 1) % span } : PoolState).send
        (.append (lo + state.rr)))
      args (lo + state.rr) (decide (args.measureStart ≤ pass.now)) pass with
      ⟨moved, extra, sent, same⟩
    refine ⟨?_, ?_, ?_⟩
    · rw [moved]
      simp only [send, atCursor]
      exact cursor_succ span phase turns
    · rw [sent]
      intro request member
      simp only [send, List.mem_append, List.mem_singleton] at member
      rcases member with (earlier | own) | again
      · exact inside request earlier
      · rw [own, Sent.global, atCursor]
        omega
      · rcases same request again with created | retried
        · rw [created, Sent.global, atCursor]
          omega
        · rw [retried, Sent.global, atCursor]
          omega
    · intro key keyInside
      have noAppend : extra.count (.append (lo + key)) = 0 := by
        apply List.count_eq_zero_of_not_mem
        intro member
        rcases same _ member with created | retried
        · cases created
        · cases retried
      rw [sent]
      simp only [send, List.count_append, noAppend, counts key keyInside, visits,
        Nat.count_succ, atCursor, List.count_singleton]
      simp [Nat.add_left_cancel_iff]

theorem loop_roundRobin {lo span phase turns : Nat} {state : PoolState}
    (positive : 0 < span) (round : RoundRobin lo span phase turns state)
    (args : PoolArgs) (passes : List Pass) :
    ∃ later, RoundRobin lo span phase later (loop args lo span state passes) := by
  induction passes generalizing turns state with
  | nil => exact ⟨turns, round⟩
  | cons pass passes induction =>
      rw [loop]
      split
      · rcases turn_roundRobin positive round args pass with ⟨later, moved⟩
        exact induction moved
      · exact ⟨turns, round⟩

end PoolState

theorem poolWorker_roundRobin (args : PoolArgs) {lo hi : Nat} (inhabited : lo < hi)
    (phase : Nat) (passes : List Pass) :
    ∃ turns, PoolState.RoundRobin lo (hi - lo) phase turns
      (poolWorker args lo hi phase passes) := by
  have span : max (hi - lo) 1 = hi - lo := by omega
  rw [poolWorker]
  simp only [span]
  exact PoolState.loop_roundRobin (by omega) (PoolState.start_roundRobin lo (hi - lo) phase)
    args passes

namespace Fleet

variable {fleet : Fleet}

theorem sent_within (sized : fleet.Sized) (args : PoolArgs) {pod w : Nat}
    (member : pod < fleet.pods) (working : w < fleet.connections) (passes : List Pass) :
    ∀ sent ∈ fleet.sent args pod w passes,
      (fleet.worker pod w).1.1 ≤ sent.global ∧
        sent.global < (fleet.worker pod w).1.2 := by
  have within := worker_within sized member working
  rcases poolWorker_roundRobin args within.2.1 (fleet.worker pod w).2 passes with
    ⟨turns, round⟩
  intro sent present
  have inside := round.inside sent present
  omega

theorem sent_own (sized : fleet.Sized) (args : PoolArgs) {pod w : Nat}
    (member : pod < fleet.pods) (working : w < fleet.connections) (passes : List Pass) :
    ∀ sent ∈ fleet.sent args pod w passes,
      ((fleet.slice pod).1 ≤ sent.global ∧ sent.global < (fleet.slice pod).2) ∧
      (fleet.Roomy pod →
        (fleet.share pod w).1 ≤ sent.global ∧ sent.global < (fleet.share pod w).2) := by
  intro sent present
  have within := worker_within sized member working
  have inside := sent_within sized args member working passes sent present
  refine ⟨by omega, ?_⟩
  intro roomy
  rwa [worker_of_roomy sized member working roomy] at inside

/-- Two workers that are in different pods, or in a pod with a key for each of them,
never touch the same stream. -/
theorem sent_disjoint (sized : fleet.Sized) (args : PoolArgs) {pod other w v : Nat}
    (member : pod < fleet.pods) (otherMember : other < fleet.pods)
    (working : w < fleet.connections) (otherWorking : v < fleet.connections)
    (apart : pod ≠ other ∨ pod = other ∧ w ≠ v ∧ fleet.Roomy pod)
    (passes otherPasses : List Pass) :
    ∀ left ∈ fleet.sent args pod w passes,
      ∀ right ∈ fleet.sent args other v otherPasses, left.global ≠ right.global := by
  intro left leftSent right rightSent same
  have leftInside := sent_within sized args member working passes left leftSent
  have rightInside := sent_within sized args otherMember otherWorking otherPasses right
    rightSent
  rcases apart with differentPods | ⟨samePod, differentWorkers, roomy⟩
  · have leftWithin := worker_within sized member working
    have rightWithin := worker_within sized otherMember otherWorking
    apply (slices_partition sized).disjoint pod other member otherMember differentPods
      left.global
    omega
  · subst samePod
    rw [worker_of_roomy sized member working roomy] at leftInside
    rw [worker_of_roomy sized member otherWorking roomy] at rightInside
    apply (shares_partition sized member roomy).disjoint w v working otherWorking
      differentWorkers left.global
    rw [← same] at rightInside
    exact ⟨leftInside, rightInside⟩

theorem sent_even (sized : fleet.Sized) (args : PoolArgs) {pod w : Nat}
    (member : pod < fleet.pods) (working : w < fleet.connections)
    (roomy : fleet.Roomy pod) (passes : List Pass) {left right : Nat}
    (leftOwn : (fleet.share pod w).1 ≤ left ∧ left < (fleet.share pod w).2)
    (rightOwn : (fleet.share pod w).1 ≤ right ∧ right < (fleet.share pod w).2) :
    (fleet.sent args pod w passes).count (.append left) ≤
      (fleet.sent args pod w passes).count (.append right) + 1 := by
  rw [sent, worker_of_roomy sized member working roomy]
  rcases poolWorker_roundRobin args
    ((shares_partition sized member roomy).nonempty w working) 0 passes with ⟨turns, round⟩
  have leftCount := round.counts (left - (fleet.share pod w).1) (by omega)
  have rightCount := round.counts (right - (fleet.share pod w).1) (by omega)
  rw [Nat.add_sub_of_le leftOwn.1] at leftCount
  rw [Nat.add_sub_of_le rightOwn.1] at rightCount
  rw [leftCount, rightCount]
  exact visits_balanced (by omega) (by omega) 0 turns

/-- The pool partitions its key space over pods and over workers, every worker touches its own
keys only, no stream is touched by two workers, and every worker begins its turns evenly with
its keys. -/
theorem pool_covers_evenly (fleet : Fleet) (sized : fleet.Sized) (args : PoolArgs) :
    EvenPartition 0 fleet.streams fleet.pods fleet.slice ∧
      (∀ pod, pod < fleet.pods → fleet.Roomy pod →
        EvenPartition (fleet.slice pod).1 (fleet.slice pod).2 fleet.connections
          (fleet.share pod)) ∧
      (∀ pod w, pod < fleet.pods → w < fleet.connections →
        ∀ passes, ∀ sent ∈ fleet.sent args pod w passes,
          ((fleet.slice pod).1 ≤ sent.global ∧ sent.global < (fleet.slice pod).2) ∧
          (fleet.Roomy pod →
            (fleet.share pod w).1 ≤ sent.global ∧ sent.global < (fleet.share pod w).2)) ∧
      (∀ pod other w v, pod < fleet.pods → other < fleet.pods →
        w < fleet.connections → v < fleet.connections →
        (pod ≠ other ∨ pod = other ∧ w ≠ v ∧ fleet.Roomy pod) →
        ∀ passes otherPasses, ∀ left ∈ fleet.sent args pod w passes,
          ∀ right ∈ fleet.sent args other v otherPasses, left.global ≠ right.global) ∧
      ∀ pod w, pod < fleet.pods → w < fleet.connections → fleet.Roomy pod →
        ∀ passes left right,
          ((fleet.share pod w).1 ≤ left ∧ left < (fleet.share pod w).2) →
          ((fleet.share pod w).1 ≤ right ∧ right < (fleet.share pod w).2) →
          (fleet.sent args pod w passes).count (.append left) ≤
            (fleet.sent args pod w passes).count (.append right) + 1 := by
  refine ⟨slices_partition sized, ?_, ?_, ?_, ?_⟩
  · intro pod member roomy
    exact shares_partition sized member roomy
  · intro pod w member working passes
    exact sent_own sized args member working passes
  · intro pod other w v member otherMember working otherWorking apart passes otherPasses
    exact sent_disjoint sized args member otherMember working otherWorking apart passes
      otherPasses
  · intro pod w member working roomy passes left right leftOwn rightOwn
    exact sent_even sized args member working roomy passes leftOwn rightOwn

def sevenStreams : Fleet := ⟨7, 2, 2⟩

def answeredTurn : Pass := ⟨0, 0, .ok 200, true, .ok 200, 1⟩

theorem sevenStreams_covered :
    EvenPartition 0 7 2 sevenStreams.slice ∧
      EvenPartition 3 7 2 (sevenStreams.share 1) ∧
      (∀ sent ∈ sevenStreams.sent ⟨1, 0, 0, 20⟩ 1 0 (List.replicate 3 answeredTurn),
        sevenStreams.Roomy 1 →
          (sevenStreams.share 1 0).1 ≤ sent.global ∧
            sent.global < (sevenStreams.share 1 0).2) ∧
      (∀ left ∈ sevenStreams.sent ⟨1, 0, 0, 20⟩ 1 0 (List.replicate 3 answeredTurn),
        ∀ right ∈ sevenStreams.sent ⟨1, 0, 0, 20⟩ 1 1 (List.replicate 3 answeredTurn),
          left.global ≠ right.global) ∧
      (sevenStreams.sent ⟨1, 0, 0, 20⟩ 1 0 (List.replicate 3 answeredTurn)).count (.append 3) ≤
        (sevenStreams.sent ⟨1, 0, 0, 20⟩ 1 0 (List.replicate 3 answeredTurn)).count
          (.append 4) + 1 := by
  have rung : sevenStreams.pods ∈ Harness.capLadder [2, 8] sevenStreams.streams := by
    decide
  have sized : sevenStreams.Sized := .of_rung rung (by decide) (by decide) (by decide)
  have roomy : sevenStreams.Roomy 1 := by decide
  rcases pool_covers_evenly sevenStreams sized ⟨1, 0, 0, 20⟩ with
    ⟨slices, shares, own, apart, even⟩
  refine ⟨slices, shares 1 (by decide) roomy, ?_, ?_, ?_⟩
  · intro sent present
    exact (own 1 0 (by decide) (by decide) _ sent present).2
  · exact apart 1 1 0 1 (by decide) (by decide) (by decide) (by decide)
      (.inr ⟨rfl, by decide, roomy⟩) _ _
  · exact even 1 0 (by decide) (by decide) roomy _ 3 4 (by decide) (by decide)

def twoStreams : Fleet := ⟨2, 1, 1⟩

def missingStream : Pass := ⟨0, 0, .ok 404, true, .ok 200, 1⟩

/-- Counting the retry after a lazy create, one key gets two requests more. -/
theorem lazy_create_asks_twice :
    (twoStreams.Sized ∧ twoStreams.Roomy 0) ∧
      ¬ (twoStreams.sent ⟨1, 0, 0, 20⟩ 0 0 [missingStream]).countP (Sent.AsksFor 0) ≤
        (twoStreams.sent ⟨1, 0, 0, 20⟩ 0 0 [missingStream]).countP (Sent.AsksFor 1) + 1 :=
  ⟨⟨⟨by decide, by decide, by decide, by decide, by decide⟩, by decide⟩, by decide⟩

end Fleet

end DsBench.Workloads.MultiStreamPool
