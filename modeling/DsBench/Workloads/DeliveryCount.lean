import DsBench.Workloads.ReceiveLoops
import DsBench.Workloads.TimestampCodec

/-! # Deliveries counted and deliveries recorded

The multi-fanout subscriber counts every event that carries data, and records those of
them that carry a send time and fall into the measure window. The mixed subscriber counts
an event with a send time just when it records it.
-/

namespace DsBench.Workloads

def stampOf (decode : Bytes → Option Bytes) (frame : Bytes) : Option Nat :=
  (parseSseData frame).bind (extractSendNsMaybeB64 decode)

theorem countP_eq_iff {Item : Type} {narrow wide : Item → Bool}
    (implies : ∀ item, narrow item = true → wide item = true) (items : List Item) :
    items.countP wide = items.countP narrow ↔
      ∀ item ∈ items, wide item = true → narrow item = true := by
  induction items with
  | nil => simp
  | cons item items induction =>
      have fewer := List.countP_mono_left fun other (_ : other ∈ items) => implies other
      rw [List.forall_mem_cons, ← induction, List.countP_cons, List.countP_cons]
      by_cases inNarrow : narrow item = true
      · simp [inNarrow, implies item inNarrow]
      · by_cases inWide : wide item = true
        · have apart : items.countP wide + 1 ≠ items.countP narrow := by omega
          simp [inNarrow, inWide, apart]
        · simp [inNarrow, inWide]

/-! ## The multi-fanout subscriber -/

namespace MultiFanout

structure Tally where
  received : Nat
  samples : List Nat
deriving DecidableEq, Repr

section

variable (args : WindowArgs) (decode : Bytes → Option Bytes)

def sampleOf (event : Received) (data : Bytes) : Option Nat :=
  match extractSendNsMaybeB64 decode data with
  | some sentNs =>
      recordedLatency args event.dl event.reading.instant event.reading.wall sentNs
  | none => none

/-- The body of the inner loop of `run_subscriber_task`. -/
def dealWith (tally : Tally) (event : Received) : Tally :=
  match parseSseData event.frame with
  | some data =>
      { received := tally.received + 1
        samples := tally.samples ++ (sampleOf args decode event data).toList }
  | none => tally

/-- The receive loop of `run_subscriber_task`. -/
def runSubscriberTask (passes : List Pass) : Tally :=
  ((subscriberRules args.idle).received passes).foldl (dealWith args decode) ⟨0, []⟩

/-! ## What is counted and what is recorded -/

/-- The event carries a send time, and the deadline sampled before its chunk puts it into
the measure window. -/
def Recordable (event : Received) : Prop :=
  (∃ sentNs, stampOf decode event.frame = some sentNs) ∧
    ∃ deadline, event.dl = some deadline ∧ deadline ≤ event.reading.instant + args.measure

instance (event : Received) : Decidable (Recordable args decode event) :=
  decidable_of_iff
    ((stampOf decode event.frame).isSome = true ∧
      (event.dl.any fun deadline =>
        decide (deadline ≤ event.reading.instant + args.measure)) = true)
    (by rw [Recordable, Option.isSome_iff_exists, Option.any_eq_true]; simp)

theorem sampleOf_isSome {event : Received} {data : Bytes}
    (parsed : parseSseData event.frame = some data) :
    (sampleOf args decode event data).isSome = true ↔ Recordable args decode event := by
  rw [Recordable, stampOf, parsed, Option.bind_some, sampleOf]
  cases extractSendNsMaybeB64 decode data with
  | none => simp
  | some sentNs =>
      rw [Option.isSome_iff_ne_none, recordedLatency_ne_none]
      simp

theorem Recordable.carries {args : WindowArgs} {decode : Bytes → Option Bytes}
    {event : Received} (recordable : Recordable args decode event) :
    (parseSseData event.frame).isSome = true := by
  rcases recordable with ⟨⟨sentNs, stamped⟩, _⟩
  rcases Option.bind_eq_some_iff.mp stamped with ⟨data, parsed, _⟩
  rw [parsed]
  rfl

theorem dealWith_spec (tally : Tally) (event : Received) :
    (dealWith args decode tally event).received =
        tally.received + (if (parseSseData event.frame).isSome then 1 else 0) ∧
      (dealWith args decode tally event).samples.length =
        tally.samples.length + (if Recordable args decode event then 1 else 0) := by
  rw [dealWith]
  cases parsed : parseSseData event.frame with
  | none =>
      have unrecorded : ¬ Recordable args decode event := by
        intro recordable
        have carries := recordable.carries
        rw [parsed] at carries
        cases carries
      simp [unrecorded]
  | some data =>
      have recorded := sampleOf_isSome args decode parsed
      cases sample : sampleOf args decode event data with
      | none =>
          rw [sample] at recorded
          simp [← recorded, sample]
      | some micros =>
          rw [sample] at recorded
          simp [← recorded, sample]

theorem foldl_dealWith (events : List Received) (tally : Tally) :
    (events.foldl (dealWith args decode) tally).received =
        tally.received + events.countP (fun event => (parseSseData event.frame).isSome) ∧
      (events.foldl (dealWith args decode) tally).samples.length =
        tally.samples.length +
          events.countP fun event => decide (Recordable args decode event) := by
  induction events generalizing tally with
  | nil => exact ⟨rfl, rfl⟩
  | cons event events induction =>
      rcases induction (dealWith args decode tally event) with ⟨counted, recorded⟩
      rcases dealWith_spec args decode tally event with ⟨one, sample⟩
      rw [List.foldl_cons, counted, recorded, one, sample, List.countP_cons, List.countP_cons]
      simp only [decide_eq_true_iff]
      omega

/-- A subscriber counts just the recordable events, and has a sample for each count, exactly
when every event with data that it deals with is recordable. -/
theorem counts_recorded_iff (args : WindowArgs) (decode : Bytes → Option Bytes)
    (passes : List Pass) :
    ((runSubscriberTask args decode passes).received =
        ((subscriberRules args.idle).received passes).countP
          (fun event => decide (Recordable args decode event)) ∧
      (runSubscriberTask args decode passes).samples.length =
        (runSubscriberTask args decode passes).received) ↔
      ∀ event ∈ (subscriberRules args.idle).received passes,
        (parseSseData event.frame).isSome = true → Recordable args decode event := by
  rcases foldl_dealWith args decode
    ((subscriberRules args.idle).received passes) ⟨0, []⟩ with ⟨counted, recorded⟩
  rw [List.length_nil, Nat.zero_add] at recorded
  rw [Nat.zero_add] at counted
  have agree := countP_eq_iff
    (fun event (recordable : decide (Recordable args decode event) = true) =>
      (of_decide_eq_true recordable).carries)
    ((subscriberRules args.idle).received passes)
  simp only [decide_eq_true_iff] at agree
  rw [← agree, runSubscriberTask, counted, recorded]
  constructor
  · intro both
    exact both.1
  · intro same
    exact ⟨same, same.symm⟩

end

def controlRun : List Pass :=
  [⟨some (seconds 30), 0, .chunk (ascii "event: control\ndata: next\n\n") fun _ => ⟨0, 0⟩⟩]

/-- An event without a send time is counted, and there is no sample for it. -/
theorem control_event_counted :
    (runSubscriberTask oneSubscriber Base64.decode controlRun).received = 1 ∧
      (runSubscriberTask oneSubscriber Base64.decode controlRun).samples.length ≠
        (runSubscriberTask oneSubscriber Base64.decode controlRun).received := by
  decide +kernel

end MultiFanout

/-! ## The mixed subscriber -/

namespace Mixed

/-- What a subscriber has counted, of records and of control events, and the microseconds in
its histogram. -/
structure Tally where
  received : Nat
  control : Nat
  samples : List Nat
deriving DecidableEq, Repr

/-- The body of the inner loop of `run_subscriber_task`. -/
def dealWith (decode : Bytes → Option Bytes) (tally : Tally) (event : Received) : Tally :=
  match stampOf decode event.frame with
  | some sentNs =>
      { tally with
        received := tally.received + 1
        samples := tally.samples ++ [MultiFanout.latencyMicros event.reading.wall sentNs] }
  | none =>
      if (parseSseData event.frame).isSome then
        { tally with control := tally.control + 1 }
      else tally

/-- The receive loop of `run_subscriber_task`. -/
def runSubscriberTask (idle : Nat) (decode : Bytes → Option Bytes) (passes : List Pass) :
    Tally :=
  ((subscriberRules idle).received passes).foldl (dealWith decode) ⟨0, 0, []⟩

theorem dealWith_counts_recorded {decode : Bytes → Option Bytes} {tally : Tally}
    (counts : tally.samples.length = tally.received) (event : Received) :
    (dealWith decode tally event).samples.length = (dealWith decode tally event).received := by
  rw [dealWith]
  split
  · rw [List.length_append, counts]
    rfl
  · split
    · exact counts
    · exact counts

/-- In the mixed loop every count has its sample, whatever arrives. -/
theorem counts_recorded (idle : Nat) (decode : Bytes → Option Bytes) (passes : List Pass) :
    (runSubscriberTask idle decode passes).samples.length =
      (runSubscriberTask idle decode passes).received := by
  have onwards : ∀ (events : List Received) (tally : Tally),
      tally.samples.length = tally.received →
        (events.foldl (dealWith decode) tally).samples.length =
          (events.foldl (dealWith decode) tally).received := by
    intro events
    induction events with
    | nil =>
        intro tally counts
        exact counts
    | cons event events induction =>
        intro tally counts
        rw [List.foldl_cons]
        apply induction
        exact dealWith_counts_recorded counts event
  exact onwards _ _ rfl

end Mixed

end DsBench.Workloads
