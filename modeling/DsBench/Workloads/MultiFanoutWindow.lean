import DsBench.Workloads.MultiFanout

/-! # The measure window of the multi-fanout workload

What a pod's tasks do once its barrier has opened: writers set the shared deadline,
and subscribers sample it each time before they wait for the next chunk. Instants are
nanoseconds.
-/

namespace DsBench.Workloads.MultiFanout

structure WindowArgs extends FanoutArgs where
  durationSecs : Nat
  warmupSecs : Nat
  settleSecs : Nat
  requestTimeoutSecs : Nat

def seconds (n : Nat) : Nat := n * 1000000000

namespace WindowArgs

variable (args : WindowArgs)

def idle : Nat := seconds (max args.requestTimeoutSecs 10)

def measure : Nat := seconds args.durationSecs

def lead : Nat := seconds (args.warmupSecs + args.settleSecs)

def drive : Nat := seconds (args.warmupSecs + args.settleSecs + args.durationSecs)

theorem drive_eq : args.drive = args.lead + args.measure := by
  simp only [drive, lead, measure, seconds]
  omega

end WindowArgs

/-! ## State -/

/-- Where a subscriber is in its receive loop. A sample of the deadline is kept until
the loop's head is reached again. Events are those of one chunk that carry a payload,
each with its send time if it has one. -/
inductive Control where
  | held
  | top
  | listening (dl : Option Nat) (wake : Nat)
  | processing (dl : Option Nat) (events : List (Option Nat))
  | finished
deriving DecidableEq, Repr

def Control.sample : Control → Option Nat
  | .listening dl _ => dl
  | .processing dl _ => dl
  | _ => none

structure Receiver where
  control : Control
  lastEventAt : Nat
deriving DecidableEq, Repr

/-- A timestamped event that was processed, with the microseconds that went into the
histogram if any did. A subscriber's histogram is merged into the shard's however its
loop ends. -/
structure Delivery where
  instant : Nat
  recorded : Option Nat
deriving DecidableEq, Repr

structure WindowState (Index : Type) where
  now : Nat
  released : Nat
  /-- The `OnceCell` with the deadline. -/
  cell : Option Nat
  /-- The clock reading the deadline was made from. -/
  crossing : Option Nat
  started : Index → Bool
  connected : Index → Bool
  receivers : Index → Receiver
  received : Nat
  log : List Delivery

def WindowState.start {Index : Type} (released : Nat) (connected : Index → Bool) :
    WindowState Index :=
  ⟨released, released, none, none, fun _ => false, connected, fun _ => ⟨.held, released⟩,
    0, []⟩

def WindowState.setControl {Index : Type} [DecidableEq Index] (state : WindowState Index)
    (position : Index) (control : Control) : WindowState Index :=
  { state with
    receivers := Function.update state.receivers position
      ⟨control, (state.receivers position).lastEventAt⟩ }

/-! ## Actions -/

/-- What can happen next in a pod. A writer reads the clock for the deadline at some
instant after the release; `wall` is the wall clock when an event is processed. -/
inductive Action (Index : Type) where
  | ticked (later : Nat)
  | crossed (writer : Index) (read : Nat)
  | entered (subscriber : Index)
  | sampled (subscriber : Index)
  | timedOut (subscriber : Index)
  | closed (subscriber : Index)
  | arrived (subscriber : Index) (events : List (Option Nat))
  | processed (subscriber : Index) (wall : Nat)
  | drained (subscriber : Index)

section

variable (args : WindowArgs)

def sampleDeadline (cell : Option Nat) (now : Nat) : Control :=
  match cell with
  | some deadline =>
      if deadline + seconds 2 ≤ now then .finished
      else .listening cell (now + min (deadline - now + seconds 2) args.idle)
  | none => .listening cell (now + args.idle)

def latencyMicros (wall sentNs : Nat) : Nat :=
  max (min ((wall - sentNs) / 1000) 60000000) 1

/-- What goes into the histogram for an event: its latency, when the sampled deadline
puts `now` in the measure window. -/
def recordedLatency (dl : Option Nat) (now wall sentNs : Nat) : Option Nat :=
  if dl.any fun deadline => decide (deadline ≤ now + args.measure) then
    some (latencyMicros wall sentNs)
  else none

/-- The event at the head of a chunk has been dealt with. -/
def processEvent {Index : Type} [DecidableEq Index] (state : WindowState Index)
    (subscriber : Index) (dl : Option Nat) (event : Option Nat)
    (rest : List (Option Nat)) (wall : Nat) : WindowState Index :=
  { state with
    receivers := Function.update state.receivers subscriber
      ⟨.processing dl rest, state.now⟩
    received := state.received + 1
    log := match event with
      | some sentNs =>
          state.log ++ [⟨state.now, recordedLatency args dl state.now wall sentNs⟩]
      | none => state.log }

variable (shard : Shard)

def isWriter (position : Position args.toFanoutArgs shard) : Bool :=
  match (tasks args.toFanoutArgs shard).get position with
  | .subscriber _ _ => false
  | .writer _ => true

/-- What an action makes of a pod, where it is possible. -/
def act (state : WindowState (Position args.toFanoutArgs shard)) :
    Action (Position args.toFanoutArgs shard) →
      Option (WindowState (Position args.toFanoutArgs shard))
  | .ticked later => if state.now ≤ later then some { state with now := later } else none
  | .crossed writer read =>
      if isWriter args shard writer ∧ state.started writer = false ∧
          state.released ≤ read ∧ read ≤ state.now then
        some { state with
          started := Function.update state.started writer true
          cell := state.cell.or (some (read + args.drive))
          crossing := state.crossing.or (some read) }
      else none
  | .entered subscriber =>
      if isWriter args shard subscriber = false ∧ state.connected subscriber ∧
          (state.receivers subscriber).control = .held then
        some { state with
          receivers := Function.update state.receivers subscriber ⟨.top, state.now⟩ }
      else none
  | .sampled subscriber =>
      match (state.receivers subscriber).control with
      | .top => some (state.setControl subscriber (sampleDeadline args state.cell state.now))
      | _ => none
  | .timedOut subscriber =>
      match (state.receivers subscriber).control with
      | .listening _ wake =>
          if wake ≤ state.now then
            some (state.setControl subscriber
              (if args.idle < state.now - (state.receivers subscriber).lastEventAt then
                .finished else .top))
          else none
      | _ => none
  | .closed subscriber =>
      match (state.receivers subscriber).control with
      | .listening _ _ => some (state.setControl subscriber .finished)
      | _ => none
  | .arrived subscriber events =>
      match (state.receivers subscriber).control with
      | .listening dl _ => some (state.setControl subscriber (.processing dl events))
      | _ => none
  | .processed subscriber wall =>
      match (state.receivers subscriber).control with
      | .processing dl (event :: rest) =>
          some (processEvent args state subscriber dl event rest wall)
      | _ => none
  | .drained subscriber =>
      match (state.receivers subscriber).control with
      | .processing _ [] => some (state.setControl subscriber .top)
      | _ => none

/-- A pod's tasks from the release of its barrier on, by actions of which only some
may be allowed. -/
def receivers (allowed : WindowState (Position args.toFanoutArgs shard) →
      Action (Position args.toFanoutArgs shard) → Bool) :
    TransitionSystem (WindowState (Position args.toFanoutArgs shard)) :=
  .ofActions (fun state => ∃ released connected, state = .start released connected)
    allowed (act args shard)

end

/-! ## The window -/

/-- The instant is in the measure window that starts warm-up and settle after the
release. -/
def InWindow (args : WindowArgs) (released instant : Nat) : Prop :=
  released + args.lead ≤ instant ∧ instant ≤ released + args.lead + args.measure

instance (args : WindowArgs) (released instant : Nat) :
    Decidable (InWindow args released instant) :=
  inferInstanceAs (Decidable (_ ∧ _))

/-- The subscriber sampled the deadline after a writer had set it, and that writer had
read the clock warm-up and settle before the event. -/
def timelySample {Index : Type} (args : WindowArgs) (state : WindowState Index)
    (dl : Option Nat) : Bool :=
  dl.isSome && state.crossing.any fun read => decide (read + args.lead ≤ state.now)

/-- In the window, timestamped events are processed on timely samples only. -/
def timely {Index : Type} (args : WindowArgs) (state : WindowState Index) :
    Action Index → Bool
  | .processed subscriber _ =>
      match (state.receivers subscriber).control with
      | .processing dl (some _ :: _) =>
          !decide (InWindow args state.released state.now) || timelySample args state dl
      | _ => true
  | _ => true

/-! ## Samples come from the cell -/

/-- The deadline is the drive after the clock reading it was made from, and whatever a
subscriber holds as a sample is that deadline. -/
structure Honest {Index : Type} (args : WindowArgs) (state : WindowState Index) : Prop where
  cell : state.cell = state.crossing.map (· + args.drive)
  samples : ∀ position deadline,
    (state.receivers position).control.sample = some deadline → state.cell = some deadline

section

variable {args : WindowArgs} {shard : Shard}

theorem honest_update {Index : Type} [DecidableEq Index] {before after : WindowState Index}
    (honest : Honest args before) (position : Index) (receiver : Receiver)
    (cell : after.cell = before.cell) (crossing : after.crossing = before.crossing)
    (receivers : after.receivers = Function.update before.receivers position receiver)
    (sample : ∀ deadline, receiver.control.sample = some deadline →
      before.cell = some deadline) : Honest args after where
  cell := by
    rw [cell, crossing]
    exact honest.cell
  samples := by
    intro other deadline sampled
    rw [cell]
    rw [receivers] at sampled
    by_cases own : other = position
    · rw [own, Function.update_self] at sampled
      exact sample deadline sampled
    · rw [Function.update_of_ne own] at sampled
      exact honest.samples other deadline sampled

theorem honest_setControl {Index : Type} [DecidableEq Index] {state : WindowState Index}
    (honest : Honest args state) (position : Index) {control : Control}
    (sample : ∀ deadline, control.sample = some deadline → state.cell = some deadline) :
    Honest args (state.setControl position control) :=
  honest_update honest position _ rfl rfl rfl sample

theorem sampleDeadline_sample (cell : Option Nat) (now deadline : Nat)
    (sampled : (sampleDeadline args cell now).sample = some deadline) :
    cell = some deadline := by
  cases cell with
  | none => cases sampled
  | some set =>
      simp only [sampleDeadline] at sampled
      split at sampled
      · cases sampled
      · exact sampled

theorem crossed_honest {Index : Type} {state : WindowState Index}
    (honest : Honest args state) (read : Nat) (started : Index → Bool) :
    Honest args { state with
      started := started
      cell := state.cell.or (some (read + args.drive))
      crossing := state.crossing.or (some read) } where
  cell := by
    simp only [honest.cell]
    cases state.crossing with
    | none => rfl
    | some first => rfl
  samples := by
    intro position deadline sampled
    simp only [honest.samples position deadline sampled, Option.some_or]

theorem act_honest {before after : WindowState (Position args.toFanoutArgs shard)}
    (honest : Honest args before) {action : Action (Position args.toFanoutArgs shard)}
    (done : act args shard before action = some after) : Honest args after := by
  cases action with
  | ticked later =>
      simp only [act] at done
      split at done
      · cases done
        exact ⟨honest.cell, honest.samples⟩
      · cases done
  | crossed writer read =>
      simp only [act] at done
      split at done
      · cases done
        exact crossed_honest honest read _
      · cases done
  | entered subscriber =>
      simp only [act] at done
      split at done
      · cases done
        exact honest_update honest subscriber ⟨.top, before.now⟩ rfl rfl rfl
          fun _ sampled => nomatch sampled
      · cases done
  | sampled subscriber =>
      simp only [act] at done
      split at done
      · cases done
        exact honest_setControl honest subscriber
          (sampleDeadline_sample before.cell before.now)
      · cases done
  | timedOut subscriber =>
      simp only [act] at done
      split at done
      · split at done
        · cases done
          apply honest_setControl honest subscriber
          intro deadline sampled
          split at sampled
          · cases sampled
          · cases sampled
        · cases done
      · cases done
  | closed subscriber =>
      simp only [act] at done
      split at done
      · cases done
        exact honest_setControl honest subscriber fun _ sampled => nomatch sampled
      · cases done
  | arrived subscriber events =>
      simp only [act] at done
      split at done
      · rename_i dl wake listening
        cases done
        apply honest_setControl honest subscriber
        intro deadline sampled
        apply honest.samples subscriber deadline
        rw [listening]
        exact sampled
      · cases done
  | processed subscriber wall =>
      simp only [act] at done
      split at done
      · rename_i dl event rest processing
        cases done
        refine honest_update honest subscriber ⟨.processing dl rest, before.now⟩ rfl rfl
          rfl ?_
        intro deadline sampled
        apply honest.samples subscriber deadline
        rw [processing]
        exact sampled
      · cases done
  | drained subscriber =>
      simp only [act] at done
      split at done
      · cases done
        exact honest_setControl honest subscriber fun _ sampled => nomatch sampled
      · cases done

theorem start_honest {Index : Type} (released : Nat) (connected : Index → Bool) :
    Honest args (WindowState.start released connected) :=
  ⟨rfl, fun _ _ sampled => nomatch sampled⟩

theorem receivers_honest
    (allowed : WindowState (Position args.toFanoutArgs shard) →
      Action (Position args.toFanoutArgs shard) → Bool) :
    (receivers args shard allowed).Invariant (Honest args) where
  initially := by
    intro state initial
    rcases initial with ⟨released, connected, start⟩
    rw [start]
    exact start_honest released connected
  preserved := by
    intro before after honest step
    rcases step with ⟨action, _, done⟩
    exact act_honest honest done

/-! ## What is logged -/

theorem act_spec {before after : WindowState (Position args.toFanoutArgs shard)}
    {action : Action (Position args.toFanoutArgs shard)}
    (done : act args shard before action = some after) :
    after.released = before.released ∧
      (after.crossing = before.crossing ∨ ∃ writer, isWriter args shard writer = true) ∧
      (after.log = before.log ∨
        ∃ subscriber wall dl sentNs rest, action = .processed subscriber wall ∧
          (before.receivers subscriber).control = .processing dl (some sentNs :: rest) ∧
          after.log = before.log ++
            [⟨before.now, recordedLatency args dl before.now wall sentNs⟩]) := by
  cases action with
  | crossed writer read =>
      simp only [act] at done
      split at done
      · rename_i possible
        cases done
        exact ⟨rfl, .inr ⟨writer, possible.1⟩, .inl rfl⟩
      · cases done
  | processed subscriber wall =>
      simp only [act] at done
      split at done
      · rename_i dl event rest processing
        cases done
        refine ⟨rfl, .inl rfl, ?_⟩
        cases event with
        | none => exact .inl rfl
        | some sentNs => exact .inr ⟨subscriber, wall, dl, sentNs, rest, rfl, processing, rfl⟩
      · cases done
  | timedOut subscriber =>
      simp only [act] at done
      split at done
      · split at done
        · cases done
          exact ⟨rfl, .inl rfl, .inl rfl⟩
        · cases done
      · cases done
  | _ =>
      simp only [act] at done
      split at done
      · cases done
        exact ⟨rfl, .inl rfl, .inl rfl⟩
      · cases done

theorem recordedLatency_ne_none (dl : Option Nat) (now wall sentNs : Nat) :
    recordedLatency args dl now wall sentNs ≠ none ↔
      ∃ deadline, dl = some deadline ∧ deadline ≤ now + args.measure := by
  rw [recordedLatency]
  cases dl with
  | none => simp
  | some deadline =>
      by_cases counts : deadline ≤ now + args.measure
      · simp [counts]
      · simp [counts]

theorem deadline_le_iff (read now : Nat) :
    read + args.drive ≤ now + args.measure ↔ read + args.lead ≤ now := by
  rw [args.drive_eq]
  omega

theorem recorded_iff {Index : Type} {state : WindowState Index} (honest : Honest args state)
    {dl : Option Nat} (sampled : ∀ deadline, dl = some deadline → state.cell = some deadline)
    (wall sentNs : Nat) :
    recordedLatency args dl state.now wall sentNs ≠ none ↔
      timelySample args state dl = true := by
  rw [recordedLatency_ne_none, timelySample]
  cases dl with
  | none => simp
  | some deadline =>
      have set := sampled deadline rfl
      rw [honest.cell] at set
      cases crossing : state.crossing with
      | none =>
          rw [crossing] at set
          cases set
      | some read =>
          rw [crossing, Option.map_some, Option.some.injEq] at set
          have here : (∃ due, some deadline = some due ∧ due ≤ state.now + args.measure) ↔
              deadline ≤ state.now + args.measure := by
            simp
          rw [here, ← set, deadline_le_iff, Option.isSome_some, Bool.true_and,
            Option.any_some, decide_eq_true_iff]

theorem processing_sample {state : WindowState (Position args.toFanoutArgs shard)}
    (honest : Honest args state) {subscriber : Position args.toFanoutArgs shard}
    {dl : Option Nat} {events : List (Option Nat)}
    (processing : (state.receivers subscriber).control = .processing dl events) :
    ∀ deadline, dl = some deadline → state.cell = some deadline := by
  intro deadline sampled
  apply honest.samples subscriber deadline
  rw [processing]
  exact sampled

/-! ## Runs -/

/-- Everything logged in the window has gone into the histogram. -/
def WindowRecorded (args : WindowArgs)
    (state : WindowState (Position args.toFanoutArgs shard)) : Prop :=
  ∀ delivery ∈ state.log, InWindow args state.released delivery.instant →
    delivery.recorded ≠ none

theorem timely_recorded :
    (receivers args shard (timely args)).Invariant fun state =>
      Honest args state ∧ WindowRecorded args state where
  initially := by
    intro state initial
    refine ⟨(receivers_honest _).initially state initial, ?_⟩
    rcases initial with ⟨released, connected, start⟩
    rw [start]
    intro delivery member
    cases member
  preserved := by
    intro before after holds step
    rcases holds with ⟨honest, recorded⟩
    refine ⟨(receivers_honest _).preserved before after honest step, ?_⟩
    rcases step with ⟨action, onTime, done⟩
    rcases act_spec done with ⟨released, -, log⟩
    rw [WindowRecorded, released]
    rcases log with same | ⟨subscriber, wall, dl, sentNs, rest, own, processing, added⟩
    · rw [same]
      exact recorded
    · rw [added]
      intro delivery member inWindow
      rcases List.mem_append.mp member with earlier | new
      · exact recorded delivery earlier inWindow
      · rw [List.mem_singleton.mp new] at inWindow ⊢
        rw [own] at onTime
        simp only [timely, processing, decide_eq_true inWindow, Bool.not_true,
          Bool.false_or] at onTime
        exact (recorded_iff honest (processing_sample honest processing) wall sentNs).mpr
          onTime

theorem isWriter_of_unowned (unowned : args.streams ≤ shard.shard)
    (position : Position args.toFanoutArgs shard) : isWriter args shard position = false := by
  rw [isWriter]
  split
  · rfl
  · rename_i streamIdx isTask
    have member := List.get_mem (tasks args.toFanoutArgs shard) position
    rw [isTask, mem_tasks_writer] at member
    have small := Nat.mod_le streamIdx shard.k
    omega

/-- Without a writer the deadline is never set, and nothing is ever recorded. -/
theorem unowned_unrecorded (unowned : args.streams ≤ shard.shard)
    (allowed : WindowState (Position args.toFanoutArgs shard) →
      Action (Position args.toFanoutArgs shard) → Bool) :
    (receivers args shard allowed).Invariant fun state =>
      Honest args state ∧ state.crossing = none ∧
        ∀ delivery ∈ state.log, delivery.recorded = none where
  initially := by
    intro state initial
    refine ⟨(receivers_honest _).initially state initial, ?_⟩
    rcases initial with ⟨released, connected, start⟩
    rw [start]
    exact ⟨rfl, fun _ member => nomatch member⟩
  preserved := by
    intro before after holds step
    rcases holds with ⟨honest, unset, unrecorded⟩
    refine ⟨(receivers_honest _).preserved before after honest step, ?_⟩
    rcases step with ⟨action, onTime, done⟩
    rcases act_spec done with ⟨-, crossing, log⟩
    constructor
    · rcases crossing with same | ⟨writer, isOne⟩
      · rw [same, unset]
      · rw [isWriter_of_unowned unowned writer] at isOne
        cases isOne
    · rcases log with same | ⟨subscriber, wall, dl, sentNs, rest, own, processing, added⟩
      · rw [same]
        exact unrecorded
      · rw [added]
        intro delivery member
        rcases List.mem_append.mp member with earlier | new
        · exact unrecorded delivery earlier
        · rw [List.mem_singleton.mp new]
          have late : timelySample args before dl = false := by
            simp [timelySample, unset]
          by_contra recorded
          have onSample := (recorded_iff honest (processing_sample honest processing) wall
            sentNs).mp recorded
          rw [late] at onSample
          cases onSample

/-- Every event of the window is recorded in every run in which subscribers process the
events of the window on timely samples; one processed on another sample is not, and on
a shard without a stream of its own none ever is. -/
theorem window_recorded_when_timely (args : WindowArgs) (shard : Shard) :
    (∀ state, (receivers args shard (timely args)).Reachable state →
      ∀ delivery ∈ state.log, InWindow args state.released delivery.instant →
        delivery.recorded ≠ none) ∧
      (∀ before, (receivers args shard fun _ _ => true).Reachable before →
        ∀ subscriber wall after, act args shard before (.processed subscriber wall) =
          some after → timely args before (.processed subscriber wall) = false →
        ∃ delivery ∈ after.log, InWindow args after.released delivery.instant ∧
          delivery.recorded = none) ∧
      (args.streams ≤ shard.shard →
        ∀ state, (receivers args shard fun _ _ => true).Reachable state →
          ∀ delivery ∈ state.log, delivery.recorded = none) := by
  refine ⟨?_, ?_, ?_⟩
  · intro state reachable
    exact (timely_recorded.of_reachable reachable).2
  · intro before reachable subscriber wall after done late
    have honest := (receivers_honest _).of_reachable reachable
    simp only [timely] at late
    split at late
    · rename_i dl sentNs rest processing
      rw [Bool.or_eq_false_iff, Bool.not_eq_false', decide_eq_true_iff] at late
      simp only [act, processing, Option.some.injEq] at done
      subst done
      refine ⟨⟨before.now, recordedLatency args dl before.now wall sentNs⟩, ?_, late.1, ?_⟩
      · simp [processEvent]
      · by_contra recorded
        have onSample := (recorded_iff honest (processing_sample honest processing) wall
          sentNs).mp recorded
        rw [late.2] at onSample
        cases onSample
    · cases late
  · intro unowned state reachable
    exact ((unowned_unrecorded unowned _).of_reachable reachable).2.2

theorem exists_reachable_of_perform
    {allowed : WindowState (Position args.toFanoutArgs shard) →
      Action (Position args.toFanoutArgs shard) → Bool} {released : Nat}
    {connected : Position args.toFanoutArgs shard → Bool}
    {actions : List (Action (Position args.toFanoutArgs shard))} {log : List Delivery}
    (performed : (TransitionSystem.perform allowed (act args shard)
      (.start released connected) actions).map (fun state => (state.released, state.log)) =
        some (released, log)) :
    ∃ state, (receivers args shard allowed).Reachable state ∧
      state.released = released ∧ state.log = log := by
  rcases Option.map_eq_some_iff.mp performed with ⟨state, reached, same⟩
  refine ⟨state, ?_, congrArg Prod.fst same, congrArg Prod.snd same⟩
  exact TransitionSystem.reachable_of_perform (.initial ⟨released, connected, rfl⟩) reached

end

/-- A writer and a subscriber in one pod: the writer reads the clock at the release,
the subscriber samples the deadline after that. -/
def oneSubscriber : WindowArgs := ⟨⟨1, 1, 0, 1, 1⟩, 30, 0, 0, 30⟩

def timelyRun : List (Action (Position oneSubscriber.toFanoutArgs
    (podShard oneSubscriber.toFanoutArgs 1 0))) :=
  [.crossed ⟨1, by decide⟩ 0, .entered ⟨0, by decide⟩, .sampled ⟨0, by decide⟩,
    .ticked (seconds 1), .arrived ⟨0, by decide⟩ [some 5], .processed ⟨0, by decide⟩ 2000005]

theorem timelyRun_recorded :
    ∃ state, (receivers oneSubscriber (podShard oneSubscriber.toFanoutArgs 1 0)
        (timely oneSubscriber)).Reachable state ∧
      state.log = [⟨seconds 1, some 2000⟩] ∧
      ∀ delivery ∈ state.log, InWindow oneSubscriber state.released delivery.instant →
        delivery.recorded ≠ none := by
  have performed : (TransitionSystem.perform (timely oneSubscriber)
      (act oneSubscriber (podShard oneSubscriber.toFanoutArgs 1 0))
      (.start 0 fun _ => true) timelyRun).map
        (fun state => (state.released, state.log)) =
      some (0, [⟨seconds 1, some 2000⟩]) := by
    decide +kernel
  rcases exists_reachable_of_perform performed with ⟨state, reachable, -, log⟩
  exact ⟨state, reachable, log, (window_recorded_when_timely _ _).1 state reachable⟩

def subscriberOnly : WindowArgs := ⟨twoSubscribers, 30, 0, 0, 30⟩

def unsetRun : List (Action (Position subscriberOnly.toFanoutArgs
    (podShard subscriberOnly.toFanoutArgs 2 1))) :=
  [.entered ⟨0, by decide⟩, .sampled ⟨0, by decide⟩, .ticked (seconds 1),
    .arrived ⟨0, by decide⟩ [some 5], .processed ⟨0, by decide⟩ 2000005]

/-- Without a writer the deliveries in the window are dropped. -/
theorem unowned_shard_drops_delivery :
    ∃ state, (receivers subscriberOnly (podShard subscriberOnly.toFanoutArgs 2 1)
        fun _ _ => true).Reachable state ∧
      ∃ delivery ∈ state.log,
        InWindow subscriberOnly state.released delivery.instant ∧
          delivery.recorded = none := by
  have performed : (TransitionSystem.perform (fun _ _ => true)
      (act subscriberOnly (podShard subscriberOnly.toFanoutArgs 2 1))
      (.start 0 fun _ => true) unsetRun).map
        (fun state => (state.released, state.log)) =
      some (0, [⟨seconds 1, none⟩]) := by
    decide +kernel
  rcases exists_reachable_of_perform performed with ⟨state, reachable, released, log⟩
  refine ⟨state, reachable, ⟨seconds 1, none⟩, ?_, ?_, rfl⟩
  · simp [log]
  · rw [released]
    decide

end DsBench.Workloads.MultiFanout
