import DsBench.Foundation.BoundedDriver
import DsBench.Foundation.ShellText
import DsBench.Workloads.HttpReply

/-! # Creating the streams and checking their offsets

The pool workload creates its streams before it measures, and `verify-offsets` asks for
the offset of each afterwards. Both go over their range with a bounded number of requests
in flight.
-/

namespace DsBench.Workloads.StreamSetup

/-! ## Creation -/

/-- What becomes of the task of one creation. -/
inductive Created where
  | created
  | refused (message : Text)
  | panicked
deriving DecidableEq, Repr

/-- What `joined??` returns early with. -/
inductive SetupFailure where
  | create (message : Text)
  | join
deriving DecidableEq, Repr

def takeCreated : Created → Except SetupFailure Unit
  | .created => .ok ()
  | .refused message => .error (.create message)
  | .panicked => .error .join

/-- `create_streams_named` over `[lo, hi)`. -/
def createStreamsNamed (lo hi concurrency : Nat) (outcome : Nat → Created) :
    BoundedDriver Created Unit SetupFailure where
  lo := lo
  hi := hi
  limit := concurrency
  outcome := outcome
  start := ()
  absorb := fun _ result => takeCreated result

/-! ## Verification -/

/-- The answer to a HEAD request. -/
structure HeadResponse where
  status : Nat
  streamNextOffset : Option HeaderValue
deriving DecidableEq, Repr

/-- `head_one`: the offset of a stream, or that it is missing. `none` is a request
without a response. -/
def headOne : Option HeadResponse → Except Unit (Option Nat)
  | none => .error ()
  | some response =>
      if isSuccess response.status then
        let off := (response.streamNextOffset.bind toStr).bind fun text =>
          parseU64 (trim (afterLast '_' text))
        match off with
        | some bytes => .ok (some bytes)
        | none => .error ()
      else if response.status = 404 then .ok none
      else .error ()

structure HeadCounts where
  found : Nat
  missing : Nat
  errors : Nat
  empty : Nat
  totalBytes : Nat
deriving DecidableEq, Repr

/-- The total is a machine word. -/
def HeadCounts.add (counts : HeadCounts) : Except Unit (Option Nat) → HeadCounts
  | .ok (some bytes) =>
      { counts with
        found := counts.found + 1
        empty := if bytes = 0 then counts.empty + 1 else counts.empty
        totalBytes := (counts.totalBytes + bytes) % 2 ^ 64 }
  | .ok none => { counts with missing := counts.missing + 1 }
  | .error _ => { counts with errors := counts.errors + 1 }

structure VerifyOffsetsArgs where
  streams : Nat
  payloadBytes : Nat
  concurrency : Nat

/-- The HEAD loop of `verify-offsets`, which no answer stops. -/
def headLoop (args : VerifyOffsetsArgs) (reply : Nat → Option HeadResponse) :
    BoundedDriver (Except Unit (Option Nat)) HeadCounts Empty where
  lo := 0
  hi := args.streams
  limit := args.concurrency
  outcome := fun i => headOne (reply i)
  start := ⟨0, 0, 0, 0, 0⟩
  absorb := fun counts result => .ok (counts.add result)

structure VerifyOffsetsResult where
  streams : Nat
  streamsFound : Nat
  streamsMissing : Nat
  headErrors : Nat
  totalBytes : Nat
  totalRecords : Nat
  bytesDivideExactly : Bool
  streamsEmpty : Nat
deriving DecidableEq, Repr

/-- What `run` reports of the counters. -/
def verifyOffsetsResult (args : VerifyOffsetsArgs) (counts : HeadCounts) :
    VerifyOffsetsResult :=
  let pb := max args.payloadBytes 1
  { streams := args.streams
    streamsFound := counts.found
    streamsMissing := counts.missing
    headErrors := counts.errors
    totalBytes := counts.totalBytes
    totalRecords := counts.totalBytes / pb
    bytesDivideExactly := counts.totalBytes % pb == 0
    streamsEmpty := counts.empty }

/-! ## The counters -/

def foundBytes : Except Unit (Option Nat) → Option Nat
  | .ok bytes => bytes
  | .error _ => none

def isMissing : Except Unit (Option Nat) → Bool
  | .ok none => true
  | _ => false

def isFailed : Except Unit (Option Nat) → Bool
  | .error _ => true
  | _ => false

def tally (results : List (Except Unit (Option Nat))) : HeadCounts :=
  let offsets := results.filterMap foundBytes
  { found := offsets.length
    missing := results.countP isMissing
    errors := results.countP isFailed
    empty := offsets.countP fun bytes => bytes == 0
    totalBytes := offsets.sum % 2 ^ 64 }

theorem tally_concat (results : List (Except Unit (Option Nat)))
    (result : Except Unit (Option Nat)) :
    tally (results ++ [result]) = (tally results).add result := by
  cases result with
  | error failure =>
      simp [tally, HeadCounts.add, foundBytes, isMissing, isFailed, List.filterMap_cons]
  | ok offset =>
      cases offset with
      | none =>
          simp [tally, HeadCounts.add, foundBytes, isMissing, isFailed,
            List.filterMap_cons]
      | some bytes =>
          by_cases empty : bytes = 0
          · simp [tally, HeadCounts.add, foundBytes, isMissing, isFailed, empty]
          · simp [tally, HeadCounts.add, foundBytes, isMissing, isFailed, empty]

theorem tally_perm {left right : List (Except Unit (Option Nat))}
    (same : left.Perm right) : tally left = tally right := by
  have offsets := same.filterMap foundBytes
  simp only [tally, offsets.length_eq, offsets.countP_eq, offsets.sum_eq,
    same.countP_eq]

theorem tally_partition (results : List (Except Unit (Option Nat))) :
    (tally results).found + (tally results).missing + (tally results).errors =
      results.length := by
  induction results with
  | nil => rfl
  | cons result results induction =>
      simp only [tally] at induction ⊢
      cases result with
      | error failure =>
          simp [foundBytes, isMissing, isFailed, List.filterMap_cons, List.countP_cons]
          omega
      | ok offset =>
          cases offset with
          | none =>
              simp [foundBytes, isMissing, isFailed, List.filterMap_cons, List.countP_cons]
              omega
          | some bytes =>
              simp [foundBytes, isMissing, isFailed]
              omega

theorem fold_counts (results : List (Except Unit (Option Nat))) :
    results.foldlM (fun counts result => Except.ok (HeadCounts.add counts result))
        ⟨0, 0, 0, 0, 0⟩ = (.ok (tally results) : Except Empty HeadCounts) := by
  induction results using List.reverseRecOn with
  | nil => rfl
  | append_singleton results result induction =>
      rw [List.foldlM_append, induction, tally_concat]
      rfl

theorem fold_created (results : List Created) :
    results.foldlM (fun _ result => takeCreated result) () = .ok () ↔
      ∀ result ∈ results, result = .created := by
  induction results with
  | nil => simp [pure, Except.pure]
  | cons result results induction =>
      cases result with
      | created => simpa [takeCreated, bind, Except.bind] using induction
      | refused message => simp [takeCreated, bind, Except.bind]
      | panicked => simp [takeCreated, bind, Except.bind]

/-! ## The drivers -/

section

variable {lo hi concurrency : Nat} {outcome : Nat → Created}
  {state : BoundedDriver.State Unit SetupFailure}

/-- Where the creation loop succeeds every stream of the range was created. -/
theorem created_of_succeeded
    (reachable : (createStreamsNamed lo hi concurrency outcome).system.Reachable state)
    (returned : state.control = .returned (.ok ())) {i : Nat} (inside : lo ≤ i ∧ i < hi) :
    outcome i = .created := by
  rcases BoundedDriver.succeeded_whole reachable returned with ⟨_, _, joined, folded⟩
  have taken : i ∈ state.joined := by
    rw [joined.mem_iff, List.mem_range'_1]
    show lo ≤ i ∧ i < lo + (hi - lo)
    omega
  exact (fold_created _).mp folded _ (List.mem_map_of_mem taken)

/-- The loop has returned an error exactly when one of the creations that it took the result
of has failed. -/
theorem exists_failed_iff
    (reachable : (createStreamsNamed lo hi concurrency outcome).system.Reachable state) :
    (∃ failure, state.control = .returned (.error failure)) ↔
      ∃ i ∈ state.joined, outcome i ≠ .created := by
  have folded := (BoundedDriver.system_kept.of_reachable reachable).accounted.folded
  constructor
  · rintro ⟨failure, returned⟩
    rcases (BoundedDriver.stops reachable).failed failure |>.mp returned with
      ⟨earlier, i, _, joined, _, result⟩
    refine ⟨i, ?_, ?_⟩
    · rw [joined]
      exact List.mem_append_right _ List.mem_cons_self
    · intro (created : outcome i = .created)
      have taken : takeCreated (outcome i) = .error failure := result
      rw [created] at taken
      cases taken
  · rintro ⟨i, joined, failed⟩
    by_contra none_returned
    have verdict : state.verdict = .ok () := by
      rw [BoundedDriver.State.verdict]
      split
      · rename_i result returned
        cases result with
        | ok _ => rfl
        | error failure => exact (none_returned ⟨failure, returned⟩).elim
      · rfl
    rw [verdict] at folded
    exact failed ((fold_created _).mp folded _ (List.mem_map_of_mem joined))

end

/-- Where the HEAD loop returns its counters are those of all streams. -/
theorem counts_of_returned {args : VerifyOffsetsArgs} {reply : Nat → Option HeadResponse}
    {state : BoundedDriver.State HeadCounts Empty}
    (reachable : (headLoop args reply).system.Reachable state) {counts : HeadCounts}
    (returned : state.control = .returned (.ok counts)) :
    counts = tally ((List.range args.streams).map fun i => headOne (reply i)) := by
  rcases BoundedDriver.succeeded_whole reachable returned with ⟨_, _, joined, folded⟩
  have taken : Except.ok (tally (state.joined.map fun i => headOne (reply i))) =
      (.ok counts : Except Empty HeadCounts) := (fold_counts _).symm.trans folded
  cases taken
  rw [List.range_eq_range']
  exact tally_perm (joined.map _)

/-- Both drivers cover their range in every run. The creation loop succeeds only with every
stream created; it returns an error exactly when it has taken the result of a creation that
failed, which it does as soon as it takes that result, with the creations in flight left to
themselves and the rest never launched. The HEAD loop always counts every stream. -/
theorem drivers_cover :
    (∀ (lo hi concurrency : Nat) (outcome : Nat → Created)
        (state : BoundedDriver.State Unit SetupFailure),
      (createStreamsNamed lo hi concurrency outcome).system.Reachable state →
      (createStreamsNamed lo hi concurrency outcome).Covers state ∧
      (createStreamsNamed lo hi concurrency outcome).Stops state ∧
      (state.control = .returned (.ok ()) →
        ∀ i, lo ≤ i ∧ i < hi → outcome i = .created) ∧
      ((∃ failure, state.control = .returned (.error failure)) ↔
        ∃ i ∈ state.joined, outcome i ≠ .created)) ∧
    ∀ (args : VerifyOffsetsArgs) (reply : Nat → Option HeadResponse)
        (state : BoundedDriver.State HeadCounts Empty),
      (headLoop args reply).system.Reachable state →
      (headLoop args reply).Covers state ∧
      ∀ counts, state.control = .returned (.ok counts) →
        counts.found + counts.missing + counts.errors = args.streams ∧
        counts.totalBytes = (((List.range args.streams).filterMap fun i =>
          foundBytes (headOne (reply i))).sum) % 2 ^ 64 := by
  constructor
  · intro lo hi concurrency outcome state reachable
    refine ⟨BoundedDriver.covers reachable, BoundedDriver.stops reachable, ?_,
      exists_failed_iff reachable⟩
    intro returned i inside
    exact created_of_succeeded reachable returned inside
  · intro args reply state reachable
    refine ⟨BoundedDriver.covers reachable, ?_⟩
    intro counts returned
    rw [counts_of_returned reachable returned, tally_partition]
    refine ⟨by simp, ?_⟩
    simp only [tally, List.filterMap_map]
    rfl

def thirdFails (i : Nat) : Created := if i = 6 then .refused [] else .created

/-- Three creations and three HEAD requests with two at a time, and four creations of which
the last is in flight when the third has failed. -/
theorem drivers_cover_two_at_a_time :
    (∃ state, (createStreamsNamed 4 7 2 fun _ => .created).system.Reachable state ∧
      state.control = .returned (.ok ()) ∧ state.launched = [4, 5, 6]) ∧
    (∃ state, (createStreamsNamed 4 8 2 thirdFails).system.Reachable state ∧
      (∃ failure, state.control = .returned (.error failure)) ∧ 7 ∈ state.running ∧
      ∀ next, (createStreamsNamed 4 8 2 thirdFails).Step state next →
        next.joined = [5, 4, 6]) ∧
    ∃ state, (headLoop ⟨3, 256, 2⟩ fun _ => none).system.Reachable state ∧
      ∃ counts, state.control = .returned (.ok counts) ∧
        counts.found + counts.missing + counts.errors = 3 := by
  refine ⟨?_, ?_, ?_⟩
  · have begun : (createStreamsNamed 4 7 2 fun _ => .created).system.Reachable
      ⟨.filling, 4, [], [], (), [], []⟩ := .initial rfl
    have one := begun.step (.push _ rfl (by decide) (by decide))
    have two := one.step (.push _ rfl (by decide) (by decide))
    have filled := two.step (.filled _ rfl (by decide))
    have second := filled.step (.complete _ 5 (by decide))
    have refilled := second.step (.join _ 5 () rfl (by decide) rfl)
    have first := refilled.step (.complete _ 4 (by decide))
    have joined := first.step (.join _ 4 () rfl (by decide) rfl)
    have third := joined.step (.complete _ 6 (by decide))
    have last := third.step (.join _ 6 () rfl (by decide) rfl)
    have finished := last.step (.finish _ rfl (by decide))
    have covers := (drivers_cover.1 4 7 2 (fun _ => .created) _ finished).1
    exact ⟨_, finished, rfl, (covers.whole () rfl).1⟩
  · have begun : (createStreamsNamed 4 8 2 thirdFails).system.Reachable
      ⟨.filling, 4, [], [], (), [], []⟩ := .initial rfl
    have one := begun.step (.push _ rfl (by decide) (by decide))
    have two := one.step (.push _ rfl (by decide) (by decide))
    have filled := two.step (.filled _ rfl (by decide))
    have second := filled.step (.complete _ 5 (by decide))
    have refilled := second.step (.join _ 5 () rfl (by decide) rfl)
    have first := refilled.step (.complete _ 4 (by decide))
    have joined := first.step (.join _ 4 () rfl (by decide) rfl)
    have third := joined.step (.complete _ 6 (by decide))
    have failed := third.step (.fail _ 6 (.create []) rfl (by decide) rfl)
    rcases drivers_cover.1 4 8 2 thirdFails _ failed with ⟨-, stops, -, failed_iff⟩
    refine ⟨_, failed, failed_iff.mpr ⟨6, by decide, by decide⟩, by decide, ?_⟩
    intro next step
    exact (stops.still _ next rfl step).2.2
  · have begun : (headLoop ⟨3, 256, 2⟩ fun _ => none).system.Reachable
      ⟨.filling, 0, [], [], ⟨0, 0, 0, 0, 0⟩, [], []⟩ := .initial rfl
    have one := begun.step (.push _ rfl (by decide) (by decide))
    have two := one.step (.push _ rfl (by decide) (by decide))
    have filled := two.step (.filled _ rfl (by decide))
    have second := filled.step (.complete _ 1 (by decide))
    have refilled := second.step (.join _ 1 _ rfl (by decide) rfl)
    have first := refilled.step (.complete _ 0 (by decide))
    have joined := first.step (.join _ 0 _ rfl (by decide) rfl)
    have third := joined.step (.complete _ 2 (by decide))
    have last := third.step (.join _ 2 _ rfl (by decide) rfl)
    have finished := last.step (.finish _ rfl (by decide))
    have counted := (drivers_cover.2 ⟨3, 256, 2⟩ (fun _ => none) _ finished).2 _ rfl
    exact ⟨_, finished, _, rfl, counted.1⟩

def firstFails (i : Nat) : Created := if i = 0 then .refused [] else .created

def halfRange (_ : Nat) : Option HeadResponse :=
  some ⟨200, some [57, 50, 50, 51, 51, 55, 50, 48, 51, 54, 56, 53, 52, 55, 55, 53, 56, 48,
    56]⟩

/-- With one request at a time the second creation is never launched after the first
failed, with two it is still in flight when the loop returns; and a total of two to the
sixty-four is reported as zero. -/
theorem creation_stops_early :
    (∃ state, (createStreamsNamed 0 2 1 firstFails).system.Reachable state ∧
      state.control = .returned (.error (.create [])) ∧ 1 ∉ state.launched) ∧
    (∃ state, (createStreamsNamed 0 2 2 firstFails).system.Reachable state ∧
      state.control = .returned (.error (.create [])) ∧ 1 ∈ state.running) ∧
    ∃ state, (headLoop ⟨2, 256, 1⟩ halfRange).system.Reachable state ∧
      ∃ counts, state.control = .returned (.ok counts) ∧ counts.found = 2 ∧
        counts.totalBytes = 0 := by
  refine ⟨?_, ?_, ?_⟩
  · have begun : (createStreamsNamed 0 2 1 firstFails).system.Reachable
      ⟨.filling, 0, [], [], (), [], []⟩ := .initial rfl
    have pushed := begun.step (.push _ rfl (by decide) (by decide))
    have filled := pushed.step (.filled _ rfl (by decide))
    have completed := filled.step (.complete _ 0 (by decide))
    have failed := completed.step (.fail _ 0 (.create []) rfl (by decide) rfl)
    exact ⟨_, failed, rfl, by decide⟩
  · have begun : (createStreamsNamed 0 2 2 firstFails).system.Reachable
      ⟨.filling, 0, [], [], (), [], []⟩ := .initial rfl
    have one := begun.step (.push _ rfl (by decide) (by decide))
    have two := one.step (.push _ rfl (by decide) (by decide))
    have filled := two.step (.filled _ rfl (by decide))
    have completed := filled.step (.complete _ 0 (by decide))
    have failed := completed.step (.fail _ 0 (.create []) rfl (by decide) rfl)
    exact ⟨_, failed, rfl, by decide⟩
  · have half : headOne (halfRange 0) = .ok (some 9223372036854775808) := by
      decide +kernel
    have absorbs : ∀ counts i, (headLoop ⟨2, 256, 1⟩ halfRange).absorb counts
        ((headLoop ⟨2, 256, 1⟩ halfRange).outcome i) =
          .ok (counts.add (.ok (some 9223372036854775808))) := by
      intro counts i
      exact congrArg (fun result => Except.ok (counts.add result)) half
    have begun : (headLoop ⟨2, 256, 1⟩ halfRange).system.Reachable
      ⟨.filling, 0, [], [], ⟨0, 0, 0, 0, 0⟩, [], []⟩ := .initial rfl
    have pushed := begun.step (.push _ rfl (by decide) (by decide))
    have filled := pushed.step (.filled _ rfl (by decide))
    have completed := filled.step (.complete _ 0 (by decide))
    have joined := completed.step (.join _ 0 _ rfl (by decide) (absorbs _ 0))
    have again := joined.step (.complete _ 1 (by decide))
    have both := again.step (.join _ 1 _ rfl (by decide) (absorbs _ 1))
    have finished := both.step (.finish _ rfl (by decide))
    exact ⟨_, finished, _, rfl, by decide, by decide⟩

end DsBench.Workloads.StreamSetup
