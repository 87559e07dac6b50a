import DsBench.Foundation.EqualWindows
import DsBench.Merge.HeadlineScan

/-! # Aligned measure windows

What the verdict on the fleet's windows guarantees when all of them have one length:
the pods measured together for most of it, and the summed rate stays close to what
the server can do.
-/

namespace DsBench.Merge

/-- A pod with its result document, and the operations it counted: the instants, in
unix seconds, at which they completed inside its stamped window. -/
structure StampedPod (window : Nat) where
  document : Json
  start : Nat
  completions : List ℚ
  stamps : windowStamps document = some (start, start + window)
  within : ∀ instant ∈ completions, ms start ≤ instant ∧ instant ≤ ms (start + window)
  counted : ∀ ops, f64Field "aggregate_ops_per_sec" document = some ops →
    ops * ms window ≤ completions.length

namespace StampedPod

variable {window : Nat}

def rate (pod : StampedPod window) : ℚ := (opsOf pod.document).getD 0

theorem rate_counted (pod : StampedPod window) :
    pod.rate * ms window ≤ pod.completions.length := by
  rw [rate, opsOf]
  split
  · simp
  · cases field : f64Field "aggregate_ops_per_sec" pod.document with
    | none => simp
    | some ops => exact pod.counted ops field

end StampedPod

theorem ms_le {first last : Nat} (le : first ≤ last) : ms first ≤ ms last := by
  unfold ms
  have cast : (first : ℚ) ≤ last := by exact_mod_cast le
  linarith

@[simp] theorem ms_add (first last : Nat) : ms (first + last) = ms first + ms last := by
  unfold ms
  push_cast
  ring

theorem ms_sub {first last : Nat} (le : first ≤ last) :
    ms (last - first) = ms last - ms first := by
  unfold ms
  rw [Nat.cast_sub le]
  ring

theorem ms_pos {millis : Nat} (positive : 0 < millis) : 0 < ms millis := by
  rw [ms]
  positivity

/-! ## The bounds of windows of one length -/

/-- The window bounds once the earliest window starts at `lo` and the latest at `hi`. -/
def boundsOf (window lo hi : Nat) :
    Option Nat × Option Nat × Option Nat × Option Nat × Nat :=
  (some lo, some (hi + window), some hi, some (lo + window), window)

theorem scanDocument_first {window : Nat} (pod : StampedPod window) :
    (HeadlineAcc.scanDocument {} pod.document).windows =
      boundsOf window pod.start pod.start := by
  rw [HeadlineAcc.windows_scanDocument, HeadlineAcc.scanStamps, pod.stamps]
  simp [HeadlineAcc.stampWindow, HeadlineAcc.windows, boundsOf]

theorem scanDocument_next {window lo hi : Nat} {acc : HeadlineAcc}
    (bounds : acc.windows = boundsOf window lo hi) (pod : StampedPod window) :
    (acc.scanDocument pod.document).windows =
      boundsOf window (min lo pod.start) (max hi pod.start) := by
  simp only [HeadlineAcc.windows, boundsOf, Prod.mk.injEq] at bounds
  rcases bounds with ⟨minStart, maxEnd, maxStart, minEnd, longest⟩
  rw [HeadlineAcc.windows_scanDocument, HeadlineAcc.scanStamps, pod.stamps]
  simp only [HeadlineAcc.stampWindow, HeadlineAcc.windows, boundsOf, minStart, maxEnd,
    maxStart, minEnd, longest, Option.elim_some, Prod.mk.injEq, Option.some.injEq,
    true_and]
  omega

theorem foldl_windows {window lo hi : Nat} (pods : List (StampedPod window))
    {acc : HeadlineAcc} (bounds : acc.windows = boundsOf window lo hi) :
    ∃ first last, ((pods.map StampedPod.document).foldl HeadlineAcc.scanDocument
        acc).windows = boundsOf window first last ∧
      first ≤ lo ∧ hi ≤ last ∧ ∀ pod ∈ pods, first ≤ pod.start ∧ pod.start ≤ last := by
  induction pods generalizing acc lo hi with
  | nil => exact ⟨lo, hi, bounds, le_refl lo, le_refl hi, by simp⟩
  | cons pod pods induction =>
      rcases induction (scanDocument_next bounds pod) with
        ⟨first, last, after, below, above, each⟩
      refine ⟨first, last, after, by omega, by omega, ?_⟩
      intro other member
      rcases List.mem_cons.mp member with rfl | later
      · omega
      · exact each other later

theorem scan_windows {window : Nat} {pods : List (StampedPod window)}
    (nonempty : pods ≠ []) :
    ∃ first last, ((pods.map StampedPod.document).foldl HeadlineAcc.scanDocument
        {}).windows = boundsOf window first last ∧
      first ≤ last ∧ ∀ pod ∈ pods, first ≤ pod.start ∧ pod.start ≤ last := by
  cases pods with
  | nil => exact absurd rfl nonempty
  | cons pod pods =>
      rcases foldl_windows pods (scanDocument_first pod) with
        ⟨first, last, after, below, above, each⟩
      refine ⟨first, last, after, Nat.le_trans below above, ?_⟩
      intro other member
      rcases List.mem_cons.mp member with rfl | later
      · exact ⟨below, above⟩
      · exact each other later

/-! ## The verdict -/

theorem summarize_windows {acc : HeadlineAcc} {window lo hi : Nat}
    (bounds : acc.windows = boundsOf window lo hi) (positive : 0 < window)
    (ordered : lo ≤ hi) (histogram : Histogram) :
    (acc.summarize histogram).measureSpanSecs = some (ms hi - ms lo + ms window) ∧
    (acc.summarize histogram).windowsAligned =
      some (decide (ms hi - ms lo + ms window ≤ windowAlignFactor * ms window)) ∧
    (acc.overlap = if hi < lo + window then some (hi, lo + window) else none) := by
  simp only [HeadlineAcc.windows, boundsOf, Prod.mk.injEq] at bounds
  rcases bounds with ⟨minStart, maxEnd, maxStart, minEnd, longest⟩
  have length : hi + window - lo = (hi - lo) + window := by omega
  simp only [HeadlineAcc.summarize, HeadlineAcc.span, HeadlineAcc.overlap, minStart,
    maxEnd, maxStart, minEnd, longest, gt_iff_lt, positive, if_true, Option.map_some,
    length, ms_add, ms_sub ordered]
  simp

/-- What an aligned fleet of windows of one length can be relied on for. -/
structure ConcurrentFleet {window : Nat} (pods : List (StampedPod window))
    (summary : MergeSummary) (first last : Nat) : Prop where
  overlapStart : summary.measureOverlapStartUnixMs = some first
  overlapEnd : summary.measureOverlapEndUnixMs = some last
  inside : ∀ pod ∈ pods, pod.start ≤ first ∧ last ≤ pod.start + window
  length : ∃ span, summary.measureSpanSecs = some span ∧
    ms last - ms first = 2 * ms window - span
  mostOfIt : 3 / 4 * ms window ≤ ms last - ms first
  withinCapacity : ∀ (server : List ℚ) (capacity : ℚ),
    KeepsRate server capacity (ms window) →
    (pods.flatMap StampedPod.completions).Subperm server →
    ∀ total, summary.aggregateOpsPerSec = some total → total ≤ 5 / 4 * capacity

theorem aggregateOps_of_pods {window : Nat} (pods : List (StampedPod window))
    (histogram : Histogram) {total : ℚ}
    (headline : (summaryOf histogram (pods.map StampedPod.document)).aggregateOpsPerSec =
      some total) : total = (pods.map StampedPod.rate).sum := by
  rw [aggregateOpsPerSec_summaryOf, List.map_map] at headline
  split at headline
  · cases headline
  · split at headline
    · exact (Option.some.inj headline).symm
    · cases headline

/-- Of pods with windows of one length, a summary that calls the windows aligned has
an overlap of at least three quarters of them, and bounds the overcount. -/
theorem aligned_windows_bound_overcount {window : Nat} (positive : 0 < window)
    {pods : List (StampedPod window)} {entries : List DirEntry}
    (scanned : entries.filterMap DirEntry.document = pods.map StampedPod.document)
    {histogram : Histogram} {summary : MergeSummary}
    (merged : mergeSummaryFiltered (some histogram) (some entries) = some summary)
    (aligned : summary.windowsAligned = some true) :
    ∃ first last, ConcurrentFleet pods summary first last := by
  rw [mergeSummaryFiltered_eq, scanned, Option.some.injEq] at merged
  subst merged
  have nonempty : pods ≠ [] := by
    intro equal
    cases equal
    cases aligned
  rcases scan_windows nonempty with ⟨lo, hi, bounds, ordered, each⟩
  rcases summarize_windows bounds positive ordered histogram with
    ⟨span, verdict, overlap⟩
  have close : ms hi - ms lo + ms window ≤ windowAlignFactor * ms window := by
    have spoken := verdict.symm.trans aligned
    simpa using spoken
  rw [windowAlignFactor] at close
  have windowPositive := ms_pos positive
  have staggered : hi < lo + window := by
    by_contra apart
    have far := ms_le (not_lt.mp apart)
    rw [ms_add] at far
    linarith
  rw [if_pos staggered] at overlap
  refine ⟨hi, lo + window, {
    overlapStart := by simp [summaryOf, HeadlineAcc.summarize, overlap]
    overlapEnd := by simp [summaryOf, HeadlineAcc.summarize, overlap]
    inside := fun pod member => ⟨(each pod member).2, by
      have early := (each pod member).1
      omega⟩
    length := ⟨_, span, by rw [ms_add]; ring⟩
    mostOfIt := by
      rw [ms_add]
      linarith
    withinCapacity := ?_ }⟩
  intro server capacity keeps served total headline
  rw [aggregateOps_of_pods pods histogram headline]
  refine sum_rates_le pods StampedPod.rate StampedPod.completions (ms lo)
    (ms hi + ms window) (fun pod _ => pod.rate_counted) ?_ served keeps
    windowPositive (by linarith [ms_le ordered]) (by linarith)
  intro pod member instant completed
  rcases each pod member with ⟨early, late⟩
  rcases pod.within instant completed with ⟨after, before⟩
  rw [ms_add] at before
  exact ⟨(ms_le early).trans after, by linarith [ms_le late]⟩

/-! ## Two staggered pods -/

def quietFields (start : Nat) : List (Text × Option Json) := [
  ("scenario".toList, some (.str "multi-stream-write".toList)),
  ("aggregate_ops_per_sec".toList, some (.num (.decimal 25 1))),
  ("measure_start_unix_ms".toList, some (.num (.int start))),
  ("measure_end_unix_ms".toList, some (.num (.int (start + 8000))))]

def quietDocument (start : Nat) : Json := .obj (.ofFields (quietFields start))

theorem quietFields_distinct (start : Nat) :
    ((quietFields start).map Prod.fst).Nodup := by
  change ((quietFields 0).map Prod.fst).Nodup
  decide

theorem quietDocument_counted {start : Nat} {completions : List ℚ}
    (two : completions.length = 2) (ops : ℚ)
    (field : f64Field "aggregate_ops_per_sec" (quietDocument start) = some ops) :
    ops * ms 8000 ≤ completions.length := by
  have quarter : f64Field "aggregate_ops_per_sec" (quietDocument start) = some (1 / 4) := by
    rw [f64Field]
    rw [quietDocument, Json.get, Members.get_ofFields (quietFields_distinct start)
      (List.mem_cons_of_mem _ List.mem_cons_self)]
    simp only [Option.bind_some, Json.asF64, Json.asNumber, Option.map_some, Number.toRat]
    norm_num
  rw [quarter, Option.some.injEq] at field
  rw [← field, two]
  norm_num [ms]

def earlyPod : StampedPod 8000 where
  document := quietDocument 1000000
  start := 1000000
  completions := [1003, 1004]
  stamps := by decide +kernel
  within := by decide +kernel
  counted := quietDocument_counted rfl

def latePod : StampedPod 8000 where
  document := quietDocument 1001000
  start := 1001000
  completions := [1005, 1008]
  stamps := by decide +kernel
  within := by decide +kernel
  counted := quietDocument_counted rfl

def staggeredResults : List DirEntry := [
  ⟨"write-0.json".toList, some (earlyPod.document.render .serdePretty 0)⟩,
  ⟨"write-1.json".toList, some (latePod.document.render .serdePretty 0)⟩]

theorem staggered_windows_bound_overcount :
    ∃ first last, ConcurrentFleet [earlyPod, latePod]
      (summaryOf ⟨4, 1000, 1000, 1000, 1000, 1000⟩
        (staggeredResults.filterMap DirEntry.document)) first last :=
  aligned_windows_bound_overcount (by decide)
    (show staggeredResults.filterMap DirEntry.document =
      [earlyPod, latePod].map StampedPod.document by decide +kernel)
    (mergeSummaryFiltered_eq _ _) (by decide +kernel)

end DsBench.Merge
