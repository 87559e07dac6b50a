import DsBench.Harness.MeasureLine
import DsBench.Harness.FleetReading
import DsBench.Harness.Walk

/-! # The sustained cell

`run_sustained_cell` measures once and records the cell. Its throughput is the last
word of the measurement line, its percentiles come from the merged output.
-/

namespace DsBench.Harness

/-! ## The recorder -/

/-- The suite's settings for one sustained cell. -/
structure SustainedSettings where
  streamCount : Nat
  imageDigest : Text
  pods : Nat
  ratePerStream : Nat
  durationSecs : Nat

inductive SustainedReason where
  | complete
  | creationChoke
deriving DecidableEq, Repr

structure SustainedRecord where
  streamCount : Nat
  imageDigest : Text
  pods : Nat
  ratePerStream : Nat
  durationSecs : Nat
  throughput : ℚ
  p50 : Option ℚ
  p99 : Option ℚ
  p999 : Option ℚ
  rssPeakMb : ℚ
  rssDriftMb : ℚ
  cpuMean : ℚ
  stable : Bool
  status : Status
  reason : SustainedReason
deriving DecidableEq, Repr

def susPct (merged : Option Text) (field : String) : Option ℚ :=
  (merged.bind (grepField field)).bind readFloat

/-- Peak and drift of the resident memory, in whole MiB; a drift under half a MiB is
none. -/
def computeServerMemMb : (rssBytes : List Nat) → ℚ × ℚ
  | [] => (0, 0)
  | first :: rest =>
      let peak := rest.foldl max first
      let drift : ℚ := ((rest.getLast?.getD first : ℚ) - first) / 1048576
      (roundHalfEven (peak / 1048576),
        if -1 / 2 < drift ∧ drift < 1 / 2 then 0 else roundHalfEven drift)

/-- The record made of what the measure function printed, of the merged output and of
the memory samples. -/
def runSustainedCell (settings : SustainedSettings) (out : Text) (merged : Option Text)
    (rssBytes : List Nat) : SustainedRecord :=
  let cpu := beforeFirst ' ' out
  let thr := (readFloat (orDefault (afterLast ' ' out) "0".toList)).getD 0
  let drift := (computeServerMemMb rssBytes).2
  { streamCount := settings.streamCount
    imageDigest := settings.imageDigest
    pods := settings.pods
    ratePerStream := settings.ratePerStream
    durationSecs := settings.durationSecs
    throughput := thr
    p50 := susPct merged "p50_ms"
    p99 := susPct merged "p99_ms"
    p999 := susPct merged "p999_ms"
    rssPeakMb := (computeServerMemMb rssBytes).1
    rssDriftMb := drift
    cpuMean := (readFloat (orDefault cpu "0".toList)).getD 0
    stable := decide (0 < thr ∧ |drift| < 50)
    status := if 0 < thr then .ok else .error
    reason := if 0 < thr then .complete else .creationChoke }

/-- The cell as the harness runs it: the measure function is `_run_cell_one`. -/
def measuredSustainedCell (settings : SustainedSettings) (merged : Option Text)
    (cpuPct : Number) (rssBytes : List Nat) : SustainedRecord :=
  runSustainedCell settings (measureLine merged cpuPct settings.pods) merged rssBytes

def tenStreams : SustainedSettings where
  streamCount := 10
  imageDigest := "digestX".toList
  pods := 1
  ratePerStream := 10
  durationSecs := 90

/-- A line of two fields, as the test of the recorder prints it. -/
example : (runSustainedCell tenStreams "7 1500".toList none []).throughput = 1500 := by
  decide +kernel

example : computeServerMemMb [10485760, 11534336, 12582912] = (12, 2) := by decide +kernel

/-! ## What the recorder reads -/

section

variable {settings : SustainedSettings} {merged : Option Text} {cpuPct : Number}
  {pods : Nat} {rssBytes : List Nat}

/-- The last word of the line is the p99, not the throughput. -/
theorem afterLast_measureLine :
    afterLast ' ' (measureLine merged cpuPct pods) =
      orDefault (measuredWord merged cpuPct pods 4) "None".toList := by
  have isNone : IsWord "None".toList := isWord_of_visible rfl rfl
  have shape : ∃ front, measureLine merged cpuPct pods =
      front ++ ' ' :: orDefault (measuredWord merged cpuPct pods 4) "None".toList :=
    ⟨cpuPct.render ++ ' ' :: (orDefault (measuredWord merged cpuPct pods 1) "0".toList ++
      ' ' :: (orDefault (measuredWord merged cpuPct pods 2) "1".toList ++
        ' ' :: orDefault (measuredWord merged cpuPct pods 3) "None".toList)),
      by simp [measureLine]⟩
  rcases shape with ⟨front, shape⟩
  rw [shape, afterLast_append ((isWord_measured isNone).notMem rfl)]

theorem throughput_measured :
    (measuredSustainedCell settings merged cpuPct rssBytes).throughput =
      (readFloat (orDefault (measuredWord merged cpuPct settings.pods 4)
        "None".toList)).getD 0 := by
  have isNone : IsWord "None".toList := isWord_of_visible rfl rfl
  rw [measuredSustainedCell, runSustainedCell, afterLast_measureLine,
    (isWord_measured isNone).orDefault "0".toList]

theorem status_eq_ok_iff (out : Text) :
    (runSustainedCell settings out merged rssBytes).status = .ok ↔
      0 < (runSustainedCell settings out merged rssBytes).throughput := by
  by_cases stored : 0 < (runSustainedCell settings out merged rssBytes).throughput
  · have ok : (runSustainedCell settings out merged rssBytes).status = .ok := if_pos stored
    exact iff_of_true ok stored
  · have failed : (runSustainedCell settings out merged rssBytes).status = .error :=
      if_neg stored
    rw [failed]
    exact iff_of_false (by decide) stored

/-! ## A fleet summary -/

def IsLatency (field : Option Json) : Prop :=
  field = none ∨ field = some .null ∨ ∃ number, field = some (.num number)

def latencyValue : Option Json → ℚ
  | some (.num number) => number.toRat
  | _ => 0

/-- The merged output holds the summary of a complete fleet, not flagged as
misaligned, that reports this throughput. -/
structure FleetSummary (merged : Option Text) (pods : Nat) (obj : Members)
    (ops : Number) : Prop where
  found : extractMerged merged = some obj
  aligned : windowsAligned obj = true
  complete : fleetComplete obj (some pods) = some true
  reported : obj.get "aggregate_ops_per_sec".toList = some (.num ops)
  p50 : IsLatency (obj.get "p50_ms".toList)
  p99 : IsLatency (obj.get "p99_ms".toList)

theorem isWord_printLatency {obj : Members} {key : String}
    (latency : IsLatency (obj.get key.toList)) : IsWord (printLatency (some obj) key) := by
  rw [printLatency]
  rw [Option.bind_some]
  rcases latency with absent | null | ⟨number, reported⟩
  · rw [absent]
    exact isWord_of_visible rfl rfl
  · rw [null]
    exact isWord_of_visible rfl rfl
  · rw [reported]
    exact isWord_printNumber number

theorem readFloat_printLatency {obj : Members} {key : String}
    (latency : IsLatency (obj.get key.toList)) :
    (readFloat (printLatency (some obj) key)).getD 0 = latencyValue (obj.get key.toList) := by
  rw [printLatency]
  rw [Option.bind_some]
  rcases latency with absent | null | ⟨number, reported⟩
  · rw [absent]
    decide +kernel
  · rw [null]
    decide +kernel
  · rw [reported]
    exact congrArg (fun read => read.getD 0) (readFloat_printNumber number)

theorem FleetSummary.extractThroughput {obj : Members} {ops : Number}
    (summary : FleetSummary merged pods obj ops) :
    extractThroughput merged (some pods) = some ops.toRat := by
  rw [extractThroughput_of_accepts summary.found summary.aligned summary.complete,
    throughputField, summary.reported]
  rfl

/-- From a fleet summary the cell stores the p99 as its throughput. -/
theorem FleetSummary.stores_p99 {obj : Members} {ops : Number}
    (summary : FleetSummary merged settings.pods obj ops) (cpuPct : Number)
    (rssBytes : List Nat) :
    (measuredSustainedCell settings merged cpuPct rssBytes).throughput =
      latencyValue (obj.get "p99_ms".toList) := by
  have p50Word := isWord_printLatency summary.p50
  have p99Word := isWord_printLatency summary.p99
  have word : measuredWord merged cpuPct settings.pods 4 =
      printLatency (some obj) "p99_ms" := by
    rw [(measuredWord_of_reading summary.extractThroughput).2.2 1, summary.found,
      firstLine_word p50Word, firstLine_single p99Word, words_cons p50Word,
      words_single p99Word]
    rfl
  rw [throughput_measured, word, p99Word.orDefault, readFloat_printLatency summary.p99]

open DsBench.Merge in
/-- The summary that `hdr-merge` prints, when every pod reported in aligned windows. -/
theorem fleetSummary_print {log : Text} (noBrace : '{' ∉ log) {summary : MergeSummary}
    {ops : ℚ} (reported : summary.aggregateOpsPerSec = some ops)
    (aligned : summary.windowsAligned.getD true = true)
    (complete : ∀ arrived, summary.podsReported = some arrived → pods ≤ arrived) :
    FleetSummary (some (log ++ summary.print)) pods summary.members (.ofRat ops) where
  found := extractMerged_print noBrace summary
  aligned := (windowsAligned_members summary).trans aligned
  complete := by
    rw [fleetComplete_members]
    cases arrivals : summary.podsReported with
    | none => rfl
    | some arrived => simp [complete arrived arrivals]
  reported := by
    rw [MergeSummary.get_field (List.mem_of_getElem? (show summary.fields[6]? = _ from rfl)),
      reported]
    rfl
  p50 := .inr (.inr ⟨.ofRat summary.p50Ms,
    MergeSummary.get_field (List.mem_of_getElem? (show summary.fields[1]? = _ from rfl))⟩)
  p99 := .inr (.inr ⟨.ofRat summary.p99Ms,
    MergeSummary.get_field (List.mem_of_getElem? (show summary.fields[3]? = _ from rfl))⟩)

end

/-- The sustained cell stores the throughput of a fleet summary exactly when the
summary's p99 is the same number. -/
theorem sustained_throughput_iff (settings : SustainedSettings) (merged : Option Text)
    (cpuPct : Number) (rssBytes : List Nat) {obj : Members} {ops : Number}
    (summary : FleetSummary merged settings.pods obj ops) :
    ((measuredSustainedCell settings merged cpuPct rssBytes).throughput = ops.toRat ∧
      ((measuredSustainedCell settings merged cpuPct rssBytes).status = .ok ↔
        0 < ops.toRat)) ↔
      latencyValue (obj.get "p99_ms".toList) = ops.toRat := by
  have stored := summary.stores_p99 cpuPct rssBytes
  have status : (measuredSustainedCell settings merged cpuPct rssBytes).status = .ok ↔
      0 < (measuredSustainedCell settings merged cpuPct rssBytes).throughput :=
    status_eq_ok_iff _
  rw [status, stored]
  constructor
  · intro agrees
    rcases agrees with ⟨same, -⟩
    exact same
  · intro same
    rw [same]
    exact ⟨rfl, Iff.rfl⟩

open DsBench.Merge

/-- One pod at 1500 operations per second with a p99 of 8 ms. -/
def steadySummary : MergeSummary where
  mergedCount := 135000
  p50Ms := 6 / 5
  p90Ms := 5
  p99Ms := 8
  p999Ms := 20
  maxMs := 31
  aggregateOpsPerSec := some 1500
  aggregateMbPerSec := none
  bytesReceivedTotal := none
  eventsReceivedTotal := none
  eventsPerSec := none
  aggregateEventsPerSec := none
  bytesPerSec := none
  backpressureTotal := none
  otherErrTotal := none
  measureSpanSecs := some 90
  measureWindowSecs := some 90
  windowsAligned := some true
  measureOverlapStartUnixMs := none
  measureOverlapEndUnixMs := none
  podsReported := some 1

theorem steadySummary_read :
    FleetSummary (some steadySummary.print) tenStreams.pods steadySummary.members
      (.ofRat 1500) :=
  fleetSummary_print (by simp : '{' ∉ ([] : Text)) rfl rfl (by decide)

/-- Of a steady cell at 1500 operations per second the stored throughput is 8. -/
theorem steady_cell_stores_latency :
    FleetSummary (some steadySummary.print) tenStreams.pods steadySummary.members
        (.ofRat 1500) ∧
      (measuredSustainedCell tenStreams (some steadySummary.print) (.int 7) []).throughput =
        8 ∧
      ¬ ((measuredSustainedCell tenStreams (some steadySummary.print) (.int 7)
          []).throughput = (Number.ofRat 1500).toRat ∧
        ((measuredSustainedCell tenStreams (some steadySummary.print) (.int 7)
          []).status = .ok ↔ 0 < (Number.ofRat 1500).toRat)) := by
  have stored : (measuredSustainedCell tenStreams (some steadySummary.print)
      (.int 7) []).throughput = 8 := by
    rw [steadySummary_read.stores_p99]
    decide +kernel
  refine ⟨steadySummary_read, stored, fun agrees => ?_⟩
  rw [stored] at agrees
  exact absurd agrees.1 (by decide +kernel)

/-- The throughput of the steady cell is stored only if it is also its p99. -/
theorem steady_cell_iff :
    ((measuredSustainedCell tenStreams (some steadySummary.print) (.int 7)
        []).throughput = (Number.ofRat 1500).toRat ∧
      ((measuredSustainedCell tenStreams (some steadySummary.print) (.int 7)
        []).status = .ok ↔ 0 < (Number.ofRat 1500).toRat)) ↔
      latencyValue (steadySummary.members.get "p99_ms".toList) = (Number.ofRat 1500).toRat :=
  sustained_throughput_iff tenStreams _ (.int 7) [] steadySummary_read

end DsBench.Harness
