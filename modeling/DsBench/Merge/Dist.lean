import DsBench.Foundation.JsonRendering

/-! # The merge of per-pod results

`hdr-merge` as the coordinator runs it over the downloaded files: the headline scan
of the per-pod result documents, the summary built from it, and the text printed.
Rates and times are exact. What the merged histogram says is a parameter.
-/

namespace DsBench.Merge

/-! ## The results directory -/

/-- A file of the results directory; `text` is `none` when it cannot be read as
UTF-8. -/
structure DirEntry where
  name : Text
  text : Option Text
deriving DecidableEq, Repr

/-- `Path::extension`: what follows the last dot, unless the name starts with it. -/
def extension (name : Text) : Option Text :=
  let after := (name.reverse.takeWhile fun character => character ≠ '.').reverse
  if after.length + 1 < name.length then some after else none

example : extension "write-3.json".toList = some "json".toList := by decide

def DirEntry.document (entry : DirEntry) : Option Json :=
  if extension entry.name = some "json".toList then entry.text.bind loads else none

/-! ## The headline scan -/

structure HeadlineAcc where
  sawOps : Bool := false
  ops : ℚ := 0
  sawCatchup : Bool := false
  mbPerSec : ℚ := 0
  bytesReceived : Nat := 0
  sawFanout : Bool := false
  eventsReceived : Nat := 0
  maxDurationSecs : ℚ := 0
  sawMultiFanout : Bool := false
  multiFanoutEventsPerSec : ℚ := 0
  sawReads : Bool := false
  readsBytesPerSec : ℚ := 0
  readsBackpressure : Nat := 0
  readsOtherErr : Nat := 0
  winMinStartMs : Option Nat := none
  winMaxEndMs : Option Nat := none
  winMaxWindowMs : Nat := 0
  winMaxStartMs : Option Nat := none
  winMinEndMs : Option Nat := none
  podsReported : Nat := 0

def f64Field (key : String) (document : Json) : Option ℚ :=
  (document.get key.toList).bind Json.asF64

def u64Field (key : String) (document : Json) : Option Nat :=
  (document.get key.toList).bind Json.asU64

def windowStamps (document : Json) : Option (Nat × Nat) :=
  match u64Field "measure_start_unix_ms" document,
      u64Field "measure_end_unix_ms" document with
  | some start, some finish => some (start, finish)
  | _, _ => none

def scenarioOf (document : Json) : Text :=
  ((document.get "scenario".toList).bind Json.asStr).getD []

namespace HeadlineAcc

def stampWindow (acc : HeadlineAcc) (start finish : Nat) : HeadlineAcc :=
  { acc with
    winMinStartMs := some (acc.winMinStartMs.elim start (min · start))
    winMaxEndMs := some (acc.winMaxEndMs.elim finish (max · finish))
    winMaxStartMs := some (acc.winMaxStartMs.elim start (max · start))
    winMinEndMs := some (acc.winMinEndMs.elim finish (min · finish))
    winMaxWindowMs := max acc.winMaxWindowMs (finish - start) }

def scanStamps (acc : HeadlineAcc) (document : Json) : HeadlineAcc :=
  match windowStamps document with
  | some (start, finish) => acc.stampWindow start finish
  | none => acc

def scanOps (acc : HeadlineAcc) (document : Json) : HeadlineAcc :=
  match f64Field "aggregate_ops_per_sec" document with
  | some ops => { acc with sawOps := true, ops := acc.ops + ops }
  | none => acc

def scanCatchup (acc : HeadlineAcc) (document : Json) : HeadlineAcc :=
  { acc with
    sawCatchup := true
    mbPerSec := acc.mbPerSec + (f64Field "aggregate_mb_per_sec" document).getD 0
    bytesReceived := acc.bytesReceived +
      (u64Field "bytes_received_total" document).getD 0 }

def scanFanout (acc : HeadlineAcc) (document : Json) : HeadlineAcc :=
  let duration := ((f64Field "duration_secs" document).or
    (f64Field "elapsed_secs" document)).getD 0
  { acc with
    sawFanout := true
    eventsReceived := acc.eventsReceived + (u64Field "events_received" document).getD 0
    maxDurationSecs :=
      if duration > acc.maxDurationSecs then duration else acc.maxDurationSecs }

def scanMultiFanout (acc : HeadlineAcc) (document : Json) : HeadlineAcc :=
  { acc with
    sawMultiFanout := true
    multiFanoutEventsPerSec := acc.multiFanoutEventsPerSec +
      (f64Field "aggregate_events_per_sec" document).getD 0 }

def scanReadsBytes (acc : HeadlineAcc) (document : Json) : HeadlineAcc :=
  match f64Field "bytes_per_sec" document with
  | some bytes =>
      { acc with sawReads := true, readsBytesPerSec := acc.readsBytesPerSec + bytes }
  | none => acc

def scanReadsCounts (acc : HeadlineAcc) (document : Json) : HeadlineAcc :=
  match document.get "counts".toList with
  | some counts =>
      { acc with
        readsBackpressure := acc.readsBackpressure +
          (u64Field "backpressure" counts).getD 0
        readsOtherErr := acc.readsOtherErr + (u64Field "other_err" counts).getD 0 }
  | none => acc

def scanScenario (acc : HeadlineAcc) (document : Json) : HeadlineAcc :=
  let scenario := scenarioOf document
  if "catch-up".toList.isPrefixOf scenario || "bootstrap".toList.isPrefixOf scenario then
    acc.scanCatchup document
  else if scenario = "fanout".toList then acc.scanFanout document
  else if scenario = "multi-fanout".toList then acc.scanMultiFanout document
  else if scenario = "reads".toList then
    ((acc.scanOps document).scanReadsBytes document).scanReadsCounts document
  else acc.scanOps document

def scanDocument (acc : HeadlineAcc) (document : Json) : HeadlineAcc :=
  ({ acc with podsReported := acc.podsReported + 1 }.scanStamps document).scanScenario
    document

end HeadlineAcc

def scanHeadlines (resultsDir : Option (List DirEntry)) : HeadlineAcc :=
  ((resultsDir.getD []).filterMap DirEntry.document).foldl HeadlineAcc.scanDocument {}

/-! ## The summary -/

/-- What the merged histogram says, latencies in microseconds. -/
structure Histogram where
  len : Nat
  p50 : Nat
  p90 : Nat
  p99 : Nat
  p999 : Nat
  max : Nat
deriving DecidableEq, Repr

structure MergeSummary where
  mergedCount : Nat
  p50Ms : ℚ
  p90Ms : ℚ
  p99Ms : ℚ
  p999Ms : ℚ
  maxMs : ℚ
  aggregateOpsPerSec : Option ℚ
  aggregateMbPerSec : Option ℚ
  bytesReceivedTotal : Option Nat
  eventsReceivedTotal : Option Nat
  eventsPerSec : Option ℚ
  aggregateEventsPerSec : Option ℚ
  bytesPerSec : Option ℚ
  backpressureTotal : Option Nat
  otherErrTotal : Option Nat
  measureSpanSecs : Option ℚ
  measureWindowSecs : Option ℚ
  windowsAligned : Option Bool
  measureOverlapStartUnixMs : Option Nat
  measureOverlapEndUnixMs : Option Nat
  podsReported : Option Nat
deriving DecidableEq, Repr

def windowAlignFactor : ℚ := 5 / 4

def ms (micros : Nat) : ℚ := micros / 1000

def HeadlineAcc.span (acc : HeadlineAcc) : Option (ℚ × ℚ) :=
  match acc.winMinStartMs, acc.winMaxEndMs with
  | some start, some finish =>
      if acc.winMaxWindowMs > 0 then some (ms (finish - start), ms acc.winMaxWindowMs)
      else none
  | _, _ => none

def HeadlineAcc.overlap (acc : HeadlineAcc) : Option (Nat × Nat) :=
  match acc.winMaxStartMs, acc.winMinEndMs with
  | some start, some finish => if finish > start then some (start, finish) else none
  | _, _ => none

/-- The headline fields: catch-up comes before fan-out, and that before ops/s. -/
def HeadlineAcc.summarize (acc : HeadlineAcc) (histogram : Histogram) : MergeSummary where
  mergedCount := histogram.len
  p50Ms := ms histogram.p50
  p90Ms := ms histogram.p90
  p99Ms := ms histogram.p99
  p999Ms := ms histogram.p999
  maxMs := ms histogram.max
  aggregateOpsPerSec :=
    if acc.sawCatchup then none else if acc.sawFanout then none
    else if acc.sawMultiFanout then none else if acc.sawOps then some acc.ops else none
  aggregateMbPerSec := if acc.sawCatchup then some acc.mbPerSec else none
  bytesReceivedTotal := if acc.sawCatchup then some acc.bytesReceived else none
  eventsReceivedTotal :=
    if acc.sawCatchup then none else if acc.sawFanout then some acc.eventsReceived else none
  eventsPerSec :=
    if acc.sawCatchup then none
    else if acc.sawFanout then
      if acc.maxDurationSecs > 0 then some (acc.eventsReceived / acc.maxDurationSecs)
      else none
    else none
  aggregateEventsPerSec :=
    if acc.sawCatchup then none else if acc.sawFanout then none
    else if acc.sawMultiFanout then some acc.multiFanoutEventsPerSec else none
  bytesPerSec :=
    if acc.sawCatchup then none else if acc.sawFanout then none
    else if acc.sawMultiFanout then none
    else if acc.sawOps then if acc.sawReads then some acc.readsBytesPerSec else none
    else none
  backpressureTotal := if acc.sawReads then some acc.readsBackpressure else none
  otherErrTotal := if acc.sawReads then some acc.readsOtherErr else none
  measureSpanSecs := acc.span.map Prod.fst
  measureWindowSecs := acc.span.map Prod.snd
  windowsAligned := acc.span.map fun (span, window) =>
    decide (span ≤ windowAlignFactor * window)
  measureOverlapStartUnixMs := acc.overlap.map Prod.fst
  measureOverlapEndUnixMs := acc.overlap.map Prod.snd
  podsReported := if acc.podsReported > 0 then some acc.podsReported else none

/-- `none` when the histograms of the directory do not merge. -/
def mergeSummaryFiltered (histogram : Option Histogram)
    (resultsDir : Option (List DirEntry)) : Option MergeSummary :=
  histogram.map (scanHeadlines resultsDir).summarize

/-! ## The text printed -/

namespace MergeSummary

/-- The fields in the order of the struct, those left out as `none`. -/
def fields (summary : MergeSummary) : List (Text × Option Json) := [
  ("merged_count".toList, some (.ofU64 summary.mergedCount)),
  ("p50_ms".toList, some (.ofF64 summary.p50Ms)),
  ("p90_ms".toList, some (.ofF64 summary.p90Ms)),
  ("p99_ms".toList, some (.ofF64 summary.p99Ms)),
  ("p999_ms".toList, some (.ofF64 summary.p999Ms)),
  ("max_ms".toList, some (.ofF64 summary.maxMs)),
  ("aggregate_ops_per_sec".toList, summary.aggregateOpsPerSec.map .ofF64),
  ("aggregate_mb_per_sec".toList, summary.aggregateMbPerSec.map .ofF64),
  ("bytes_received_total".toList, summary.bytesReceivedTotal.map .ofU64),
  ("events_received_total".toList, summary.eventsReceivedTotal.map .ofU64),
  ("events_per_sec".toList, summary.eventsPerSec.map .ofF64),
  ("aggregate_events_per_sec".toList, summary.aggregateEventsPerSec.map .ofF64),
  ("bytes_per_sec".toList, summary.bytesPerSec.map .ofF64),
  ("backpressure_total".toList, summary.backpressureTotal.map .ofU64),
  ("other_err_total".toList, summary.otherErrTotal.map .ofU64),
  ("measure_span_secs".toList, summary.measureSpanSecs.map .ofF64),
  ("measure_window_secs".toList, summary.measureWindowSecs.map .ofF64),
  ("windows_aligned".toList, summary.windowsAligned.map .bool),
  ("measure_overlap_start_unix_ms".toList, summary.measureOverlapStartUnixMs.map .ofU64),
  ("measure_overlap_end_unix_ms".toList, summary.measureOverlapEndUnixMs.map .ofU64),
  ("pods_reported".toList, summary.podsReported.map .ofU64)]

def members (summary : MergeSummary) : Members := .ofFields summary.fields

def toJson (summary : MergeSummary) : Json := .obj summary.members

/-- What `ds-bench hdr-merge` prints. -/
def print (summary : MergeSummary) : Text :=
  summary.toJson.render .serdePretty 0 ++ ['\n']

def fieldNames : List Text := [
  "merged_count".toList, "p50_ms".toList, "p90_ms".toList, "p99_ms".toList,
  "p999_ms".toList, "max_ms".toList, "aggregate_ops_per_sec".toList,
  "aggregate_mb_per_sec".toList, "bytes_received_total".toList,
  "events_received_total".toList, "events_per_sec".toList,
  "aggregate_events_per_sec".toList, "bytes_per_sec".toList,
  "backpressure_total".toList, "other_err_total".toList, "measure_span_secs".toList,
  "measure_window_secs".toList, "windows_aligned".toList,
  "measure_overlap_start_unix_ms".toList, "measure_overlap_end_unix_ms".toList,
  "pods_reported".toList]

theorem fields_names (summary : MergeSummary) :
    summary.fields.map Prod.fst = fieldNames := rfl

theorem fields_distinct (summary : MergeSummary) :
    (summary.fields.map Prod.fst).Nodup := by
  rw [fields_names]
  decide +kernel

theorem get_field {summary : MergeSummary} {key : Text} {value : Option Json}
    (member : (key, value) ∈ summary.fields) : summary.members.get key = value :=
  Members.get_ofFields summary.fields_distinct member

end MergeSummary

end DsBench.Merge
