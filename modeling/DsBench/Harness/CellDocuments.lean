import DsBench.Foundation.PythonJson
import DsBench.Foundation.SavedDocument
import DsBench.Foundation.PythonValue
import DsBench.Harness.CellStores

/-! # The cell stores as JSON documents

The store modules as they work on the dictionary that `json.load` returns. What is not there
raises where the modules index it, and is passed over where they use `get`.
-/

namespace DsBench.Harness.CellDocuments

/-! ## What is stored of a measurement -/

def optional (value : Option ℚ) : Json := value.elim .null .ofF64

def Status.text : Status → Text
  | .ok => "ok".toList
  | .error => "error".toList

def reasonText : Reason → Text
  | .plateau => "plateau".toList
  | .ladderExhausted => "ladder_exhausted".toList
  | .creationChoke => "creation_choke".toList
  | .misalignedWindows => "misaligned_windows".toList

/-- `[pods, thr]`, with the latencies where there are some. -/
def walkEntryJson (entry : WalkEntry) : Json :=
  .arr (.ofList (Json.ofU64 entry.pods :: .ofF64 entry.thr ::
    entry.latency.elim [] fun (p50, p99) => [.ofF64 p50, optional p99]))

def cellFields (cell : CellRecord) : List (Text × Json) := [
  ("stream_count".toList, .ofU64 cell.streamCount),
  ("image_digest".toList, .str cell.imageDigest),
  ("walk".toList, .arr (.ofList (cell.walk.map walkEntryJson))),
  ("pinned_pods".toList, cell.pinnedPods.elim .null .ofU64),
  ("throughput".toList, .ofF64 cell.throughput),
  ("p50".toList, optional cell.p50),
  ("p99".toList, optional cell.p99),
  ("pod_mem_mb".toList, optional cell.podMemMb),
  ("saturated".toList, .bool cell.saturated),
  ("status".toList, .str (Status.text cell.status)),
  ("reason".toList, .str (reasonText cell.reason))]

def sustainedReasonText : SustainedReason → Text
  | .complete => "complete".toList
  | .creationChoke => "creation_choke".toList

def sustainedFields (cell : SustainedRecord) : List (Text × Json) := [
  ("stream_count".toList, .ofU64 cell.streamCount),
  ("image_digest".toList, .str cell.imageDigest),
  ("pods".toList, .ofU64 cell.pods),
  ("rate_per_stream".toList, .ofU64 cell.ratePerStream),
  ("duration_secs".toList, .ofU64 cell.durationSecs),
  ("throughput".toList, .ofF64 cell.throughput),
  ("p50".toList, optional cell.p50),
  ("p99".toList, optional cell.p99),
  ("p999".toList, optional cell.p999),
  ("rss_peak_mb".toList, .ofF64 cell.rssPeakMb),
  ("rss_drift_mb".toList, .ofF64 cell.rssDriftMb),
  ("cpu_mean".toList, .ofF64 cell.cpuMean),
  ("stable".toList, .bool cell.stable),
  ("status".toList, .str (Status.text cell.status)),
  ("reason".toList, .str (sustainedReasonText cell.reason))]

def catchupReasonText : CatchupReason → Text
  | .complete => "complete".toList
  | .creationChoke => "creation_choke".toList

def catchupFields (cell : CatchupRecord) : List (Text × Json) := [
  ("pre_events".toList, .ofU64 cell.preEvents),
  ("image_digest".toList, .str cell.imageDigest),
  ("clients".toList, .ofU64 cell.clients),
  ("event_bytes".toList, .ofU64 cell.eventBytes),
  ("snapshot_bytes".toList, .ofU64 cell.snapshotBytes),
  ("pods".toList, .ofU64 cell.pods),
  ("p50".toList, optional cell.p50),
  ("p99".toList, optional cell.p99),
  ("bytes_received_total".toList, optional cell.bytesReceivedTotal),
  ("body_kb".toList, optional cell.bodyKb),
  ("mb_per_sec".toList, optional cell.mbPerSec),
  ("status".toList, .str (Status.text cell.status)),
  ("reason".toList, .str (catchupReasonText cell.reason))]

def readsReasonText : ReadsReason → Text
  | .complete => "complete".toList
  | .noReads => "no_reads".toList

def readsFields (entry : ReadsEntry) : List (Text × Json) := [
  ("connections".toList, .ofU64 entry.connections),
  ("ops_per_sec".toList, optional entry.opsPerSec),
  ("bytes_per_sec".toList, optional entry.bytesPerSec),
  ("p50".toList, optional entry.p50),
  ("p99".toList, optional entry.p99),
  ("backpressure".toList, .num (.int entry.backpressure)),
  ("other_err".toList, .num (.int entry.otherErr)),
  ("status".toList, .str (Status.text entry.status)),
  ("reason".toList, .str (readsReasonText entry.reason))]

def mixedReasonText : MixedReason → Text
  | .complete => "complete".toList
  | .noMergedResult => "no_merged_result".toList
  | .noWrites => "no_writes".toList
  | .noReads => "no_reads".toList
  | .noDelivery => "no_delivery".toList

/-- A sum of counts is a whole number. -/
def countJson (count : ℚ) : Json := .num (.int count.num)

def metricsFields (metrics : MixedMetrics) : List (Text × Json) := [
  ("write_ops_per_sec".toList, optional metrics.writeOpsPerSec),
  ("write_p50".toList, optional metrics.writeP50),
  ("write_p99".toList, optional metrics.writeP99),
  ("read_ops_per_sec".toList, optional metrics.readOpsPerSec),
  ("read_mib_per_sec".toList, optional metrics.readMibPerSec),
  ("read_p50".toList, optional metrics.readP50),
  ("read_p99".toList, optional metrics.readP99),
  ("events_per_sec".toList, optional metrics.eventsPerSec),
  ("delivery_p50".toList, optional metrics.deliveryP50),
  ("delivery_p99".toList, optional metrics.deliveryP99),
  ("write_ok".toList, countJson metrics.writeOk),
  ("write_bp".toList, countJson metrics.writeBp),
  ("write_err".toList, countJson metrics.writeErr),
  ("read_ok".toList, countJson metrics.readOk),
  ("read_bp".toList, countJson metrics.readBp),
  ("read_err".toList, countJson metrics.readErr),
  ("events_received".toList, countJson metrics.eventsReceived),
  ("control_events_received".toList, countJson metrics.controlEventsReceived),
  ("elapsed_secs".toList, .ofF64 metrics.elapsedSecs),
  ("drive_secs".toList, .ofF64 metrics.driveSecs)]

/-- `dict(m, level=level, ..)`: the metrics, if there are some, and the load behind them. -/
def mixedFields (entry : MixedEntry) : List (Text × Json) :=
  entry.metrics.elim [] metricsFields ++ [
    ("level".toList, .ofU64 entry.level),
    ("readers".toList, .ofU64 entry.readers),
    ("subscribers".toList, .ofU64 entry.subscribers),
    ("writer_rate".toList, .ofU64 entry.writerRate),
    ("read_rate".toList, .ofU64 entry.readRate),
    ("status".toList, .str (Status.text entry.status)),
    ("reason".toList, .str (mixedReasonText entry.reason))]

/-! ## The document -/

/-- What `_load` returns where there is no file. -/
def emptyDocument : Json := .obj (.ofList [("cells".toList, .obj .nil)])

/-- `data["cells"]`, with the members of the document it is in. -/
def cellsOf : Json → Option (Members × Members)
  | .obj members =>
      match members.get "cells".toList with
      | some (.obj cells) => some (members, cells)
      | _ => none
  | _ => none

/-- The document with `data["cells"][key] = cell`. -/
def withCell (members cells : Members) (key : Nat) (cell : Members) : Json :=
  .obj (members.set "cells".toList (.obj (cells.set (decimal key) (.obj cell))))

/-- The cell of a key if it is of that digest. The outer `none` raises. -/
def cellOf (data : Json) (key : Nat) (imageDigest : Text) : Option (Option Members) :=
  match cellsOf data with
  | none => none
  | some (_, cells) =>
      match cells.get (decimal key) with
      | none => some none
      | some .null => some none
      | some (.obj cell) =>
          if cell.get "image_digest".toList = some (.str imageDigest) then some (some cell)
          else some none
      | some _ => none

def hasStatus (status : String) (members : Members) : Prop :=
  members.get "status".toList = some (.str status.toList)

instance (status : String) (members : Members) : Decidable (hasStatus status members) :=
  inferInstanceAs (Decidable (members.get "status".toList = some (.str status.toList)))

def isTrue (found : Option Json) : Bool := found.any Json.truthy

/-! ## Stores of one measurement per cell -/

/-- `record`: the cell takes the place of what was there, whatever its digest. -/
def recordCell (key : Nat) (cell : Members) (data : Json) : Outcome Json :=
  match cellsOf data with
  | none => .raised
  | some (members, cells) => .saved (withCell members cells key cell)

/-- What `cells.status_of` makes of a cell. -/
def readCell (cell : Members) : CellStatus :=
  if hasStatus "error" cell then .error
  else if isTrue (cell.get "saturated".toList) then .saturated
  else .resume

/-- What `status_of` of the sustained and the catch-up store makes of a cell. -/
def readSingle (cell : Members) : CellStatus :=
  if hasStatus "error" cell then .error
  else if hasStatus "ok" cell then .done
  else .absent

/-- `status_of` of the stores that have one measurement per cell. -/
def statusOf (read : Members → CellStatus) (data : Json) (key : Nat) (imageDigest : Text) :
    Option CellStatus :=
  (cellOf data key imageDigest).map fun found => found.elim .absent read

/-! ## Stores of a sweep per cell -/

/-- What the levels of a sweep are filed under: `connections` or `levels`. -/
structure SweepNames where
  levels : String
  distinct : levels.toList ∉
    ["stream_count".toList, "image_digest".toList, "complete".toList]

def readsNames : SweepNames := ⟨"connections", by decide⟩

def mixedNames : SweepNames := ⟨"levels", by decide⟩

section

variable (names : SweepNames)

def freshFields (streamCount : Nat) (imageDigest : Text) : List (Text × Json) := [
  ("stream_count".toList, .ofU64 streamCount),
  ("image_digest".toList, .str imageDigest),
  ("complete".toList, .bool false),
  (names.levels.toList, .obj .nil)]

/-- `_cell`: the cell there is, or a new one. -/
def sweepCell (data : Json) (streamCount : Nat) (imageDigest : Text) : Option Members :=
  (cellOf data streamCount imageDigest).map fun found =>
    found.getD (.ofList (freshFields names streamCount imageDigest))

/-- `cell["connections"][str(level)] = entry` -/
def withLevel (cell : Members) (level : Nat) (entry : Members) : Option Members :=
  match cell.get names.levels.toList with
  | some (.obj levels) =>
      some (cell.set names.levels.toList (.obj (levels.set (decimal level) (.obj entry))))
  | _ => none

/-- `record` and `record_merged`, once the entry is made. -/
def recordLevel (streamCount level : Nat) (imageDigest : Text) (entry : Members)
    (data : Json) : Outcome Json :=
  match cellsOf data, (sweepCell names data streamCount imageDigest).bind
      fun cell => withLevel names cell level entry with
  | some (members, cells), some cell => .saved (withCell members cells streamCount cell)
  | _, _ => .raised

def markComplete (streamCount : Nat) (imageDigest : Text) (data : Json) : Outcome Json :=
  match cellsOf data, cellOf data streamCount imageDigest with
  | some (members, cells), some (some cell) =>
      .saved (withCell members cells streamCount (cell.set "complete".toList (.bool true)))
  | some _, some none => .kept
  | _, _ => .raised

/-- `conn_status` and `level_status` -/
def levelStatus (data : Json) (streamCount level : Nat) (imageDigest : Text) :
    Option CellStatus :=
  match cellOf data streamCount imageDigest with
  | none => none
  | some none => some .absent
  | some (some cell) =>
      match cell.get names.levels.toList with
      | some (.obj levels) =>
          match levels.get (decimal level) with
          | none => some .absent
          | some .null => some .absent
          | some (.obj entry) => some (if hasStatus "ok" entry then .done else .absent)
          | some _ => none
      | _ => none

def anyError : List Json → Option Bool
  | [] => some false
  | .obj entry :: rest => if hasStatus "error" entry then some true else anyError rest
  | _ :: _ => none

/-- `status_of` of a sweep. A cell without levels has none in error. -/
def sweepStatus (data : Json) (streamCount : Nat) (imageDigest : Text) :
    Option CellStatus :=
  match cellOf data streamCount imageDigest with
  | none => none
  | some none => some .absent
  | some (some cell) =>
      if !isTrue (cell.get "complete".toList) then some .absent
      else
        match cell.get names.levels.toList with
        | none => some .done
        | some (.obj levels) =>
            (anyError levels.values).map fun failed => if failed then .error else .done
        | some _ => none

end

end DsBench.Harness.CellDocuments
