import DsBench.Foundation.FieldSearch
import DsBench.Foundation.PythonValue
import DsBench.Harness.CellStores

/-! # The recorders of reads, catch-up and mixed cells

What `run_reads_cell`, `run_catchup_cell` and `run_mixed_cell` make of the merged output
of a fleet: the fields they take from it, and the test they accept it by.
-/

namespace DsBench.Harness

/-- `float(text)` of a field, or of the default if the field was not found. -/
def floatOr (found : Option Text) (default : String) : Option ℚ :=
  readFloat (orDefault (found.getD []) default.toList)

/-- `int(float(text))`, zero where it raises. -/
def intOr (found : Option Text) (default : String) : Int :=
  ((floatOr found default).map fun value => value.num.tdiv value.den).getD 0

/-! ## Reads -/

def rdField (merged : Option Text) (field : String) : Option Text :=
  merged.bind (grepSignedField field)

/-- `record_reads_cell` on the fields of one connection level. -/
def recordReadsCell (merged : Option Text) (connections : Nat) : ReadsEntry :=
  let p99 := floatOr (rdField merged "p99_ms") "None"
  let ok := p99.any fun value => decide (0 < value)
  { connections := connections
    opsPerSec := floatOr (rdField merged "aggregate_ops_per_sec") "0"
    bytesPerSec := floatOr (rdField merged "bytes_per_sec") "0"
    p50 := floatOr (rdField merged "p50_ms") "None"
    p99 := p99
    backpressure := intOr (rdField merged "backpressure_total") "0"
    otherErr := intOr (rdField merged "other_err_total") "0"
    status := if ok then .ok else .error
    reason := if ok then .complete else .noReads }

/-! ## Catch-up -/

structure CatchupSettings where
  preEvents : Nat
  imageDigest : Text
  clients : Nat
  eventBytes : Nat
  snapshotBytes : Nat
  pods : Nat

def cuField (merged : Option Text) (field : String) : Option Text :=
  merged.bind (grepField field)

/-- `round(bytes / clients / 1024, 1)`, absent when either is zero or missing. -/
def bodyKb (bytes : Option ℚ) (clients : Nat) : Option ℚ :=
  if clients = 0 then none
  else (bytes.filter fun value => decide (value ≠ 0)).map fun value =>
    roundHalfEven (value / clients / 1024 * 10) / 10

def runCatchupCell (settings : CatchupSettings) (merged : Option Text) : CatchupRecord :=
  let p99 := floatOr (cuField merged "p99_ms") "None"
  let bytes := floatOr (cuField merged "bytes_received_total") "None"
  let ok := p99.any fun value => decide (0 < value)
  { preEvents := settings.preEvents
    imageDigest := settings.imageDigest
    clients := settings.clients
    eventBytes := settings.eventBytes
    snapshotBytes := settings.snapshotBytes
    pods := settings.pods
    p50 := floatOr (cuField merged "p50_ms") "None"
    p99 := p99
    bytesReceivedTotal := bytes
    bodyKb := bodyKb bytes settings.clients
    mbPerSec := floatOr (cuField merged "aggregate_mb_per_sec") "None"
    status := if ok then .ok else .error
    reason := if ok then .complete else .creationChoke }

/-! ## Mixed -/

def marker : Text := "\x7b\"write\":".toList

def fromMarker : Text → Option Text
  | [] => none
  | character :: rest =>
      if marker.isPrefixOf (character :: rest) then some (character :: rest)
      else fromMarker rest

def parseMerged (text : Text) : Option Json := (fromMarker text).bind loads

/-- `value or …`: what is falsy counts as absent. -/
def truthy (value : Option Json) : Option Json := value.filter Json.truthy

def fieldOf (document : Option Json) (key : String) : Option Json :=
  document.bind fun value => value.get key.toList

/-- `value or 0`. -/
def numberOr0 (value : Option Json) : ℚ := ((truthy value).bind Json.asPyNumber).getD 0

def elements : Items → List Json
  | .nil => []
  | .cons head tail => head :: elements tail

def podsOf (doc : Json) : List Json :=
  match truthy (doc.get "pods".toList) with
  | some (.arr items) => elements items
  | _ => []

/-- `max(…, default=0)`. -/
def maxOr0 : List ℚ → ℚ
  | [] => 0
  | first :: rest => rest.foldl max first

/-- The window of a pod: its drive time or, if it has none, its elapsed time. -/
def podWindow (pod : Json) : ℚ :=
  numberOr0 ((truthy (fieldOf (some pod) "drive_secs")).or
    (fieldOf (some pod) "elapsed_secs"))

def csum (pods : List Json) (field sub : String) : ℚ :=
  (pods.map fun pod => numberOr0 (fieldOf (truthy (fieldOf (some pod) field)) sub)).sum

def fsum (pods : List Json) (field : String) : ℚ :=
  (pods.map fun pod => numberOr0 (fieldOf (some pod) field)).sum

/-- `_pos`: the percentile of an empty histogram counts as absent. -/
def pos (value : Option Json) : Option ℚ :=
  (value.bind Json.asPyNumber).filter fun number => decide (0 < number)

def metricsFromMerged (doc : Json) : MixedMetrics :=
  let pods := podsOf doc
  let window := maxOr0 (pods.map podWindow)
  let perSec (value : ℚ) : Option ℚ := if 0 < window then some (value / window) else none
  let write := truthy (doc.get "write".toList)
  let fanout := truthy (doc.get "fanout".toList)
  let read := truthy (doc.get "read".toList)
  { writeOpsPerSec := (fieldOf write "aggregate_ops_per_sec").bind Json.asPyNumber
    writeP50 := pos (fieldOf write "p50_ms")
    writeP99 := pos (fieldOf write "p99_ms")
    readOpsPerSec := perSec (csum pods "read_counts" "ok")
    readMibPerSec := (perSec (fsum pods "read_bytes_total")).map fun rate => rate / 1048576
    readP50 := pos (fieldOf read "p50_ms")
    readP99 := pos (fieldOf read "p99_ms")
    eventsPerSec := perSec (fsum pods "events_received")
    deliveryP50 := pos (fieldOf fanout "p50_ms")
    deliveryP99 := pos (fieldOf fanout "p99_ms")
    writeOk := csum pods "write_counts" "ok"
    writeBp := csum pods "write_counts" "backpressure"
    writeErr := csum pods "write_counts" "other_err"
    readOk := csum pods "read_counts" "ok"
    readBp := csum pods "read_counts" "backpressure"
    readErr := csum pods "read_counts" "other_err"
    eventsReceived := fsum pods "events_received"
    controlEventsReceived := fsum pods "control_events_received"
    elapsedSecs := maxOr0 (pods.map fun pod => numberOr0 (fieldOf (some pod) "elapsed_secs"))
    driveSecs := window }

/-- One level of a mixed cell: the load it was measured under. -/
structure MixedLoad where
  level : Nat
  readers : Nat
  subscribers : Nat
  writerRate : Nat
  readRate : Nat

/-- Writers must have appended, and every class that was configured must have seen
traffic. -/
def mixedVerdict (load : MixedLoad) (metrics : MixedMetrics) : Status × MixedReason :=
  if metrics.writeOk = 0 then (.error, .noWrites)
  else if 0 < load.readers ∧ metrics.readOk = 0 then (.error, .noReads)
  else if 0 < load.subscribers ∧ metrics.eventsReceived = 0 then (.error, .noDelivery)
  else (.ok, .complete)

def recordMerged (merged : Option Text) (load : MixedLoad) : MixedEntry :=
  let metrics := (merged.bind parseMerged).map metricsFromMerged
  let verdict : Status × MixedReason := match metrics with
    | none => (.error, .noMergedResult)
    | some metrics => mixedVerdict load metrics
  { metrics := metrics
    level := load.level
    readers := load.readers
    subscribers := load.subscribers
    writerRate := load.writerRate
    readRate := load.readRate
    status := verdict.1
    reason := verdict.2 }

/-! ## What the tests accept -/

theorem recordReadsCell_ok_iff (merged : Option Text) (connections : Nat) :
    (recordReadsCell merged connections).status = .ok ↔
      ∃ p99, floatOr (rdField merged "p99_ms") "None" = some p99 ∧ 0 < p99 := by
  simp [recordReadsCell, Option.any_eq_true]

theorem runCatchupCell_ok_iff (settings : CatchupSettings) (merged : Option Text) :
    (runCatchupCell settings merged).status = .ok ↔
      ∃ p99, floatOr (cuField merged "p99_ms") "None" = some p99 ∧ 0 < p99 := by
  simp [runCatchupCell, Option.any_eq_true]

def SeesTraffic (load : MixedLoad) (writeOk readOk eventsReceived : ℚ) : Prop :=
  writeOk ≠ 0 ∧ (0 < load.readers → readOk ≠ 0) ∧
    (0 < load.subscribers → eventsReceived ≠ 0)

theorem mixedVerdict_ok_iff (load : MixedLoad) (metrics : MixedMetrics) :
    (mixedVerdict load metrics).1 = .ok ↔
      SeesTraffic load metrics.writeOk metrics.readOk metrics.eventsReceived := by
  rw [mixedVerdict, SeesTraffic]
  split
  · rename_i noWrites
    simp [noWrites]
  · rename_i writes
    split
    · rename_i noReads
      simp [noReads]
    · rename_i reads
      split
      · rename_i noDelivery
        simp [noDelivery]
      · rename_i delivery
        rw [not_and] at reads delivery
        simp only [true_iff]
        exact ⟨writes, reads, delivery⟩

theorem recordMerged_ok_iff (merged : Option Text) (load : MixedLoad) :
    (recordMerged merged load).status = .ok ↔
      ∃ doc, merged.bind parseMerged = some doc ∧
        SeesTraffic load (metricsFromMerged doc).writeOk (metricsFromMerged doc).readOk
          (metricsFromMerged doc).eventsReceived := by
  rw [recordMerged]
  cases parsed : merged.bind parseMerged with
  | none => simp
  | some doc => simp [mixedVerdict_ok_iff]

end DsBench.Harness
