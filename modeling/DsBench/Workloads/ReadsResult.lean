import DsBench.Workloads.DeliveryClock
import DsBench.Workloads.MultiStreamResult

/-! # The result document of a reads pod

What a pod of the reads workload prints, whichever of its three modes it ran.
-/

namespace DsBench.Workloads

def ReadMode.name : ReadMode → Text
  | .catchup => "catchup".toList
  | .longPoll => "long-poll".toList
  | .sse => "sse".toList

structure ReadsResult where
  mode : ReadMode
  apiStyle : ApiStyle
  target : Text
  stream : Text
  streams : Nat
  readSizeBytes : Nat
  connections : Nat
  durationSecs : Nat
  warmupSecs : Nat
  settleSecs : Nat
  seedBytes : Nat
  appendRatePerSec : decimals
  elapsedSecs : decimals
  counts : Counts
  bytesReadTotal : Nat
  aggregateOpsPerSec : decimals
  bytesPerSec : decimals
  latencyMs : LatencySummary

namespace ReadsResult

/-- The percentiles stand beside the latency and in it. -/
def fields (result : ReadsResult) : List (Text × Option Json) := [
  ("scenario".toList, some (.str "reads".toList)),
  ("mode".toList, some (.str result.mode.name)),
  ("api_style".toList, some (.str result.apiStyle.name)),
  ("target".toList, some (.str result.target)),
  ("stream".toList, some (.str result.stream)),
  ("streams".toList, some (.ofU64 result.streams)),
  ("read_size_bytes".toList, some (.ofU64 result.readSizeBytes)),
  ("connections".toList, some (.ofU64 result.connections)),
  ("duration_secs".toList, some (.ofU64 result.durationSecs)),
  ("warmup_secs".toList, some (.ofU64 result.warmupSecs)),
  ("settle_secs".toList, some (.ofU64 result.settleSecs)),
  ("seed_bytes".toList, some (.ofU64 result.seedBytes)),
  ("append_rate_per_sec".toList, some (.ofF64 result.appendRatePerSec)),
  ("elapsed_secs".toList, some (.ofF64 result.elapsedSecs)),
  ("counts".toList, some result.counts.toJson),
  ("bytes_read_total".toList, some (.ofU64 result.bytesReadTotal)),
  ("aggregate_ops_per_sec".toList, some (.ofF64 result.aggregateOpsPerSec)),
  ("bytes_per_sec".toList, some (.ofF64 result.bytesPerSec)),
  ("p50_ms".toList, some (.ofF64 result.latencyMs.p50Ms)),
  ("p90_ms".toList, some (.ofF64 result.latencyMs.p90Ms)),
  ("p99_ms".toList, some (.ofF64 result.latencyMs.p99Ms)),
  ("p999_ms".toList, some (.ofF64 result.latencyMs.p999Ms)),
  ("latency_ms".toList, some result.latencyMs.toJson)]

def toJson (result : ReadsResult) : Json := .obj (.ofFields result.fields)

def print (result : ReadsResult) : Text :=
  result.toJson.render .serdePretty 0 ++ ['\n']

theorem loads_print (result : ReadsResult) : loads result.print = some result.toJson :=
  loads_render .serdePretty 0 result.toJson isBlank_nil rfl

def fieldNames : List Text := [
  "scenario".toList, "mode".toList, "api_style".toList, "target".toList, "stream".toList,
  "streams".toList, "read_size_bytes".toList, "connections".toList, "duration_secs".toList,
  "warmup_secs".toList, "settle_secs".toList, "seed_bytes".toList,
  "append_rate_per_sec".toList, "elapsed_secs".toList, "counts".toList,
  "bytes_read_total".toList, "aggregate_ops_per_sec".toList, "bytes_per_sec".toList,
  "p50_ms".toList, "p90_ms".toList, "p99_ms".toList, "p999_ms".toList, "latency_ms".toList]

theorem fields_distinct (result : ReadsResult) : (result.fields.map Prod.fst).Nodup := by
  change fieldNames.Nodup
  decide +kernel

theorem get_field {result : ReadsResult} {key : Text} {value : Option Json}
    (member : (key, value) ∈ result.fields) : result.toJson.get key = value :=
  Members.get_ofFields result.fields_distinct member

end ReadsResult

end DsBench.Workloads
