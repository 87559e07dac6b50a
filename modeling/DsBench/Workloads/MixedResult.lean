import DsBench.Workloads.MultiStreamResult

/-! # The result document of a mixed pod

What a pod of the mixed workload prints: its configuration, the counts of the three
classes of traffic and their latencies.
-/

namespace DsBench.Workloads

structure MixedResult where
  apiStyle : ApiStyle
  target : Text
  bucket : Text
  streams : Nat
  writersPerStream : Nat
  readers : Nat
  readRate : Nat
  readIntervalMs : Nat
  backfillEvents : Nat
  subscribers : Nat
  writerRate : Nat
  durationSecs : Nat
  payloadBytes : Nat
  elapsedSecs : decimals
  driveSecs : decimals
  writeCounts : Counts
  eventsReceived : Nat
  controlEventsReceived : Nat
  readBytesTotal : Nat
  readCounts : Counts
  aggregateOpsPerSec : decimals
  writeLatencyMs : LatencySummary
  fanOutLatencyMs : LatencySummary
  readLatencyMs : LatencySummary

namespace MixedResult

def fields (result : MixedResult) : List (Text × Option Json) := [
  ("scenario".toList, some (.str "mixed".toList)),
  ("api_style".toList, some (.str result.apiStyle.name)),
  ("target".toList, some (.str result.target)),
  ("bucket".toList, some (.str result.bucket)),
  ("streams".toList, some (.ofU64 result.streams)),
  ("writers_per_stream".toList, some (.ofU64 result.writersPerStream)),
  ("readers".toList, some (.ofU64 result.readers)),
  ("read_rate".toList, some (.ofU64 result.readRate)),
  ("read_interval_ms".toList, some (.ofU64 result.readIntervalMs)),
  ("backfill_events".toList, some (.ofU64 result.backfillEvents)),
  ("subscribers".toList, some (.ofU64 result.subscribers)),
  ("writer_rate".toList, some (.ofU64 result.writerRate)),
  ("duration_secs".toList, some (.ofU64 result.durationSecs)),
  ("payload_bytes".toList, some (.ofU64 result.payloadBytes)),
  ("elapsed_secs".toList, some (.ofF64 result.elapsedSecs)),
  ("drive_secs".toList, some (.ofF64 result.driveSecs)),
  ("write_counts".toList, some result.writeCounts.toJson),
  ("events_received".toList, some (.ofU64 result.eventsReceived)),
  ("control_events_received".toList, some (.ofU64 result.controlEventsReceived)),
  ("read_bytes_total".toList, some (.ofU64 result.readBytesTotal)),
  ("read_counts".toList, some result.readCounts.toJson),
  ("aggregate_ops_per_sec".toList, some (.ofF64 result.aggregateOpsPerSec)),
  ("write_latency_ms".toList, some result.writeLatencyMs.toJson),
  ("fan_out_latency_ms".toList, some result.fanOutLatencyMs.toJson),
  ("read_latency_ms".toList, some result.readLatencyMs.toJson)]

def members (result : MixedResult) : Members := .ofFields result.fields

def toJson (result : MixedResult) : Json := .obj result.members

def print (result : MixedResult) : Text :=
  result.toJson.render .serdePretty 0 ++ ['\n']

def fieldNames : List Text := [
  "scenario".toList, "api_style".toList, "target".toList, "bucket".toList,
  "streams".toList, "writers_per_stream".toList, "readers".toList, "read_rate".toList,
  "read_interval_ms".toList, "backfill_events".toList, "subscribers".toList,
  "writer_rate".toList, "duration_secs".toList, "payload_bytes".toList,
  "elapsed_secs".toList, "drive_secs".toList, "write_counts".toList,
  "events_received".toList, "control_events_received".toList,
  "read_bytes_total".toList, "read_counts".toList, "aggregate_ops_per_sec".toList,
  "write_latency_ms".toList, "fan_out_latency_ms".toList, "read_latency_ms".toList]

theorem fields_distinct (result : MixedResult) : (result.fields.map Prod.fst).Nodup := by
  change fieldNames.Nodup
  decide +kernel

theorem get_field {result : MixedResult} {key : Text} {value : Option Json}
    (member : (key, value) ∈ result.fields) : result.members.get key = value :=
  Members.get_ofFields result.fields_distinct member

end MixedResult

end DsBench.Workloads
