import DsBench.Foundation.JsonRendering

/-! # The result document of a multi-stream pod

What a pod prints once its run is over. A double is a finite decimal fraction, so it
is printed and read back exactly.
-/

namespace DsBench.Workloads

inductive ApiStyle where
  | ursula
  | durable
  | s2
deriving DecidableEq, Repr

def ApiStyle.name : ApiStyle → Text
  | .ursula => "Ursula".toList
  | .durable => "Durable".toList
  | .s2 => "S2".toList

inductive ClientModel where
  | legacy
  | pool
deriving DecidableEq, Repr

def ClientModel.scenario : ClientModel → Text
  | .legacy => "multi-stream-write".toList
  | .pool => "multi-stream-pool-write".toList

structure Counts where
  ok : Nat
  backpressure : Nat
  otherErr : Nat

structure ErrorCount where
  error : Text
  count : Nat

structure LatencySummary where
  count : Nat
  meanMs : decimals
  p50Ms : decimals
  p90Ms : decimals
  p99Ms : decimals
  p999Ms : decimals
  maxMs : decimals

structure MultiStreamResult where
  model : ClientModel
  apiStyle : ApiStyle
  target : Text
  bucket : Text
  basin : Text
  streams : Nat
  durationSecs : Nat
  payloadBytes : Nat
  ratePerStream : Nat
  elapsedSecs : decimals
  counts : Counts
  errors : List ErrorCount
  aggregateOpsPerSec : decimals
  perStreamOpsPerSecMean : decimals
  latencyMs : LatencySummary
  measureStartUnixMs : Nat
  measureEndUnixMs : Nat
  okTotalAllPhases : Nat
  lazyCreates : Nat
  podSliceLo : Nat
  podSliceHi : Nat

def Counts.toJson (counts : Counts) : Json := .obj (.ofFields [
  ("ok".toList, some (.ofU64 counts.ok)),
  ("backpressure".toList, some (.ofU64 counts.backpressure)),
  ("other_err".toList, some (.ofU64 counts.otherErr))])

def ErrorCount.toJson (errorCount : ErrorCount) : Json := .obj (.ofFields [
  ("error".toList, some (.str errorCount.error)),
  ("count".toList, some (.ofU64 errorCount.count))])

def LatencySummary.toJson (latency : LatencySummary) : Json := .obj (.ofFields [
  ("count".toList, some (.ofU64 latency.count)),
  ("mean_ms".toList, some (.ofF64 latency.meanMs)),
  ("p50_ms".toList, some (.ofF64 latency.p50Ms)),
  ("p90_ms".toList, some (.ofF64 latency.p90Ms)),
  ("p99_ms".toList, some (.ofF64 latency.p99Ms)),
  ("p999_ms".toList, some (.ofF64 latency.p999Ms)),
  ("max_ms".toList, some (.ofF64 latency.maxMs))])

namespace MultiStreamResult

def fields (result : MultiStreamResult) : List (Text × Option Json) := [
  ("scenario".toList, some (.str result.model.scenario)),
  ("api_style".toList, some (.str result.apiStyle.name)),
  ("target".toList, some (.str result.target)),
  ("bucket".toList, some (.str result.bucket)),
  ("basin".toList, some (.str result.basin)),
  ("streams".toList, some (.ofU64 result.streams)),
  ("duration_secs".toList, some (.ofU64 result.durationSecs)),
  ("payload_bytes".toList, some (.ofU64 result.payloadBytes)),
  ("rate_per_stream".toList, some (.ofU64 result.ratePerStream)),
  ("elapsed_secs".toList, some (.ofF64 result.elapsedSecs)),
  ("counts".toList, some result.counts.toJson),
  ("errors".toList, some (.arr (.ofList (result.errors.map ErrorCount.toJson)))),
  ("aggregate_ops_per_sec".toList, some (.ofF64 result.aggregateOpsPerSec)),
  ("per_stream_ops_per_sec_mean".toList, some (.ofF64 result.perStreamOpsPerSecMean)),
  ("latency_ms".toList, some result.latencyMs.toJson),
  ("measure_start_unix_ms".toList, some (.ofU64 result.measureStartUnixMs)),
  ("measure_end_unix_ms".toList, some (.ofU64 result.measureEndUnixMs)),
  ("ok_total_all_phases".toList, some (.ofU64 result.okTotalAllPhases)),
  ("lazy_creates".toList, some (.ofU64 result.lazyCreates)),
  ("pod_slice_lo".toList, some (.ofU64 result.podSliceLo)),
  ("pod_slice_hi".toList, some (.ofU64 result.podSliceHi))]

def toJson (result : MultiStreamResult) : Json := .obj (.ofFields result.fields)

def print (result : MultiStreamResult) : Text :=
  result.toJson.render .serdePretty 0 ++ ['\n']

theorem loads_print (result : MultiStreamResult) :
    loads result.print = some result.toJson :=
  loads_render .serdePretty 0 result.toJson isBlank_nil rfl

def fieldNames : List Text := [
  "scenario".toList, "api_style".toList, "target".toList, "bucket".toList,
  "basin".toList, "streams".toList, "duration_secs".toList, "payload_bytes".toList,
  "rate_per_stream".toList, "elapsed_secs".toList, "counts".toList, "errors".toList,
  "aggregate_ops_per_sec".toList, "per_stream_ops_per_sec_mean".toList,
  "latency_ms".toList, "measure_start_unix_ms".toList, "measure_end_unix_ms".toList,
  "ok_total_all_phases".toList, "lazy_creates".toList, "pod_slice_lo".toList,
  "pod_slice_hi".toList]

theorem fields_distinct (result : MultiStreamResult) :
    (result.fields.map Prod.fst).Nodup := by
  change fieldNames.Nodup
  decide +kernel

theorem get_field {result : MultiStreamResult} {key : Text} {value : Option Json}
    (member : (key, value) ∈ result.fields) : result.toJson.get key = value :=
  Members.get_ofFields result.fields_distinct member

end MultiStreamResult

end DsBench.Workloads
