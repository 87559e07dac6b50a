import DsBench.Workloads.HttpReply
import DsBench.Workloads.MultiStreamResult

/-! # Bootstrap stampedes

Many clients replay their streams at once. A pod counts how the replays ended and the bytes
of those that came through, and prints the counts as its result.
-/

namespace DsBench.Workloads

/-! ## The clients of a pod -/

/-- How the replay of a client ends: no request for it, none answered, or a response whose
body comes in chunks of so many bytes, `none` for one that fails. -/
inductive ReplayReply where
  | unbuilt
  | unsent
  | response (status : Nat) (chunks : List (Option Nat))
deriving DecidableEq, Repr

structure ReplayClient where
  reply : ReplayReply
  micros : Nat
deriving DecidableEq, Repr

def drain (chunks : List (Option Nat)) : Option Nat :=
  chunks.foldlM (fun bytes chunk => chunk.map fun length => bytes + length) 0

structure ReplayTally where
  ok : Nat := 0
  backpressure : Nat := 0
  otherErr : Nat := 0
  bytes : Nat := 0
  samples : List Nat := []

/-- `run_client`: of the statuses that a client may back off from, only 503 counts as
backpressure here. -/
def runClient (tally : ReplayTally) (client : ReplayClient) : ReplayTally :=
  match client.reply with
  | .unbuilt => { tally with otherErr := tally.otherErr + 1 }
  | .unsent => { tally with otherErr := tally.otherErr + 1 }
  | .response status chunks =>
      if isSuccess status then
        match drain chunks with
        | some bytes =>
            { tally with
              samples := tally.samples ++ [client.micros]
              bytes := tally.bytes + bytes
              ok := tally.ok + 1 }
        | none => { tally with otherErr := tally.otherErr + 1 }
      else if status = 503 then { tally with backpressure := tally.backpressure + 1 }
      else { tally with otherErr := tally.otherErr + 1 }

def runClients (clients : List ReplayClient) : ReplayTally := clients.foldl runClient {}

def ReplayClient.Receives (client : ReplayClient) (bytes : Nat) : Prop :=
  ∃ status chunks, client.reply = .response status chunks ∧ isSuccess status ∧
    drain chunks = some bytes

theorem runClient_receives {client : ReplayClient} {bytes : Nat}
    (receives : client.Receives bytes) (tally : ReplayTally) :
    (runClient tally client).bytes = tally.bytes + bytes := by
  rcases receives with ⟨status, chunks, reply, success, drained⟩
  rw [runClient, reply]
  simp only [if_pos success, drained]

theorem bytes_runClients {clients : List ReplayClient} {bytes : Nat}
    (receive : ∀ client ∈ clients, client.Receives bytes) :
    (runClients clients).bytes = clients.length * bytes := by
  have counted : ∀ tally : ReplayTally,
      (clients.foldl runClient tally).bytes = tally.bytes + clients.length * bytes := by
    induction clients with
    | nil => simp
    | cons client clients induction =>
        intro tally
        have others := induction fun other member =>
          receive other (List.mem_cons_of_mem _ member)
        rw [List.foldl_cons, others, runClient_receives (receive client List.mem_cons_self),
          List.length_cons, Nat.succ_mul]
        omega
  have all := counted {}
  rw [runClients, all, Nat.zero_add]

/-! ## The result document -/

structure BootstrapArgs where
  apiStyle : ApiStyle
  target : Text
  bucket : Text
  basin : Text
  stream : Text
  perClientStream : Bool
  clients : Nat
  preEvents : Nat
  eventBytes : Nat
  snapshotBytes : Nat

structure BootstrapMeasured where
  setupElapsedSecs : decimals
  stampedeElapsedSecs : decimals
  aggregateMbPerSec : decimals
  latencyMs : LatencySummary

/-- One pod's run, up to the result that it prints. -/
structure BootstrapRun where
  args : BootstrapArgs
  measured : BootstrapMeasured
  clients : List ReplayClient
  spawned : clients.length = args.clients

namespace BootstrapRun

def counts (run : BootstrapRun) : Counts :=
  ⟨(runClients run.clients).ok, (runClients run.clients).backpressure,
    (runClients run.clients).otherErr⟩

def fields (run : BootstrapRun) : List (Text × Option Json) := [
  ("scenario".toList, some (.str "bootstrap-stampede".toList)),
  ("api_style".toList, some (.str run.args.apiStyle.name)),
  ("target".toList, some (.str run.args.target)),
  ("bucket".toList, some (.str run.args.bucket)),
  ("basin".toList, some (.str run.args.basin)),
  ("stream".toList, some (.str run.args.stream)),
  ("per_client_stream".toList, some (.bool run.args.perClientStream)),
  ("clients".toList, some (.ofU64 run.args.clients)),
  ("pre_events".toList, some (.ofU64 run.args.preEvents)),
  ("event_bytes".toList, some (.ofU64 run.args.eventBytes)),
  ("snapshot_bytes".toList, some (.ofU64 run.args.snapshotBytes)),
  ("setup_elapsed_secs".toList, some (.ofF64 run.measured.setupElapsedSecs)),
  ("stampede_elapsed_secs".toList, some (.ofF64 run.measured.stampedeElapsedSecs)),
  ("counts".toList, some run.counts.toJson),
  ("bytes_received_total".toList, some (.ofU64 (runClients run.clients).bytes)),
  ("aggregate_mb_per_sec".toList, some (.ofF64 run.measured.aggregateMbPerSec)),
  ("latency_ms".toList, some run.measured.latencyMs.toJson)]

def toJson (run : BootstrapRun) : Json := .obj (.ofFields run.fields)

def print (run : BootstrapRun) : Text :=
  run.toJson.render .serdePretty 0 ++ ['\n']

theorem loads_print (run : BootstrapRun) : loads run.print = some run.toJson :=
  loads_render .serdePretty 0 run.toJson isBlank_nil rfl

def fieldNames : List Text := [
  "scenario".toList, "api_style".toList, "target".toList, "bucket".toList,
  "basin".toList, "stream".toList, "per_client_stream".toList, "clients".toList,
  "pre_events".toList, "event_bytes".toList, "snapshot_bytes".toList,
  "setup_elapsed_secs".toList, "stampede_elapsed_secs".toList, "counts".toList,
  "bytes_received_total".toList, "aggregate_mb_per_sec".toList, "latency_ms".toList]

theorem fields_distinct (run : BootstrapRun) : (run.fields.map Prod.fst).Nodup := by
  change fieldNames.Nodup
  decide +kernel

theorem get_field {run : BootstrapRun} {key : Text} {value : Option Json}
    (member : (key, value) ∈ run.fields) : run.toJson.get key = value :=
  Members.get_ofFields run.fields_distinct member

end BootstrapRun

end DsBench.Workloads
