import DsBench.Harness.HdrMerge
import DsBench.Workloads.Bootstrap

/-! # The body size of a catch-up cell

The merge adds up the bytes that all pods received, and the recorder divides the sum by the
clients of one pod. So what it stores as the size of a response body grows with the fleet.
-/

namespace DsBench.Harness

open DsBench.Merge

/-! ## Tenths -/

def oneDecimalKb (bytes : Nat) : ℚ := roundHalfEven ((bytes : ℚ) / 1024 * 10) / 10

def tenths (bytes : Nat) : Nat :=
  if 5 * bytes % 512 < 256 then 5 * bytes / 512
  else if 256 < 5 * bytes % 512 then 5 * bytes / 512 + 1
  else if 5 * bytes / 512 % 2 = 0 then 5 * bytes / 512 else 5 * bytes / 512 + 1

theorem roundHalfEven_tenths (bytes : Nat) :
    roundHalfEven ((bytes : ℚ) / 1024 * 10) = tenths bytes := by
  have fraction : (bytes : ℚ) / 1024 * 10 = ((5 * bytes : Nat) : ℚ) / (512 : Nat) := by
    push_cast
    ring
  have lower : ⌊((5 * bytes : Nat) : ℚ) / (512 : Nat)⌋ = ((5 * bytes / 512 : Nat) : Int) := by
    rw [Rat.floor_natCast_div_natCast]
    rfl
  have rest : ((5 * bytes : Nat) : ℚ) / (512 : Nat) - ((5 * bytes / 512 : Nat) : Int) =
      ((5 * bytes % 512 : Nat) : ℚ) / 512 := by
    have split := Nat.div_add_mod (5 * bytes) 512
    have cast : ((5 * bytes : Nat) : ℚ) =
        512 * ((5 * bytes / 512 : Nat) : ℚ) + ((5 * bytes % 512 : Nat) : ℚ) := by
      exact_mod_cast split.symm
    rw [cast, Int.cast_natCast, Nat.cast_ofNat]
    ring
  have below : ((5 * bytes % 512 : Nat) : ℚ) / 512 < 1 / 2 ↔ 5 * bytes % 512 < 256 := by
    rw [div_lt_div_iff₀ (by norm_num) (by norm_num)]
    norm_cast
    omega
  have above : (1 : ℚ) / 2 < ((5 * bytes % 512 : Nat) : ℚ) / 512 ↔ 256 < 5 * bytes % 512 := by
    rw [div_lt_div_iff₀ (by norm_num) (by norm_num)]
    norm_cast
    omega
  have even : ((5 * bytes / 512 : Nat) : Int) % 2 = 0 ↔ 5 * bytes / 512 % 2 = 0 := by omega
  rw [fraction, roundHalfEven]
  simp only [lower, rest, below, above, even]
  rw [tenths]
  split_ifs <;> rfl

theorem tenths_bounds (bytes : Nat) :
    512 * tenths bytes ≤ 5 * bytes + 256 ∧ 5 * bytes ≤ 512 * tenths bytes + 256 := by
  rw [tenths]
  split_ifs <;> omega

theorem oneDecimalKb_mul_iff {pods bytes : Nat} (some_pod : 0 < pods) (some_bytes : 0 < bytes) :
    oneDecimalKb (pods * bytes) = oneDecimalKb bytes ↔
      pods = 1 ∨ pods * bytes ≤ 51 ∨ 52 ≤ bytes ∧ pods * bytes ≤ 153 := by
  have same : oneDecimalKb (pods * bytes) = oneDecimalKb bytes ↔
      tenths (pods * bytes) = tenths bytes := by
    rw [oneDecimalKb, oneDecimalKb, roundHalfEven_tenths, roundHalfEven_tenths,
      div_left_inj' (by norm_num)]
    norm_cast
  rw [same]
  by_cases one : pods = 1
  · simp [one]
  · have twice : 2 * bytes ≤ pods * bytes := Nat.mul_le_mul_right bytes (by omega)
    have all := tenths_bounds (pods * bytes)
    have each := tenths_bounds bytes
    omega

/-! ## The scan of catch-up documents -/

def IsCatchup (document : Json) : Prop :=
  ("catch-up".toList.isPrefixOf (scenarioOf document) ||
    "bootstrap".toList.isPrefixOf (scenarioOf document)) = true

theorem scanDocument_catchup (acc : HeadlineAcc) {document : Json}
    (catchup : IsCatchup document) :
    (acc.scanDocument document).sawCatchup = true ∧
      (acc.scanDocument document).bytesReceived =
        acc.bytesReceived + (u64Field "bytes_received_total" document).getD 0 := by
  have applies : ("catch-up".toList.isPrefixOf (scenarioOf document) ||
      "bootstrap".toList.isPrefixOf (scenarioOf document)) = true := catchup
  rw [HeadlineAcc.scanDocument]
  unfold HeadlineAcc.scanScenario
  simp only
  rw [if_pos applies, HeadlineAcc.scanStamps]
  split <;> exact ⟨rfl, rfl⟩

theorem foldl_scanDocument_catchup {documents : List Json}
    (catchup : ∀ document ∈ documents, IsCatchup document) (acc : HeadlineAcc) :
    (documents.foldl HeadlineAcc.scanDocument acc).bytesReceived = acc.bytesReceived +
        (documents.map fun document =>
          (u64Field "bytes_received_total" document).getD 0).sum ∧
      (documents ≠ [] ∨ acc.sawCatchup = true →
        (documents.foldl HeadlineAcc.scanDocument acc).sawCatchup = true) := by
  induction documents generalizing acc with
  | nil => simp
  | cons document documents induction =>
      have step := scanDocument_catchup acc (catchup document List.mem_cons_self)
      have rest := induction (fun other member => catchup other (List.mem_cons_of_mem _ member))
        (acc.scanDocument document)
      constructor
      · rw [List.foldl_cons, rest.1, step.2, List.map_cons, List.sum_cons, Nat.add_assoc]
      · intro _
        exact rest.2 (.inr step.1)

/-! ## The printed sum -/

def linesBeforeBytes (summary : MergeSummary) (mbPerSec : ℚ) : List (String × Number) := [
  ("merged_count", .int summary.mergedCount), ("p50_ms", .ofRat summary.p50Ms),
  ("p90_ms", .ofRat summary.p90Ms), ("p99_ms", .ofRat summary.p99Ms),
  ("p999_ms", .ofRat summary.p999Ms), ("max_ms", .ofRat summary.maxMs),
  ("aggregate_mb_per_sec", .ofRat mbPerSec)]

theorem print_catchup_shape {summary : MergeSummary} {mbPerSec : ℚ} {bytes : Nat}
    (noOps : summary.aggregateOpsPerSec = none)
    (hasMb : summary.aggregateMbPerSec = some mbPerSec)
    (hasBytes : summary.bytesReceivedTotal = some bytes) :
    ∃ members : Members, summary.print =
      '{' :: fieldLines (linesBeforeBytes summary mbPerSec)
        (indentation 1 ++ (fieldHead "bytes_received_total" ++
          ((Number.int bytes).render ++ (members.render .serdePretty 0 ++ ['\n'])))) := by
  rw [MergeSummary.print, MergeSummary.toJson, MergeSummary.members, MergeSummary.fields,
    Members.ofFields, noOps, hasMb, hasBytes]
  simp only [List.filterMap_cons, Option.map_some, Option.map_none]
  simp only [Members.ofList, Json.render, Members.render, Json.ofU64, Json.ofF64]
  simp only [List.cons_append, List.append_assoc]
  simp only [fieldLines, linesBeforeBytes, List.foldr_cons, List.foldr_nil]
  exact ⟨_, rfl⟩

theorem takeWhile_int (bytes : Nat) (members : Members) (rest : Text) :
    ((Number.int bytes).render ++ (members.render .serdePretty 0 ++ rest)).takeWhile
      isNumberChar = (Number.int bytes).render := by
  have digits : ∀ character ∈ (Number.int bytes).render, isNumberChar character = true := by
    intro character member
    have unsigned : ¬ (bytes : Int) < 0 := by omega
    rw [Number.render, if_neg unsigned] at member
    rw [isNumberChar, Bool.or_eq_true]
    exact .inl (isDigit_of_mem_decimal member)
  rw [List.takeWhile_append_of_pos digits]
  cases members with
  | nil => exact List.append_nil _
  | cons key value tail => exact List.append_nil _

/-- The bytes of a catch-up summary are what `grep` finds behind the chatter. -/
theorem cuField_bytes (chatter : Chatter) {summary : MergeSummary} {mbPerSec : ℚ}
    {bytes : Nat} (noOps : summary.aggregateOpsPerSec = none)
    (hasMb : summary.aggregateMbPerSec = some mbPerSec)
    (hasBytes : summary.bytesReceivedTotal = some bytes) :
    cuField (some (chatter.text ++ summary.print)) "bytes_received_total" =
      some (Number.int bytes).render := by
  rcases print_catchup_shape noOps hasMb hasBytes with ⟨members, shape⟩
  have named : (linesBeforeBytes summary mbPerSec).map Prod.fst =
      ["merged_count", "p50_ms", "p90_ms", "p99_ms", "p999_ms", "max_ms",
        "aggregate_mb_per_sec"] := rfl
  have others : ∀ name ∈ (linesBeforeBytes summary mbPerSec).map Prod.fst,
      '"' ∉ name.toList ∧ name.toList ≠ "bytes_received_total".toList := by
    rw [named]
    decide
  rw [cuField, Option.bind_some, grepField_eq, shape]
  exact firstMatch_printed chatter (by decide) (by decide) (by decide) others
    (takeWhile_int bytes members ['\n'])

/-! ## A fleet of bootstrap pods -/

theorem isCatchup_toJson (run : Workloads.BootstrapRun) : IsCatchup run.toJson := by
  have field : run.toJson.get "scenario".toList =
      some (.str "bootstrap-stampede".toList) :=
    Workloads.BootstrapRun.get_field List.mem_cons_self
  rw [IsCatchup, scenarioOf, field]
  decide

theorem asU64_ofU64 {value : Nat} (fits : value < 2 ^ 64) :
    (Json.ofU64 value).asU64 = some value := by
  have inside : 0 ≤ (value : Int) ∧ (value : Int) < 2 ^ 64 := by
    constructor
    · exact Int.natCast_nonneg value
    · exact_mod_cast fits
  rw [Json.asU64, Json.ofU64, Json.asNumber, Option.bind_some, Number.asU64, if_pos inside,
    Int.toNat_natCast]

theorem bytesField_toJson (run : Workloads.BootstrapRun)
    (fits : (Workloads.runClients run.clients).bytes < 2 ^ 64) :
    u64Field "bytes_received_total" run.toJson =
      some (Workloads.runClients run.clients).bytes := by
  have field : run.toJson.get "bytes_received_total".toList =
      some (.ofU64 (Workloads.runClients run.clients).bytes) := by
    apply Workloads.BootstrapRun.get_field
    simp [Workloads.BootstrapRun.fields]
  rw [u64Field, field, Option.bind_some, asU64_ofU64 fits]

namespace Fleet

variable {Hist : Type} {fleet : Fleet Hist Workloads.BootstrapRun}

/-- Every pod uploads the run of so many clients, each of which receives a response body of
so many bytes. -/
def EachReceives (fleet : Fleet Hist Workloads.BootstrapRun) (clients bytes : Nat) : Prop :=
  ∀ pod, ∃ upload, fleet.deliveries pod = .whole upload ∧
    upload.result.args.clients = clients ∧
    ∀ client ∈ upload.result.clients, client.Receives bytes

theorem EachReceives.complete {clients bytes : Nat}
    (receives : fleet.EachReceives clients bytes) : fleet.Complete := by
  intro pod
  rcases receives pod with ⟨upload, whole, -⟩
  exact ⟨upload, whole⟩

theorem EachReceives.bytes_scanned {clients bytes : Nat}
    (receives : fleet.EachReceives clients bytes) :
    ∀ run ∈ fleet.scanned, (Workloads.runClients run.clients).bytes = clients * bytes := by
  intro run member
  rcases List.mem_filterMap.mp member with ⟨pod, -, made⟩
  rcases receives pod with ⟨upload, whole, spawned, each⟩
  rw [resultFile, whole] at made
  cases made
  rw [Workloads.bytes_runClients each, upload.result.spawned, spawned]

theorem EachReceives.scanHeadlines_results {clients bytes : Nat}
    (receives : fleet.EachReceives clients bytes) (some_pod : 0 < fleet.pods)
    (fits : clients * bytes < 2 ^ 64) (outPrefix : Text) :
    (scanHeadlines (some (resultEntries fleet outPrefix
        Workloads.BootstrapRun.print))).sawCatchup = true ∧
      (scanHeadlines (some (resultEntries fleet outPrefix
        Workloads.BootstrapRun.print))).bytesReceived = fleet.pods * (clients * bytes) := by
  let documents := fleet.scanned.map Workloads.BootstrapRun.toJson
  have catchup : ∀ document ∈ documents, IsCatchup document := by
    intro document member
    rcases List.mem_map.mp member with ⟨run, -, same⟩
    rw [← same]
    exact isCatchup_toJson run
  have counted : documents.map (fun document =>
      (u64Field "bytes_received_total" document).getD 0) =
        fleet.scanned.map fun _ => clients * bytes := by
    rw [List.map_map]
    apply List.map_congr_left
    intro run member
    have total := receives.bytes_scanned run member
    have fitsPod : (Workloads.runClients run.clients).bytes < 2 ^ 64 := by
      rw [total]
      exact fits
    rw [Function.comp_apply, bytesField_toJson run fitsPod, total, Option.getD_some]
  have length := length_scanned receives.complete
  have nonempty : documents ≠ [] := by
    apply List.ne_nil_of_length_pos
    rw [List.length_map, length]
    exact some_pod
  have summed := foldl_scanDocument_catchup catchup {}
  rw [scanHeadlines, Option.getD_some,
    documents_of_parsed fleet outPrefix Workloads.BootstrapRun.loads_print]
  constructor
  · exact summed.2 (.inl nonempty)
  · rw [summed.1, counted, List.map_const', List.sum_replicate, length, smul_eq_mul,
      Nat.zero_add]

end Fleet

/-! ## The size that is stored -/

theorem bodyKb_total {clients : Nat} (some_client : 0 < clients) (pods bytes : Nat) :
    bodyKb (some ((pods * (clients * bytes) : Nat) : ℚ)) clients =
      if pods * bytes = 0 then none else some (oneDecimalKb (pods * bytes)) := by
  have clients_ne : (clients : ℚ) ≠ 0 := by
    exact_mod_cast some_client.ne'
  have total : ((pods * (clients * bytes) : Nat) : ℚ) = (pods * bytes : Nat) * clients := by
    push_cast
    ring
  rw [bodyKb, if_neg some_client.ne', total]
  by_cases zero : pods * bytes = 0
  · rw [if_pos zero, zero]
    simp
  · have nonzero : ((pods * bytes : Nat) : ℚ) * clients ≠ 0 :=
      mul_ne_zero (by exact_mod_cast zero) clients_ne
    rw [if_neg zero, Option.filter_some, if_pos (decide_eq_true nonzero), Option.map_some,
      mul_div_cancel_right₀ _ clients_ne, oneDecimalKb]

section

variable {Hist Encoded : Type} (crate : HdrCrate Hist Encoded) (chatter : Chatter)
  {fleet : Fleet Hist Workloads.BootstrapRun} {settings : CatchupSettings} {bytes : Nat}

theorem plainOutput_summary (outPrefix labelPrefix : Text)
    (some_result : fleet.scanned ≠ []) :
    ∃ histogram, plainOutput crate.mergeHists chatter Workloads.BootstrapRun.print fleet
        outPrefix labelPrefix =
      chatter.text ++ ((scanHeadlines (some (resultEntries fleet outPrefix
        Workloads.BootstrapRun.print))).summarize histogram).print := by
  have merges : ∃ histogram, Harness.mergeDirFiltered crate.mergeHists labelPrefix
      fleet.hdrDir = some histogram := ⟨_, rfl⟩
  rcases merges with ⟨histogram, merge⟩
  refine ⟨histogram, ?_⟩
  rw [plainOutput, coordinator, if_neg (Fleet.fileCount_pos some_result), plainMerge, hdrMerge,
    mergeSummaryFiltered, merge, Option.map_some]

/-- What `run_catchup_cell` stores for a fleet without failures. -/
theorem bodyKb_runCatchupFleet (some_pod : 0 < fleet.pods) (some_client : 0 < settings.clients)
    (receives : fleet.EachReceives settings.clients bytes)
    (fits : settings.clients * bytes < 2 ^ 64) :
    (runCatchupFleet crate.mergeHists chatter Workloads.BootstrapRun.print fleet
        settings).bodyKb =
      if fleet.pods * bytes = 0 then none else some (oneDecimalKb (fleet.pods * bytes)) := by
  have some_result : fleet.scanned ≠ [] := by
    apply List.ne_nil_of_length_pos
    rw [Fleet.length_scanned receives.complete]
    exact some_pod
  rcases receives.scanHeadlines_results some_pod fits "catchup".toList with ⟨saw, total⟩
  rcases plainOutput_summary crate chatter "catchup".toList "bootstrap-".toList
    some_result with ⟨histogram, output⟩
  generalize scanHeadlines (some (resultEntries fleet "catchup".toList
    Workloads.BootstrapRun.print)) = acc at saw total output
  have noOps : (acc.summarize histogram).aggregateOpsPerSec = none := if_pos saw
  have hasMb : (acc.summarize histogram).aggregateMbPerSec = some acc.mbPerSec := if_pos saw
  have hasBytes : (acc.summarize histogram).bytesReceivedTotal = some acc.bytesReceived :=
    if_pos saw
  have stored : (runCatchupFleet crate.mergeHists chatter Workloads.BootstrapRun.print fleet
      settings).bodyKb = bodyKb (floatOr (cuField (some (chatter.text ++
        (acc.summarize histogram).print)) "bytes_received_total") "None") settings.clients := by
    rw [runCatchupFleet, output]
    rfl
  rw [stored, cuField_bytes chatter noOps hasMb hasBytes, floatOr_render, Number.toRat, total,
    ← bodyKb_total some_client fleet.pods bytes, Int.cast_natCast]

/-- What is stored is the size of a response body only for one pod, for a fleet whose
bodies together come to no more than 51 bytes, or for bodies of 52 bytes up that together
come to no more than 153. An empty body is not stored at all. All bytes that the fleet
receives are counted in 64 bits. -/
theorem body_kb_per_client_iff (some_pod : 0 < fleet.pods) (some_client : 0 < settings.clients)
    (receives : fleet.EachReceives settings.clients bytes)
    (fits : fleet.pods * (settings.clients * bytes) < 2 ^ 64) :
    (runCatchupFleet crate.mergeHists chatter Workloads.BootstrapRun.print fleet
        settings).bodyKb = some (oneDecimalKb bytes) ↔
      0 < bytes ∧ (fleet.pods = 1 ∨ fleet.pods * bytes ≤ 51 ∨
        52 ≤ bytes ∧ fleet.pods * bytes ≤ 153) := by
  have fitsPod : settings.clients * bytes < 2 ^ 64 :=
    (Nat.le_mul_of_pos_left _ some_pod).trans_lt fits
  rw [bodyKb_runCatchupFleet crate chatter some_pod some_client receives fitsPod]
  by_cases empty : bytes = 0
  · simp [empty]
  · have some_bytes : 0 < bytes := Nat.pos_of_ne_zero empty
    have nonzero : fleet.pods * bytes ≠ 0 := (Nat.mul_pos some_pod some_bytes).ne'
    rw [if_neg nonzero, Option.some_inj, oneDecimalKb_mul_iff some_pod some_bytes]
    simp [some_bytes]

end

/-! ### One client to a pod -/

def unit : decimals := ⟨1, decimals.one_mem⟩

/-- A client replays a stream of one event of so many bytes. -/
def replayed (bytes : Nat) : Workloads.BootstrapRun where
  args :=
    { apiStyle := .durable
      target := "http://ds:4437".toList
      bucket := "bench".toList
      basin := "bench".toList
      stream := "replay".toList
      perClientStream := true
      clients := 1
      preEvents := 1
      eventBytes := bytes
      snapshotBytes := 0 }
  measured := ⟨unit, unit, unit, ⟨1, unit, unit, unit, unit, unit, unit⟩⟩
  clients := [⟨.response 200 [some bytes], 1000⟩]
  spawned := rfl

def replayUpload (pod bytes : Nat) : Upload (Multiset Nat) Workloads.BootstrapRun :=
  ⟨[⟨hdrStem (some (decimal pod)) "bootstrap-7".toList ++ ".hdr".toList,
    bucketCrate.podHist [(Workloads.runClients (replayed bytes).clients).samples]⟩],
    replayed bytes⟩

def replayFleet (pods bytes : Nat) : Fleet (Multiset Nat) Workloads.BootstrapRun where
  pods := pods
  deliveries pod := .whole (replayUpload pod bytes)
  leftHdrs := []
  leftResults _ := .missing
  hdrDir := layOver ((List.finRange pods).flatMap fun pod : Fin pods =>
    (replayUpload pod bytes).hdrs) []
  hdrDirAll := List.Perm.refl _
  listed := List.finRange pods
  listedAll := List.Perm.refl _
  globbed := List.finRange pods
  globbedAll := List.Perm.refl _

theorem replayFleet_eachReceives (pods bytes : Nat) :
    (replayFleet pods bytes).EachReceives 1 bytes := by
  intro pod
  refine ⟨_, rfl, rfl, ?_⟩
  intro client member
  rw [List.mem_singleton.mp member]
  refine ⟨200, [some bytes], rfl, by decide, ?_⟩
  exact congrArg some (Nat.zero_add bytes)

def replaySettings (pods bytes : Nat) : CatchupSettings := ⟨1, "d1".toList, 1, bytes, 0, pods⟩

/-- One pod stores the kilobyte that its client receives. -/
theorem body_kb_per_client_one_pod :
    (runCatchupFleet bucketCrate.mergeHists aliasAdded Workloads.BootstrapRun.print
      (replayFleet 1 1024) (replaySettings 1 1024)).bodyKb = some (oneDecimalKb 1024) := by
  have some_pod : 0 < (replayFleet 1 1024).pods := by decide
  have some_client : 0 < (replaySettings 1 1024).clients := by decide
  have fits : (replayFleet 1 1024).pods * ((replaySettings 1 1024).clients * 1024) < 2 ^ 64 := by
    decide
  apply (body_kb_per_client_iff bucketCrate aliasAdded some_pod some_client
    (replayFleet_eachReceives 1 1024) fits).mpr
  exact ⟨by decide, .inl rfl⟩

/-- Two pods store two kilobytes where each client receives one. -/
theorem body_kb_doubled :
    (replayFleet 2 1024).EachReceives 1 1024 ∧ oneDecimalKb 1024 = 1 ∧
      (runCatchupFleet bucketCrate.mergeHists aliasAdded Workloads.BootstrapRun.print
        (replayFleet 2 1024) (replaySettings 2 1024)).bodyKb = some 2 := by
  have some_pod : 0 < (replayFleet 2 1024).pods := by decide
  have some_client : 0 < (replaySettings 2 1024).clients := by decide
  have fits : (replaySettings 2 1024).clients * 1024 < 2 ^ 64 := by decide
  have stored := bodyKb_runCatchupFleet bucketCrate aliasAdded some_pod some_client
    (replayFleet_eachReceives 2 1024) fits
  have pods : (replayFleet 2 1024).pods = 2 := rfl
  have two : oneDecimalKb (2 * 1024) = 2 := by decide +kernel
  refine ⟨replayFleet_eachReceives 2 1024, by decide +kernel, ?_⟩
  rw [stored, pods, if_neg (by decide), two]

end DsBench.Harness
