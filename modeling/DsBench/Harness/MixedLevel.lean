import DsBench.Harness.ReadsLevel

/-! # What a mixed level records

The coordinator merges the histograms of each class by itself and puts the summaries and the
result documents under the prefix into one document. The level stores the counts of these
results summed up, the longest of their drive windows and the percentiles of each class. Its
rates are sums and quotients of doubles, and nothing is said about them. A result file that a
crashed run left empty breaks the document, and then no level is read back from it.
-/

namespace DsBench.Harness

open DsBench.Merge

/-! ## Numbers that were printed -/

theorem asPyNumber_ofF64 {value : ℚ} (member : value ∈ decimals) :
    (Json.ofF64 value).asPyNumber = some value := by
  rw [Json.ofF64, Json.asPyNumber, Number.toRat_ofRat member]

theorem truthy_ofF64 {value : ℚ} (member : value ∈ decimals) :
    truthy (some (.ofF64 value)) = if value = 0 then none else some (.ofF64 value) := by
  rw [truthy, Option.filter_some, Json.ofF64, Json.truthy, Number.toRat_ofRat member]
  by_cases zero : value = 0
  · simp [zero]
  · simp [zero]

theorem numberOr0_ofF64 {value : ℚ} (member : value ∈ decimals) :
    numberOr0 (some (.ofF64 value)) = value := by
  rw [numberOr0, truthy_ofF64 member]
  by_cases zero : value = 0
  · rw [if_pos zero, zero]
    rfl
  · rw [if_neg zero, Option.bind_some, asPyNumber_ofF64 member, Option.getD_some]

def percentile (micros : Nat) : Option ℚ := if 0 < micros then some (ms micros) else none

theorem pos_ms (micros : Nat) : pos (some (.ofF64 (ms micros))) = percentile micros := by
  rw [pos, Option.bind_some, asPyNumber_ofF64 (ms_mem_decimals micros), Option.filter_some,
    percentile]
  simp only [ms_pos_iff, decide_eq_true_eq]

/-! ## The result of a pod -/

section

variable (result : Workloads.MixedResult)

def windowOf : ℚ := if (result.driveSecs : ℚ) = 0 then result.elapsedSecs else result.driveSecs

variable {result}

theorem f64_toJson {key : String} {value : decimals}
    (member : (key.toList, some (.ofF64 value)) ∈ result.fields) :
    fieldOf (some result.toJson) key = some (.ofF64 value) :=
  Workloads.MixedResult.get_field member

theorem u64_toJson {key : String} {value : Nat}
    (member : (key.toList, some (.ofU64 value)) ∈ result.fields) :
    numberOr0 (fieldOf (some result.toJson) key) = value := by
  have field : fieldOf (some result.toJson) key = some (.ofU64 value) :=
    Workloads.MixedResult.get_field member
  rw [field, numberOr0_ofU64]

theorem podWindow_toJson : podWindow result.toJson = windowOf result := by
  have drive : fieldOf (some result.toJson) "drive_secs" = some (.ofF64 result.driveSecs) :=
    f64_toJson (List.mem_of_getElem? (show result.fields[15]? = some _ from rfl))
  have elapsed : fieldOf (some result.toJson) "elapsed_secs" =
      some (.ofF64 result.elapsedSecs) :=
    f64_toJson (List.mem_of_getElem? (show result.fields[14]? = some _ from rfl))
  rw [podWindow, drive, elapsed, truthy_ofF64 result.driveSecs.property, windowOf]
  by_cases zero : (result.driveSecs : ℚ) = 0
  · rw [if_pos zero, if_pos zero, Option.none_or, numberOr0_ofF64 result.elapsedSecs.property]
  · rw [if_neg zero, if_neg zero, Option.some_or, numberOr0_ofF64 result.driveSecs.property]

theorem count_toJson {field sub : String} {counts : Workloads.Counts} {value : Nat}
    (written : (field.toList, some counts.toJson) ∈ result.fields)
    (inner : counts.toJson.get sub.toList = some (.ofU64 value)) :
    numberOr0 (fieldOf (truthy (fieldOf (some result.toJson) field)) sub) = value := by
  have outer : fieldOf (some result.toJson) field = some counts.toJson :=
    Workloads.MixedResult.get_field written
  have truth : counts.toJson.truthy = true := by
    simp [Workloads.Counts.toJson, Json.truthy, Members.ofFields, Members.ofList]
  rw [outer, truthy, Option.filter_some, if_pos truth, fieldOf, Option.bind_some, inner,
    numberOr0_ofU64]

theorem counts_fields (counts : Workloads.Counts) :
    counts.toJson.get "ok".toList = some (.ofU64 counts.ok) ∧
      counts.toJson.get "backpressure".toList = some (.ofU64 counts.backpressure) ∧
      counts.toJson.get "other_err".toList = some (.ofU64 counts.otherErr) := by
  simp [Workloads.Counts.toJson, Json.get, Members.ofFields, Members.ofList, Members.get]

end

/-! ## A fleet -/

section

variable {Hdr : Type} (fleet : Fleet Hdr Workloads.MixedResult)

def Fleet.driveWindow : ℚ := maxOr0 (fleet.results.map windowOf)

/-- What a level records of a fleet whose classes merge into these histograms, but for the
rates. -/
structure Fleet.Measures (write fanout read : Histogram) (metrics : MixedMetrics) : Prop where
  writeP50 : metrics.writeP50 = percentile write.p50
  writeP99 : metrics.writeP99 = percentile write.p99
  readP50 : metrics.readP50 = percentile read.p50
  readP99 : metrics.readP99 = percentile read.p99
  deliveryP50 : metrics.deliveryP50 = percentile fanout.p50
  deliveryP99 : metrics.deliveryP99 = percentile fanout.p99
  writeOk : metrics.writeOk = fleet.countSum fun result => result.writeCounts.ok
  writeBp : metrics.writeBp = fleet.countSum fun result => result.writeCounts.backpressure
  writeErr : metrics.writeErr = fleet.countSum fun result => result.writeCounts.otherErr
  readOk : metrics.readOk = fleet.countSum fun result => result.readCounts.ok
  readBp : metrics.readBp = fleet.countSum fun result => result.readCounts.backpressure
  readErr : metrics.readErr = fleet.countSum fun result => result.readCounts.otherErr
  eventsReceived : metrics.eventsReceived = fleet.countSum fun result => result.eventsReceived
  controlEventsReceived : metrics.controlEventsReceived =
    fleet.countSum fun result => result.controlEventsReceived
  elapsedSecs : metrics.elapsedSecs =
    maxOr0 (fleet.results.map fun result => (result.elapsedSecs : ℚ))
  driveSecs : metrics.driveSecs = fleet.driveWindow

variable {fleet}

theorem sum_results (count : Workloads.MixedResult → Nat) :
    (fleet.results.map fun result => (count result : ℚ)).sum = fleet.countSum count := by
  have summed : (fleet.results.map count).sum = fleet.countSum count :=
    fleet.sum_listing count fleet.globbedAll
  rw [← summed, Nat.cast_list_sum, List.map_map]
  rfl

/-! ## The composite document -/

theorem composite_fields (write fanout read : MergeSummary)
    (results : List Workloads.MixedResult) :
    (composite write fanout read results).value.get "write".toList = some write.toJson ∧
      (composite write fanout read results).value.get "fanout".toList = some fanout.toJson ∧
      (composite write fanout read results).value.get "read".toList = some read.toJson := by
  simp [composite, Piece.object, Piece.membersValue, Members.ofList, Json.get, Members.get]
  exact ⟨rfl, rfl, rfl⟩

theorem truthy_summary (summary : MergeSummary) :
    truthy (some summary.toJson) = some summary.toJson := by
  have truth : summary.toJson.truthy = true := by
    simp [MergeSummary.toJson, MergeSummary.members, MergeSummary.fields, Json.truthy,
      Members.ofFields, Members.ofList]
  rw [truthy, Option.filter_some, if_pos truth]

theorem percentiles_summarize (acc : HeadlineAcc) (histogram : Histogram) :
    pos (fieldOf (some (acc.summarize histogram).toJson) "p50_ms") =
        percentile histogram.p50 ∧
      pos (fieldOf (some (acc.summarize histogram).toJson) "p99_ms") =
        percentile histogram.p99 := by
  have p50 : fieldOf (some (acc.summarize histogram).toJson) "p50_ms" =
      some (.ofF64 (ms histogram.p50)) :=
    MergeSummary.get_field (List.mem_of_getElem?
      (show (acc.summarize histogram).fields[1]? = some _ from rfl))
  have p99 : fieldOf (some (acc.summarize histogram).toJson) "p99_ms" =
      some (.ofF64 (ms histogram.p99)) :=
    MergeSummary.get_field (List.mem_of_getElem?
      (show (acc.summarize histogram).fields[3]? = some _ from rfl))
  rw [p50, p99, pos_ms, pos_ms]
  exact ⟨rfl, rfl⟩

theorem csum_results {field sub : String} {counts : Workloads.MixedResult → Workloads.Counts}
    {value : Workloads.MixedResult → Nat}
    (written : ∀ result : Workloads.MixedResult,
      (field.toList, some (counts result).toJson) ∈ result.fields)
    (inner : ∀ result, (counts result).toJson.get sub.toList =
      some (.ofU64 (value result))) :
    csum (fleet.results.map Workloads.MixedResult.toJson) field sub = fleet.countSum value := by
  rw [csum, ← sum_results, List.map_map]
  apply congrArg List.sum
  apply List.map_congr_left
  intro result _
  exact count_toJson (written result) (inner result)

theorem fsum_results {field : String} {value : Workloads.MixedResult → Nat}
    (written : ∀ result : Workloads.MixedResult,
      (field.toList, some (.ofU64 (value result))) ∈ result.fields) :
    fsum (fleet.results.map Workloads.MixedResult.toJson) field = fleet.countSum value := by
  rw [fsum, ← sum_results, List.map_map]
  apply congrArg List.sum
  apply List.map_congr_left
  intro result _
  exact u64_toJson (written result)

theorem windows_results :
    (fleet.results.map Workloads.MixedResult.toJson).map podWindow =
      fleet.results.map windowOf := by
  rw [List.map_map]
  apply List.map_congr_left
  intro result _
  exact podWindow_toJson

theorem elapsed_results :
    ((fleet.results.map Workloads.MixedResult.toJson).map fun pod =>
        numberOr0 (fieldOf (some pod) "elapsed_secs")) =
      fleet.results.map fun result => (result.elapsedSecs : ℚ) := by
  rw [List.map_map]
  apply List.map_congr_left
  intro result _
  have elapsed : fieldOf (some result.toJson) "elapsed_secs" =
      some (.ofF64 result.elapsedSecs) :=
    f64_toJson (List.mem_of_getElem? (show result.fields[14]? = some _ from rfl))
  rw [Function.comp_apply, elapsed, numberOr0_ofF64 result.elapsedSecs.property]

theorem measures_results (writeAcc fanoutAcc readAcc : HeadlineAcc)
    (write fanout read : Histogram) :
    fleet.Measures write fanout read (metricsFromMerged (composite
      (writeAcc.summarize write) (fanoutAcc.summarize fanout) (readAcc.summarize read)
      fleet.results).value) := by
  rcases composite_fields (writeAcc.summarize write) (fanoutAcc.summarize fanout)
    (readAcc.summarize read) fleet.results with ⟨writes, fans, reads⟩
  have ok := fun counts => (counts_fields counts).1
  have backpressure := fun counts => (counts_fields counts).2.1
  have otherErr := fun counts => (counts_fields counts).2.2
  have written : ∀ result : Workloads.MixedResult,
      ("write_counts".toList, some result.writeCounts.toJson) ∈ result.fields :=
    fun result => List.mem_of_getElem? (show result.fields[16]? = some _ from rfl)
  have readable : ∀ result : Workloads.MixedResult,
      ("read_counts".toList, some result.readCounts.toJson) ∈ result.fields :=
    fun result => List.mem_of_getElem? (show result.fields[20]? = some _ from rfl)
  have events : ∀ result : Workloads.MixedResult,
      ("events_received".toList, some (.ofU64 result.eventsReceived)) ∈ result.fields :=
    fun result => List.mem_of_getElem? (show result.fields[17]? = some _ from rfl)
  have controls : ∀ result : Workloads.MixedResult,
      ("control_events_received".toList, some (.ofU64 result.controlEventsReceived)) ∈
        result.fields :=
    fun result => List.mem_of_getElem? (show result.fields[18]? = some _ from rfl)
  constructor
  case writeOk =>
    simp only [metricsFromMerged, podsOf_composite]
    exact csum_results written fun result => ok result.writeCounts
  case writeBp =>
    simp only [metricsFromMerged, podsOf_composite]
    exact csum_results written fun result => backpressure result.writeCounts
  case writeErr =>
    simp only [metricsFromMerged, podsOf_composite]
    exact csum_results written fun result => otherErr result.writeCounts
  case readOk =>
    simp only [metricsFromMerged, podsOf_composite]
    exact csum_results readable fun result => ok result.readCounts
  case readBp =>
    simp only [metricsFromMerged, podsOf_composite]
    exact csum_results readable fun result => backpressure result.readCounts
  case readErr =>
    simp only [metricsFromMerged, podsOf_composite]
    exact csum_results readable fun result => otherErr result.readCounts
  case eventsReceived =>
    simp only [metricsFromMerged, podsOf_composite]
    exact fsum_results events
  case controlEventsReceived =>
    simp only [metricsFromMerged, podsOf_composite]
    exact fsum_results controls
  case elapsedSecs =>
    simp only [metricsFromMerged, podsOf_composite, elapsed_results]
  case driveSecs =>
    simp only [metricsFromMerged, podsOf_composite, windows_results]
    rfl
  all_goals
    simp only [metricsFromMerged, writes, fans, reads, truthy_summary,
      (percentiles_summarize _ _).1, (percentiles_summarize _ _).2]

/-! ## What is stored -/

variable {mergeHdrs : List Hdr → Option Histogram} (chatter : Chatter)

theorem hdrMerge_some {labelPrefix : Text} {resultsDir : Option (List DirEntry)}
    {files : List (HdrFile Hdr)} {histogram : Histogram}
    (merges : mergeDirFiltered mergeHdrs labelPrefix files = some histogram) :
    hdrMerge mergeHdrs labelPrefix resultsDir files =
      ((scanHeadlines resultsDir).summarize histogram).print := by
  rw [hdrMerge, mergeSummaryFiltered, merges, Option.map_some]

theorem foldl_max_const {windows : List ℚ} {duration : ℚ}
    (same : ∀ window ∈ windows, window = duration) : windows.foldl max duration = duration := by
  induction windows with
  | nil => rfl
  | cons window windows induction =>
      rw [List.foldl_cons, same window List.mem_cons_self, max_self]
      exact induction fun other member => same other (List.mem_cons_of_mem _ member)

theorem driveWindow_eq (uploaded : fleet.results ≠ []) {duration : ℚ} (some_time : duration ≠ 0)
    (drives : ∀ result ∈ fleet.results, (result.driveSecs : ℚ) = duration) :
    fleet.driveWindow = duration := by
  have windows : ∀ window ∈ fleet.results.map windowOf, window = duration := by
    intro window member
    rcases List.mem_map.mp member with ⟨result, listed, same⟩
    rw [← same, windowOf, drives result listed, if_neg some_time]
  rw [Fleet.driveWindow]
  cases shape : fleet.results.map windowOf with
  | nil => exact (uploaded (List.map_eq_nil_iff.mp shape)).elim
  | cons first others =>
      rw [shape] at windows
      rw [maxOr0, windows first List.mem_cons_self]
      exact foldl_max_const fun window member => windows window (List.mem_cons_of_mem _ member)

theorem fileCount_of_results (some_result : fleet.results ≠ []) : fleet.fileCount ≠ 0 := by
  apply Fleet.fileCount_pos
  intro none_left
  have perm := fleet.scanned_perm
  rw [none_left] at perm
  exact some_result perm.nil_eq.symm

theorem parseMerged_broken (some_result : fleet.results ≠ [])
    (broken : ¬ fleet.Merges mergeHdrs ∨ ¬ fleet.NoneEmpty) :
    parseMerged (chatter.text ++ mixedMerge mergeHdrs fleet) = none := by
  by_cases merges : fleet.Merges mergeHdrs
  · have some_empty : ¬ fleet.NoneEmpty := broken.resolve_left (not_not_intro merges)
    rcases parseMerged_empty merges some_empty with unread | ⟨none_left, -⟩
    · exact unread
    · exact (some_result none_left).elim
  · exact parseMerged_missing merges

/-- Where the histograms of the three classes merge and no result file under the prefix is
empty, a mixed level is stored with the counts of the results there, summed up, with the
longest window and the percentiles of each class. Where one class does not merge or a file is
empty nothing of the results is stored. Pods that all drive for one time have that window. -/
theorem mixed_level_exact (some_result : fleet.results ≠ []) (load : MixedLoad) :
    (∀ write fanout read,
      mergeDirFiltered mergeHdrs "mixed-write-".toList fleet.hdrDir = some write →
      mergeDirFiltered mergeHdrs "mixed-fanout-".toList fleet.hdrDir = some fanout →
      mergeDirFiltered mergeHdrs "mixed-read-".toList fleet.hdrDir = some read →
      fleet.NoneEmpty →
        ∃ metrics, fleet.Measures write fanout read metrics ∧
          runMixedLevel mergeHdrs chatter fleet load =
            { metrics := some metrics
              level := load.level
              readers := load.readers
              subscribers := load.subscribers
              writerRate := load.writerRate
              readRate := load.readRate
              status := (mixedVerdict load metrics).1
              reason := (mixedVerdict load metrics).2 }) ∧
      (¬ fleet.Merges mergeHdrs ∨ ¬ fleet.NoneEmpty →
        runMixedLevel mergeHdrs chatter fleet load =
          { metrics := none
            level := load.level
            readers := load.readers
            subscribers := load.subscribers
            writerRate := load.writerRate
            readRate := load.readRate
            status := .error
            reason := .noMergedResult }) ∧
      ∀ duration : ℚ, duration ≠ 0 →
        (∀ result ∈ fleet.results, (result.driveSecs : ℚ) = duration) →
          fleet.driveWindow = duration := by
  have output : mixedOutput mergeHdrs chatter fleet =
      chatter.text ++ mixedMerge mergeHdrs fleet := by
    rw [mixedOutput, coordinator, if_neg (fileCount_of_results some_result)]
  refine ⟨?_, ?_, fun duration => driveWindow_eq some_result⟩
  · intro write fanout read writes fans reads noneEmpty
    have parsed : parseMerged (chatter.text ++ mixedMerge mergeHdrs fleet) = _ :=
      parseMerged_composite noneEmpty (hdrMerge_some writes) (hdrMerge_some fans)
        (hdrMerge_some reads)
    let entries := resultEntries fleet "mixed".toList Workloads.MixedResult.print
    refine ⟨_, measures_results (scanHeadlines (some entries)) (scanHeadlines none)
      (scanHeadlines none) write fanout read, ?_⟩
    rw [runMixedLevel, recordMerged, Option.bind_some, output, parsed]
    rfl
  · intro broken
    rw [runMixedLevel, recordMerged, Option.bind_some, output,
      parseMerged_broken chatter some_result broken]
    rfl

end

/-! ### Two pods -/

def trafficUpload : Upload Histogram Workloads.MixedResult :=
  busyUpload ["mixed-write-7-0.hdr", "mixed-fanout-7-0.hdr", "mixed-read-7-0.hdr"] busyPod

theorem trafficHdrs_perm : (trafficUpload.hdrs ++ trafficUpload.hdrs).Perm
    (layOver ((List.finRange 2).flatMap fun _ => trafficUpload.hdrs) []) :=
  List.Perm.refl _

/-- Two pods that upload, the second listed before the first. -/
def trafficFleet : Fleet Histogram Workloads.MixedResult where
  pods := 2
  deliveries _ := .whole trafficUpload
  leftHdrs := []
  leftResults _ := .missing
  hdrDir := trafficUpload.hdrs ++ trafficUpload.hdrs
  hdrDirAll := trafficHdrs_perm
  listed := (List.finRange 2).reverse
  listedAll := secondFirst_perm
  globbed := (List.finRange 2).reverse
  globbedAll := secondFirst_perm

/-- Of two pods the second crashes, and uploads its empty file. -/
def crashedFleet : Fleet Histogram Workloads.MixedResult where
  pods := 2
  deliveries pod :=
    if pod.val = 0 then .whole trafficUpload else .broken trafficUpload.hdrs .empty
  leftHdrs := []
  leftResults _ := .missing
  hdrDir := trafficUpload.hdrs ++ trafficUpload.hdrs
  hdrDirAll := trafficHdrs_perm
  listed := (List.finRange 2).reverse
  listedAll := secondFirst_perm
  globbed := (List.finRange 2).reverse
  globbedAll := secondFirst_perm

def trafficLoad : MixedLoad := ⟨1, 1, 1, 5, 0⟩

theorem mixed_level_of_two_pods :
    (∃ metrics, (runMixedLevel firstHistogram aliasAdded trafficFleet trafficLoad).metrics =
        some metrics ∧ metrics.readOk = 200 ∧ metrics.driveSecs = busyPod.driveSecs) ∧
      (runMixedLevel firstHistogram aliasAdded crashedFleet trafficLoad).reason =
        .noMergedResult := by
  have some_traffic : trafficFleet.results ≠ [] := List.cons_ne_nil _ _
  have some_crashed : crashedFleet.results ≠ [] := List.cons_ne_nil _ _
  have noneEmpty : trafficFleet.NoneEmpty := by
    intro pod empty
    cases empty
  have some_empty : ¬ crashedFleet.NoneEmpty := fun noneEmpty => noneEmpty (1 : Fin 2) rfl
  have writes : mergeDirFiltered firstHistogram "mixed-write-".toList trafficFleet.hdrDir =
      some oneMs := by decide +kernel
  have fans : mergeDirFiltered firstHistogram "mixed-fanout-".toList trafficFleet.hdrDir =
      some oneMs := by decide +kernel
  have reads : mergeDirFiltered firstHistogram "mixed-read-".toList trafficFleet.hdrDir =
      some oneMs := by decide +kernel
  have readOk : trafficFleet.countSum (fun result => result.readCounts.ok) = 200 := by
    decide +kernel
  rcases mixed_level_exact aliasAdded some_traffic trafficLoad with ⟨exact_level, -, window⟩
  rcases exact_level oneMs oneMs oneMs writes fans reads noneEmpty with
    ⟨metrics, measures, stored⟩
  have drive : trafficFleet.driveWindow = busyPod.driveSecs := by
    apply window
    · decide +kernel
    · intro result member
      have results : trafficFleet.results = [busyPod, busyPod] := rfl
      rw [results] at member
      simp only [List.mem_cons, List.not_mem_nil, or_false, or_self] at member
      rw [member]
  constructor
  · refine ⟨metrics, ?_, ?_, ?_⟩
    · rw [stored]
    · rw [measures.readOk, readOk]
      rfl
    · rw [measures.driveSecs, drive]
  · rw [(mixed_level_exact aliasAdded some_crashed trafficLoad).2.1 (.inr some_empty)]

end DsBench.Harness
