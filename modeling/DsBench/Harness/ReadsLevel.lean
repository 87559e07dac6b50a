import DsBench.Harness.CatchupBody
import DsBench.Workloads.ReadsResult

/-! # What a reads level records

The numbers of a connection level come from the result documents under the prefix of its run,
through the merge and its printed summary, out of which the recorder takes each by its name.
The percentiles are those of the merged histogram, and the counts are the sums over the
documents. The rates are sums of doubles: nothing is said about them, and the rest does not
depend on them.
-/

namespace DsBench.Harness

open DsBench.Merge

/-! ## The scan of reads documents -/

structure ReadsShare where
  backpressure : Nat
  otherErr : Nat

structure IsReads (document : Json) (share : ReadsShare) : Prop where
  scenario : scenarioOf document = "reads".toList
  ops : ∃ ops, f64Field "aggregate_ops_per_sec" document = some ops
  bytes : ∃ bytes, f64Field "bytes_per_sec" document = some bytes
  counts : ∃ counts, document.get "counts".toList = some counts ∧
    u64Field "backpressure" counts = some share.backpressure ∧
    u64Field "other_err" counts = some share.otherErr
  stamps : windowStamps document = none

structure HoldsReads (acc : HeadlineAcc) (shares : List ReadsShare) : Prop where
  catchup : acc.sawCatchup = false
  fanout : acc.sawFanout = false
  multiFanout : acc.sawMultiFanout = false
  backpressure : acc.readsBackpressure = (shares.map ReadsShare.backpressure).sum
  otherErr : acc.readsOtherErr = (shares.map ReadsShare.otherErr).sum
  saw : shares ≠ [] → acc.sawOps = true ∧ acc.sawReads = true
  pods : acc.podsReported = shares.length
  start : acc.winMinStartMs = none
  overlap : acc.winMaxStartMs = none

theorem HoldsReads.scan {acc : HeadlineAcc} {shares : List ReadsShare} {document : Json}
    {share : ReadsShare} (holds : HoldsReads acc shares) (reads : IsReads document share) :
    HoldsReads (acc.scanDocument document) (shares ++ [share]) := by
  rcases reads.counts with ⟨counts, found, backpressure, otherErr⟩
  rcases reads.ops with ⟨ops, opsFound⟩
  rcases reads.bytes with ⟨bytes, bytesFound⟩
  have scanned : acc.scanDocument document =
      { acc with
        podsReported := acc.podsReported + 1
        sawOps := true
        ops := acc.ops + ops
        sawReads := true
        readsBytesPerSec := acc.readsBytesPerSec + bytes
        readsBackpressure := acc.readsBackpressure + share.backpressure
        readsOtherErr := acc.readsOtherErr + share.otherErr } := by
    rw [HeadlineAcc.scanDocument, HeadlineAcc.scanStamps, reads.stamps]
    unfold HeadlineAcc.scanScenario
    simp only [reads.scenario]
    rw [if_neg (by decide), if_neg (by decide), if_neg (by decide), if_pos trivial,
      HeadlineAcc.scanOps, opsFound, HeadlineAcc.scanReadsBytes, bytesFound,
      HeadlineAcc.scanReadsCounts, found]
    simp only [backpressure, otherErr, Option.getD_some]
  rw [scanned]
  refine ⟨holds.catchup, holds.fanout, holds.multiFanout, ?_, ?_, fun _ => ⟨rfl, rfl⟩, ?_,
    holds.start, holds.overlap⟩
  · simp [holds.backpressure]
  · simp [holds.otherErr]
  · simp [holds.pods]

theorem holdsReads_foldl {documents : List (Json × ReadsShare)}
    (reads : ∀ entry ∈ documents, IsReads entry.1 entry.2) {acc : HeadlineAcc}
    {shares : List ReadsShare} (holds : HoldsReads acc shares) :
    HoldsReads ((documents.map Prod.fst).foldl HeadlineAcc.scanDocument acc)
      (shares ++ documents.map Prod.snd) := by
  induction documents generalizing acc shares with
  | nil => simpa using holds
  | cons entry documents induction =>
      have step := holds.scan (reads entry List.mem_cons_self)
      have rest := induction (fun other member => reads other (List.mem_cons_of_mem _ member))
        step
      rw [List.append_assoc] at rest
      exact rest

theorem holdsReads_start : HoldsReads {} [] :=
  ⟨rfl, rfl, rfl, rfl, rfl, fun some_share => (some_share rfl).elim, rfl, rfl, rfl⟩

/-! ## The printed summary -/

def readsLines (summary : MergeSummary) (ops bytes : ℚ) (total : ReadsShare) :
    List (String × Number) := [
  ("merged_count", .int summary.mergedCount), ("p50_ms", .ofRat summary.p50Ms),
  ("p90_ms", .ofRat summary.p90Ms), ("p99_ms", .ofRat summary.p99Ms),
  ("p999_ms", .ofRat summary.p999Ms), ("max_ms", .ofRat summary.maxMs),
  ("aggregate_ops_per_sec", .ofRat ops), ("bytes_per_sec", .ofRat bytes),
  ("backpressure_total", .int total.backpressure), ("other_err_total", .int total.otherErr)]

structure ReadsSummary (summary : MergeSummary) (total : ReadsShare) (pods : Nat) : Prop where
  ops : ∃ ops, summary.aggregateOpsPerSec = some ops
  mb : summary.aggregateMbPerSec = none
  received : summary.bytesReceivedTotal = none
  events : summary.eventsReceivedTotal = none
  eventsRate : summary.eventsPerSec = none
  fanoutRate : summary.aggregateEventsPerSec = none
  bytes : ∃ bytes, summary.bytesPerSec = some bytes
  backpressure : summary.backpressureTotal = some total.backpressure
  otherErr : summary.otherErrTotal = some total.otherErr
  span : summary.measureSpanSecs = none
  window : summary.measureWindowSecs = none
  aligned : summary.windowsAligned = none
  overlapStart : summary.measureOverlapStartUnixMs = none
  overlapEnd : summary.measureOverlapEndUnixMs = none
  pods : summary.podsReported = some pods

theorem ReadsSummary.print_shape {summary : MergeSummary} {total : ReadsShare} {pods : Nat}
    (reads : ReadsSummary summary total pods) :
    ∃ ops bytes rest, summary.print =
      '{' :: fieldLines (readsLines summary ops bytes total) rest := by
  rcases reads.ops with ⟨ops, hasOps⟩
  rcases reads.bytes with ⟨bytes, hasBytes⟩
  refine ⟨ops, bytes, ?_⟩
  rw [MergeSummary.print, MergeSummary.toJson, MergeSummary.members, MergeSummary.fields,
    Members.ofFields, hasOps, reads.mb, reads.received, reads.events, reads.eventsRate,
    reads.fanoutRate, hasBytes, reads.backpressure, reads.otherErr, reads.span, reads.window,
    reads.aligned, reads.overlapStart, reads.overlapEnd, reads.pods]
  simp only [List.filterMap_cons, Option.map_some, Option.map_none, List.filterMap_nil]
  simp only [Members.ofList, Json.render, Members.render, Json.ofU64, Json.ofF64]
  simp only [List.cons_append, List.append_assoc]
  simp only [fieldLines, readsLines, List.foldr_cons, List.foldr_nil]
  exact ⟨_, rfl⟩

/-! ## What `grep` takes from it -/

theorem takeWhile_digits (negative : Bool) {digits : Text} (rest : Text)
    (numeric : ∀ character ∈ digits, isNumberChar character = true) (nonempty : digits ≠ []) :
    signedNumber ((if negative then ['-'] else []) ++ digits ++ ',' :: rest) =
      (if negative then ['-'] else []) ++ digits := by
  cases negative with
  | true =>
      have taken : (digits ++ ',' :: rest).takeWhile isNumberChar = digits :=
        takeWhile_number numeric
      simp only [if_true, List.cons_append, List.nil_append, signedNumber]
      rw [taken, if_neg nonempty]
  | false => exact signedNumber_unsigned numeric nonempty

theorem signedNumber_render (number : Number) (rest : Text) :
    signedNumber (number.render ++ ',' :: rest) = number.render := by
  have isNumber : ∀ {digit : Char}, digit.isDigit = true → isNumberChar digit = true := by
    intro digit isDigit
    rw [isNumberChar, isDigit, Bool.true_or]
  rw [Number.render_sign]
  cases number with
  | int value =>
      simp only [List.append_nil]
      apply takeWhile_digits
      · intro character member
        exact isNumber (isDigit_of_mem_decimal member)
      · exact decimal_ne_nil _
  | decimal mantissa places =>
      apply takeWhile_digits
      · intro character member
        rcases List.mem_append.mp member with whole | fraction
        · exact isNumber (isDigit_of_mem_decimal whole)
        · rcases List.mem_cons.mp fraction with point | digit
          · rw [point]
            rfl
          · exact isNumber (isDigit_of_mem_padded digit)
      · intro empty
        exact List.cons_ne_nil _ _ (List.append_eq_nil_iff.mp empty).2

theorem fieldLines_append (before after : List (String × Number)) (rest : Text) :
    fieldLines (before ++ after) rest = fieldLines before (fieldLines after rest) :=
  List.foldr_append

theorem grepSignedField_printed (chatter : Chatter) {fields : List (String × Number)}
    (distinct : (fields.map Prod.fst).Nodup)
    (plain : ∀ name ∈ fields.map Prod.fst,
      '"' ∉ name.toList ∧ name.toList.head? ≠ some ':' ∧ name ≠ "")
    {key : String} {value : Number} (member : (key, value) ∈ fields) (rest : Text) :
    grepSignedField key (chatter.text ++ '{' :: fieldLines fields rest) =
      some value.render := by
  rcases List.append_of_mem member with ⟨before, after, split⟩
  rcases plain key (List.mem_map_of_mem member) with ⟨noQuote, noColon, nonempty⟩
  have others : ∀ name ∈ before.map Prod.fst,
      '"' ∉ name.toList ∧ name.toList ≠ key.toList := by
    intro name earlier
    constructor
    · apply (plain name _).1
      rw [split, List.map_append]
      exact List.mem_append_left _ earlier
    · intro same
      rw [split, List.map_append, List.map_cons, List.nodup_append] at distinct
      exact distinct.2.2 name earlier key List.mem_cons_self (String.toList_injective same)
  rw [split, fieldLines_append]
  exact firstMatch_printed chatter noQuote noColon nonempty others
    (signedNumber_render value (fieldLines after rest))

def summaryNames : List String := ["merged_count", "p50_ms", "p90_ms", "p99_ms", "p999_ms",
  "max_ms", "aggregate_ops_per_sec", "bytes_per_sec", "backpressure_total",
  "other_err_total"]

theorem ReadsSummary.rdField_print {summary : MergeSummary} {total : ReadsShare} {pods : Nat}
    (reads : ReadsSummary summary total pods) (chatter : Chatter) {key : String}
    {value : Number}
    (member : ∀ ops bytes, (key, value) ∈ readsLines summary ops bytes total) :
    rdField (some (chatter.text ++ summary.print)) key = some value.render := by
  rcases reads.print_shape with ⟨ops, bytes, rest, shape⟩
  have names : (readsLines summary ops bytes total).map Prod.fst = summaryNames := rfl
  have distinct : ((readsLines summary ops bytes total).map Prod.fst).Nodup := by
    rw [names]
    decide +kernel
  have plain : ∀ name ∈ (readsLines summary ops bytes total).map Prod.fst,
      '"' ∉ name.toList ∧ name.toList.head? ≠ some ':' ∧ name ≠ "" := by
    rw [names]
    decide +kernel
  rw [rdField, Option.bind_some, shape]
  exact grepSignedField_printed chatter distinct plain (member ops bytes) rest

/-! ## The documents of a fleet -/

def shareOf (result : Workloads.ReadsResult) : ReadsShare where
  backpressure := result.counts.backpressure
  otherErr := result.counts.otherErr

theorem asF64_ofF64 {value : ℚ} (member : value ∈ decimals) :
    (Json.ofF64 value).asF64 = some value := by
  rw [Json.asF64, Json.ofF64, Json.asNumber, Option.map_some, Number.toRat_ofRat member]

theorem f64Field_toJson {result : Workloads.ReadsResult} {key : String} {value : decimals}
    (member : (key.toList, some (.ofF64 value)) ∈ result.fields) :
    f64Field key result.toJson = some (value : ℚ) := by
  have field := Workloads.ReadsResult.get_field member
  rw [f64Field, field, Option.bind_some, asF64_ofF64 value.property]

theorem isReads_toJson {result : Workloads.ReadsResult}
    (backpressure : result.counts.backpressure < 2 ^ 64)
    (otherErr : result.counts.otherErr < 2 ^ 64) :
    IsReads result.toJson (shareOf result) where
  scenario := by
    have field : result.toJson.get "scenario".toList = some (.str "reads".toList) :=
      Workloads.ReadsResult.get_field List.mem_cons_self
    rw [scenarioOf, field]
    rfl
  ops := ⟨_, f64Field_toJson
    (List.mem_of_getElem? (show result.fields[16]? = some _ from rfl))⟩
  bytes := ⟨_, f64Field_toJson
    (List.mem_of_getElem? (show result.fields[17]? = some _ from rfl))⟩
  counts := by
    have field : result.toJson.get "counts".toList = some result.counts.toJson :=
      Workloads.ReadsResult.get_field
        (List.mem_of_getElem? (show result.fields[14]? = some _ from rfl))
    have first : result.counts.toJson.get "backpressure".toList =
        some (.ofU64 result.counts.backpressure) := by
      simp [Workloads.Counts.toJson, Json.get, Members.ofFields, Members.ofList, Members.get]
    have second : result.counts.toJson.get "other_err".toList =
        some (.ofU64 result.counts.otherErr) := by
      simp [Workloads.Counts.toJson, Json.get, Members.ofFields, Members.ofList, Members.get]
    refine ⟨_, field, ?_, ?_⟩
    · rw [u64Field, first, Option.bind_some, asU64_ofU64 backpressure]
      rfl
    · rw [u64Field, second, Option.bind_some, asU64_ofU64 otherErr]
      rfl
  stamps := by
    have absent : result.toJson.get "measure_start_unix_ms".toList = none := by
      apply Members.get_ofFields_of_notMem
      change _ ∉ Workloads.ReadsResult.fieldNames
      decide +kernel
    rw [windowStamps, u64Field, absent]
    rfl

section

variable {Hdr : Type} {fleet : Fleet Hdr Workloads.ReadsResult}

def Fleet.shares (fleet : Fleet Hdr Workloads.ReadsResult) : List ReadsShare :=
  fleet.scanned.map shareOf

def Fleet.total (fleet : Fleet Hdr Workloads.ReadsResult) : ReadsShare where
  backpressure := fleet.countSum fun result => result.counts.backpressure
  otherErr := fleet.countSum fun result => result.counts.otherErr

theorem sum_shares :
    (fleet.shares.map ReadsShare.backpressure).sum = fleet.total.backpressure ∧
      (fleet.shares.map ReadsShare.otherErr).sum = fleet.total.otherErr := by
  rw [Fleet.shares, List.map_map, List.map_map]
  exact ⟨fleet.sum_listing _ fleet.listedAll, fleet.sum_listing _ fleet.listedAll⟩

/-- Counters whose sum over the fleet is a whole number that a double has. -/
structure Fleet.CountsFit (fleet : Fleet Hdr Workloads.ReadsResult) : Prop where
  backpressure : fleet.total.backpressure < 2 ^ 53
  otherErr : fleet.total.otherErr < 2 ^ 53

theorem Fleet.CountsFit.pod (fit : fleet.CountsFit) :
    ∀ result ∈ fleet.scanned, result.counts.backpressure < 2 ^ 64 ∧
      result.counts.otherErr < 2 ^ 64 := by
  intro result member
  have share : shareOf result ∈ fleet.shares := List.mem_map_of_mem member
  have refused : result.counts.backpressure ∈ fleet.shares.map ReadsShare.backpressure :=
    List.mem_map_of_mem share
  have failed : result.counts.otherErr ∈ fleet.shares.map ReadsShare.otherErr :=
    List.mem_map_of_mem share
  have backpressure := List.single_le_sum (fun _ _ => Nat.zero_le _) _ refused
  have otherErr := List.single_le_sum (fun _ _ => Nat.zero_le _) _ failed
  have first := fit.backpressure
  have second := fit.otherErr
  rw [sum_shares.1] at backpressure
  rw [sum_shares.2] at otherErr
  omega

theorem Fleet.CountsFit.held (fit : fleet.CountsFit) :
    HoldsReads (scanHeadlines (some (resultEntries fleet "reads".toList
      Workloads.ReadsResult.print))) fleet.shares := by
  let documents := fleet.scanned.map fun result => (result.toJson, shareOf result)
  have reads : ∀ entry ∈ documents, IsReads entry.1 entry.2 := by
    intro entry member
    rcases List.mem_map.mp member with ⟨result, listed, same⟩
    rw [← same]
    have fits := fit.pod result listed
    exact isReads_toJson fits.1 fits.2
  have held := holdsReads_foldl reads holdsReads_start
  rw [List.map_map, List.map_map, List.nil_append] at held
  rw [scanHeadlines, Option.getD_some,
    documents_of_parsed fleet "reads".toList Workloads.ReadsResult.loads_print]
  exact held

theorem HoldsReads.summary {acc : HeadlineAcc} (holds : HoldsReads acc fleet.shares)
    (some_result : fleet.scanned ≠ []) (histogram : Histogram) :
    ReadsSummary (acc.summarize histogram) fleet.total fleet.scanned.length := by
  have some_share : fleet.shares ≠ [] := by
    rw [Fleet.shares]
    exact fun none_left => some_result (List.map_eq_nil_iff.mp none_left)
  rcases holds.saw some_share with ⟨sawOps, sawReads⟩
  have pods : 0 < acc.podsReported := by
    rw [holds.pods]
    exact List.length_pos_of_ne_nil some_share
  have noSpan : acc.span = none := by
    rw [HeadlineAcc.span, holds.start]
  have noOverlap : acc.overlap = none := by
    rw [HeadlineAcc.overlap, holds.overlap]
  have refused := holds.backpressure.trans sum_shares.1
  have failed := holds.otherErr.trans sum_shares.2
  constructor
  case pods =>
    rw [HeadlineAcc.summarize, if_pos pods, holds.pods, Fleet.shares, List.length_map]
  all_goals
    simp [HeadlineAcc.summarize, holds.catchup, holds.fanout, holds.multiFanout, sawOps,
      sawReads, noSpan, noOverlap, refused, failed]

/-! ## What is stored -/

variable {mergeHdrs : List Hdr → Option Histogram} (chatter : Chatter)

theorem intOr_render (count : Nat) (fallback : String) :
    intOr (some (Number.int count).render) fallback = count := by
  rw [intOr, floatOr_render, Option.map_some, Option.getD_some, Number.toRat]
  simp

def readsVerdict (p99 : Nat) : Status × ReadsReason :=
  if 0 < p99 then (.ok, .complete) else (.error, .noReads)

theorem ms_pos_iff (micros : Nat) : 0 < ms micros ↔ 0 < micros := by
  rw [ms]
  constructor
  · intro above
    by_contra zero
    simp [Nat.eq_zero_of_not_pos zero] at above
  · intro above
    positivity

/-- A connection level is stored with the percentiles of the histograms under the prefix of
its run and with the counts of the results there, summed up: a pod's own result, or what an
earlier fleet left under its name. -/
theorem reads_level_exact (some_result : fleet.scanned ≠ []) (fit : fleet.CountsFit)
    {histogram : Histogram}
    (merges : mergeDirFiltered mergeHdrs "reads-".toList fleet.hdrDir = some histogram)
    (connections : Nat) :
    ∃ opsPerSec bytesPerSec,
      runReadsLevel mergeHdrs chatter Workloads.ReadsResult.print fleet connections =
        { connections := connections
          opsPerSec := opsPerSec
          bytesPerSec := bytesPerSec
          p50 := some (ms histogram.p50)
          p99 := some (ms histogram.p99)
          backpressure := fleet.countSum fun result => result.counts.backpressure
          otherErr := fleet.countSum fun result => result.counts.otherErr
          status := (readsVerdict histogram.p99).1
          reason := (readsVerdict histogram.p99).2 } := by
  have held := fit.held
  generalize stored : scanHeadlines (some (resultEntries fleet "reads".toList
    Workloads.ReadsResult.print)) = acc at held
  have output : plainOutput mergeHdrs chatter Workloads.ReadsResult.print fleet
      "reads".toList "reads-".toList =
        chatter.text ++ (acc.summarize histogram).print := by
    rw [plainOutput, coordinator, if_neg (Fleet.fileCount_pos some_result), plainMerge,
      hdrMerge, mergeSummaryFiltered, merges, Option.map_some, stored]
  have reads := held.summary some_result histogram
  have found : ∀ {index : Nat} {key : String} {value : Number},
      (∀ ops bytes, (readsLines (acc.summarize histogram) ops bytes fleet.total)[index]? =
        some (key, value)) →
        rdField (some (chatter.text ++ (acc.summarize histogram).print)) key =
          some value.render := by
    intro index key value line
    exact reads.rdField_print chatter fun ops bytes => List.mem_of_getElem? (line ops bytes)
  have p50 := found fun ops bytes =>
    show _[1]? = some ("p50_ms", Number.ofRat (ms histogram.p50)) from rfl
  have p99 := found fun ops bytes =>
    show _[3]? = some ("p99_ms", Number.ofRat (ms histogram.p99)) from rfl
  have backpressure := found fun ops bytes =>
    show _[8]? = some ("backpressure_total", Number.int fleet.total.backpressure) from rfl
  have otherErr := found fun ops bytes =>
    show _[9]? = some ("other_err_total", Number.int fleet.total.otherErr) from rfl
  let merged := chatter.text ++ (acc.summarize histogram).print
  refine ⟨floatOr (rdField (some merged) "aggregate_ops_per_sec") "0",
    floatOr (rdField (some merged) "bytes_per_sec") "0", ?_⟩
  rw [runReadsLevel, output, recordReadsCell]
  simp only [p50, p99, backpressure, otherErr, floatOr_render, intOr_render,
    Number.toRat_ofRat (ms_mem_decimals _), Option.any_some, decide_eq_true_eq, ms_pos_iff,
    readsVerdict, Fleet.total]
  split <;> rfl

end

/-! ### Two pods -/

/-- A pod that read for a while with so many requests turned away. -/
def readerPod (refused : Nat) : Workloads.ReadsResult where
  mode := .catchup
  apiStyle := .durable
  target := "http://ds:4437".toList
  stream := "reads".toList
  streams := 1
  readSizeBytes := 256
  connections := 8
  durationSecs := 20
  warmupSecs := 5
  settleSecs := 0
  seedBytes := 1024
  appendRatePerSec := unit
  elapsedSecs := unit
  counts := ⟨100, refused, 0⟩
  bytesReadTotal := 25600
  aggregateOpsPerSec := unit
  bytesPerSec := unit
  latencyMs := ⟨100, unit, unit, unit, unit, unit, unit⟩

def readerHdrs : List (HdrFile Histogram) :=
  (busyUpload ["reads-7-0.hdr", "reads-7-1.hdr"] (readerPod 5)).hdrs

theorem readerHdrs_perm :
    readerHdrs.Perm (layOver (busyUpload ["reads-7-1.hdr"] (readerPod 3)).hdrs readerHdrs) :=
  List.Perm.swap _ _ _

theorem secondFirst_perm : (List.finRange 2).reverse.Perm (List.finRange 2) :=
  List.reverse_perm _

/-- The second of two pods uploads over what an earlier fleet left, the first does not. -/
def readerFleet : Fleet Histogram Workloads.ReadsResult where
  pods := 2
  deliveries pod := if pod.val = 0 then .broken [] .missing else
    .whole (busyUpload ["reads-7-1.hdr"] (readerPod 3))
  leftHdrs := readerHdrs
  leftResults _ := .printed (readerPod 5)
  hdrDir := readerHdrs
  hdrDirAll := readerHdrs_perm
  listed := (List.finRange 2).reverse
  listedAll := secondFirst_perm
  globbed := List.finRange 2
  globbedAll := List.Perm.refl _

theorem readerFleet_countsFit : readerFleet.CountsFit where
  backpressure := by decide +kernel
  otherErr := by decide +kernel

/-- The eight requests turned away are three of this fleet and five of the one before. -/
theorem reads_level_of_two_pods :
    ∃ opsPerSec bytesPerSec,
      runReadsLevel firstHistogram aliasAdded Workloads.ReadsResult.print readerFleet 8 =
        { connections := 8
          opsPerSec := opsPerSec
          bytesPerSec := bytesPerSec
          p50 := some (ms 1000)
          p99 := some (ms 1000)
          backpressure := (8 : Nat)
          otherErr := (0 : Nat)
          status := .ok
          reason := .complete } := by
  have some_result : readerFleet.scanned ≠ [] := by
    have listed : readerFleet.scanned.length = 2 := by decide +kernel
    intro none_left
    rw [none_left] at listed
    cases listed
  have merges : mergeDirFiltered firstHistogram "reads-".toList readerFleet.hdrDir =
      some oneMs := by decide +kernel
  have refused : readerFleet.countSum (fun result => result.counts.backpressure) = 8 := by
    decide +kernel
  have failed : readerFleet.countSum (fun result => result.counts.otherErr) = 0 := by
    decide +kernel
  have stored := reads_level_exact aliasAdded some_result readerFleet_countsFit merges 8
  rw [refused, failed] at stored
  exact stored

end DsBench.Harness
