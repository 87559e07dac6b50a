import DsBench.Foundation.ShellText
import DsBench.Harness.MergedReading
import DsBench.Merge.HeadlineScan
import DsBench.Workloads.MultiStreamResult
import Mathlib.Algebra.BigOperators.Fin

/-! # The reading of a fleet

From the outcome of every pod of a multi-stream fleet to the throughput the harness
reads: the files that reach the merge directory, the summary merged from them, the
text printed, and the gate on it.
-/

namespace DsBench.Harness

open DsBench.Merge

/-! ## A summary read back from the merged output -/

def Scalar : Json → Prop
  | .bool _ => True
  | .num _ => True
  | _ => False

theorem Scalar.braceFree {value : Json} (scalar : Scalar value) (layout : Layout) :
    BraceFree layout value := by
  cases value with
  | bool value => exact braceFree_bool layout value
  | num value => exact braceFree_num layout value
  | null => cases scalar
  | str value => cases scalar
  | arr items => cases scalar
  | obj members => cases scalar

theorem fields_scalar (summary : MergeSummary) :
    ∀ field ∈ summary.fields, ∀ value, field.2 = some value → Scalar value := by
  have unsigned : ∀ {written : Option Nat} {value : Json},
      written.map Json.ofU64 = some value → Scalar value := by
    intro written value equal
    rcases Option.map_eq_some_iff.mp equal with ⟨_, _, rfl⟩
    trivial
  have double : ∀ {written : Option ℚ} {value : Json},
      written.map Json.ofF64 = some value → Scalar value := by
    intro written value equal
    rcases Option.map_eq_some_iff.mp equal with ⟨_, _, rfl⟩
    trivial
  have verdict : ∀ {written : Option Bool} {value : Json},
      written.map Json.bool = some value → Scalar value := by
    intro written value equal
    rcases Option.map_eq_some_iff.mp equal with ⟨_, _, rfl⟩
    trivial
  simp only [MergeSummary.fields, List.forall_mem_cons, List.not_mem_nil, false_implies,
    implies_true, and_true]
  and_intros <;> intro value written <;> first
    | exact unsigned written
    | exact double written
    | exact verdict written
    | exact (Option.some.inj written) ▸ trivial

theorem fields_keys (summary : MergeSummary) :
    ∀ field ∈ summary.fields, '}' ∉ Layout.serdePretty.quote field.1 := by
  have keys : ∀ key ∈ summary.fields.map Prod.fst, '}' ∉ Layout.serdePretty.quote key := by
    rw [MergeSummary.fields_names]
    decide +kernel
  exact fun field member => keys field.1 (List.mem_map_of_mem member)

theorem extractMerged_print {log : Text} (noBrace : '{' ∉ log) (summary : MergeSummary) :
    extractMerged (some (log ++ summary.print)) = some summary.members := by
  have once : ClosesOnce (summary.toJson.render .serdePretty 0) :=
    closesOnce_of_flat (fields_keys summary) fun field member value written =>
      (fields_scalar summary field member value written).braceFree _
  exact lastJsonObject_after_log noBrace once (by rfl : ['\n'].all isBlank = true)

/-! ## What the gate makes of a summary -/

theorem windowsAligned_members (summary : MergeSummary) :
    windowsAligned summary.members = summary.windowsAligned.getD true := by
  have field : summary.members.get "windows_aligned".toList =
      summary.windowsAligned.map Json.bool :=
    MergeSummary.get_field (List.mem_of_getElem? (show summary.fields[17]? = _ from rfl))
  rw [windowsAligned, field]
  cases summary.windowsAligned <;> rfl

theorem fleetComplete_members (summary : MergeSummary) (expected : Nat) :
    fleetComplete summary.members (some expected) =
      some ((summary.podsReported.map fun reported => decide (expected ≤ reported)).getD
        true) := by
  have field : summary.members.get "pods_reported".toList =
      summary.podsReported.map Json.ofU64 :=
    MergeSummary.get_field (List.mem_of_getElem? (show summary.fields[20]? = _ from rfl))
  cases expected with
  | zero => cases summary.podsReported <;> rfl
  | succ expected =>
      simp only [fleetComplete, field]
      cases summary.podsReported with
      | none => rfl
      | some reported =>
          simp only [Option.map_some, Json.ofU64, Json.asPyNumber, Number.toRat,
            Option.getD_some, Int.cast_natCast, Nat.cast_le]

theorem throughputField_members {summary : MergeSummary}
    (exact : ∀ ops, summary.aggregateOpsPerSec = some ops → ops ∈ decimals)
    (noEvents : summary.aggregateEventsPerSec = none) :
    throughputField summary.members = some (summary.aggregateOpsPerSec.getD 0) := by
  have ops : summary.members.get "aggregate_ops_per_sec".toList =
      summary.aggregateOpsPerSec.map Json.ofF64 :=
    MergeSummary.get_field (List.mem_of_getElem? (show summary.fields[6]? = _ from rfl))
  have events : summary.members.get "aggregate_events_per_sec".toList =
      summary.aggregateEventsPerSec.map Json.ofF64 :=
    MergeSummary.get_field (List.mem_of_getElem? (show summary.fields[11]? = _ from rfl))
  rw [throughputField]
  rw [ops, events, noEvents]
  cases headline : summary.aggregateOpsPerSec with
  | none => rfl
  | some total =>
      simp [Json.ofF64, Json.pyFloat, Json.asPyNumber,
        Number.toRat_ofRat (exact total headline)]

theorem extractThroughput_print {log : Text} (noBrace : '{' ∉ log) {summary : MergeSummary}
    (exact : ∀ ops, summary.aggregateOpsPerSec = some ops → ops ∈ decimals)
    (noEvents : summary.aggregateEventsPerSec = none) (expected : Nat) :
    extractThroughput (some (log ++ summary.print)) (some expected) = some 0 ∨
      (∀ reported, summary.podsReported = some reported → expected ≤ reported) ∧
      extractThroughput (some (log ++ summary.print)) (some expected) =
        some (summary.aggregateOpsPerSec.getD 0) := by
  have found := extractMerged_print noBrace summary
  have counted := fleetComplete_members summary expected
  cases aligned : windowsAligned summary.members with
  | false =>
      left
      simp [extractThroughput, found, aligned]
  | true =>
      by_cases complete : ∀ reported, summary.podsReported = some reported →
          expected ≤ reported
      · right
        have passes : fleetComplete summary.members (some expected) = some true := by
          rw [counted]
          cases pods : summary.podsReported with
          | none => rfl
          | some reported => simp [complete reported pods]
        exact ⟨complete, (extractThroughput_of_accepts found aligned passes).trans
          (throughputField_members exact noEvents)⟩
      · left
        push Not at complete
        rcases complete with ⟨reported, pods, missing⟩
        have fails : fleetComplete summary.members (some expected) = some false := by
          rw [counted, pods]
          simp [missing]
        simp [extractThroughput, found, aligned, fails]

/-! ## The outcome of every pod -/

structure CompleteResult where
  text : Text
  document : Json
  ops : Number
  parsed : loads text = some document
  opsField : document.get "aggregate_ops_per_sec".toList = some (.num ops)
  scenario : ∃ model : Workloads.ClientModel, scenarioOf document = model.scenario

/-- What a pod prints is a complete result. -/
def CompleteResult.ofResult (result : Workloads.MultiStreamResult) : CompleteResult where
  text := result.print
  document := result.toJson
  ops := .ofRat result.aggregateOpsPerSec
  parsed := result.loads_print
  opsField := Workloads.MultiStreamResult.get_field
    (List.mem_of_getElem? (show result.fields[12]? = some _ from rfl))
  scenario := ⟨result.model, by
    have field : result.toJson.get "scenario".toList =
        some (.str result.model.scenario) :=
      Workloads.MultiStreamResult.get_field List.mem_cons_self
    simp only [scenarioOf, field, Option.bind_some, Json.asStr, Option.getD_some]⟩

inductive PodOutcome where
  | missing
  | truncated (text : Text) (invalid : loads text = none)
  | complete (result : CompleteResult)

def resultName (outPrefix : Text) (pod : Nat) : Text :=
  outPrefix ++ '-' :: decimal pod ++ ".json".toList

namespace PodOutcome

def entry (outPrefix : Text) (pod : Nat) : PodOutcome → Option DirEntry
  | .missing => none
  | .truncated text _ => some ⟨resultName outPrefix pod, some text⟩
  | .complete result => some ⟨resultName outPrefix pod, some result.text⟩

def document : PodOutcome → Option Json
  | .complete result => some result.document
  | _ => none

/-- The ops/s of the pod, zero when its result did not arrive whole. -/
def ops : PodOutcome → ℚ
  | .complete result => result.ops.toRat
  | _ => 0

end PodOutcome

theorem extension_append {front after : Text} (nonempty : front ≠ []) (noDot : '.' ∉ after) :
    extension (front ++ '.' :: after) = some after := by
  have taken : ((front ++ '.' :: after).reverse.takeWhile
      fun character => character ≠ '.').reverse = after := afterLast_append noDot front
  have long : after.length + 1 < (front ++ '.' :: after).length := by
    have some_front := List.length_pos_iff.mpr nonempty
    rw [List.length_append, List.length_cons]
    omega
  rw [extension, taken]
  exact if_pos long

theorem extension_resultName (outPrefix : Text) (pod : Nat) :
    extension (resultName outPrefix pod) = some "json".toList := by
  have nonempty : outPrefix ++ '-' :: decimal pod ≠ [] := by simp
  have noDot : '.' ∉ "json".toList := by decide
  exact extension_append nonempty noDot

/-! ## The documents of a fleet -/

namespace CompleteResult

theorem hasOtherHeadline_document (result : CompleteResult) :
    hasOtherHeadline result.document = false := by
  rcases result.scenario with ⟨model, scenario⟩
  rw [hasOtherHeadline, scenario]
  cases model <;> decide

theorem opsOf_document (result : CompleteResult) :
    opsOf result.document = some result.ops.toRat := by
  rw [opsOf, result.hasOtherHeadline_document, if_neg Bool.false_ne_true, f64Field,
    result.opsField]
  rfl

end CompleteResult

theorem document_entry (outPrefix : Text) (pod : Nat) (outcome : PodOutcome) :
    (outcome.entry outPrefix pod).bind DirEntry.document = outcome.document := by
  cases outcome with
  | missing => rfl
  | truncated text invalid =>
      simp [PodOutcome.entry, PodOutcome.document, DirEntry.document,
        extension_resultName, invalid]
  | complete result =>
      simp [PodOutcome.entry, PodOutcome.document, DirEntry.document,
        extension_resultName, result.parsed]

section

variable {pods : Nat} (outPrefix : Text) (outcomes : Fin pods → PodOutcome)

def fleetEntries : List DirEntry :=
  (List.finRange pods).filterMap fun pod => (outcomes pod).entry outPrefix pod

/-- The JSON files of a directory are those of the fleet, in whatever order. -/
def HoldsFleet (entries : List DirEntry) : Prop :=
  (entries.filter fun entry => extension entry.name = some "json".toList).Perm
    (fleetEntries outPrefix outcomes)

def fleetDocuments : List Json :=
  (List.finRange pods).filterMap fun pod => (outcomes pod).document

variable {outPrefix outcomes}

theorem documents_perm {entries : List DirEntry}
    (holds : HoldsFleet outPrefix outcomes entries) :
    (entries.filterMap DirEntry.document).Perm (fleetDocuments outcomes) := by
  have onlyJson : entries.filterMap DirEntry.document =
      (entries.filter fun entry => extension entry.name = some "json".toList).filterMap
        DirEntry.document := by
    rw [List.filterMap_filter]
    congr 1
    funext entry
    by_cases json : extension entry.name = some "json".toList
    · rw [if_pos (decide_eq_true json)]
    · rw [if_neg (mt of_decide_eq_true json), DirEntry.document, if_neg json]
  have arrived : (fleetEntries outPrefix outcomes).filterMap DirEntry.document =
      fleetDocuments outcomes := by
    rw [fleetEntries, List.filterMap_filterMap, fleetDocuments]
    congr 1
    funext pod
    exact document_entry outPrefix pod (outcomes pod)
  rw [onlyJson, ← arrived]
  exact holds.filterMap _

theorem mem_fleetDocuments {document : Json} (member : document ∈ fleetDocuments outcomes) :
    ∃ result : CompleteResult, document = result.document := by
  rcases List.mem_filterMap.mp member with ⟨pod, -, arrived⟩
  cases outcome : outcomes pod with
  | missing => simp [outcome, PodOutcome.document] at arrived
  | truncated text invalid => simp [outcome, PodOutcome.document] at arrived
  | complete result =>
      simp only [outcome, PodOutcome.document, Option.some.injEq] at arrived
      exact ⟨result, arrived.symm⟩

theorem sum_fleetDocuments :
    ((fleetDocuments outcomes).map fun document => (opsOf document).getD 0).sum =
      ∑ pod, (outcomes pod).ops := by
  rw [Fin.sum_univ_def, fleetDocuments]
  induction List.finRange pods with
  | nil => rfl
  | cons pod rest induction =>
      rw [List.map_cons, List.sum_cons, ← induction]
      cases outcome : outcomes pod with
      | missing => simp [outcome, PodOutcome.document, PodOutcome.ops]
      | truncated text invalid => simp [outcome, PodOutcome.document, PodOutcome.ops]
      | complete result =>
          simp [outcome, PodOutcome.document, PodOutcome.ops, result.opsOf_document]

theorem complete_of_length (all : pods ≤ (fleetDocuments outcomes).length) (pod : Fin pods) :
    ∃ result, outcomes pod = .complete result := by
  have length : (fleetDocuments outcomes).length = (List.finRange pods).length := by
    have bound := List.length_filterMap_le (fun pod => (outcomes pod).document)
      (List.finRange pods)
    rw [List.length_finRange] at bound ⊢
    exact Nat.le_antisymm bound all
  have arrived := List.filterMap_length_eq_length.mp length pod (List.mem_finRange pod)
  cases outcome : outcomes pod with
  | missing => simp [outcome, PodOutcome.document] at arrived
  | truncated text invalid => simp [outcome, PodOutcome.document] at arrived
  | complete result => exact ⟨result, rfl⟩

theorem sum_mem_decimals : (∑ pod, (outcomes pod).ops) ∈ decimals := by
  apply Subring.sum_mem
  intro pod _
  cases outcomes pod with
  | missing => exact zero_mem _
  | truncated text invalid => exact zero_mem _
  | complete result => exact result.ops.toRat_mem_decimals

/-! ## All or nothing -/

theorem headlines_of_fleet {documents : List Json}
    (arrived : documents.Perm (fleetDocuments outcomes)) (histogram : Histogram) :
    (summaryOf histogram documents).aggregateEventsPerSec = none ∧
    (summaryOf histogram documents).aggregateOpsPerSec =
      if documents = [] then none else some (∑ pod, (outcomes pod).ops) := by
  have complete : ∀ document ∈ documents,
      ∃ result : CompleteResult, document = result.document :=
    fun document member => mem_fleetDocuments (arrived.mem_iff.mp member)
  have noOther : documents.any hasOtherHeadline = false := by
    rw [List.any_eq_false]
    intro document member
    rcases complete document member with ⟨result, rfl⟩
    simp [result.hasOtherHeadline_document]
  refine ⟨aggregateEventsPerSec_summaryOf histogram documents noOther, ?_⟩
  rw [aggregateOpsPerSec_summaryOf, noOther, if_neg Bool.false_ne_true,
    (arrived.map _).sum_eq, sum_fleetDocuments]
  cases documents with
  | nil => rfl
  | cons document documents =>
      rcases complete document (by simp) with ⟨result, rfl⟩
      simp [result.opsOf_document]

/-- What the harness reads of a fleet is nothing, or the sum over all of its pods. -/
theorem fleet_reading_all_or_nothing {entries : List DirEntry}
    (holds : HoldsFleet outPrefix outcomes entries) {histogram : Histogram}
    {summary : MergeSummary}
    (merged : mergeSummaryFiltered (some histogram) (some entries) = some summary)
    {log : Text} (noBrace : '{' ∉ log) :
    extractThroughput (some (log ++ summary.print)) (some pods) = some 0 ∨
      (∀ pod, ∃ result, outcomes pod = .complete result) ∧
      extractThroughput (some (log ++ summary.print)) (some pods) =
        some (∑ pod, (outcomes pod).ops) := by
  have arrived := documents_perm holds
  rw [mergeSummaryFiltered_eq, Option.some.injEq] at merged
  subst merged
  generalize entries.filterMap DirEntry.document = documents at arrived ⊢
  rcases headlines_of_fleet arrived histogram with ⟨noEvents, headline⟩
  have exact : ∀ ops, (summaryOf histogram documents).aggregateOpsPerSec = some ops →
      ops ∈ decimals := by
    intro ops written
    rw [headline] at written
    split at written
    · cases written
    · rw [← Option.some.inj written]
      exact sum_mem_decimals
  rcases extractThroughput_print noBrace exact noEvents pods with zero | ⟨complete, read⟩
  · exact .inl zero
  · rw [read, headline]
    by_cases empty : documents = []
    · left
      rw [if_pos empty]
      rfl
    · right
      rw [if_neg empty]
      have all : pods ≤ documents.length := by
        apply complete
        rw [podsReported_summaryOf, if_neg empty]
      rw [arrived.length_eq] at all
      exact ⟨complete_of_length all, rfl⟩

end

/-! ## Two complete pods -/

theorem slowOps_mem : (5 / 4 : ℚ) ∈ decimals :=
  mem_decimals_of_scaled 2 125 (by norm_num)

def slowOps : decimals := ⟨5 / 4, slowOps_mem⟩

/-- The result of a pod at five operations in four seconds. -/
def slowResult : Workloads.MultiStreamResult where
  model := .legacy
  apiStyle := .durable
  target := "http://ds".toList
  bucket := "bench".toList
  basin := []
  streams := 1
  durationSecs := 4
  payloadBytes := 256
  ratePerStream := 0
  elapsedSecs := slowOps
  counts := ⟨5, 0, 0⟩
  errors := []
  aggregateOpsPerSec := slowOps
  perStreamOpsPerSecMean := slowOps
  latencyMs := ⟨5, slowOps, slowOps, slowOps, slowOps, slowOps, slowOps⟩
  measureStartUnixMs := 1000
  measureEndUnixMs := 5000
  okTotalAllPhases := 5
  lazyCreates := 0
  podSliceLo := 0
  podSliceHi := 1

def slowPod : CompleteResult := .ofResult slowResult

def slowFleet (_ : Fin 2) : PodOutcome := .complete slowPod

def slowSummary : MergeSummary :=
  summaryOf ⟨10, 1000, 2000, 3000, 4000, 5000⟩
    ((fleetEntries "write".toList slowFleet).filterMap DirEntry.document)

def slowOutput : Text := "mc: 2 files\n".toList ++ slowSummary.print

theorem two_pods_read_in_full :
    (extractThroughput (some slowOutput) (some 2) = some 0 ∨
      (∀ pod, ∃ result, slowFleet pod = .complete result) ∧
      extractThroughput (some slowOutput) (some 2) = some (∑ pod, (slowFleet pod).ops)) ∧
    extractThroughput (some slowOutput) (some 2) = some (5 / 2) :=
  ⟨fleet_reading_all_or_nothing
    (show HoldsFleet "write".toList slowFleet (fleetEntries "write".toList slowFleet) from
      .of_eq (by decide +kernel)) (mergeSummaryFiltered_eq _ _) (by decide),
    by decide +kernel⟩

end DsBench.Harness
