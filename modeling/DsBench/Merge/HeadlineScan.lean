import DsBench.Merge.Dist
import Mathlib.Algebra.BigOperators.Group.List.Basic

/-! # What the headline scan accumulates

Each group of accumulators depends on one reading of every document: the count on
the documents themselves, ops/s on the documents of its scenarios, the window bounds
on the stamps. The scan over a directory is then read off each group separately.
-/

namespace DsBench.Merge

/-! ## One document -/

def hasOtherHeadline (document : Json) : Bool :=
  "catch-up".toList.isPrefixOf (scenarioOf document) ||
    "bootstrap".toList.isPrefixOf (scenarioOf document) ||
    decide (scenarioOf document = "fanout".toList) ||
    decide (scenarioOf document = "multi-fanout".toList)

def opsOf (document : Json) : Option ℚ :=
  if hasOtherHeadline document then none
  else f64Field "aggregate_ops_per_sec" document

namespace HeadlineAcc

def windows (acc : HeadlineAcc) :
    Option Nat × Option Nat × Option Nat × Option Nat × Nat :=
  (acc.winMinStartMs, acc.winMaxEndMs, acc.winMaxStartMs, acc.winMinEndMs,
    acc.winMaxWindowMs)

def otherHeadlines (acc : HeadlineAcc) : Bool :=
  acc.sawCatchup || acc.sawFanout || acc.sawMultiFanout

@[simp] theorem windows_scanOps (acc : HeadlineAcc) (document : Json) :
    (acc.scanOps document).windows = acc.windows := by
  rw [scanOps]
  split <;> rfl

@[simp] theorem windows_scanReadsBytes (acc : HeadlineAcc) (document : Json) :
    (acc.scanReadsBytes document).windows = acc.windows := by
  rw [scanReadsBytes]
  split <;> rfl

@[simp] theorem windows_scanReadsCounts (acc : HeadlineAcc) (document : Json) :
    (acc.scanReadsCounts document).windows = acc.windows := by
  rw [scanReadsCounts]
  split <;> rfl

@[simp] theorem windows_scanScenario (acc : HeadlineAcc) (document : Json) :
    (acc.scanScenario document).windows = acc.windows := by
  unfold scanScenario
  simp only
  split_ifs
  · rfl
  · rfl
  · rfl
  · simp
  · simp

theorem windows_scanDocument (acc : HeadlineAcc) (document : Json) :
    (acc.scanDocument document).windows = (acc.scanStamps document).windows := by
  rw [scanDocument]
  rw [windows_scanScenario]
  unfold scanStamps
  split <;> rfl

theorem scanStamps_frame (acc : HeadlineAcc) (document : Json) :
    (acc.scanStamps document).podsReported = acc.podsReported ∧
    (acc.scanStamps document).ops = acc.ops ∧
    (acc.scanStamps document).sawOps = acc.sawOps ∧
    (acc.scanStamps document).otherHeadlines = acc.otherHeadlines := by
  rw [scanStamps]
  split <;> exact ⟨rfl, rfl, rfl, rfl⟩

theorem scanOps_ops (acc : HeadlineAcc) (document : Json) :
    (acc.scanOps document).ops =
      acc.ops + (f64Field "aggregate_ops_per_sec" document).getD 0 ∧
    (acc.scanOps document).sawOps =
      (acc.sawOps || (f64Field "aggregate_ops_per_sec" document).isSome) ∧
    (acc.scanOps document).podsReported = acc.podsReported ∧
    (acc.scanOps document).otherHeadlines = acc.otherHeadlines := by
  rw [scanOps]
  split <;> simp [*, otherHeadlines]

theorem scanReads_frame (acc : HeadlineAcc) (document : Json) :
    ((acc.scanReadsBytes document).scanReadsCounts document).ops = acc.ops ∧
    ((acc.scanReadsBytes document).scanReadsCounts document).sawOps = acc.sawOps ∧
    ((acc.scanReadsBytes document).scanReadsCounts document).podsReported =
      acc.podsReported ∧
    ((acc.scanReadsBytes document).scanReadsCounts document).otherHeadlines =
      acc.otherHeadlines := by
  rw [scanReadsBytes, scanReadsCounts]
  split <;> split <;> exact ⟨rfl, rfl, rfl, rfl⟩

theorem scanScenario_ops (acc : HeadlineAcc) (document : Json) :
    (acc.scanScenario document).ops = acc.ops + (opsOf document).getD 0 ∧
    (acc.scanScenario document).sawOps = (acc.sawOps || (opsOf document).isSome) ∧
    (acc.scanScenario document).podsReported = acc.podsReported ∧
    (acc.scanScenario document).otherHeadlines =
      (acc.otherHeadlines || hasOtherHeadline document) := by
  unfold scanScenario opsOf hasOtherHeadline
  simp only
  by_cases catchup : ("catch-up".toList.isPrefixOf (scenarioOf document) ||
      "bootstrap".toList.isPrefixOf (scenarioOf document)) = true
  · rw [if_pos catchup, catchup]
    simp [scanCatchup, otherHeadlines]
  rw [if_neg catchup, Bool.not_eq_true _ |>.mp catchup]
  by_cases fanout : scenarioOf document = "fanout".toList
  · rw [if_pos fanout, decide_eq_true fanout]
    simp [scanFanout, otherHeadlines]
  rw [if_neg fanout, decide_eq_false fanout]
  by_cases multiFanout : scenarioOf document = "multi-fanout".toList
  · rw [if_pos multiFanout, decide_eq_true multiFanout]
    simp [scanMultiFanout, otherHeadlines]
  rw [if_neg multiFanout, decide_eq_false multiFanout]
  have ops := acc.scanOps_ops document
  simp only [Bool.or_false, Bool.false_eq_true, if_false]
  split
  · have reads := (acc.scanOps document).scanReads_frame document
    exact ⟨reads.1.trans ops.1, reads.2.1.trans ops.2.1, reads.2.2.1.trans ops.2.2.1,
      reads.2.2.2.trans ops.2.2.2⟩
  · exact ops

theorem scanDocument_ops (acc : HeadlineAcc) (document : Json) :
    (acc.scanDocument document).ops = acc.ops + (opsOf document).getD 0 ∧
    (acc.scanDocument document).sawOps = (acc.sawOps || (opsOf document).isSome) ∧
    (acc.scanDocument document).podsReported = acc.podsReported + 1 ∧
    (acc.scanDocument document).otherHeadlines =
      (acc.otherHeadlines || hasOtherHeadline document) := by
  have scenario := (HeadlineAcc.scanStamps
    { acc with podsReported := acc.podsReported + 1 } document).scanScenario_ops document
  have stamps := HeadlineAcc.scanStamps_frame
    { acc with podsReported := acc.podsReported + 1 } document
  rw [stamps.1, stamps.2.1, stamps.2.2.1, stamps.2.2.2] at scenario
  exact scenario

/-! ## A whole scan -/

theorem foldl_scanDocument (documents : List Json) (acc : HeadlineAcc) :
    (documents.foldl scanDocument acc).ops =
      acc.ops + (documents.map fun document => (opsOf document).getD 0).sum ∧
    (documents.foldl scanDocument acc).sawOps =
      (acc.sawOps || documents.any fun document => (opsOf document).isSome) ∧
    (documents.foldl scanDocument acc).podsReported =
      acc.podsReported + documents.length ∧
    (documents.foldl scanDocument acc).otherHeadlines =
      (acc.otherHeadlines || documents.any hasOtherHeadline) := by
  induction documents generalizing acc with
  | nil => simp
  | cons document documents induction =>
      have step := acc.scanDocument_ops document
      have rest := induction (acc.scanDocument document)
      rw [step.1, step.2.1, step.2.2.1, step.2.2.2] at rest
      refine ⟨?_, ?_, ?_, ?_⟩
      · rw [List.foldl_cons, rest.1, List.map_cons, List.sum_cons, add_assoc]
      · rw [List.foldl_cons, rest.2.1, List.any_cons, Bool.or_assoc]
      · rw [List.foldl_cons, rest.2.2.1, List.length_cons]
        omega
      · rw [List.foldl_cons, rest.2.2.2, List.any_cons, Bool.or_assoc]

end HeadlineAcc

/-! ## The summary of a scan -/

section

variable (histogram : Histogram) (documents : List Json)

def summaryOf : MergeSummary :=
  (documents.foldl HeadlineAcc.scanDocument {}).summarize histogram

theorem mergeSummaryFiltered_eq (histogram : Histogram) (entries : List DirEntry) :
    mergeSummaryFiltered (some histogram) (some entries) =
      some (summaryOf histogram (entries.filterMap DirEntry.document)) := rfl

theorem podsReported_summaryOf :
    (summaryOf histogram documents).podsReported =
      if documents = [] then none else some documents.length := by
  have scan := (HeadlineAcc.foldl_scanDocument documents {}).2.2.1
  simp only [summaryOf, HeadlineAcc.summarize, scan]
  cases documents <;> simp

theorem aggregateOpsPerSec_summaryOf :
    (summaryOf histogram documents).aggregateOpsPerSec =
      if documents.any hasOtherHeadline then none
      else if documents.any (fun document => (opsOf document).isSome) then
        some (documents.map fun document => (opsOf document).getD 0).sum
      else none := by
  have scan := HeadlineAcc.foldl_scanDocument documents {}
  simp only [zero_add, Bool.false_or, HeadlineAcc.otherHeadlines, Bool.or_self] at scan
  rw [← scan.2.2.2, ← scan.2.1, ← scan.1]
  simp only [summaryOf, HeadlineAcc.summarize]
  cases (documents.foldl HeadlineAcc.scanDocument {}).sawCatchup <;>
    cases (documents.foldl HeadlineAcc.scanDocument {}).sawFanout <;>
      cases (documents.foldl HeadlineAcc.scanDocument {}).sawMultiFanout <;> rfl

theorem aggregateEventsPerSec_summaryOf (noOther : documents.any hasOtherHeadline = false) :
    (summaryOf histogram documents).aggregateEventsPerSec = none := by
  have scan := (HeadlineAcc.foldl_scanDocument documents {}).2.2.2
  rw [noOther] at scan
  simp only [HeadlineAcc.otherHeadlines, Bool.or_self, Bool.or_eq_false_iff] at scan
  simp [summaryOf, HeadlineAcc.summarize, scan.1.1, scan.1.2, scan.2]

end

end DsBench.Merge
