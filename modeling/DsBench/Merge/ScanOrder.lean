import DsBench.Merge.Dist
import Mathlib.Data.List.Perm.Basic

/-! # The order of the headline scan

Every document adds something of its own to the accumulators: sums are added, bounds and
what was seen are joined. Joining is commutative and associative, so it makes no difference
in which order a directory lists its files.
-/

namespace DsBench.Merge

namespace HeadlineAcc

/-- Two scans put together. -/
def join (first second : HeadlineAcc) : HeadlineAcc where
  sawOps := first.sawOps || second.sawOps
  ops := first.ops + second.ops
  sawCatchup := first.sawCatchup || second.sawCatchup
  mbPerSec := first.mbPerSec + second.mbPerSec
  bytesReceived := first.bytesReceived + second.bytesReceived
  sawFanout := first.sawFanout || second.sawFanout
  eventsReceived := first.eventsReceived + second.eventsReceived
  maxDurationSecs := max first.maxDurationSecs second.maxDurationSecs
  sawMultiFanout := first.sawMultiFanout || second.sawMultiFanout
  multiFanoutEventsPerSec := first.multiFanoutEventsPerSec + second.multiFanoutEventsPerSec
  sawReads := first.sawReads || second.sawReads
  readsBytesPerSec := first.readsBytesPerSec + second.readsBytesPerSec
  readsBackpressure := first.readsBackpressure + second.readsBackpressure
  readsOtherErr := first.readsOtherErr + second.readsOtherErr
  winMinStartMs := Option.merge min first.winMinStartMs second.winMinStartMs
  winMaxEndMs := Option.merge max first.winMaxEndMs second.winMaxEndMs
  winMaxWindowMs := max first.winMaxWindowMs second.winMaxWindowMs
  winMaxStartMs := Option.merge max first.winMaxStartMs second.winMaxStartMs
  winMinEndMs := Option.merge min first.winMinEndMs second.winMinEndMs
  podsReported := first.podsReported + second.podsReported

theorem join_comm (first second : HeadlineAcc) : first.join second = second.join first := by
  rw [join, join, HeadlineAcc.mk.injEq]
  exact ⟨Bool.or_comm _ _, add_comm _ _, Bool.or_comm _ _, add_comm _ _, add_comm _ _,
    Bool.or_comm _ _, add_comm _ _, max_comm _ _, Bool.or_comm _ _, add_comm _ _,
    Bool.or_comm _ _, add_comm _ _, add_comm _ _, add_comm _ _,
    Std.Commutative.comm _ _, Std.Commutative.comm _ _, max_comm _ _,
    Std.Commutative.comm _ _, Std.Commutative.comm _ _, add_comm _ _⟩

theorem join_assoc (first second third : HeadlineAcc) :
    (first.join second).join third = first.join (second.join third) := by
  simp only [join]
  rw [HeadlineAcc.mk.injEq]
  exact ⟨Bool.or_assoc _ _ _, add_assoc _ _ _, Bool.or_assoc _ _ _, add_assoc _ _ _,
    add_assoc _ _ _, Bool.or_assoc _ _ _, add_assoc _ _ _, max_assoc _ _ _,
    Bool.or_assoc _ _ _, add_assoc _ _ _, Bool.or_assoc _ _ _, add_assoc _ _ _,
    add_assoc _ _ _, add_assoc _ _ _, Std.Associative.assoc _ _ _,
    Std.Associative.assoc _ _ _, max_assoc _ _ _, Std.Associative.assoc _ _ _,
    Std.Associative.assoc _ _ _, add_assoc _ _ _⟩

instance : Std.Commutative join := ⟨join_comm⟩

instance : Std.Associative join := ⟨join_assoc⟩

/-- A step that adds to any accumulators what it adds to empty ones. The longest duration
is never negative, as it starts at zero. -/
def Adds (step : HeadlineAcc → HeadlineAcc) : Prop :=
  ∀ acc : HeadlineAcc, 0 ≤ acc.maxDurationSecs → step acc = acc.join (step {})

namespace Adds

variable {step next : HeadlineAcc → HeadlineAcc}

theorem nonneg (adds : Adds step) {acc : HeadlineAcc} (start : 0 ≤ acc.maxDurationSecs) :
    0 ≤ (step acc).maxDurationSecs := by
  rw [adds acc start]
  exact le_max_of_le_left start

theorem comp (adds : Adds step) (then_adds : Adds next) : Adds (next ∘ step) := by
  intro acc start
  have empty : 0 ≤ ({} : HeadlineAcc).maxDurationSecs := le_refl 0
  have first := then_adds (step acc) (adds.nonneg start)
  have alone := then_adds (step {}) (adds.nonneg empty)
  rw [Function.comp_apply, first, adds acc start, join_assoc, ← alone]
  rfl

end Adds

theorem adds_id : Adds id := by
  intro acc start
  simp [join, max_eq_left start]

theorem adds_count : Adds fun acc => { acc with podsReported := acc.podsReported + 1 } := by
  intro acc start
  simp [join, max_eq_left start]

theorem adds_stampWindow (begins ends : Nat) : Adds (stampWindow · begins ends) := by
  intro acc start
  have joined : ∀ (choose : Nat → Nat → Nat) (known : Option Nat) (stamp : Nat),
      some (known.elim stamp (choose · stamp)) = Option.merge choose known (some stamp) := by
    intro choose known stamp
    cases known <;> rfl
  simp only [stampWindow, joined]
  simp [join, max_eq_left start]

theorem adds_scanStamps (document : Json) : Adds (scanStamps · document) := by
  unfold scanStamps
  cases windowStamps document with
  | none => exact adds_id
  | some stamps => exact adds_stampWindow stamps.1 stamps.2

theorem adds_scanOps (document : Json) : Adds (scanOps · document) := by
  unfold scanOps
  cases f64Field "aggregate_ops_per_sec" document with
  | none => exact adds_id
  | some ops =>
      intro acc start
      simp [join, max_eq_left start]

theorem adds_scanReadsBytes (document : Json) : Adds (scanReadsBytes · document) := by
  unfold scanReadsBytes
  cases f64Field "bytes_per_sec" document with
  | none => exact adds_id
  | some bytes =>
      intro acc start
      simp [join, max_eq_left start]

theorem adds_scanReadsCounts (document : Json) : Adds (scanReadsCounts · document) := by
  unfold scanReadsCounts
  cases document.get "counts".toList with
  | none => exact adds_id
  | some counts =>
      intro acc start
      simp [join, max_eq_left start]

theorem adds_scanCatchup (document : Json) : Adds (scanCatchup · document) := by
  intro acc start
  simp [scanCatchup, join, max_eq_left start]

theorem adds_scanMultiFanout (document : Json) : Adds (scanMultiFanout · document) := by
  intro acc start
  simp [scanMultiFanout, join, max_eq_left start]

theorem adds_scanFanout (document : Json) : Adds (scanFanout · document) := by
  intro acc start
  have longest : ∀ duration known : ℚ, (if duration > known then duration else known) =
      max known duration := by
    intro duration known
    split
    · rename_i longer
      exact (max_eq_right (le_of_lt longer)).symm
    · rename_i notLonger
      exact (max_eq_left (not_lt.mp notLonger)).symm
  simp only [scanFanout, longest]
  simp [join, ← max_assoc, max_eq_left start]

theorem adds_scanScenario (document : Json) : Adds (scanScenario · document) := by
  unfold scanScenario
  simp only
  split_ifs
  · exact adds_scanCatchup document
  · exact adds_scanFanout document
  · exact adds_scanMultiFanout document
  · exact ((adds_scanOps document).comp (adds_scanReadsBytes document)).comp
      (adds_scanReadsCounts document)
  · exact adds_scanOps document

theorem adds_scanDocument (document : Json) : Adds (scanDocument · document) :=
  (adds_count.comp (adds_scanStamps document)).comp (adds_scanScenario document)

theorem foldl_scanDocument_eq_join (documents : List Json) {acc : HeadlineAcc}
    (start : 0 ≤ acc.maxDurationSecs) :
    documents.foldl scanDocument acc = (documents.map (scanDocument {})).foldl join acc := by
  induction documents generalizing acc with
  | nil => rfl
  | cons document documents induction =>
      have adds := adds_scanDocument document
      have step : acc.scanDocument document = acc.join (scanDocument {} document) :=
        adds acc start
      rw [List.foldl_cons, List.map_cons, List.foldl_cons, ← step]
      exact induction (adds.nonneg start)

theorem foldl_scanDocument_perm {documents others : List Json}
    (reordered : documents.Perm others) :
    documents.foldl scanDocument {} = others.foldl scanDocument {} := by
  have empty : 0 ≤ ({} : HeadlineAcc).maxDurationSecs := le_refl 0
  rw [foldl_scanDocument_eq_join documents empty, foldl_scanDocument_eq_join others empty]
  exact (reordered.map (scanDocument {})).foldl_eq ({} : HeadlineAcc)

end HeadlineAcc

/-- A directory listed in any order gives the same accumulators. -/
theorem scanHeadlines_perm {entries others : List DirEntry}
    (reordered : entries.Perm others) :
    scanHeadlines (some entries) = scanHeadlines (some others) :=
  HeadlineAcc.foldl_scanDocument_perm (reordered.filterMap DirEntry.document)

end DsBench.Merge
