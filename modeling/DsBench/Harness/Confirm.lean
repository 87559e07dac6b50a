import DsBench.Harness.MeasureLine
import DsBench.Harness.Walk

/-! # The confirmed headline

A plateau is confirmed by further repetitions at the pinned pod count. Their mean
replaces the throughput of the pinned rung. The rungs of the walk are read through the
gates of `saturation.py`; the repetitions are read by `grep`.
-/

namespace DsBench.Harness

/-! ## What the fleets of a walk leave behind -/

/-- The merged outputs of the fleets a walk may launch: of the rung measured after
`taken` others, and of each repetition at a pod count. -/
structure FleetOutputs where
  rung : (taken pods : Nat) → Option Text
  cpuPct : (taken pods : Nat) → Number
  repetition : (pods rep : Nat) → Option Text
  podMemMb : Option ℚ

/-- The measurement line as `walk_cell` reads it, word by word. -/
def readLine (line : Text) : Reading :=
  let word := fun index => (words line).getD index []
  { thr := (readFloat (word 1)).getD 0
    aligned := decide (orDefault (word 2) "1".toList ≠ "0".toList)
    p50 := readFloat (orDefault (word 3) "None".toList)
    p99 := readFloat (orDefault (word 4) "None".toList) }

def opsMatch (merged : Option Text) : Option Text :=
  merged.bind (grepField "aggregate_ops_per_sec")

/-- `_confirm`: medians of the latencies and the mean throughput over the repetitions,
each taken from wherever its field matches. -/
def confirm (repetition : Nat → Option Text) (reps : Nat) : Confirmation :=
  let merged := (List.range' 1 reps).map repetition
  { p50 := awkMedian (merged.filterMap fun text => text.bind (grepField "p50_ms"))
    p99 := awkMedian (merged.filterMap fun text => text.bind (grepField "p99_ms"))
    thr := awkMean (merged.filterMap opsMatch) }

def FleetOutputs.world (outputs : FleetOutputs) : WalkWorld where
  measure taken pods :=
    readLine (measureLine (outputs.rung taken pods) (outputs.cpuPct taken pods) pods)
  confirm pods reps := confirm (outputs.repetition pods) reps
  podMemMb := outputs.podMemMb

theorem readLine_thr {merged : Option Text} {cpuPct : Number} {pods : Nat} :
    (readLine (measureLine merged cpuPct pods)).thr =
      (extractThroughput merged (some pods)).getD 0 := by
  have word : (words (measureLine merged cpuPct pods)).getD 1 [] =
      orDefault (measuredWord merged cpuPct pods 1) "0".toList := by
    rw [words_measureLine]
    rfl
  rw [readLine]
  simp only
  rw [word, readFloat_throughputWord]
  rfl

/-! ## Where the stored throughput comes from -/

inductive Headline where
  | nothing
  | reading (pods : Nat) (merged : Option Text)
  | repetitions (pods : Nat) (merged : List (Option Text))

def Headline.throughput : Headline → ℚ
  | nothing => 0
  | reading pods merged => (extractThroughput merged (some pods)).getD 0
  | repetitions _ merged => (awkMean (merged.filterMap opsMatch)).getD 0

def Headline.summaries : Headline → List (Nat × Option Text)
  | nothing => []
  | reading pods merged => [(pods, merged)]
  | repetitions pods merged => merged.map fun text => (pods, text)

/-- Every summary behind the throughput passes the gates for its pod count. -/
def Headline.Gated (headline : Headline) : Prop :=
  ∀ source ∈ headline.summaries, Accepts source.2 (some source.1)

def FleetOutputs.contributing (outputs : FleetOutputs) (pods reps : Nat) :
    List (Option Text) :=
  ((List.range' 1 reps).map (outputs.repetition pods)).filter fun text =>
    (opsMatch text).isSome

section

variable (settings : WalkSettings) (outputs : FleetOutputs)

/-- The headline of a walk that ends at a rung: of a plateau the repetitions, where one
of them contributes. -/
def headlineAt (stop : Nat) : Headline :=
  match decisionAt settings outputs.world stop with
  | .error => .nothing
  | .plateau pinPods _ =>
      if outputs.contributing pinPods settings.repeats = [] then
        .reading pinPods (outputs.rung (stop - max 1 settings.patience) pinPods)
      else .repetitions pinPods (outputs.contributing pinPods settings.repeats)
  | .continue =>
      .reading (settings.ladder.getD stop 0) (outputs.rung stop (settings.ladder.getD stop 0))

def walkHeadline : Headline :=
  match (walkCell settings outputs.world).measured.length with
  | 0 => .nothing
  | stop + 1 => headlineAt settings outputs stop

/-- Every repetition that contributes to a confirmed throughput passes the gates. Which
rung is pinned is decided on the readings of the rungs alone. -/
def ConfirmationsGated : Prop :=
  ∀ rung < settings.ladder.length, ∀ pinPods pinThr,
    (∀ earlier < rung, decisionAt settings outputs.world earlier = .continue) →
    decisionAt settings outputs.world rung = .plateau pinPods pinThr →
    ∀ rep ∈ List.range' 1 settings.repeats,
      (opsMatch (outputs.repetition pinPods rep)).isSome →
        Accepts (outputs.repetition pinPods rep) (some pinPods)

variable {settings outputs}

theorem rungThr_outputs (rung : Nat) :
    rungThr settings outputs.world rung =
      (extractThroughput (outputs.rung rung (settings.ladder.getD rung 0))
        (some (settings.ladder.getD rung 0))).getD 0 :=
  readLine_thr

theorem accepts_of_rungThr_pos {rung : Nat}
    (delivers : 0 < rungThr settings outputs.world rung) :
    Accepts (outputs.rung rung (settings.ladder.getD rung 0))
      (some (settings.ladder.getD rung 0)) := by
  rw [rungThr_outputs] at delivers
  cases read : extractThroughput (outputs.rung rung (settings.ladder.getD rung 0))
      (some (settings.ladder.getD rung 0)) with
  | none =>
      rw [read] at delivers
      exact absurd delivers (lt_irrefl 0)
  | some thr =>
      rw [read] at delivers
      exact accepts_of_throughput_pos read delivers

theorem delivers_of_continue {rung : Nat}
    (continues : decisionAt settings outputs.world rung = .continue) :
    0 < rungThr settings outputs.world rung := by
  by_contra collapsed
  rw [decisionAt_error_iff.mpr (not_lt.mp collapsed)] at continues
  cases continues

theorem filterMap_contributing (pods reps : Nat) :
    (outputs.contributing pods reps).filterMap opsMatch =
      ((List.range' 1 reps).map (outputs.repetition pods)).filterMap opsMatch := by
  rw [FleetOutputs.contributing, List.filterMap_filter]
  congr 1
  funext text
  cases matched : opsMatch text <;> simp

theorem contributing_matches {pods reps : Nat}
    (nonempty : outputs.contributing pods reps ≠ []) :
    (outputs.contributing pods reps).filterMap opsMatch ≠ [] := by
  intro silent
  rcases List.exists_mem_of_ne_nil _ nonempty with ⟨text, member⟩
  have matched := (List.mem_filter.mp member).2
  rw [List.filterMap_eq_nil_iff.mp silent text member] at matched
  cases matched

theorem throughput_recordAt (stop : Nat) :
    (recordAt settings outputs.world stop).throughput =
      (headlineAt settings outputs stop).throughput := by
  rw [recordAt, headlineAt]
  cases decided : decisionAt settings outputs.world stop with
  | error => rfl
  | plateau pinPods pinThr =>
      rcases decisionAt_plateau decided with ⟨-, samePods, sameThr⟩
      have mean : (outputs.world.confirm pinPods settings.repeats).thr =
          awkMean ((outputs.contributing pinPods settings.repeats).filterMap opsMatch) := by
        rw [filterMap_contributing]
        rfl
      change (outputs.world.confirm pinPods settings.repeats).thr.getD pinThr = _
      rw [mean]
      simp only
      split
      · rename_i silent
        rw [silent, sameThr, rungThr_outputs, ← samePods]
        rfl
      · rename_i replicated
        rw [Headline.throughput, awkMean, if_neg (contributing_matches replicated)]
        rfl
  | «continue» => exact rungThr_outputs stop

theorem status_recordAt (stop : Nat) :
    (recordAt settings outputs.world stop).status = .ok ↔
      decisionAt settings outputs.world stop ≠ .error := by
  rw [recordAt]
  cases decisionAt settings outputs.world stop with
  | error => exact iff_of_false (by intro equal; cases equal) (fun differs => differs rfl)
  | plateau pinPods pinThr => exact iff_of_true rfl (by intro equal; cases equal)
  | «continue» => exact iff_of_true rfl (by intro equal; cases equal)

theorem gated_reading {pods : Nat} {merged : Option Text} :
    (Headline.reading pods merged).Gated ↔ Accepts merged (some pods) := by
  simp [Headline.Gated, Headline.summaries]

theorem gated_repetitions {pods reps : Nat} :
    (Headline.repetitions pods (outputs.contributing pods reps)).Gated ↔
      ∀ rep ∈ List.range' 1 reps, (opsMatch (outputs.repetition pods rep)).isSome →
        Accepts (outputs.repetition pods rep) (some pods) := by
  simp only [Headline.Gated, Headline.summaries, FleetOutputs.contributing,
    List.forall_mem_map, List.mem_filter, and_imp]

theorem gated_headlineAt_iff {stop : Nat}
    (climbed : ∀ earlier < stop, decisionAt settings outputs.world earlier = .continue)
    (ended : decisionAt settings outputs.world stop ≠ .error) :
    (headlineAt settings outputs stop).Gated ↔
      ∀ pinPods pinThr, decisionAt settings outputs.world stop = .plateau pinPods pinThr →
        ∀ rep ∈ List.range' 1 settings.repeats,
          (opsMatch (outputs.repetition pinPods rep)).isSome →
            Accepts (outputs.repetition pinPods rep) (some pinPods) := by
  rw [headlineAt]
  cases decided : decisionAt settings outputs.world stop with
  | error => exact absurd decided ended
  | plateau pinPods pinThr =>
      have onlyPin : (∀ pods thr, Decision.plateau pinPods pinThr = .plateau pods thr →
          ∀ rep ∈ List.range' 1 settings.repeats,
            (opsMatch (outputs.repetition pods rep)).isSome →
              Accepts (outputs.repetition pods rep) (some pods)) ↔
          (Headline.repetitions pinPods
            (outputs.contributing pinPods settings.repeats)).Gated := by
        rw [gated_repetitions]
        constructor
        · exact fun every => every pinPods pinThr rfl
        · intro here pods thr same
          cases same
          exact here
      rw [onlyPin]
      simp only
      split
      · rename_i silent
        rcases decisionAt_plateau decided with ⟨window, samePods, -⟩
        have pinnedEarlier : stop - max 1 settings.patience < stop := by omega
        refine iff_of_true (gated_reading.mpr ?_) ?_
        · rw [samePods]
          exact accepts_of_rungThr_pos (delivers_of_continue (climbed _ pinnedEarlier))
        · rw [silent]
          simp [Headline.Gated, Headline.summaries]
      · exact Iff.rfl
  | «continue» =>
      refine iff_of_true (gated_reading.mpr ?_) (by intro pinPods pinThr equal; cases equal)
      exact accepts_of_rungThr_pos (delivers_of_continue decided)

/-- The rung at which a walk ends is the only one that can be pinned. -/
theorem confirmationsGated_iff {stop : Nat} (onLadder : stop < settings.ladder.length)
    (climbed : ∀ earlier < stop, decisionAt settings outputs.world earlier = .continue)
    (atEnd : decisionAt settings outputs.world stop = .continue →
      stop + 1 = settings.ladder.length) :
    ConfirmationsGated settings outputs ↔
      ∀ pinPods pinThr, decisionAt settings outputs.world stop = .plateau pinPods pinThr →
        ∀ rep ∈ List.range' 1 settings.repeats,
          (opsMatch (outputs.repetition pinPods rep)).isSome →
            Accepts (outputs.repetition pinPods rep) (some pinPods) := by
  constructor
  · intro confirmed pinPods pinThr pinned
    exact confirmed stop onLadder pinPods pinThr climbed pinned
  · intro confirmed rung below pinPods pinThr before pinned
    rcases Nat.lt_trichotomy rung stop with earlier | same | later
    · rw [climbed rung earlier] at pinned
      cases pinned
    · rw [same] at pinned
      exact confirmed pinPods pinThr pinned
    · have last := atEnd (before stop later)
      omega

theorem walkHeadline_of_stop {stop : Nat} (onLadder : stop < settings.ladder.length)
    (measured : (walkCell settings outputs.world).measured =
      settings.ladder.take (stop + 1)) :
    walkHeadline settings outputs = headlineAt settings outputs stop := by
  have length : (walkCell settings outputs.world).measured.length = stop + 1 := by
    rw [measured, List.length_take]
    omega
  rw [walkHeadline, length]

theorem walkCell_of_no_rungs (empty : settings.ladder = []) :
    walkCell settings outputs.world =
      ⟨[], exhaustedRecord settings outputs.world [] 0 0⟩ := by
  rw [walkCell, empty, walkFrom]

end

/-- The throughput of a cell is that of its headline, and a cell marked ok is computed
from summaries that pass the gates alone exactly when the confirmation repetitions do. -/
theorem headline_gated_iff (settings : WalkSettings) (outputs : FleetOutputs) :
    (walkCell settings outputs.world).record.throughput =
        (walkHeadline settings outputs).throughput ∧
      (((walkCell settings outputs.world).record.status = .ok →
          (walkHeadline settings outputs).Gated) ↔
        ConfirmationsGated settings outputs) := by
  by_cases empty : settings.ladder = []
  · rw [walkHeadline, walkCell_of_no_rungs empty]
    constructor
    · rfl
    · apply iff_of_true
      · intro _ source member
        cases member
      · intro rung below
        rw [empty] at below
        cases below
  · rcases walkCell_ends outputs.world empty with
      ⟨stop, onLadder, climbed, atEnd, measured, record⟩
    rw [record, walkHeadline_of_stop onLadder measured, throughput_recordAt,
      status_recordAt, confirmationsGated_iff onLadder climbed atEnd]
    refine ⟨rfl, ?_⟩
    by_cases ended : decisionAt settings outputs.world stop = .error
    · rw [ended]
      apply iff_of_true
      · intro differs
        exact absurd rfl differs
      · intro pinPods pinThr equal
        cases equal
    · rw [← gated_headlineAt_iff climbed ended]
      exact ⟨fun gated => gated ended, fun gated _ => gated⟩

/-! ## A misaligned repetition -/

def mergedOutput (ops : Nat) (aligned : Bool) (pods : Nat) : Text :=
  (Json.obj (.ofFields [
    ("aggregate_ops_per_sec".toList, some (.ofU64 ops)),
    ("windows_aligned".toList, some (.bool aligned)),
    ("pods_reported".toList, some (.ofU64 pods))])).render .serdePretty 0

def levelSettings : WalkSettings where
  streamCount := 1000
  imageDigest := "sha256:a".toList
  ladderFor := [4, 8]
  plateauPct := 10
  repeats := 1
  patience := 1

def levelOutputs : FleetOutputs where
  rung _ pods := some (mergedOutput 100 true pods)
  cpuPct _ _ := .decimal 425 1
  repetition pods _ := some (mergedOutput 900 false pods)
  podMemMb := some 512

/-- The summary of the repetition is rejected, and its throughput is stored. -/
theorem misaligned_repetition_is_stored :
    extractThroughput (levelOutputs.repetition 4 1) (some 4) = some 0 ∧
      (walkCell levelSettings levelOutputs.world).record.throughput = 900 ∧
      ¬ ((walkCell levelSettings levelOutputs.world).record.status = .ok →
        (walkHeadline levelSettings levelOutputs).Gated) := by
  have rejected : ¬ Accepts (levelOutputs.repetition 4 1) (some 4) := by decide +kernel
  have stored : (walkHeadline levelSettings levelOutputs).summaries =
      [(4, levelOutputs.repetition 4 1)] := by decide +kernel
  refine ⟨by decide +kernel, by decide +kernel, fun gated => rejected ?_⟩
  exact gated (by decide +kernel) (4, levelOutputs.repetition 4 1) (by rw [stored]; simp)

end DsBench.Harness
