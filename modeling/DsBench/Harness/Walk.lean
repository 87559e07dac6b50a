import DsBench.Harness.Plateau
import DsBench.Foundation.Decimal

/-! # The saturation walk

`walkCell` climbs the capped ladder one rung at a time and records the cell. What a
rung measures and what the confirmation repetitions report are parameters of the
walk; later modules supply the readings taken from merged fleet summaries.
-/

namespace DsBench.Harness

/-! ## The walk as the harness runs it -/

structure Reading where
  thr : ℚ
  aligned : Bool
  p50 : Option ℚ
  p99 : Option ℚ
deriving DecidableEq, Repr

def Reading.entry (reading : Reading) (pods : Nat) : WalkEntry where
  pods := pods
  thr := reading.thr
  latency := reading.p50.map fun p50 => (p50, reading.p99)

structure Confirmation where
  p50 : Option ℚ
  p99 : Option ℚ
  thr : Option ℚ
deriving DecidableEq, Repr

inductive Status where
  | ok
  | error
deriving DecidableEq, Repr

inductive Reason where
  | plateau
  | ladderExhausted
  | creationChoke
  | misalignedWindows
deriving DecidableEq, Repr

structure CellRecord where
  streamCount : Nat
  imageDigest : Text
  walk : List WalkEntry
  pinnedPods : Option Nat
  throughput : ℚ
  p50 : Option ℚ
  p99 : Option ℚ
  podMemMb : Option ℚ
  saturated : Bool
  status : Status
  reason : Reason
deriving DecidableEq, Repr

/-- The suite's settings for one cell. -/
structure WalkSettings where
  streamCount : Nat
  imageDigest : Text
  ladderFor : List Nat
  plateauPct : ℚ
  repeats : Nat
  patience : Nat

def WalkSettings.ladder (settings : WalkSettings) : List Nat :=
  capLadder settings.ladderFor settings.streamCount

/-- What the cluster answers. `measure rung pods` is the reading of the rung measured
after `rung` others, `confirm` that of the confirmation repetitions. -/
structure WalkWorld where
  measure : Nat → Nat → Reading
  confirm : (pods repeats : Nat) → Confirmation
  podMemMb : Option ℚ

inductive Decision where
  | error
  | plateau (pinPods : Nat) (pinThr : ℚ)
  | continue
deriving DecidableEq, Repr

def decision (walk : List WalkEntry) (thr plateauPct : ℚ) (patience : Nat) : Decision :=
  if thr ≤ 0 then .error
  else match plateauPin walk plateauPct patience with
    | some (pinPods, pinThr) => .plateau pinPods pinThr
    | none => .continue

section

variable (settings : WalkSettings) (world : WalkWorld)

def errorRecord (walk : List WalkEntry) (aligned : Bool) : CellRecord where
  streamCount := settings.streamCount
  imageDigest := settings.imageDigest
  walk := walk
  pinnedPods := none
  throughput := 0
  p50 := none
  p99 := none
  podMemMb := none
  saturated := false
  status := .error
  reason := if aligned then .creationChoke else .misalignedWindows

/-- The headline is the mean over the repetitions when they gave one, else the
throughput of the pinned rung. -/
def plateauRecord (walk : List WalkEntry) (pinPods : Nat) (pinThr : ℚ) : CellRecord :=
  let confirmation := world.confirm pinPods settings.repeats
  { streamCount := settings.streamCount
    imageDigest := settings.imageDigest
    walk := walk
    pinnedPods := some pinPods
    throughput := confirmation.thr.getD pinThr
    p50 := confirmation.p50
    p99 := confirmation.p99
    podMemMb := world.podMemMb
    saturated := true
    status := .ok
    reason := .plateau }

def exhaustedRecord (walk : List WalkEntry) (prevPods : Nat) (prevThr : ℚ) :
    CellRecord where
  streamCount := settings.streamCount
  imageDigest := settings.imageDigest
  walk := walk
  pinnedPods := some prevPods
  throughput := prevThr
  p50 := none
  p99 := none
  podMemMb := world.podMemMb
  saturated := false
  status := .ok
  reason := .ladderExhausted

structure WalkRun where
  measured : List Nat
  record : CellRecord
deriving DecidableEq, Repr

/-- The loop over the rungs still to climb. -/
def walkFrom (prevPods : Nat) (prevThr : ℚ) (walk : List WalkEntry) :
    List Nat → WalkRun
  | [] => ⟨[], exhaustedRecord settings world walk prevPods prevThr⟩
  | pods :: ladder =>
      let reading := world.measure walk.length pods
      let walk := walk ++ [reading.entry pods]
      match decision walk reading.thr settings.plateauPct settings.patience with
      | .error => ⟨[pods], errorRecord settings walk reading.aligned⟩
      | .plateau pinPods pinThr =>
          ⟨[pods], plateauRecord settings world walk pinPods pinThr⟩
      | .continue =>
          let later := walkFrom pods reading.thr walk ladder
          ⟨pods :: later.measured, later.record⟩

def walkCell : WalkRun := walkFrom settings world 0 0 [] settings.ladder

/-! ## The walk as a scan -/

/-- The rule of the scan: every decision but `continue` ends it. -/
def walkRule (seen : List (Nat × Reading)) : Option Decision :=
  match decision (seen.map fun rung => rung.2.entry rung.1)
      ((seen.getLast?.map fun rung => rung.2.thr).getD 0)
      settings.plateauPct settings.patience with
  | .continue => none
  | ended => some ended

/-- The record that the end of the scan calls for. -/
def scanRecord : List (Nat × Reading) × Option Decision → CellRecord
  | (seen, some .error) =>
      errorRecord settings (seen.map fun rung => rung.2.entry rung.1)
        ((seen.getLast?.map fun rung => rung.2.aligned).getD true)
  | (seen, some (.plateau pinPods pinThr)) =>
      plateauRecord settings world (seen.map fun rung => rung.2.entry rung.1)
        pinPods pinThr
  | (seen, _) =>
      exhaustedRecord settings world (seen.map fun rung => rung.2.entry rung.1)
        ((seen.getLast?.map fun rung => rung.1).getD 0)
        ((seen.getLast?.map fun rung => rung.2.thr).getD 0)

def walkScan : List (Nat × Reading) × Option Decision :=
  scanUntil (fun rung pods => (pods, world.measure rung pods))
    (walkRule settings) [] settings.ladder

theorem walkFrom_eq_scan (seen : List (Nat × Reading)) (ladder : List Nat) :
    let outcome := scanUntil (fun rung pods => (pods, world.measure rung pods))
      (walkRule settings) seen ladder
    let run := walkFrom settings world
      ((seen.getLast?.map fun rung => rung.1).getD 0)
      ((seen.getLast?.map fun rung => rung.2.thr).getD 0)
      (seen.map fun rung => rung.2.entry rung.1) ladder
    run.record = scanRecord settings world outcome ∧
      seen.map Prod.fst ++ run.measured = outcome.1.map Prod.fst := by
  induction ladder generalizing seen with
  | nil => simp [scanUntil, walkFrom, scanRecord]
  | cons pods ladder induction =>
      have later := induction (seen ++ [(pods, world.measure seen.length pods)])
      simp only [List.getLast?_append, List.getLast?_singleton, Option.some_or,
        Option.map_some, Option.getD_some, List.map_append, List.map_cons,
        List.map_nil] at later
      simp only [scanUntil, walkFrom, walkRule, List.length_map,
        List.getLast?_append, List.getLast?_singleton, Option.some_or,
        Option.map_some, Option.getD_some, List.map_append, List.map_cons, List.map_nil]
      cases decided : decision
          (seen.map (fun rung => rung.2.entry rung.1) ++
            [(world.measure seen.length pods).entry pods])
          (world.measure seen.length pods).thr settings.plateauPct settings.patience with
      | error => simp [scanRecord]
      | plateau pinPods pinThr => simp [scanRecord]
      | «continue» =>
          rcases later with ⟨recorded, measured⟩
          exact ⟨recorded, by simpa using measured⟩

/-! ## What each rung decides -/

def rungThr (rung : Nat) : ℚ := (world.measure rung (settings.ladder.getD rung 0)).thr

def rungEntry (rung : Nat) : WalkEntry :=
  (world.measure rung (settings.ladder.getD rung 0)).entry (settings.ladder.getD rung 0)

/-- The decision taken once rung `rung` is measured. -/
def decisionAt (rung : Nat) : Decision :=
  decision ((List.range (rung + 1)).map (rungEntry settings world))
    (rungThr settings world rung) settings.plateauPct settings.patience

def StalledAt (rung : Nat) : Prop :=
  Plateaued (rungThr settings world) settings.plateauPct settings.patience rung

variable {settings world}

theorem rungEntry_getD {count rung : Nat} (below : rung < count) :
    (((List.range count).map (rungEntry settings world)).map WalkEntry.thr).getD rung 0 =
      rungThr settings world rung := by
  simp [List.getD, below, rungEntry, rungThr, Reading.entry]

theorem decisionAt_error_iff {rung : Nat} :
    decisionAt settings world rung = .error ↔ rungThr settings world rung ≤ 0 := by
  rw [decisionAt, decision]
  split
  · simp [*]
  · split <;> simp [*]

theorem decisionAt_plateau {rung pinPods : Nat} {pinThr : ℚ}
    (pinned : decisionAt settings world rung = .plateau pinPods pinThr) :
    max 1 settings.patience ≤ rung ∧
      pinPods = settings.ladder.getD (rung - max 1 settings.patience) 0 ∧
      pinThr = rungThr settings world (rung - max 1 settings.patience) := by
  rw [decisionAt, decision] at pinned
  split at pinned
  · cases pinned
  · split at pinned
    · rename_i found
      cases pinned
      rcases plateauPin_eq_some found with ⟨window, entry⟩
      rw [List.length_map, List.length_range] at window entry
      have earlier : rung - max 1 settings.patience < rung + 1 := by omega
      have sameIndex : rung + 1 - max 1 settings.patience - 1 =
          rung - max 1 settings.patience := by omega
      rw [sameIndex, List.getElem?_map, List.getElem?_range earlier, Option.map_some,
        Option.map_some, Option.some.injEq, Prod.mk.injEq] at entry
      exact ⟨by omega, entry.1.symm, entry.2.symm⟩
    · cases pinned

theorem decisionAt_of_stalled {rung : Nat} (patience : 1 ≤ settings.patience)
    (delivers : 0 < rungThr settings world rung) (stalled : StalledAt settings world rung) :
    decisionAt settings world rung =
      .plateau (settings.ladder.getD (rung - settings.patience) 0)
        (rungThr settings world (rung - settings.patience)) := by
  have length : ((List.range (rung + 1)).map (rungEntry settings world)).length =
      rung + 1 := by simp
  have found := (plateauPin_isSome_iff length
    (fun i below => rungEntry_getD (by omega)) settings.plateauPct patience).mpr stalled
  rcases Option.isSome_iff_exists.mp found with ⟨⟨pinPods, pinThr⟩, pinned⟩
  have decided : decisionAt settings world rung = .plateau pinPods pinThr := by
    rw [decisionAt, decision, if_neg (not_le.mpr delivers), pinned]
  rcases decisionAt_plateau decided with ⟨-, samePods, sameThr⟩
  rw [max_eq_right patience] at samePods sameThr
  rw [decided, samePods, sameThr]

theorem decisionAt_of_climbing {rung : Nat} (patience : 1 ≤ settings.patience)
    (delivers : 0 < rungThr settings world rung)
    (climbing : ¬ StalledAt settings world rung) :
    decisionAt settings world rung = .continue := by
  have length : ((List.range (rung + 1)).map (rungEntry settings world)).length =
      rung + 1 := by simp
  have silent : plateauPin ((List.range (rung + 1)).map (rungEntry settings world))
      settings.plateauPct settings.patience = none := by
    rw [← Option.not_isSome_iff_eq_none, plateauPin_isSome_iff length
      (fun i below => rungEntry_getD (by omega)) settings.plateauPct patience]
    exact climbing
  rw [decisionAt, decision, if_neg (not_le.mpr delivers), silent]

theorem decisionAt_continue_iff {rung : Nat} (patience : 1 ≤ settings.patience) :
    decisionAt settings world rung = .continue ↔
      0 < rungThr settings world rung ∧ ¬ StalledAt settings world rung := by
  constructor
  · intro continues
    have delivers : 0 < rungThr settings world rung := by
      rw [← not_le, ← decisionAt_error_iff, continues]
      simp
    refine ⟨delivers, fun stalled => ?_⟩
    rw [decisionAt_of_stalled patience delivers stalled] at continues
    cases continues
  · intro climbs
    rcases climbs with ⟨delivers, climbing⟩
    exact decisionAt_of_climbing patience delivers climbing

def Decision.kind : Decision → StepDecision
  | .error => .error
  | .plateau _ _ => .plateau
  | .continue => .continue

theorem decisionAt_kind_of_patience_one (single : settings.patience = 1) (rung : Nat) :
    (decisionAt settings world rung).kind =
      stepDecision (if rung = 0 then 0 else rungThr settings world (rung - 1))
        (rungThr settings world rung) settings.plateauPct := by
  have patience : 1 ≤ settings.patience := by omega
  rw [stepDecision]
  by_cases collapsed : rungThr settings world rung ≤ 0
  · rw [if_pos collapsed, decisionAt_error_iff.mpr collapsed]
    rfl
  rw [if_neg collapsed]
  have delivers := not_le.mp collapsed
  have stalledIff : StalledAt settings world rung ↔ 1 ≤ rung ∧
      SmallGain settings.plateauPct (rungThr settings world (rung - 1))
        (rungThr settings world rung) := by
    rw [StalledAt, Plateaued]
    rw [single]
    constructor
    · intro gains
      rcases gains with ⟨enough, small⟩
      exact ⟨enough, small rung (by omega) (le_refl rung)⟩
    · intro gains
      rcases gains with ⟨enough, small⟩
      refine ⟨enough, fun i above below => ?_⟩
      have only : i = rung := by omega
      rwa [only]
  by_cases stalled : StalledAt settings world rung
  · rw [decisionAt_of_stalled patience delivers stalled]
    rcases stalledIff.mp stalled with ⟨enough, prevPositive, gain⟩
    rw [if_neg (by omega : rung ≠ 0), if_neg (not_le.mpr prevPositive),
      if_neg (not_lt.mpr gain)]
    rfl
  · rw [decisionAt_of_climbing patience delivers stalled]
    by_cases first : rung = 0
    · simp [first, Decision.kind]
    · rw [if_neg first]
      split
      · rfl
      · rename_i prevPositive
        rw [if_pos]
        · rfl
        · by_contra small
          exact stalled (stalledIff.mpr
            ⟨by omega, not_le.mp prevPositive, not_lt.mp small⟩)

/-- If a climb first stalls at `stop`, the rung it is pinned at opens the run of small
gains: it is the first rung, or was reached by a gain above the threshold. -/
theorem pinned_rung_was_climbed_to {thr : Nat → ℚ} {plateauPct : ℚ} {patience stop : Nat}
    (patient : 1 ≤ patience)
    (earlier : ∀ rung, rung < stop → 0 < thr rung ∧ ¬ Plateaued thr plateauPct patience rung)
    (stalled : Plateaued thr plateauPct patience stop) :
    stop - patience = 0 ∨
      plateauPct / 100 <
        (thr (stop - patience) - thr (stop - patience - 1)) / thr (stop - patience - 1) := by
  rcases stalled with ⟨enough, small⟩
  by_cases first : stop - patience = 0
  · exact .inl first
  · right
    by_contra notAbove
    have prevPositive : 0 < thr (stop - patience - 1) := (earlier _ (by omega)).1
    apply (earlier (stop - 1) (by omega)).2
    refine ⟨by omega, fun i above below => ?_⟩
    by_cases opening : i = stop - patience
    · rw [opening]
      exact ⟨prevPositive, not_lt.mp notAbove⟩
    · exact small i (by omega) (by omega)

/-! ## The outcome of a walk -/

/-- The observations of the first `count` rungs. -/
theorem observed_rungs {count : Nat} (within : count ≤ settings.ladder.length) :
    (observeAll (fun rung pods => (pods, world.measure rung pods)) 0
      settings.ladder).take count =
      (List.range count).map fun rung =>
        (settings.ladder.getD rung 0,
          world.measure rung (settings.ladder.getD rung 0)) := by
  apply List.ext_getElem?
  intro rung
  by_cases below : rung < count
  · have onLadder : rung < settings.ladder.length := by omega
    simp [below, getElem?_observeAll, List.getElem?_eq_getElem onLadder, List.getD]
  · simp [below]

/-- The rule of the scan on the first `rung + 1` rungs is the decision there. -/
theorem walkRule_observed (rung : Nat) :
    walkRule settings ((List.range (rung + 1)).map fun rung =>
        (settings.ladder.getD rung 0,
          world.measure rung (settings.ladder.getD rung 0))) =
      match decisionAt settings world rung with
      | .continue => none
      | ended => some ended := by
  have last : ((List.range (rung + 1)).map fun rung =>
        (settings.ladder.getD rung 0,
          world.measure rung (settings.ladder.getD rung 0))).getLast? =
      some (settings.ladder.getD rung 0,
        world.measure rung (settings.ladder.getD rung 0)) := by
    simp [List.range_succ]
  simp only [walkRule, last, List.map_map]
  rfl

variable (world) in
/-- Where the scan ends: the first rung with a decision other than to continue, or
the last rung of the ladder. -/
theorem walkScan_ends (nonempty : settings.ladder ≠ []) :
    ∃ stop < settings.ladder.length,
      (walkScan settings world).1 = (List.range (stop + 1)).map (fun rung =>
        (settings.ladder.getD rung 0,
          world.measure rung (settings.ladder.getD rung 0))) ∧
      (∀ rung < stop, decisionAt settings world rung = .continue) ∧
      (((walkScan settings world).2 = some (decisionAt settings world stop) ∧
          decisionAt settings world stop ≠ .continue) ∨
        ((walkScan settings world).2 = none ∧
          decisionAt settings world stop = .continue ∧
          stop + 1 = settings.ladder.length)) := by
  have outcome := scanUntil_outcome
    (fun rung pods => (pods, world.measure rung pods)) (walkRule settings) []
    settings.ladder
  rcases outcome.observed with ⟨taken, bound, seen⟩
  simp only [List.length_nil, length_observeAll, List.nil_append] at bound seen
  rw [observed_rungs bound] at seen
  have continues : ∀ rung, rung + 1 < taken →
      decisionAt settings world rung = .continue := by
    intro rung below
    have silent := outcome.silent_before (rung + 1) (by simp) (by simp [seen, below])
    rw [seen, ← List.map_take, List.take_range, Nat.min_eq_left (by omega),
      walkRule_observed] at silent
    revert silent
    cases decisionAt settings world rung <;> simp
  cases ended : (walkScan settings world).2 with
  | some verdict =>
      rcases outcome.verdict verdict ended with ⟨grew, spoken⟩
      rw [seen] at grew spoken
      simp only [List.length_nil, List.length_map, List.length_range] at grew
      have atStop : taken - 1 + 1 = taken := by omega
      rw [← atStop, walkRule_observed] at spoken
      refine ⟨taken - 1, by omega, by rw [atStop]; exact seen,
        fun rung below => continues rung (by omega), .inl ?_⟩
      revert spoken
      cases decisionAt settings world (taken - 1) with
      | «continue» => simp
      | error =>
          intro spoken
          cases spoken
          simp
      | plateau pinPods pinThr =>
          intro spoken
          cases spoken
          simp
  | none =>
      rcases outcome.exhausted ended with ⟨all, silent⟩
      have rungs : 0 < settings.ladder.length := List.length_pos_of_ne_nil nonempty
      have tookAll : taken = settings.ladder.length := by
        have sameLength := congrArg List.length (seen.symm.trans all)
        simpa using sameLength
      have atStop : taken - 1 + 1 = taken := by omega
      have spoken := silent (by
        apply List.ne_nil_of_length_pos
        simpa using rungs)
      rw [seen, ← atStop, walkRule_observed] at spoken
      refine ⟨taken - 1, by omega, by rw [atStop]; exact seen,
        fun rung below => continues rung (by omega), .inr ⟨rfl, ?_, by omega⟩⟩
      revert spoken
      cases decisionAt settings world (taken - 1) <;> simp

/-- What a walk that stops at rung `stop` did and recorded. Rungs count from zero. -/
structure WalkOutcome (settings : WalkSettings) (world : WalkWorld) (stop : Nat) :
    Prop where
  onLadder : stop < settings.ladder.length
  climbing : ∀ rung < stop, 0 < rungThr settings world rung ∧
    ¬ StalledAt settings world rung
  measured : (walkCell settings world).measured = settings.ladder.take (stop + 1)
  recordedWalk : (walkCell settings world).record.walk =
    (List.range (stop + 1)).map (rungEntry settings world)
  collapsed : rungThr settings world stop ≤ 0 →
    (walkCell settings world).record.status = .error ∧
    (walkCell settings world).record.pinnedPods = none ∧
    (walkCell settings world).record.throughput = 0 ∧
    (walkCell settings world).record.reason =
      if (world.measure stop (settings.ladder.getD stop 0)).aligned then .creationChoke
      else .misalignedWindows
  stalled : 0 < rungThr settings world stop → StalledAt settings world stop →
    (walkCell settings world).record.status = .ok ∧
    (walkCell settings world).record.reason = .plateau ∧
    (walkCell settings world).record.pinnedPods =
      some (settings.ladder.getD (stop - settings.patience) 0) ∧
    (stop - settings.patience = 0 ∨
      settings.plateauPct / 100 <
        (rungThr settings world (stop - settings.patience) -
          rungThr settings world (stop - settings.patience - 1)) /
          rungThr settings world (stop - settings.patience - 1))
  exhausted : 0 < rungThr settings world stop → ¬ StalledAt settings world stop →
    stop + 1 = settings.ladder.length ∧
    (walkCell settings world).record.status = .ok ∧
    (walkCell settings world).record.reason = .ladderExhausted ∧
    (walkCell settings world).record.pinnedPods = some (settings.ladder.getD stop 0) ∧
    (walkCell settings world).record.throughput = rungThr settings world stop
  singleShot : settings.patience = 1 → ∀ rung ≤ stop,
    (decisionAt settings world rung).kind =
      stepDecision (if rung = 0 then 0 else rungThr settings world (rung - 1))
        (rungThr settings world rung) settings.plateauPct

def recordAt (settings : WalkSettings) (world : WalkWorld) (stop : Nat) : CellRecord :=
  let walk := (List.range (stop + 1)).map (rungEntry settings world)
  match decisionAt settings world stop with
  | .error =>
      errorRecord settings walk
        (world.measure stop (settings.ladder.getD stop 0)).aligned
  | .plateau pinPods pinThr => plateauRecord settings world walk pinPods pinThr
  | .continue =>
      exhaustedRecord settings world walk (settings.ladder.getD stop 0)
        (rungThr settings world stop)

variable (world) in
theorem walkCell_ends (nonempty : settings.ladder ≠ []) :
    ∃ stop < settings.ladder.length,
      (∀ rung < stop, decisionAt settings world rung = .continue) ∧
      (decisionAt settings world stop = .continue → stop + 1 = settings.ladder.length) ∧
      (walkCell settings world).measured = settings.ladder.take (stop + 1) ∧
      (walkCell settings world).record = recordAt settings world stop := by
  rcases walkScan_ends world nonempty with
    ⟨stop, onLadder, seen, continues, ended⟩
  rcases walkFrom_eq_scan settings world [] settings.ladder with ⟨recorded, measured⟩
  change (walkCell settings world).record =
    scanRecord settings world (walkScan settings world) at recorded
  change [] ++ (walkCell settings world).measured =
    (walkScan settings world).1.map Prod.fst at measured
  have last : (walkScan settings world).1.getLast? =
      some (settings.ladder.getD stop 0,
        world.measure stop (settings.ladder.getD stop 0)) := by
    simp [seen, List.range_succ]
  have entries : (walkScan settings world).1.map (fun rung => rung.2.entry rung.1) =
      (List.range (stop + 1)).map (rungEntry settings world) := by
    rw [seen, List.map_map]
    rfl
  refine ⟨stop, onLadder, continues, ?_, ?_, ?_⟩
  · intro continued
    rcases ended with ⟨-, stops⟩ | ⟨-, -, atEnd⟩
    · exact absurd continued stops
    · exact atEnd
  · rw [List.nil_append, seen, List.map_map] at measured
    rw [measured]
    apply List.ext_getElem?
    intro rung
    by_cases below : rung < stop + 1
    · have within : rung < settings.ladder.length := by omega
      simp [below, List.getElem?_eq_getElem within]
    · simp [below]
  · rw [recorded, recordAt]
    cases scan : walkScan settings world with
    | mk rungs verdict =>
        rw [scan] at last entries ended
        rcases ended with ⟨spoken, stops⟩ | ⟨silent, continued, -⟩
        · revert spoken stops
          cases decisionAt settings world stop with
          | error =>
              intro spoken _
              cases spoken
              simp [scanRecord, entries, last]
          | plateau pinPods pinThr =>
              intro spoken _
              cases spoken
              simp [scanRecord, entries]
          | «continue» => simp
        · cases silent
          simp [scanRecord, entries, last, continued, rungThr]

/-- Every walk over a ladder that is not empty stops at the first rung that
collapses or stalls, or at the last one, and records exactly that. -/
theorem walkCell_outcome (nonempty : settings.ladder ≠ [])
    (patience : 1 ≤ settings.patience) :
    ∃ stop, WalkOutcome settings world stop := by
  rcases walkCell_ends world nonempty with
    ⟨stop, onLadder, continues, atEnd, measured, record⟩
  have climbing : ∀ rung < stop, 0 < rungThr settings world rung ∧
      ¬ StalledAt settings world rung := fun rung below =>
    (decisionAt_continue_iff patience).mp (continues rung below)
  exact ⟨stop, {
    onLadder := onLadder
    climbing := climbing
    measured := measured
    recordedWalk := by
      rw [record, recordAt]
      cases decisionAt settings world stop <;> rfl
    collapsed := by
      intro collapsed
      rw [record, recordAt, decisionAt_error_iff.mpr collapsed]
      exact ⟨rfl, rfl, rfl, rfl⟩
    stalled := by
      intro delivers stalled
      rw [record, recordAt, decisionAt_of_stalled patience delivers stalled]
      exact ⟨rfl, rfl, rfl, pinned_rung_was_climbed_to patience climbing stalled⟩
    exhausted := by
      intro delivers climbs
      have continued := decisionAt_of_climbing patience delivers climbs
      rw [record, recordAt, continued]
      exact ⟨atEnd continued, rfl, rfl, rfl, rfl⟩
    singleShot := fun single rung _ => decisionAt_kind_of_patience_one single rung }⟩

end

def flatteningSettings : WalkSettings where
  streamCount := 1000
  imageDigest := "sha256:a".toList
  ladderFor := [12, 16, 20, 24]
  plateauPct := 10
  repeats := 2
  patience := 1

def flatteningWorld : WalkWorld where
  measure rung _ := ⟨[400000, 500000, 560000, 575000].getD rung 0, true, none, none⟩
  confirm _ _ := ⟨none, none, none⟩
  podMemMb := none

theorem walkCell_outcome_of_flattening :
    (∃ stop, WalkOutcome flatteningSettings flatteningWorld stop) ∧
      (walkCell flatteningSettings flatteningWorld).record.pinnedPods = some 20 :=
  ⟨walkCell_outcome (by decide) (by decide), by decide +kernel⟩

end DsBench.Harness
