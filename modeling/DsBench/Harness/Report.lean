import DsBench.Harness.CellStores
import Mathlib.Data.Char
import Mathlib.Data.List.Lex
import Mathlib.Data.List.MinMax

/-! # The rows of the report

The report reads the cell files of a suite back and makes one row of each cell: the
headline throughput, the pods it is reported for, and the latency of a rung that is
meant to lie below saturation.
-/

namespace DsBench.Harness

/-! ## The knee -/

structure Knee where
  pods : Nat
  throughput : ℚ
  p50 : Option ℚ
  p99 : Option ℚ
deriving DecidableEq, Repr

def ranked (walk : List WalkEntry) : List WalkEntry :=
  walk.filter fun rung => rung.latency.isSome

def peakThr (rungs : List WalkEntry) : ℚ := ((rungs.map WalkEntry.thr).max?).getD 0

def underPeak (frac : ℚ) (rungs : List WalkEntry) : List WalkEntry :=
  rungs.filter fun rung => decide (rung.thr ≤ frac * peakThr rungs)

/-- The first of the highest rungs under the peak or, if there is none, the one with the
fewest pods. -/
def kneePick (frac : ℚ) (rungs : List WalkEntry) : Option WalkEntry :=
  match (underPeak frac rungs).argmax WalkEntry.thr with
  | some pick => some pick
  | none => rungs.argmin WalkEntry.pods

/-- `knee_of`. The report calls it with a fraction of four fifths. -/
def kneeOf (walk : List WalkEntry) (frac : ℚ) : Option Knee :=
  (kneePick frac (ranked walk)).map fun pick =>
    ⟨pick.pods, pick.thr, pick.latency.map Prod.fst, pick.latency.bind Prod.snd⟩

/-! ## The rows -/

/-- The throughput to quote for a cell: the confirmed one of a saturated cell, else the
highest of the walk. -/
def headlineThroughput (cell : CellRecord) : ℚ :=
  if cell.saturated then cell.throughput
  else ((cell.walk.map WalkEntry.thr).max?).getD cell.throughput

structure ReportRow where
  mode : Text
  streamCount : Nat
  pods : Option Nat
  throughput : ℚ
  p50 : Option ℚ
  p99 : Option ℚ
  kneePods : Option Nat
  kneeThroughput : Option ℚ
  kneeP50 : Option ℚ
  kneeP99 : Option ℚ
  podMemMb : Option ℚ
  saturated : Bool
  status : Status
  reason : Reason
  walk : List WalkEntry
deriving DecidableEq, Repr

def reportRow (label : Text) (cell : CellRecord) : ReportRow :=
  let knee := kneeOf cell.walk (4 / 5)
  { mode := label
    streamCount := cell.streamCount
    pods := cell.pinnedPods
    throughput := headlineThroughput cell
    p50 := cell.p50
    p99 := cell.p99
    kneePods := knee.map Knee.pods
    kneeThroughput := knee.map Knee.throughput
    kneeP50 := knee.bind Knee.p50
    kneeP99 := knee.bind Knee.p99
    podMemMb := cell.podMemMb
    saturated := cell.saturated
    status := cell.status
    reason := cell.reason
    walk := cell.walk }

def rowLe (left right : ReportRow) : Bool :=
  left.streamCount < right.streamCount ||
    (left.streamCount = right.streamCount && left.mode ≤ right.mode)

/-- `build`: one row per cell of every label that has a file. -/
def build (labels : List Text) (files : Text → Option Cells.File) : List ReportRow :=
  (labels.flatMap fun label =>
    match files label with
    | none => []
    | some file => file.values.map (reportRow label)).mergeSort rowLe

theorem mem_build_iff {labels : List Text} {files : Text → Option Cells.File}
    {row : ReportRow} :
    row ∈ build labels files ↔
      ∃ label ∈ labels, ∃ file, files label = some file ∧
        ∃ cell ∈ file.values, reportRow label cell = row := by
  rw [build, List.mem_mergeSort, List.mem_flatMap]
  constructor
  · intro found
    rcases found with ⟨label, listed, member⟩
    cases onFile : files label with
    | none => simp [onFile] at member
    | some file =>
        rw [onFile] at member
        exact ⟨label, listed, file, onFile, List.mem_map.mp member⟩
  · intro found
    rcases found with ⟨label, listed, file, onFile, cell, held, same⟩
    refine ⟨label, listed, ?_⟩
    rw [onFile]
    exact List.mem_map.mpr ⟨cell, held, same⟩

theorem reportRow_mem_build {labels : List Text} {files : Text → Option Cells.File}
    {label : Text} {file : Cells.File} {cell : CellRecord} (listed : label ∈ labels)
    (onFile : files label = some file) (held : file.get cell.streamCount = some cell) :
    reportRow label cell ∈ build labels files := by
  rw [mem_build_iff]
  refine ⟨label, listed, file, onFile, cell, ?_, rfl⟩
  rw [KeyedFile.mem_values_iff]
  exact held

/-! ## Where the knee lies -/

/-- Pod counts grow from rung to rung. -/
def Ascending (rungs : List WalkEntry) : Prop :=
  rungs.Pairwise fun before after => before.pods < after.pods

instance (rungs : List WalkEntry) : Decidable (Ascending rungs) :=
  inferInstanceAs (Decidable (rungs.Pairwise _))

/-- No rung of the walk is higher. -/
def AttainsMax (walk : List WalkEntry) (peak : WalkEntry) : Prop :=
  peak ∈ walk ∧ ∀ rung ∈ walk, rung.thr ≤ peak.thr

theorem Ascending.filter {rungs : List WalkEntry} (ascending : Ascending rungs)
    (keep : WalkEntry → Bool) : Ascending (rungs.filter keep) :=
  List.Pairwise.sublist List.filter_sublist ascending

theorem Ascending.pods_le_of_idxOf_le {rungs : List WalkEntry} (ascending : Ascending rungs)
    {left right : WalkEntry} (leftMember : left ∈ rungs) (rightMember : right ∈ rungs)
    (earlier : rungs.idxOf left ≤ rungs.idxOf right) : left.pods ≤ right.pods := by
  have leftPlace := List.idxOf_lt_length_of_mem leftMember
  have rightPlace := List.idxOf_lt_length_of_mem rightMember
  rcases Nat.lt_or_eq_of_le earlier with strictly | same
  · have grown := List.pairwise_iff_getElem.mp ascending _ _ leftPlace rightPlace strictly
    rw [List.getElem_idxOf, List.getElem_idxOf] at grown
    exact grown.le
  · rw [(List.idxOf_inj leftMember).mp same]

/-- What makes the pick lie at or before a rung: some rung that carries latency does, and
every rung under the peak that lies past it is matched by one that does not. -/
def MatchedBefore (frac : ℚ) (rungs : List WalkEntry) (peak : WalkEntry) : Prop :=
  (∃ rung ∈ rungs, rung.pods ≤ peak.pods) ∧
    ∀ rung ∈ underPeak frac rungs, peak.pods < rung.pods →
      ∃ lower ∈ underPeak frac rungs, lower.pods ≤ peak.pods ∧ rung.thr ≤ lower.thr

theorem kneePick_eq_none_iff {frac : ℚ} {rungs : List WalkEntry} :
    kneePick frac rungs = none ↔ rungs = [] := by
  rw [kneePick]
  cases highest : (underPeak frac rungs).argmax WalkEntry.thr with
  | none => simp
  | some pick =>
      have member := List.mem_of_mem_filter (List.argmax_mem highest)
      simp only [reduceCtorEq, false_iff]
      exact List.ne_nil_of_mem member

/-- The pick lies at or before a rung exactly if the rungs past it are matched. -/
theorem kneePick_before_iff {frac : ℚ} {rungs : List WalkEntry} {pick : WalkEntry}
    (ascending : Ascending rungs) (picked : kneePick frac rungs = some pick)
    (peak : WalkEntry) : pick.pods ≤ peak.pods ↔ MatchedBefore frac rungs peak := by
  rw [kneePick] at picked
  cases highest : (underPeak frac rungs).argmax WalkEntry.thr with
  | none =>
      rw [highest] at picked
      have least : pick ∈ rungs.argmin WalkEntry.pods := picked
      have noneUnder : underPeak frac rungs = [] := List.argmax_eq_none.mp highest
      constructor
      · intro before
        refine ⟨⟨pick, List.argmin_mem least, before⟩, ?_⟩
        intro rung member
        rw [noneUnder] at member
        cases member
      · intro matched
        rcases matched.1 with ⟨rung, member, before⟩
        exact (List.le_of_mem_argmin member least).trans before
  | some first =>
      rw [highest] at picked
      cases picked
      have member := List.argmax_mem highest
      constructor
      · intro before
        refine ⟨⟨pick, List.mem_of_mem_filter member, before⟩, ?_⟩
        intro rung under past
        exact ⟨pick, member, before, List.le_of_mem_argmax under highest⟩
      · intro matched
        by_contra past
        rcases matched.2 pick member (by omega) with ⟨lower, under, before, atLeast⟩
        have first := List.index_of_argmax highest under atLeast
        have fewer := (ascending.filter _).pods_le_of_idxOf_le member under first
        omega

/-- The knee is never past a rung that attains the walk's maximum. -/
def KneeBeforePeak (walk : List WalkEntry) (frac : ℚ) : Prop :=
  ∀ peak, AttainsMax walk peak →
    ∀ knee, kneeOf walk frac = some knee → knee.pods ≤ peak.pods

/-- The knee lies at or before the peak exactly if no rung carries latency, or one does
at or before the peak and each such rung past it that counts as below saturation is
matched by one at or before it. -/
theorem knee_before_peak_iff (walk : List WalkEntry) (frac : ℚ)
    (ascending : Ascending walk) :
    KneeBeforePeak walk frac ↔
      ∀ peak, AttainsMax walk peak → ranked walk ≠ [] →
        MatchedBefore frac (ranked walk) peak := by
  have order : Ascending (ranked walk) := ascending.filter _
  constructor
  · intro before peak attains some_
    cases picked : kneePick frac (ranked walk) with
    | none => exact absurd (kneePick_eq_none_iff.mp picked) some_
    | some pick =>
        rw [← kneePick_before_iff order picked]
        apply before peak attains ⟨pick.pods, pick.thr, _, _⟩
        rw [kneeOf, picked, Option.map_some]
  · intro matched peak attains knee found
    rw [kneeOf, Option.map_eq_some_iff] at found
    rcases found with ⟨pick, picked, same⟩
    rw [← same]
    rw [kneePick_before_iff order picked]
    apply matched peak attains
    intro empty
    rw [kneePick_eq_none_iff.mpr empty] at picked
    cases picked

def fallingWalk : List WalkEntry :=
  [(1, 100000), (2, 1000000), (3, 500000)].map fun rung =>
    ⟨rung.1, rung.2, some (1, some 2)⟩

theorem knee_before_peak_of_fallingWalk :
    KneeBeforePeak fallingWalk (4 / 5) ↔
      ∀ peak, AttainsMax fallingWalk peak → ranked fallingWalk ≠ [] →
        MatchedBefore (4 / 5) (ranked fallingWalk) peak :=
  knee_before_peak_iff fallingWalk (4 / 5) (by decide)

/-- The knee of the walk is its last rung, past the peak. -/
theorem fallingWalk_knee_past_peak :
    Ascending fallingWalk ∧
      kneeOf fallingWalk (4 / 5) = some ⟨3, 500000, some 1, some 2⟩ ∧
      ¬ KneeBeforePeak fallingWalk (4 / 5) := by
  have knee : kneeOf fallingWalk (4 / 5) = some ⟨3, 500000, some 1, some 2⟩ := by
    decide +kernel
  have attains : AttainsMax fallingWalk ⟨2, 1000000, some (1, some 2)⟩ := by
    constructor
    · decide
    · decide +kernel
  refine ⟨by decide, knee, ?_⟩
  intro before
  have bound := before _ attains _ knee
  simp at bound

/-! ## The operating point of an unsaturated cell -/

/-- No rung of the ladder is above the last one. -/
def LastIsHighest (settings : WalkSettings) (world : WalkWorld) : Prop :=
  ∀ rung < settings.ladder.length,
    rungThr settings world rung ≤ rungThr settings world (settings.ladder.length - 1)

/-- The pair of pods and throughput in a row is a rung that was measured. -/
def PointMeasured (row : ReportRow) : Prop :=
  ∃ rung ∈ row.walk, row.pods = some rung.pods ∧ row.throughput = rung.thr

theorem record_of_exhausted {settings : WalkSettings} {world : WalkWorld}
    (ok : (walkCell settings world).record.status = .ok)
    (unsaturated : (walkCell settings world).record.saturated = false)
    (nonempty : settings.ladder ≠ []) :
    (walkCell settings world).record =
      exhaustedRecord settings world
        ((List.range settings.ladder.length).map (rungEntry settings world))
        (settings.ladder.getD (settings.ladder.length - 1) 0)
        (rungThr settings world (settings.ladder.length - 1)) := by
  rcases walkCell_ends world nonempty with ⟨stop, -, -, atEnd, -, record⟩
  rw [record, recordAt] at ok unsaturated
  rw [record, recordAt]
  cases decided : decisionAt settings world stop with
  | error =>
      rw [decided] at ok
      cases ok
  | plateau pinPods pinThr =>
      rw [decided] at unsaturated
      cases unsaturated
  | «continue» =>
      have last := atEnd decided
      have place : settings.ladder.length - 1 = stop := by omega
      rw [place, ← last]

/-- The headline of an unsaturated walk is the throughput of a rung exactly if that one
is the highest. -/
theorem headline_eq_iff {cell : CellRecord} (unsaturated : cell.saturated = false)
    {rung : WalkEntry} (member : rung ∈ cell.walk) :
    headlineThroughput cell = rung.thr ↔ ∀ other ∈ cell.walk, other.thr ≤ rung.thr := by
  have among : rung.thr ∈ cell.walk.map WalkEntry.thr := List.mem_map_of_mem member
  simp only [headlineThroughput, unsaturated, Bool.false_eq_true, if_false]
  cases highest : (cell.walk.map WalkEntry.thr).max? with
  | none =>
      rw [List.max?_eq_none_iff] at highest
      rw [highest] at among
      cases among
  | some top =>
      rw [List.max?_eq_some_iff] at highest
      rw [Option.getD_some]
      constructor
      · intro same other otherMember
        rw [← same]
        exact highest.2 other.thr (List.mem_map_of_mem otherMember)
      · intro attains
        apply le_antisymm
        · rcases List.mem_map.mp highest.1 with ⟨other, otherMember, own⟩
          rw [← own]
          exact attains other otherMember
        · exact highest.2 rung.thr among

theorem rungEntry_pods_injective {settings : WalkSettings} {world : WalkWorld}
    {rung other : Nat} (below : rung < settings.ladder.length)
    (otherBelow : other < settings.ladder.length)
    (same : (rungEntry settings world rung).pods = (rungEntry settings world other).pods) :
    rung = other := by
  have distinct := (capLadder_capped settings.ladderFor settings.streamCount).1
  change settings.ladder.getD rung 0 = settings.ladder.getD other 0 at same
  simp only [List.getD, List.getElem?_eq_getElem below,
    List.getElem?_eq_getElem otherBelow, Option.getD_some] at same
  exact (List.Nodup.getElem_inj_iff distinct).mp same

theorem not_pointMeasured_of_empty {settings : WalkSettings} {world : WalkWorld}
    (empty : settings.ladder = []) (label : Text) :
    ¬ PointMeasured (reportRow label (walkCell settings world).record) := by
  intro measured
  rcases measured with ⟨rung, member, -⟩
  have walk : (walkCell settings world).record.walk = [] := by
    rw [walkCell, empty, walkFrom, exhaustedRecord]
  change rung ∈ (walkCell settings world).record.walk at member
  rw [walk] at member
  cases member

section

variable {settings : WalkSettings} {world : WalkWorld}
  (ok : (walkCell settings world).record.status = .ok)
  (unsaturated : (walkCell settings world).record.saturated = false)
  (nonempty : settings.ladder ≠ [])

include ok unsaturated nonempty

theorem mem_exhausted_walk (entry : WalkEntry) :
    entry ∈ (walkCell settings world).record.walk ↔
      ∃ rung < settings.ladder.length, rungEntry settings world rung = entry := by
  rw [record_of_exhausted ok unsaturated nonempty, exhaustedRecord]
  simp only [List.mem_map, List.mem_range]

theorem exhausted_pinnedPods : (walkCell settings world).record.pinnedPods =
    some (rungEntry settings world (settings.ladder.length - 1)).pods := by
  rw [record_of_exhausted ok unsaturated nonempty]
  rfl

theorem last_mem_exhausted_walk :
    rungEntry settings world (settings.ladder.length - 1) ∈
      (walkCell settings world).record.walk := by
  have rungs : 0 < settings.ladder.length := List.length_pos_of_ne_nil nonempty
  rw [mem_exhausted_walk ok unsaturated nonempty]
  exact ⟨_, by omega, rfl⟩

theorem headline_eq_last_iff : headlineThroughput (walkCell settings world).record =
      rungThr settings world (settings.ladder.length - 1) ↔
    LastIsHighest settings world := by
  apply (headline_eq_iff unsaturated
    (last_mem_exhausted_walk ok unsaturated nonempty)).trans
  constructor
  · intro attains rung below
    exact attains _ ((mem_exhausted_walk ok unsaturated nonempty _).mpr ⟨rung, below, rfl⟩)
  · intro attains other member
    rcases (mem_exhausted_walk ok unsaturated nonempty other).mp member with
      ⟨rung, below, own⟩
    rw [← own]
    exact attains rung below

theorem pointMeasured_exhausted_iff (label : Text) :
    PointMeasured (reportRow label (walkCell settings world).record) ↔
      LastIsHighest settings world := by
  have rungs : 0 < settings.ladder.length := List.length_pos_of_ne_nil nonempty
  have pods := exhausted_pinnedPods ok unsaturated nonempty
  rw [← headline_eq_last_iff ok unsaturated nonempty]
  constructor
  · intro measured
    rcases measured with ⟨entry, member, samePods, sameThr⟩
    rcases (mem_exhausted_walk ok unsaturated nonempty entry).mp member with
      ⟨rung, below, own⟩
    -- the pods of the row are those of the last rung, and no other rung has them
    have here : (rungEntry settings world (settings.ladder.length - 1)).pods =
        (rungEntry settings world rung).pods := by
      apply Option.some.inj
      rw [← pods, own]
      exact samePods
    rw [rungEntry_pods_injective (by omega) below here]
    have throughput : headlineThroughput (walkCell settings world).record = entry.thr :=
      sameThr
    rw [throughput, ← own]
    rfl
  · intro same
    exact ⟨_, last_mem_exhausted_walk ok unsaturated nonempty, pods, same⟩

end

/-- What a row shows of an unsaturated cell was measured exactly if the ladder has rungs
and the last one is the highest. -/
theorem operating_point_measured_iff (settings : WalkSettings) (world : WalkWorld)
    (ok : (walkCell settings world).record.status = .ok)
    (unsaturated : (walkCell settings world).record.saturated = false)
    (labels : List Text) (files : Text → Option Cells.File) (label : Text)
    (file : Cells.File) (listed : label ∈ labels) (onFile : files label = some file)
    (held : file.get settings.streamCount = some (walkCell settings world).record) :
    reportRow label (walkCell settings world).record ∈ build labels files ∧
      (PointMeasured (reportRow label (walkCell settings world).record) ↔
        settings.ladder ≠ [] ∧ LastIsHighest settings world) := by
  constructor
  · apply reportRow_mem_build listed onFile
    rw [KeyedFile.keyOf_of_get held]
    exact held
  · by_cases empty : settings.ladder = []
    · simp only [not_pointMeasured_of_empty empty, empty, ne_eq, not_true, false_and]
    · rw [pointMeasured_exhausted_iff ok unsaturated empty]
      simp only [ne_eq, empty, not_false_eq_true, true_and]

def fullSweepSettings : WalkSettings where
  streamCount := 100000
  imageDigest := "sha256:a".toList
  ladderFor := [16, 32, 64]
  plateauPct := -100
  repeats := 1
  patience := 1

def fullSweepWorld : WalkWorld where
  measure rung _ := ⟨[300000, 500000, 480000].getD rung 0, true, some 2, some 5⟩
  confirm _ _ := ⟨none, none, none⟩
  podMemMb := none

/-- The row of the sweep gives the top rung's pods and the second rung's throughput. -/
theorem fullSweep_point_not_measured :
    (walkCell fullSweepSettings fullSweepWorld).record.status = .ok ∧
      (walkCell fullSweepSettings fullSweepWorld).record.saturated = false ∧
      (reportRow "wal".toList (walkCell fullSweepSettings fullSweepWorld).record).pods =
        some 64 ∧
      (reportRow "wal".toList (walkCell fullSweepSettings fullSweepWorld).record).throughput =
        500000 ∧
      ¬ PointMeasured
        (reportRow "wal".toList (walkCell fullSweepSettings fullSweepWorld).record) := by
  rw [PointMeasured]
  decide +kernel

def fullSweepFile : Cells.File :=
  Cells.record .empty (walkCell fullSweepSettings fullSweepWorld).record

theorem operating_point_of_fullSweep :
    reportRow "wal".toList (walkCell fullSweepSettings fullSweepWorld).record ∈
        build ["wal".toList] (fun _ => some fullSweepFile) ∧
      (PointMeasured
          (reportRow "wal".toList (walkCell fullSweepSettings fullSweepWorld).record) ↔
        fullSweepSettings.ladder ≠ [] ∧ LastIsHighest fullSweepSettings fullSweepWorld) := by
  apply operating_point_measured_iff fullSweepSettings fullSweepWorld (by decide +kernel)
    (by decide +kernel) ["wal".toList] (fun _ => some fullSweepFile) "wal".toList
    fullSweepFile
  · exact List.mem_singleton.mpr rfl
  · rfl
  · have own : (walkCell fullSweepSettings fullSweepWorld).record.streamCount =
        fullSweepSettings.streamCount := by
      decide +kernel
    rw [← own]
    exact KeyedFile.get_put_self .empty (walkCell fullSweepSettings fullSweepWorld).record

end DsBench.Harness
