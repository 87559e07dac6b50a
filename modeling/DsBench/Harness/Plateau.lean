import DsBench.Foundation.StoppingScan
import Mathlib.Data.List.Nodup
import Mathlib.Data.Rat.Defs
import Mathlib.Algebra.Order.Field.Basic
import Mathlib.Tactic.Linarith

/-! # Plateau detection

The pure decisions of the saturation walk: how the pod ladder is capped, when a
climb counts as over, and which rung is pinned then. Throughputs are exact.
-/

namespace DsBench.Harness

def capRung (streamCount : Nat) (out : List Nat) (p : Nat) : List Nat :=
  let c := min p streamCount
  if 1 ≤ c ∧ c ∉ out then out ++ [c] else out

def capLadder (ladder : List Nat) (streamCount : Nat) : List Nat :=
  ladder.foldl (capRung streamCount) []

/-- One element of the walk: the pod count, the throughput, and the latency pair
that is only there when the rung's median was read. -/
structure WalkEntry where
  pods : Nat
  thr : ℚ
  latency : Option (ℚ × Option ℚ)
deriving DecidableEq, Repr

/-- The gain from `prev` to `cur` exists and does not exceed the threshold. -/
def SmallGain (plateauPct prev cur : ℚ) : Prop :=
  0 < prev ∧ (cur - prev) / prev ≤ plateauPct / 100

instance (plateauPct prev cur : ℚ) : Decidable (SmallGain plateauPct prev cur) :=
  inferInstanceAs (Decidable (_ ∧ _))

/-- `patience` consecutive rung-to-rung gains at or below the threshold pin the rung
just before them. -/
def plateauPin (walk : List WalkEntry) (plateauPct : ℚ) (patience : Nat) :
    Option (Nat × ℚ) :=
  let patience := max 1 patience
  if walk.length < patience + 1 then none
  else
    let thrs := walk.map WalkEntry.thr
    if (List.range' (thrs.length - patience) patience).all fun i =>
        decide (SmallGain plateauPct (thrs.getD (i - 1) 0) (thrs.getD i 0)) then
      walk[walk.length - patience - 1]?.map fun pin => (pin.pods, pin.thr)
    else none

inductive StepDecision where
  | error
  | continue
  | plateau
deriving DecidableEq, Repr

def stepDecision (prevThr thr plateauPct : ℚ) : StepDecision :=
  if thr ≤ 0 then .error
  else if prevThr ≤ 0 then .continue
  else if (thr - prevThr) / prevThr > plateauPct / 100 then .continue
  else .plateau

example : stepDecision 500000 530000 10 = .plateau := by decide +kernel

/-! ## The capped ladder -/

/-- What the capping loop keeps: distinct pod counts, none below one and none
above the stream count. -/
def CappedRungs (streamCount : Nat) (out : List Nat) : Prop :=
  out.Nodup ∧ ∀ c ∈ out, 1 ≤ c ∧ c ≤ streamCount

theorem capRung_capped {streamCount : Nat} {out : List Nat} (p : Nat)
    (capped : CappedRungs streamCount out) :
    CappedRungs streamCount (capRung streamCount out p) := by
  rcases capped with ⟨distinct, bounded⟩
  simp only [capRung]
  split
  · rename_i fresh
    constructor
    · rw [← List.concat_eq_append]
      exact List.Nodup.concat fresh.2 distinct
    · intro c member
      rcases List.mem_append.mp member with earlier | added
      · exact bounded c earlier
      · rw [List.mem_singleton.mp added]
        exact ⟨fresh.1, Nat.min_le_right p streamCount⟩
  · exact ⟨distinct, bounded⟩

theorem capLadder_capped (ladder : List Nat) (streamCount : Nat) :
    CappedRungs streamCount (capLadder ladder streamCount) :=
  List.foldlRecOn ladder (capRung streamCount)
    ⟨List.nodup_nil, by simp⟩ fun _ capped p _ => capRung_capped p capped

/-! ## When a walk pins -/

/-- The last `patience` gains up to rung `rung` all exist and are small. -/
def Plateaued (thr : Nat → ℚ) (plateauPct : ℚ) (patience rung : Nat) : Prop :=
  patience ≤ rung ∧
    ∀ i, rung - patience < i → i ≤ rung → SmallGain plateauPct (thr (i - 1)) (thr i)

/-- What `plateauPin` decides about a walk that ends at rung `rung`. -/
theorem plateauPin_isSome_iff {walk : List WalkEntry} {thr : Nat → ℚ} {rung : Nat}
    (length : walk.length = rung + 1)
    (readings : ∀ i, i ≤ rung → (walk.map WalkEntry.thr).getD i 0 = thr i)
    (plateauPct : ℚ) {patience : Nat} (positive : 1 ≤ patience) :
    (plateauPin walk plateauPct patience).isSome ↔
      Plateaued thr plateauPct patience rung := by
  have atLeastOne : max 1 patience = patience := max_eq_right positive
  simp only [plateauPin, atLeastOne, length, List.length_map]
  by_cases short : rung + 1 < patience + 1
  · simp only [if_pos short, Option.isSome_none, Bool.false_eq_true, false_iff]
    intro stalled
    rcases stalled with ⟨enough, -⟩
    omega
  · have pinned : rung + 1 - patience - 1 < walk.length := by omega
    simp only [if_neg short, List.getElem?_eq_getElem pinned, Option.map_some]
    have window : ((List.range' (rung + 1 - patience) patience).all fun i =>
        decide (SmallGain plateauPct ((walk.map WalkEntry.thr).getD (i - 1) 0)
          ((walk.map WalkEntry.thr).getD i 0))) = true ↔
        Plateaued thr plateauPct patience rung := by
      simp only [List.all_eq_true, List.mem_range'_1, decide_eq_true_eq]
      constructor
      · intro small
        refine ⟨by omega, fun i above below => ?_⟩
        have here := small i ⟨by omega, by omega⟩
        rwa [readings (i - 1) (by omega), readings i below] at here
      · intro stalled i within
        rcases stalled with ⟨enough, small⟩
        rcases within with ⟨above, below⟩
        rw [readings (i - 1) (by omega), readings i (by omega)]
        exact small i (by omega) (by omega)
    rw [← window]
    split <;> simp_all

theorem plateauPin_eq_some {walk : List WalkEntry} {plateauPct : ℚ} {patience : Nat}
    {pin : Nat × ℚ} (pinned : plateauPin walk plateauPct patience = some pin) :
    max 1 patience < walk.length ∧
      walk[walk.length - max 1 patience - 1]?.map (fun pin => (pin.pods, pin.thr)) =
        some pin := by
  simp only [plateauPin] at pinned
  split at pinned
  · cases pinned
  · rename_i long
    split at pinned
    · exact ⟨by omega, pinned⟩
    · cases pinned

/-- A negative threshold of a full hundred percent never pins a walk that still
delivers anything. -/
theorem not_plateaued_of_sentinel {thr : Nat → ℚ} {plateauPct : ℚ} {patience rung : Nat}
    (sentinel : plateauPct ≤ -100) (positive : 1 ≤ patience)
    (delivers : 0 < thr rung) : ¬ Plateaued thr plateauPct patience rung := by
  intro stalled
  rcases stalled with ⟨enough, small⟩
  rcases small rung (by omega) (le_refl rung) with ⟨prevPositive, gain⟩
  rw [div_le_iff₀ prevPositive] at gain
  nlinarith

end DsBench.Harness
