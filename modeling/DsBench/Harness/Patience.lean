import DsBench.Harness.Walk

/-! # What patience does to a walk

Patience is the number of consecutive small gains that end a climb. A walk with more of
it goes on wherever one with less does. It also rides through falls, so the rung it
pins in the end may be below one that it came from.
-/

namespace DsBench.Harness

/-! ## One more small gain -/

theorem Plateaued.shorter {thr : Nat → ℚ} {plateauPct : ℚ} {patience rung : Nat}
    (stalled : Plateaued thr plateauPct (patience + 1) rung) :
    Plateaued thr plateauPct patience rung := by
  rcases stalled with ⟨enough, small⟩
  constructor
  · omega
  · intro i above below
    exact small i (by omega) below

def WalkSettings.morePatient (settings : WalkSettings) : WalkSettings :=
  { settings with patience := settings.patience + 1 }

section

variable {settings : WalkSettings} {world : WalkWorld}

theorem WalkSettings.one_le_morePatient (settings : WalkSettings) :
    1 ≤ settings.morePatient.patience :=
  Nat.le_add_left 1 settings.patience

theorem StalledAt.lessPatient {rung : Nat}
    (stalled : StalledAt settings.morePatient world rung) : StalledAt settings world rung :=
  Plateaued.shorter stalled

theorem continue_morePatient (patience : 1 ≤ settings.patience) {rung : Nat}
    (continues : decisionAt settings world rung = .continue) :
    decisionAt settings.morePatient world rung = .continue := by
  rw [decisionAt_continue_iff patience] at continues
  rcases continues with ⟨delivers, climbing⟩
  rw [decisionAt_continue_iff settings.one_le_morePatient]
  refine ⟨delivers, ?_⟩
  intro stalled
  exact climbing stalled.lessPatient

theorem reason_plateau_iff {stop : Nat} (patience : 1 ≤ settings.patience)
    (record : (walkCell settings world).record = recordAt settings world stop) :
    (walkCell settings world).record.reason = .plateau ↔
      0 < rungThr settings world stop ∧ StalledAt settings world stop := by
  rw [record, recordAt]
  by_cases delivers : 0 < rungThr settings world stop
  · by_cases stalled : StalledAt settings world stop
    · rw [decisionAt_of_stalled patience delivers stalled]
      simp [plateauRecord, delivers, stalled]
    · rw [decisionAt_of_climbing patience delivers stalled]
      simp [exhaustedRecord, stalled]
  · rw [decisionAt_error_iff.mpr (not_lt.mp delivers)]
    cases aligned : (world.measure stop (settings.ladder.getD stop 0)).aligned with
    | true => simp [errorRecord, delivers]
    | false => simp [errorRecord, delivers]

/-- Patience only delays: a more patient walk measures no fewer rungs, and where it ends
in a plateau so does the less patient one. -/
theorem patience_only_delays (settings : WalkSettings) (world : WalkWorld)
    (patience : 1 ≤ settings.patience) :
    (walkCell settings world).measured.length ≤
        (walkCell settings.morePatient world).measured.length ∧
      ((walkCell settings.morePatient world).record.reason = .plateau →
        (walkCell settings world).record.reason = .plateau) := by
  by_cases empty : settings.ladder = []
  · have emptyToo : settings.morePatient.ladder = [] := empty
    rw [walkCell, walkCell, empty, emptyToo, walkFrom, walkFrom]
    simp [exhaustedRecord]
  rcases walkCell_ends world empty with
    ⟨stop, within, before, atEnd, measured, record⟩
  have nonemptyToo : settings.morePatient.ladder ≠ [] := empty
  rcases walkCell_ends world nonemptyToo with
    ⟨later, withinLater, beforeLater, atEndLater, measuredLater, recordLater⟩
  have stops : StopsAt (fun rung => decisionAt settings world rung = .continue)
      settings.ladder.length stop := ⟨within, before, atEnd⟩
  have noEarlier : stop ≤ later :=
    stops.le_of_weaker ⟨withinLater, beforeLater, atEndLater⟩
      fun rung => continue_morePatient patience
  constructor
  · have sameLadder : settings.morePatient.ladder = settings.ladder := rfl
    rw [measured, measuredLater, sameLadder, List.length_take, List.length_take]
    omega
  · intro plateau
    rw [reason_plateau_iff settings.one_le_morePatient recordLater] at plateau
    rw [reason_plateau_iff patience record]
    rcases plateau with ⟨deliversLater, stalledLater⟩
    have delivers : ∀ rung ≤ later, 0 < rungThr settings world rung := by
      intro rung below
      rcases Nat.lt_or_eq_of_le below with earlier | same
      · have continues := beforeLater rung earlier
        rw [decisionAt_continue_iff settings.one_le_morePatient] at continues
        exact continues.1
      · rw [same]
        exact deliversLater
    refine ⟨delivers stop noEarlier, ?_⟩
    -- short of a plateau the walk would have ended at the last rung, where both are
    by_contra climbing
    have last := atEnd (decisionAt_of_climbing patience (delivers stop noEarlier) climbing)
    have lengths : settings.morePatient.ladder.length = settings.ladder.length := rfl
    have same : later = stop := by omega
    rw [same] at stalledLater
    exact climbing stalledLater.lessPatient

end

/-- Four rungs that climb by 25%, 12% and under 3%: patience one ends in a plateau, and
patience two does not. -/
theorem patience_only_delays_of_flattening :
    (walkCell flatteningSettings flatteningWorld).measured.length ≤
      (walkCell flatteningSettings.morePatient flatteningWorld).measured.length ∧
      ((walkCell flatteningSettings.morePatient flatteningWorld).record.reason = .plateau →
        (walkCell flatteningSettings flatteningWorld).record.reason = .plateau) :=
  patience_only_delays flatteningSettings flatteningWorld (by decide)

/-! ## The rung that is pinned -/

section

variable {thr : Nat → ℚ} {plateauPct : ℚ} {patience stop : Nat}

/-- Throughput falls somewhere on the way from one rung to a later one. -/
def FallsBetween (thr : Nat → ℚ) (rung later : Nat) : Prop :=
  ∃ i, rung < i ∧ i ≤ later ∧ thr i < thr (i - 1)

end

theorem FallsBetween.congr {thr other : Nat → ℚ} {rung later : Nat}
    (falls : FallsBetween thr rung later) (same : ∀ i ≤ later, thr i = other i) :
    FallsBetween other rung later := by
  rcases falls with ⟨i, above, below, fell⟩
  rw [same i below, same (i - 1) (by omega)] at fell
  exact ⟨i, above, below, fell⟩

end DsBench.Harness
