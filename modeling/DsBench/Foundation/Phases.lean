import DsBench.Foundation.PacedQueue

/-! # Warm-up, gap and measure window

A load runs through a warm-up, a gap in which nothing is to be done, and a window in
which what is done counts. Whether an operation counts is decided before it is done, and
a sleep may come in between.
-/

namespace DsBench

structure Phases (Time : Type u) [LE Time] where
  warmupEnd : Time
  measureStart : Time
  deadline : Time
  warmup_le : warmupEnd ≤ measureStart
  measure_le : measureStart ≤ deadline

namespace Phases

variable {Time : Type u} [LinearOrder Time] (phases : Phases Time)

def InGap (instant : Time) : Prop :=
  phases.warmupEnd ≤ instant ∧ instant < phases.measureStart

def InWindow (instant : Time) : Prop :=
  phases.measureStart ≤ instant ∧ instant < phases.deadline

instance (instant : Time) : Decidable (phases.InGap instant) :=
  inferInstanceAs (Decidable (_ ∧ _))

instance (instant : Time) : Decidable (phases.InWindow instant) :=
  inferInstanceAs (Decidable (_ ∧ _))

/-- An operation done at an instant respects the phases: none is done in the gap, and
what is done in the window is what counts. One that fails need not count. -/
structure Respects (instant : Time) (counted succeeded : Bool) : Prop where
  outsideGap : ¬ phases.InGap instant
  countedInWindow : counted = true → phases.InWindow instant
  windowCounted : succeeded = true → phases.InWindow instant → counted = true

/-- What is begun at one instant and done at another ends up in the wrong phase. -/
def Strays (began done : Time) (succeeded : Bool) : Prop :=
  (began < phases.warmupEnd ∧
    (phases.InGap done ∨ succeeded = true ∧ phases.InWindow done)) ∨
  (phases.measureStart ≤ began ∧ phases.deadline ≤ done)

variable {phases}

/-- An operation begun in the warm-up or the window, and counted if in the window,
respects the phases exactly when it does not stray. -/
theorem respects_iff {began done : Time} {succeeded : Bool}
    (busy : ¬ phases.InGap began) (later : began ≤ done) :
    phases.Respects done (decide (phases.measureStart ≤ began)) succeeded ↔
      ¬ phases.Strays began done succeeded := by
  rcases lt_or_ge began phases.measureStart with warming | measuring
  · have early : began < phases.warmupEnd :=
      not_le.mp fun late => busy ⟨late, warming⟩
    have uncounted : decide (phases.measureStart ≤ began) = false :=
      decide_eq_false (not_le.mpr warming)
    rw [uncounted]
    constructor
    · intro respects strays
      rcases strays with ⟨-, inGap | ⟨success, inWindow⟩⟩ | ⟨measuring, -⟩
      · exact respects.outsideGap inGap
      · exact Bool.false_ne_true (respects.windowCounted success inWindow)
      · exact absurd measuring (not_le.mpr warming)
    · intro stays
      exact {
        outsideGap := fun inGap => stays (.inl ⟨early, .inl inGap⟩)
        countedInWindow := fun counted => absurd counted Bool.false_ne_true
        windowCounted := fun success inWindow =>
          absurd (.inl ⟨early, .inr ⟨success, inWindow⟩⟩) stays }
  · have pastGap : ¬ phases.InGap done := fun inGap =>
      absurd (measuring.trans later) (not_le.mpr inGap.2)
    have counted : decide (phases.measureStart ≤ began) = true := decide_eq_true measuring
    rw [counted]
    constructor
    · intro respects strays
      have inWindow := respects.countedInWindow rfl
      rcases strays with ⟨warming, -⟩ | ⟨-, late⟩
      · exact absurd (measuring.trans_lt warming) (not_lt.mpr phases.warmup_le)
      · exact absurd inWindow.2 (not_lt.mpr late)
    · intro stays
      exact {
        outsideGap := pastGap
        countedInWindow := fun _ => ⟨measuring.trans later, not_le.mp fun late =>
          stays (.inr ⟨measuring, late⟩)⟩
        windowCounted := fun _ _ => rfl }

theorem not_strays_self {began : Time} {succeeded : Bool}
    (inTime : began < phases.deadline) (busy : ¬ phases.InGap began) :
    ¬ phases.Strays began began succeeded := by
  intro strays
  rcases strays with ⟨warming, inGap | ⟨-, inWindow⟩⟩ | ⟨-, late⟩
  · exact busy inGap
  · exact absurd (inWindow.1.trans_lt warming) (not_lt.mpr phases.warmup_le)
  · exact absurd inTime (not_lt.mpr late)

theorem respects_sleepUntil_iff [AddCommMonoid Time] [IsOrderedAddMonoid Time]
    {began due late : Time} {succeeded : Bool} (nonneg : 0 ≤ late)
    (inTime : began < phases.deadline) (busy : ¬ phases.InGap began) :
    phases.Respects (sleepUntil due late began)
        (decide (phases.measureStart ≤ began)) succeeded ↔
      ¬ (began < due ∧ phases.Strays began (due + late) succeeded) := by
  rw [respects_iff busy (now_le_sleepUntil nonneg), sleepUntil]
  by_cases sleeps : began < due
  · simp [sleeps]
  · simp [sleeps, not_strays_self inTime busy]

end Phases

end DsBench
