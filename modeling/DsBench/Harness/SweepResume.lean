import DsBench.Foundation.InterruptedRun
import DsBench.Harness.CellStores

/-! # Resuming a sweep

The reads and mixed runners sweep each cell over a list of levels, skip what is already
done, and mark the cell complete at the end. A `bench run` may be interrupted between
any two writes to the store, and the list may have been edited since the last one.
-/

namespace DsBench.Harness

/-- What one `bench run` brings to the cells of a label: the digest it measures under,
the suite's levels as they are now, what measuring a level at its place in the list
gives, and whether the sweep's axis is one the runner knows. -/
structure SweepWork {Entry : Type} (levelOf : Entry → Nat) where
  imageDigest : Text
  levels : List Nat
  measured : (streamCount position level : Nat) → Entry
  keyed : ∀ streamCount position level,
    levelOf (measured streamCount position level) = level
  axisKnown : Bool

/-- The run over a label's file, with the suite's stream counts as they are now and the
number of writes after which it is interrupted, if it is. -/
structure SweepRun {Entry : Type} (levelOf : Entry → Nat) extends SweepWork levelOf where
  streamCounts : List Nat
  budget : Option Nat

namespace SweepCell

variable {Entry : Type} {levelOf : Entry → Nat}

section

variable (statusIn : Entry → Status) (work : SweepWork levelOf)

/-- The loop over the levels, with whether it came to its end. On an unknown axis the
first level that is not done makes the runner return. -/
def sweepLevels (streamCount : Nat) :
    Budgeted (File levelOf) → (position : Nat) → List Nat →
      Budgeted (File levelOf) × Bool
  | progress, _, [] => (progress, true)
  | progress, position, level :: levels =>
      if levelStatus statusIn progress.state streamCount level work.imageDigest = .done then
        sweepLevels streamCount progress (position + 1) levels
      else if work.axisKnown then
        sweepLevels streamCount
          (progress.write fun file => record file streamCount work.imageDigest
            (work.measured streamCount position level))
          (position + 1) levels
      else (progress, false)

def runCell (progress : Budgeted (File levelOf)) (streamCount : Nat) :
    Budgeted (File levelOf) :=
  let swept := sweepLevels statusIn work streamCount progress 0 work.levels
  if swept.2 then
    swept.1.write fun file => markComplete file streamCount work.imageDigest
  else swept.1

def runStreamCount (progress : Budgeted (File levelOf)) (streamCount : Nat) :
    Budgeted (File levelOf) :=
  if statusOf statusIn progress.state streamCount work.imageDigest = .done then progress
  else runCell statusIn work progress streamCount

end

/-- `bench run` on the file of one label. -/
def runSuite (statusIn : Entry → Status) (run : SweepRun levelOf) (file : File levelOf) :
    File levelOf :=
  (run.streamCounts.foldl (runStreamCount statusIn run.toSweepWork) ⟨file, run.budget⟩).state

def afterRuns (statusIn : Entry → Status) (runs : List (SweepRun levelOf)) :
    File levelOf :=
  runs.foldl (fun file run => runSuite statusIn run file) .empty

end SweepCell

def readsWork (imageDigest : Text) (connectionLevels : List Nat)
    (measured : (streamCount position connections : Nat) → ReadsEntry)
    (keyed : ∀ streamCount position connections,
      (measured streamCount position connections).connections = connections) :
    SweepWork ReadsEntry.connections :=
  ⟨imageDigest, connectionLevels, measured, keyed, true⟩

def runReadsCell (work : SweepWork ReadsEntry.connections) :=
  SweepCell.runCell ReadsEntry.status work

def mixedWork (imageDigest : Text) (levels : List Nat) (sweep : Text)
    (measured : (streamCount position level : Nat) → MixedEntry)
    (keyed : ∀ streamCount position level,
      (measured streamCount position level).level = level) :
    SweepWork MixedEntry.level :=
  ⟨imageDigest, levels, measured, keyed,
    sweep = "readers".toList ∨ sweep = "writer_rate".toList⟩

def runMixedCell (work : SweepWork MixedEntry.level) :=
  SweepCell.runCell MixedEntry.status work

namespace SweepCell

variable {Entry : Type} {levelOf : Entry → Nat}

/-! ## The condition and the property -/

/-- No level of the run's list is missing from a cell that is already complete under
the run's digest. -/
def NoGap (file : File levelOf) (run : SweepWork levelOf) : Prop :=
  ∀ streamCount cell, file.get streamCount = some cell →
    cell.imageDigest = run.imageDigest → cell.complete = true →
    ∀ level ∈ run.levels, (cell.entries.get level).isSome = true

/-- A cell that is done under the run's digest has every level of its list. -/
def Covered (statusIn : Entry → Status) (file : File levelOf) (run : SweepWork levelOf) :
    Prop :=
  ∀ streamCount, statusOf statusIn file streamCount run.imageDigest = .done →
    ∀ level ∈ run.levels,
      levelStatus statusIn file streamCount level run.imageDigest = .done

/-! ## What a sweep leaves -/

def Recorded (file : File levelOf) (streamCount : Nat) (imageDigest : Text)
    (level : Nat) : Prop :=
  ∃ cell, file.get streamCount = some cell ∧ cell.imageDigest = imageDigest ∧
    (cell.entries.get level).isSome = true

theorem record_recorded (file : File levelOf) (streamCount : Nat) (imageDigest : Text)
    (entry : Entry) :
    Recorded (record file streamCount imageDigest entry) streamCount imageDigest
      (levelOf entry) := by
  refine ⟨(cell file streamCount imageDigest).withEntry entry, ?_,
    cell_imageDigest file streamCount imageDigest, ?_⟩
  · rw [get_record, if_pos rfl]
  · rw [withEntry, KeyedFile.get_put_self]
    rfl

theorem Recorded.record {file : File levelOf} {streamCount level : Nat}
    {imageDigest : Text} (recorded : Recorded file streamCount imageDigest level)
    (entry : Entry) :
    Recorded (SweepCell.record file streamCount imageDigest entry) streamCount imageDigest
      level := by
  rcases recorded with ⟨old, present, same, has⟩
  have kept : cell file streamCount imageDigest = old := by
    simp only [cell, present, same, ne_eq, not_true_eq_false, if_false]
  refine ⟨(cell file streamCount imageDigest).withEntry entry, ?_,
    cell_imageDigest file streamCount imageDigest, ?_⟩
  · rw [get_record, if_pos rfl]
  · rw [kept]
    exact KeyedFile.isSome_get_put has entry

/-- What a work has made of the file it found: every cell is as it was found, or it is of
the run's digest and complete only if it has all the run's levels or was complete
before and has lost nothing. -/
def Kept (before : File levelOf) (work : SweepWork levelOf) (file : File levelOf) : Prop :=
  ∀ streamCount now, file.get streamCount = some now →
    before.get streamCount = some now ∨
      now.imageDigest = work.imageDigest ∧
        (now.complete = true →
          (∀ level ∈ work.levels, (now.entries.get level).isSome = true) ∨
            ∃ old, before.get streamCount = some old ∧
              old.imageDigest = work.imageDigest ∧ old.complete = true ∧
              ∀ level, (old.entries.get level).isSome = true →
                (now.entries.get level).isSome = true)

theorem Kept.start (before : File levelOf) (work : SweepWork levelOf) :
    Kept before work before :=
  fun _ _ present => .inl present

theorem Kept.record {before file : File levelOf} {work : SweepWork levelOf}
    (kept : Kept before work file) (streamCount : Nat) (entry : Entry) :
    Kept before work (SweepCell.record file streamCount work.imageDigest entry) := by
  intro other now present
  rw [get_record] at present
  split at present
  · rename_i own
    subst own
    cases present
    right
    refine ⟨cell_imageDigest file other work.imageDigest, ?_⟩
    rcases cell_cases file other work.imageDigest with
      ⟨-, fresh⟩ | ⟨old, found, same, here⟩
    · rw [fresh]
      intro complete
      cases complete
    · rw [here]
      intro complete
      rcases kept other old found with untouched | ⟨-, covered⟩
      · right
        exact ⟨old, untouched, same, complete,
          fun level has => KeyedFile.isSome_get_put has entry⟩
      · rcases covered complete with whole | ⟨older, earlier, olderSame, olderComplete, grown⟩
        · left
          intro level member
          exact KeyedFile.isSome_get_put (whole level member) entry
        · right
          exact ⟨older, earlier, olderSame, olderComplete,
            fun level has => KeyedFile.isSome_get_put (grown level has) entry⟩
  · exact kept other now present

theorem Kept.markComplete {before file : File levelOf} {work : SweepWork levelOf}
    (kept : Kept before work file) {streamCount : Nat}
    (swept : ∀ level ∈ work.levels, Recorded file streamCount work.imageDigest level) :
    Kept before work (SweepCell.markComplete file streamCount work.imageDigest) := by
  intro other now present
  rw [get_markComplete] at present
  split at present
  · rename_i own
    subst own
    rcases Option.map_eq_some_iff.mp present with ⟨cell, found, result⟩
    split at result
    · rename_i same
      subst result
      right
      refine ⟨same, fun _ => .inl ?_⟩
      intro level member
      rcases swept level member with ⟨recorded, recordedFound, -, has⟩
      rw [found] at recordedFound
      cases recordedFound
      exact has
    · subst result
      exact kept other cell found
  · exact kept other now present

/-! ## Runs -/

section

variable {statusIn : Entry → Status} {work : SweepWork levelOf}

theorem recorded_of_levelStatus {file : File levelOf} {streamCount level : Nat}
    {imageDigest : Text}
    (done : levelStatus statusIn file streamCount level imageDigest = .done) :
    Recorded file streamCount imageDigest level := by
  rcases levelStatus_done_iff.mp done with ⟨cell, present, same, entry, has, -⟩
  exact ⟨cell, present, same, by simp [has]⟩

theorem sweepLevels_preserves {Property : File levelOf → Prop} (streamCount : Nat)
    (kept : ∀ file entry, Property file →
      Property (record file streamCount work.imageDigest entry))
    (levels : List Nat) {progress : Budgeted (File levelOf)} (position : Nat)
    (holds : Property progress.state) :
    Property (sweepLevels statusIn work streamCount progress position levels).1.state := by
  induction levels generalizing progress position with
  | nil => exact holds
  | cons level levels induction =>
      rw [sweepLevels]
      split
      · exact induction (position + 1) holds
      · split
        · exact induction (position + 1) (Budgeted.write_preserves holds (kept _ _))
        · exact holds

theorem sweepLevels_recorded (streamCount : Nat) (levels : List Nat)
    {progress : Budgeted (File levelOf)} (position : Nat)
    (finished : (sweepLevels statusIn work streamCount progress position levels).2 = true)
    (alive : (sweepLevels statusIn work streamCount progress position levels).1.Alive) :
    progress.Alive ∧ ∀ level,
      (level ∈ levels ∨ Recorded progress.state streamCount work.imageDigest level) →
        Recorded (sweepLevels statusIn work streamCount progress position levels).1.state
          streamCount work.imageDigest level := by
  induction levels generalizing progress position with
  | nil =>
      refine ⟨alive, ?_⟩
      intro level known
      rcases known with member | recorded
      · cases member
      · exact recorded
  | cons head levels induction =>
      rw [sweepLevels] at finished alive ⊢
      split
      · rename_i done
        rw [if_pos done] at finished alive
        rcases induction (position + 1) finished alive with ⟨more, later⟩
        refine ⟨more, ?_⟩
        intro level known
        rcases known with member | recorded
        · rcases List.mem_cons.mp member with here | further
          · rw [here]
            exact later head (.inr (recorded_of_levelStatus done))
          · exact later level (.inl further)
        · exact later level (.inr recorded)
      · rename_i missing
        rw [if_neg missing] at finished alive
        split
        · rename_i known
          rw [if_pos known] at finished alive
          rcases induction (position + 1) finished alive with ⟨more, later⟩
          have before := Budgeted.alive_of_alive_write more
          rw [Budgeted.state_write_of_alive before] at later
          refine ⟨before, ?_⟩
          intro level given
          rcases given with member | recorded
          · rcases List.mem_cons.mp member with here | further
            · apply later level
              right
              rw [here]
              have own := record_recorded progress.state streamCount work.imageDigest
                (work.measured streamCount position head)
              rwa [work.keyed] at own
            · exact later level (.inl further)
          · exact later level (.inr (recorded.record _))
        · rename_i unknown
          rw [if_neg unknown] at finished
          cases finished

theorem sweepLevels_of_unknown (unknown : work.axisKnown = false)
    (progress : Budgeted (File levelOf)) {streamCount level : Nat} {levels : List Nat}
    (member : level ∈ levels)
    (missing : levelStatus statusIn progress.state streamCount level work.imageDigest ≠ .done)
    (position : Nat) :
    sweepLevels statusIn work streamCount progress position levels = (progress, false) := by
  induction levels generalizing position with
  | nil => cases member
  | cons head levels induction =>
      rw [sweepLevels, unknown]
      by_cases done :
          levelStatus statusIn progress.state streamCount head work.imageDigest = .done
      · rw [if_pos done]
        rcases List.mem_cons.mp member with here | further
        · rw [here] at missing
          exact (missing done).elim
        · exact induction further (position + 1)
      · rw [if_neg done, if_neg Bool.false_ne_true]

theorem runCell_of_unknown (unknown : work.axisKnown = false)
    (progress : Budgeted (File levelOf)) {streamCount level : Nat}
    (member : level ∈ work.levels)
    (missing :
      levelStatus statusIn progress.state streamCount level work.imageDigest ≠ .done) :
    runCell statusIn work progress streamCount = progress := by
  rw [runCell, sweepLevels_of_unknown unknown progress member missing]
  rfl

theorem runCell_kept {before : File levelOf} {progress : Budgeted (File levelOf)}
    (kept : Kept before work progress.state) (streamCount : Nat) :
    Kept before work (runCell statusIn work progress streamCount).state := by
  have sweptKept : Kept before work
      (sweepLevels statusIn work streamCount progress 0 work.levels).1.state :=
    sweepLevels_preserves streamCount (fun _ entry held => held.record streamCount entry)
      work.levels 0 kept
  rw [runCell]
  split
  · rename_i finished
    by_cases alive : (sweepLevels statusIn work streamCount progress 0 work.levels).1.Alive
    · have recorded := (sweepLevels_recorded streamCount work.levels 0 finished alive).2
      rw [Budgeted.state_write_of_alive alive]
      exact sweptKept.markComplete fun level member => recorded level (.inl member)
    · rw [Budgeted.write_of_not_alive alive]
      exact sweptKept
  · exact sweptKept

theorem runStreamCounts_kept {before : File levelOf} {progress : Budgeted (File levelOf)}
    (kept : Kept before work progress.state) (streamCounts : List Nat) :
    Kept before work (streamCounts.foldl (runStreamCount statusIn work) progress).state := by
  induction streamCounts generalizing progress with
  | nil => exact kept
  | cons streamCount streamCounts induction =>
      apply induction
      rw [runStreamCount]
      split
      · exact kept
      · exact runCell_kept kept streamCount

end

section

variable {statusIn : Entry → Status} {run : SweepRun levelOf}

theorem runSuite_kept (file : File levelOf) :
    Kept file run.toSweepWork (runSuite statusIn run file) :=
  runStreamCounts_kept (Kept.start file run.toSweepWork) run.streamCounts

theorem afterRuns_append (runs : List (SweepRun levelOf)) :
    afterRuns statusIn (runs ++ [run]) = runSuite statusIn run (afterRuns statusIn runs) := by
  simp [afterRuns]

theorem levelStatus_of_recorded {file : File levelOf} {streamCount level : Nat}
    {imageDigest : Text} (done : statusOf statusIn file streamCount imageDigest = .done)
    (recorded : Recorded file streamCount imageDigest level) :
    levelStatus statusIn file streamCount level imageDigest = .done := by
  rcases statusOf_done_iff.mp done with ⟨cell, present, same, -, clean⟩
  rcases recorded with ⟨other, otherPresent, -, has⟩
  rw [present] at otherPresent
  cases otherPresent
  rcases Option.isSome_iff_exists.mp has with ⟨entry, found⟩
  refine levelStatus_done_iff.mpr ⟨cell, present, same, entry, found, ?_⟩
  cases status : statusIn entry with
  | ok => rfl
  | error =>
      have failed := (hasError_iff statusIn cell).mpr
        ⟨level, entry, found, status⟩
      rw [clean] at failed
      cases failed

theorem covered_of_noGap {file : File levelOf} {work : SweepWork levelOf}
    (noGap : NoGap file work) : Covered statusIn file work := by
  intro streamCount done level member
  apply levelStatus_of_recorded done
  rcases statusOf_done_iff.mp done with ⟨cell, present, same, complete, -⟩
  exact ⟨cell, present, same, noGap streamCount cell present same complete level member⟩

theorem noGap_of_kept {before file : File levelOf} {work : SweepWork levelOf}
    (noGap : NoGap before work) (kept : Kept before work file) : NoGap file work := by
  intro streamCount now present same complete level member
  rcases kept streamCount now present with untouched | ⟨-, covered⟩
  · exact noGap streamCount now untouched same complete level member
  · rcases covered complete with whole | ⟨old, earlier, oldSame, oldComplete, grown⟩
    · exact whole level member
    · exact grown level
        (noGap streamCount old earlier oldSame oldComplete level member)

/-- A complete cell without a failed level but with a gap is taken for finished. -/
theorem not_covered_of_gap {file : File levelOf} {streamCount level : Nat}
    {cell : SweepCell levelOf} (present : file.get streamCount = some cell)
    (same : cell.imageDigest = run.imageDigest) (complete : cell.complete = true)
    (clean : cell.hasError statusIn = false) (member : level ∈ run.levels)
    (gap : cell.entries.get level = none) : ¬ Covered statusIn file run.toSweepWork := by
  intro covered
  have done := covered streamCount
    (statusOf_done_iff.mpr ⟨cell, present, same, complete, clean⟩) level member
  rcases levelStatus_done_iff.mp done with ⟨other, otherPresent, -, entry, found, -⟩
  rw [present] at otherPresent
  cases otherPresent
  rw [gap] at found
  cases found

/-! ## Lists that are never widened -/

/-- No run's list has a level that the list of an earlier run under the same digest did
not have. -/
def NeverWidened (runs : List (SweepRun levelOf)) : Prop :=
  runs.Pairwise fun earlier later => earlier.imageDigest = later.imageDigest →
    ∀ level ∈ later.levels, level ∈ earlier.levels

theorem complete_of_history (runs : List (SweepRun levelOf)) (streamCount : Nat)
    (cell : SweepCell levelOf)
    (present : (afterRuns statusIn runs).get streamCount = some cell)
    (complete : cell.complete = true) :
    ∃ run ∈ runs, run.imageDigest = cell.imageDigest ∧
      ∀ level ∈ run.levels, (cell.entries.get level).isSome = true := by
  induction runs using List.reverseRecOn generalizing cell with
  | nil => cases present
  | append_singleton runs run induction =>
      rw [afterRuns_append] at present
      have fromEarlier : ∀ old, (afterRuns statusIn runs).get streamCount = some old →
          old.imageDigest = cell.imageDigest → old.complete = true →
          (∀ level, (old.entries.get level).isSome = true →
            (cell.entries.get level).isSome = true) →
          ∃ source ∈ runs ++ [run], source.imageDigest = cell.imageDigest ∧
            ∀ level ∈ source.levels, (cell.entries.get level).isSome = true := by
        intro old earlier same oldComplete grown
        rcases induction old earlier oldComplete with ⟨source, member, digest, whole⟩
        exact ⟨source, List.mem_append_left _ member, digest.trans same,
          fun level inList => grown level (whole level inList)⟩
      rcases runSuite_kept _ streamCount cell present with untouched | ⟨same, covered⟩
      · exact fromEarlier cell untouched rfl complete fun _ has => has
      · rcases covered complete with whole | ⟨old, earlier, oldSame, oldComplete, grown⟩
        · exact ⟨run, by simp, same.symm, whole⟩
        · exact fromEarlier old earlier (oldSame.trans same.symm) oldComplete grown

theorem noGap_of_neverWidened {runs : List (SweepRun levelOf)}
    (neverWidened : NeverWidened (runs ++ [run])) :
    NoGap (afterRuns statusIn runs) run.toSweepWork := by
  intro streamCount cell present same complete level member
  rcases complete_of_history runs streamCount cell present complete with
    ⟨source, earlier, digest, whole⟩
  apply whole level
  exact (List.pairwise_append.mp neverWidened).2.2 source earlier run (by simp)
    (digest.trans same) level member

theorem covered_of_neverWidened {runs : List (SweepRun levelOf)}
    (neverWidened : NeverWidened (runs ++ [run])) :
    Covered statusIn (afterRuns statusIn (runs ++ [run])) run.toSweepWork := by
  rw [afterRuns_append]
  exact covered_of_noGap
    (noGap_of_kept (noGap_of_neverWidened neverWidened) (runSuite_kept _))

end

/-- Over every history of runs, interrupted anywhere: a run that finds no gap decides
and leaves its cells covered; there is no gap to find while the list is never widened;
and a run that finds a gap in a cell without a failed level takes it for finished. -/
theorem sweeps_covered_without_gap (statusIn : Entry → Status)
    (runs : List (SweepRun levelOf)) (run : SweepRun levelOf) :
    (NoGap (afterRuns statusIn runs) run.toSweepWork →
      Covered statusIn (afterRuns statusIn runs) run.toSweepWork ∧
        Covered statusIn (afterRuns statusIn (runs ++ [run])) run.toSweepWork) ∧
      (NeverWidened (runs ++ [run]) → NoGap (afterRuns statusIn runs) run.toSweepWork) ∧
      ((∃ streamCount cell level,
          (afterRuns statusIn runs).get streamCount = some cell ∧
            cell.imageDigest = run.imageDigest ∧ cell.complete = true ∧
            cell.hasError statusIn = false ∧ level ∈ run.levels ∧
            cell.entries.get level = none) →
        ¬ Covered statusIn (afterRuns statusIn runs) run.toSweepWork) := by
  refine ⟨?_, noGap_of_neverWidened, ?_⟩
  · intro noGap
    rw [afterRuns_append]
    exact ⟨covered_of_noGap noGap, covered_of_noGap (noGap_of_kept noGap (runSuite_kept _))⟩
  · intro found
    rcases found with ⟨streamCount, cell, level, present, same, complete, clean, member, gap⟩
    exact not_covered_of_gap present same complete clean member gap

end SweepCell

/-! ## The two runners -/

section

open SweepCell

theorem runReadsCell_covers {file : File ReadsEntry.connections}
    {work : SweepWork ReadsEntry.connections} (noGap : NoGap file work)
    (budget : Option Nat) (streamCount : Nat) :
    Covered ReadsEntry.status (runReadsCell work ⟨file, budget⟩ streamCount).state work :=
  covered_of_noGap (noGap_of_kept noGap (runCell_kept (Kept.start file work) streamCount))

theorem runMixedCell_covers {file : File MixedEntry.level}
    {work : SweepWork MixedEntry.level} (noGap : NoGap file work)
    (budget : Option Nat) (streamCount : Nat) :
    Covered MixedEntry.status (runMixedCell work ⟨file, budget⟩ streamCount).state work :=
  covered_of_noGap (noGap_of_kept noGap (runCell_kept (Kept.start file work) streamCount))

theorem reads_sweeps_covered {runs : List (SweepRun ReadsEntry.connections)}
    {run : SweepRun ReadsEntry.connections} (neverWidened : NeverWidened (runs ++ [run])) :
    Covered ReadsEntry.status (afterRuns ReadsEntry.status (runs ++ [run]))
      run.toSweepWork :=
  covered_of_neverWidened neverWidened

theorem mixed_sweeps_covered {runs : List (SweepRun MixedEntry.level)}
    {run : SweepRun MixedEntry.level} (neverWidened : NeverWidened (runs ++ [run])) :
    Covered MixedEntry.status (afterRuns MixedEntry.status (runs ++ [run]))
      run.toSweepWork :=
  covered_of_neverWidened neverWidened

/-- On an axis that the mixed runner does not know, a cell with a level left to measure is
left as it is. -/
theorem runMixedCell_of_unknown {imageDigest : Text} {levels : List Nat} {sweep : Text}
    {measured : (streamCount position level : Nat) → MixedEntry}
    {keyed : ∀ streamCount position level,
      (measured streamCount position level).level = level}
    (unknown : ¬ (sweep = "readers".toList ∨ sweep = "writer_rate".toList))
    (progress : Budgeted (File MixedEntry.level)) (streamCount : Nat) {level : Nat}
    (member : level ∈ levels)
    (missing : levelStatus MixedEntry.status progress.state streamCount level
      imageDigest ≠ .done) :
    runMixedCell (mixedWork imageDigest levels sweep measured keyed) progress streamCount =
      progress :=
  runCell_of_unknown (decide_eq_false unknown) progress member missing

end

/-! ## An edited list -/

def goodReads (_ _ connections : Nat) : ReadsEntry :=
  ⟨connections, some 100, some 4096, some 1, some 2, 0, 0, .ok, .complete⟩

def readsSweep (connectionLevels : List Nat) : SweepRun ReadsEntry.connections where
  toSweepWork := readsWork "d1".toList connectionLevels goodReads fun _ _ _ => rfl
  streamCounts := [10]
  budget := none

/-- The list is cut from two levels to one and the suite is run again. -/
theorem narrowed_sweep_covered :
    SweepCell.Covered ReadsEntry.status
        (SweepCell.afterRuns ReadsEntry.status [readsSweep [8, 16]])
        (readsSweep [16]).toSweepWork ∧
      SweepCell.Covered ReadsEntry.status
        (SweepCell.afterRuns ReadsEntry.status ([readsSweep [8, 16]] ++ [readsSweep [16]]))
        (readsSweep [16]).toSweepWork := by
  have law := SweepCell.sweeps_covered_without_gap ReadsEntry.status [readsSweep [8, 16]]
    (readsSweep [16])
  apply law.1
  apply law.2.1
  simp [SweepCell.NeverWidened, readsSweep, readsWork]

/-- A level is added to the list and the suite is run again: the cell counts as done,
and the new level has no entry. -/
theorem widened_sweep_skips_level :
    ReadsCells.statusOf (SweepCell.afterRuns ReadsEntry.status [readsSweep [8, 16]]) 10
        (readsSweep [8, 16, 32]).imageDigest = .done ∧
      32 ∈ (readsSweep [8, 16, 32]).levels ∧
      ReadsCells.connStatus (SweepCell.afterRuns ReadsEntry.status [readsSweep [8, 16]]) 10 32
        (readsSweep [8, 16, 32]).imageDigest = .absent := by
  decide +kernel

end DsBench.Harness
