import DsBench.Harness.SweepResume

/-! # When a suite counts as complete

The report decides from the cell files alone whether a suite is complete, and a complete
suite's cluster is torn down. The runner decides from the same files, but asks for the
digest it is about to measure under.
-/

namespace DsBench.Harness

/-! ## The five stores under one roof -/

/-- A workload's store as the runner and the report use it. `step` is what a run does at
one stream count, `records` says that measuring there leaves a record. A step never
brings in another digest than the run's, and where it gets to and leaves a record
nothing of another digest is left. -/
structure StoreKind where
  Cell : Type
  keyOf : Cell → Nat
  imageDigest : Cell → Text
  complete : Cell → Bool
  failed : Cell → Bool
  verdict : Cell → CellStatus
  Work : Type
  digestOf : Work → Text
  records : Work → Nat → Prop
  step : Work → Budgeted (KeyedFile keyOf) → Nat → Budgeted (KeyedFile keyOf)
  verdict_clean : ∀ cell, complete cell = true → failed cell = false →
    verdict cell ≠ .absent ∧ verdict cell ≠ .error
  step_keeps : ∀ work progress streamCount key,
    progress.state.TaggedAt imageDigest (digestOf work) key →
      (step work progress streamCount).state.TaggedAt imageDigest (digestOf work) key
  step_renews : ∀ work progress streamCount, progress.Alive → records work streamCount →
    (step work progress streamCount).state.TaggedAt imageDigest (digestOf work) streamCount

/-- The store's `status_of`. -/
def StoreKind.statusOf (kind : StoreKind) (file : KeyedFile kind.keyOf) (streamCount : Nat)
    (imageDigest : Text) : CellStatus :=
  file.answer kind.imageDigest kind.verdict .absent streamCount imageDigest

section

variable {Cell : Type}

/-- What a run brings to a store of one measurement per cell: its digest, and the cell
that measuring makes of each stream count, if its recorder gets that far. -/
structure SingleWork (keyOf : Cell → Nat) (imageDigest : Cell → Text) where
  digest : Text
  measured : Nat → Option Cell
  own : ∀ streamCount cell, measured streamCount = some cell →
    keyOf cell = streamCount ∧ imageDigest cell = digest

variable {keyOf : Cell → Nat} {imageDigest : Cell → Text} (verdict : Cell → CellStatus)
  (skip : CellStatus)

/-- One stream count of a run: a cell that is finished is skipped, any other is measured
and recorded. -/
def singleStep (work : SingleWork keyOf imageDigest)
    (progress : Budgeted (KeyedFile keyOf)) (streamCount : Nat) :
    Budgeted (KeyedFile keyOf) :=
  if progress.state.answer imageDigest verdict .absent streamCount work.digest = skip then
    progress
  else
    match work.measured streamCount with
    | none => progress
    | some cell => progress.write fun file => file.put cell

theorem singleStep_keeps (work : SingleWork keyOf imageDigest)
    (progress : Budgeted (KeyedFile keyOf)) (streamCount key : Nat)
    (tagged : progress.state.TaggedAt imageDigest work.digest key) :
    (singleStep verdict skip work progress streamCount).state.TaggedAt imageDigest
      work.digest key := by
  rw [singleStep]
  split
  · exact tagged
  · split
    · exact tagged
    · rename_i cell measured
      apply Budgeted.write_preserves tagged
      intro before
      exact before.put (work.own streamCount cell measured).2

theorem singleStep_renews (finished : skip ≠ .absent) (work : SingleWork keyOf imageDigest)
    (progress : Budgeted (KeyedFile keyOf)) (streamCount : Nat) (alive : progress.Alive)
    (records : (work.measured streamCount).isSome = true) :
    (singleStep verdict skip work progress streamCount).state.TaggedAt imageDigest
      work.digest streamCount := by
  rw [singleStep]
  split
  · rename_i skipped
    have answers : progress.state.answer imageDigest verdict .absent streamCount
        work.digest ≠ .absent := by
      rw [skipped]
      exact finished
    exact KeyedFile.taggedAt_of_answer answers
  · split
    · rename_i missing
      simp [missing] at records
    · rename_i cell measured
      rcases work.own streamCount cell measured with ⟨key, same⟩
      rw [Budgeted.state_write_of_alive alive, ← key]
      exact KeyedFile.taggedAt_put_self same

end

/-- A store of one measurement per cell. -/
def StoreKind.single {Cell : Type} (keyOf : Cell → Nat) (imageDigest : Cell → Text)
    (status : Cell → Status) (verdict : Cell → CellStatus) (skip : CellStatus)
    (finished : skip ≠ .absent)
    (clean : ∀ cell, status cell ≠ .error →
      verdict cell ≠ .absent ∧ verdict cell ≠ .error) : StoreKind where
  Cell := Cell
  keyOf := keyOf
  imageDigest := imageDigest
  complete _ := true
  failed cell := decide (status cell = .error)
  verdict := verdict
  Work := SingleWork keyOf imageDigest
  digestOf := SingleWork.digest
  records work streamCount := (work.measured streamCount).isSome = true
  step := singleStep verdict skip
  verdict_clean cell _ fine := clean cell (of_decide_eq_false fine)
  step_keeps := singleStep_keeps verdict skip
  step_renews := singleStep_renews verdict skip finished

namespace SweepCell

variable {Entry : Type} {levelOf : Entry → Nat} {statusIn : Entry → Status}
  {work : SweepWork levelOf}

theorem record_tagged {file : File levelOf} {imageDigest : Text} {key : Nat}
    (tagged : file.TaggedAt SweepCell.imageDigest imageDigest key) (streamCount : Nat)
    (entry : Entry) :
    (record file streamCount imageDigest entry).TaggedAt SweepCell.imageDigest imageDigest
      key :=
  tagged.put (cell_imageDigest file streamCount imageDigest)

theorem record_tagged_self (file : File levelOf) (imageDigest : Text) (streamCount : Nat)
    (entry : Entry) :
    (record file streamCount imageDigest entry).TaggedAt SweepCell.imageDigest imageDigest
      streamCount := by
  intro cell present
  rw [get_record, if_pos rfl] at present
  cases present
  exact cell_imageDigest file streamCount imageDigest

theorem markComplete_tagged {file : File levelOf} {imageDigest : Text} {key : Nat}
    (tagged : file.TaggedAt SweepCell.imageDigest imageDigest key) (streamCount : Nat) :
    (markComplete file streamCount imageDigest).TaggedAt SweepCell.imageDigest imageDigest
      key := by
  rw [markComplete]
  split
  · exact tagged
  · split
    · rename_i same
      exact tagged.put same
    · exact tagged

theorem sweepLevels_tagged {key : Nat} (streamCount : Nat) (levels : List Nat)
    {progress : Budgeted (File levelOf)} (position : Nat)
    (tagged : progress.state.TaggedAt SweepCell.imageDigest work.imageDigest key) :
    (sweepLevels statusIn work streamCount progress position levels).1.state.TaggedAt
      SweepCell.imageDigest work.imageDigest key := by
  have kept : ∀ (file : File levelOf) (entry : Entry),
      file.TaggedAt SweepCell.imageDigest work.imageDigest key →
        (record file streamCount work.imageDigest entry).TaggedAt SweepCell.imageDigest
          work.imageDigest key := by
    intro file entry before
    exact record_tagged before streamCount entry
  exact @sweepLevels_preserves _ _ statusIn work
    (fun file => file.TaggedAt SweepCell.imageDigest work.imageDigest key) streamCount kept
    levels _ position tagged

theorem sweepLevels_renews (streamCount : Nat) {levels : List Nat} (some_level : levels ≠ [])
    {progress : Budgeted (File levelOf)} (position : Nat) (alive : progress.Alive)
    (known : work.axisKnown = true) :
    (sweepLevels statusIn work streamCount progress position levels).1.state.TaggedAt
      SweepCell.imageDigest work.imageDigest streamCount := by
  cases levels with
  | nil => exact (some_level rfl).elim
  | cons level levels =>
      rw [sweepLevels, if_pos known]
      split
      · rename_i done
        apply sweepLevels_tagged
        have answers : progress.state.answer SweepCell.imageDigest
            (fun cell =>
              if (cell.entries.get level).any fun entry => decide (statusIn entry = .ok)
              then CellStatus.done else .absent)
            .absent streamCount work.imageDigest ≠ .absent := by
          rw [← levelStatus, done]
          decide
        exact KeyedFile.taggedAt_of_answer answers
      · apply sweepLevels_tagged
        rw [Budgeted.state_write_of_alive alive]
        exact record_tagged_self _ _ _ _

theorem runCell_tagged {progress : Budgeted (File levelOf)} {streamCount key : Nat}
    (tagged : (sweepLevels statusIn work streamCount progress 0 work.levels).1.state.TaggedAt
      SweepCell.imageDigest work.imageDigest key) :
    (runCell statusIn work progress streamCount).state.TaggedAt SweepCell.imageDigest
      work.imageDigest key := by
  rw [runCell]
  split
  · apply Budgeted.write_preserves tagged
    intro before
    exact markComplete_tagged before streamCount
  · exact tagged

theorem runStreamCount_keeps (work : SweepWork levelOf) (progress : Budgeted (File levelOf))
    (streamCount key : Nat)
    (tagged : progress.state.TaggedAt SweepCell.imageDigest work.imageDigest key) :
    (runStreamCount statusIn work progress streamCount).state.TaggedAt SweepCell.imageDigest
      work.imageDigest key := by
  rw [runStreamCount]
  split
  · exact tagged
  · exact runCell_tagged (sweepLevels_tagged streamCount work.levels 0 tagged)

theorem runStreamCount_renews (work : SweepWork levelOf) (progress : Budgeted (File levelOf))
    (streamCount : Nat) (alive : progress.Alive)
    (records : work.levels ≠ [] ∧ work.axisKnown = true) :
    (runStreamCount statusIn work progress streamCount).state.TaggedAt SweepCell.imageDigest
      work.imageDigest streamCount := by
  rw [runStreamCount]
  split
  · rename_i done
    have answers : progress.state.answer SweepCell.imageDigest (verdict statusIn) .absent
        streamCount work.imageDigest ≠ .absent := by
      rw [← statusOf, done]
      decide
    exact KeyedFile.taggedAt_of_answer answers
  · exact runCell_tagged (sweepLevels_renews streamCount records.1 0 alive records.2)

end SweepCell

/-- A store of one sweep per cell. -/
def StoreKind.sweep {Entry : Type} (levelOf : Entry → Nat) (statusIn : Entry → Status) :
    StoreKind where
  Cell := SweepCell levelOf
  keyOf := SweepCell.streamCount
  imageDigest := SweepCell.imageDigest
  complete := SweepCell.complete
  failed := SweepCell.hasError statusIn
  verdict := SweepCell.verdict statusIn
  Work := SweepWork levelOf
  digestOf := SweepWork.imageDigest
  records work _ := work.levels ≠ [] ∧ work.axisKnown = true
  step := SweepCell.runStreamCount statusIn
  verdict_clean cell complete fine := by
    simp [SweepCell.verdict, complete, fine]
  step_keeps := SweepCell.runStreamCount_keeps
  step_renews := SweepCell.runStreamCount_renews

inductive SuiteWorkload where
  | writeThroughput
  | sustained
  | catchup
  | reads
  | mixed
deriving DecidableEq, Repr

/-- The store of a workload, with the status its runner skips on. -/
def SuiteWorkload.kind : SuiteWorkload → StoreKind
  | .writeThroughput =>
      .single CellRecord.streamCount CellRecord.imageDigest CellRecord.status Cells.verdict
        .saturated (by decide) (by
          intro cell fine
          refine ⟨Cells.verdict_ne_absent cell, ?_⟩
          rw [Cells.verdict, if_neg fine]
          split
          · decide
          · decide)
  | .sustained =>
      .single SustainedRecord.streamCount SustainedRecord.imageDigest SustainedRecord.status
        (fun cell => singleVerdict cell.status) .done (by decide) (by
          intro cell fine
          cases status : cell.status with
          | ok => decide
          | error => exact (fine status).elim)
  | .catchup =>
      .single CatchupRecord.preEvents CatchupRecord.imageDigest CatchupRecord.status
        (fun cell => singleVerdict cell.status) .done (by decide) (by
          intro cell fine
          cases status : cell.status with
          | ok => decide
          | error => exact (fine status).elim)
  | .reads => .sweep ReadsEntry.connections ReadsEntry.status
  | .mixed => .sweep MixedEntry.level MixedEntry.status

/-- Each kind asks what its own store's `status_of` asks. -/
theorem kind_statusOf :
    SuiteWorkload.writeThroughput.kind.statusOf = Cells.statusOf ∧
      SuiteWorkload.sustained.kind.statusOf = SustainedCells.statusOf ∧
      SuiteWorkload.catchup.kind.statusOf = CatchupCells.statusOf ∧
      SuiteWorkload.reads.kind.statusOf = ReadsCells.statusOf ∧
      SuiteWorkload.mixed.kind.statusOf = MixedCells.statusOf :=
  ⟨rfl, rfl, rfl, rfl, rfl⟩

/-! ## The report -/

inductive SuiteStatus where
  | complete
  | errors
  | incomplete
deriving DecidableEq, Repr

section

variable (kind : StoreKind)

abbrev Files := Text → KeyedFile kind.keyOf

variable {kind}

/-- The scan over the cells a suite should have. It looks each cell up by its own key and
never at its digest. -/
def scanCells (files : Files kind) : (sawError : Bool) → List (Text × Nat) → SuiteStatus
  | sawError, [] => if sawError then .errors else .complete
  | sawError, (label, streamCount) :: rest =>
      match KeyedFile.lastWith kind.keyOf streamCount (files label).values with
      | none => .incomplete
      | some cell =>
          if !kind.complete cell then .incomplete
          else scanCells files (sawError || kind.failed cell) rest

def suiteStatus (labels : List Text) (streamCounts : List Nat) (files : Files kind) :
    SuiteStatus :=
  scanCells files false
    (labels.flatMap fun label => streamCounts.map fun streamCount => (label, streamCount))

/-! ## Runs -/

/-- What a run does for one label: whether the variant's server could be deployed, and
after how many writes the run is interrupted, if it is. -/
structure VariantRun (kind : StoreKind) where
  label : Text
  deployed : Bool
  work : kind.Work
  budget : Option Nat

namespace VariantRun

def digest (variant : VariantRun kind) : Text := kind.digestOf variant.work

def after (variant : VariantRun kind) (streamCounts : List Nat)
    (file : KeyedFile kind.keyOf) : Budgeted (KeyedFile kind.keyOf) :=
  streamCounts.foldl (kind.step variant.work) ⟨file, variant.budget⟩

end VariantRun

/-- One server variant of `run_mode`: it is skipped when its deploy fails. -/
def runVariant (streamCounts : List Nat) (files : Files kind) (variant : VariantRun kind) :
    Files kind :=
  if variant.deployed then
    Function.update files variant.label
      (variant.after streamCounts (files variant.label)).state
  else files

/-- `bench run` over all labels of a suite. -/
def benchRun (streamCounts : List Nat) (files : Files kind)
    (run : List (VariantRun kind)) : Files kind :=
  run.foldl (runVariant streamCounts) files

def afterBenchRuns (streamCounts : List Nat) (runs : List (List (VariantRun kind))) :
    Files kind :=
  runs.foldl (benchRun streamCounts) fun _ => .empty

/-! ## The property and the condition -/

def labels (run : List (VariantRun kind)) : List Text := run.map VariantRun.label

/-- Where the suite counts as complete, the store has a good answer for each of its
cells, asked with the digest the run was to measure. -/
def TeardownSound (streamCounts : List Nat) (run : List (VariantRun kind))
    (files : Files kind) : Prop :=
  suiteStatus (labels run) streamCounts files = .complete →
    ∀ variant ∈ run, ∀ streamCount ∈ streamCounts,
      kind.statusOf (files variant.label) streamCount variant.digest ≠ .absent ∧
        kind.statusOf (files variant.label) streamCount variant.digest ≠ .error

/-- The run replaces every cell it finds of another digest: the variant is deployed, the
run is not interrupted before its turn, and measuring it leaves a record. -/
def Renews (streamCounts : List Nat) (files : Files kind) (run : List (VariantRun kind)) :
    Prop :=
  (labels run).Nodup ∧
    ∀ variant ∈ run, ∀ streamCount ∈ streamCounts,
      ¬ (files variant.label).TaggedAt kind.imageDigest variant.digest streamCount →
        variant.deployed = true ∧
          (variant.after (streamCounts.takeWhile (· ≠ streamCount))
            (files variant.label)).Alive ∧
          kind.records variant.work streamCount

/-! ## The scan -/

theorem scanCells_complete_iff (files : Files kind) (sawError : Bool)
    (cells : List (Text × Nat)) :
    scanCells files sawError cells = .complete ↔
      sawError = false ∧ ∀ label streamCount, (label, streamCount) ∈ cells →
        ∃ cell, (files label).get streamCount = some cell ∧ kind.complete cell = true ∧
          kind.failed cell = false := by
  induction cells generalizing sawError with
  | nil =>
      rw [scanCells]
      cases sawError with
      | false => simp
      | true => simp
  | cons here rest induction =>
      rcases here with ⟨label, streamCount⟩
      rw [scanCells, KeyedFile.lastWith_values]
      constructor
      · intro complete
        split at complete
        · cases complete
        · rename_i cell present
          split at complete
          · cases complete
          · rename_i whole
            rcases (induction _).mp complete with ⟨clean, others⟩
            rcases Bool.or_eq_false_iff.mp clean with ⟨noError, fine⟩
            refine ⟨noError, ?_⟩
            intro other otherCount member
            rcases List.mem_cons.mp member with own | further
            · cases own
              exact ⟨cell, present, by simpa using whole, fine⟩
            · exact others other otherCount further
      · intro found
        rcases found with ⟨noError, cells⟩
        rcases cells label streamCount List.mem_cons_self with ⟨cell, present, whole, fine⟩
        rw [present]
        simp only [whole, fine, Bool.not_true, Bool.or_false]
        apply (induction _).mpr
        exact ⟨noError, fun other otherCount further =>
          cells other otherCount (List.mem_cons_of_mem _ further)⟩

theorem suiteStatus_complete_iff (names : List Text) (streamCounts : List Nat)
    (files : Files kind) :
    suiteStatus names streamCounts files = .complete ↔
      ∀ label ∈ names, ∀ streamCount ∈ streamCounts,
        ∃ cell, (files label).get streamCount = some cell ∧ kind.complete cell = true ∧
          kind.failed cell = false := by
  rw [suiteStatus, scanCells_complete_iff]
  constructor
  · intro found label named streamCount counted
    apply found.2 label streamCount
    exact List.mem_flatMap.mpr ⟨label, named, List.mem_map_of_mem counted⟩
  · intro found
    refine ⟨rfl, ?_⟩
    intro label streamCount member
    rcases List.mem_flatMap.mp member with ⟨source, named, inner⟩
    rcases List.mem_map.mp inner with ⟨count, counted, same⟩
    cases same
    exact found label named streamCount counted

theorem statusOf_good_iff {file : KeyedFile kind.keyOf} {streamCount : Nat}
    {imageDigest : Text} {cell : kind.Cell} (present : file.get streamCount = some cell)
    (complete : kind.complete cell = true) (fine : kind.failed cell = false) :
    (kind.statusOf file streamCount imageDigest ≠ .absent ∧
        kind.statusOf file streamCount imageDigest ≠ .error) ↔
      file.TaggedAt kind.imageDigest imageDigest streamCount := by
  constructor
  · intro good
    exact KeyedFile.taggedAt_of_answer good.1
  · intro tagged
    have verdict : kind.statusOf file streamCount imageDigest = kind.verdict cell :=
      KeyedFile.answer_of_tag present (tagged cell present)
    rw [verdict]
    exact kind.verdict_clean cell complete fine

/-! ## What a run leaves -/

theorem after_keeps (variant : VariantRun kind) (streamCounts : List Nat) {key : Nat}
    {progress : Budgeted (KeyedFile kind.keyOf)}
    (tagged : progress.state.TaggedAt kind.imageDigest variant.digest key) :
    (streamCounts.foldl (kind.step variant.work) progress).state.TaggedAt kind.imageDigest
      variant.digest key := by
  induction streamCounts generalizing progress with
  | nil => exact tagged
  | cons streamCount streamCounts induction =>
      exact induction (kind.step_keeps variant.work progress streamCount key tagged)

theorem after_renews (variant : VariantRun kind) (streamCounts : List Nat)
    {streamCount : Nat} (counted : streamCount ∈ streamCounts)
    {progress : Budgeted (KeyedFile kind.keyOf)}
    (alive : ((streamCounts.takeWhile (· ≠ streamCount)).foldl (kind.step variant.work)
      progress).Alive)
    (records : kind.records variant.work streamCount) :
    (streamCounts.foldl (kind.step variant.work) progress).state.TaggedAt kind.imageDigest
      variant.digest streamCount := by
  induction streamCounts generalizing progress with
  | nil => cases counted
  | cons head streamCounts induction =>
      rw [List.foldl_cons]
      by_cases here : head = streamCount
      · subst here
        apply after_keeps
        apply kind.step_renews variant.work progress head ?_ records
        simpa using alive
      · apply induction
        · exact (List.mem_cons.mp counted).resolve_left fun same => here same.symm
        · simpa [here] using alive

theorem benchRun_elsewhere (streamCounts : List Nat) (files : Files kind)
    {run : List (VariantRun kind)} {label : Text} (other : label ∉ labels run) :
    benchRun streamCounts files run label = files label := by
  induction run generalizing files with
  | nil => rfl
  | cons variant run induction =>
      rw [labels, List.map_cons, List.mem_cons, not_or] at other
      rw [benchRun, List.foldl_cons]
      refine (induction _ other.2).trans ?_
      rw [runVariant]
      split
      · exact Function.update_of_ne other.1 _ _
      · rfl

theorem benchRun_label (streamCounts : List Nat) (files : Files kind)
    {run : List (VariantRun kind)} (distinct : (labels run).Nodup)
    {variant : VariantRun kind} (member : variant ∈ run) :
    benchRun streamCounts files run variant.label =
      if variant.deployed then (variant.after streamCounts (files variant.label)).state
      else files variant.label := by
  induction run generalizing files with
  | nil => cases member
  | cons head run induction =>
      rw [labels, List.map_cons, List.nodup_cons] at distinct
      rw [benchRun, List.foldl_cons]
      rcases List.mem_cons.mp member with here | further
      · subst here
        refine (benchRun_elsewhere streamCounts _ distinct.1).trans ?_
        rw [runVariant]
        split
        · exact Function.update_self _ _ _
        · rfl
      · have different : variant.label ≠ head.label := by
          intro same
          apply distinct.1
          rw [← same]
          exact List.mem_map_of_mem further
        have untouched : runVariant streamCounts files head variant.label =
            files variant.label := by
          rw [runVariant]
          split
          · exact Function.update_of_ne different _ _
          · rfl
        refine (induction _ distinct.2 further).trans ?_
        rw [untouched]

theorem tagged_of_renews (streamCounts : List Nat) {files : Files kind}
    {run : List (VariantRun kind)} (renews : Renews streamCounts files run)
    {variant : VariantRun kind} (member : variant ∈ run) {streamCount : Nat}
    (counted : streamCount ∈ streamCounts) :
    (benchRun streamCounts files run variant.label).TaggedAt kind.imageDigest variant.digest
      streamCount := by
  rw [benchRun_label streamCounts files renews.1 member]
  by_cases tagged :
      (files variant.label).TaggedAt kind.imageDigest variant.digest streamCount
  · split
    · exact after_keeps variant streamCounts tagged
    · exact tagged
  · rcases renews.2 variant member streamCount counted tagged with
      ⟨deployed, alive, records⟩
    rw [if_pos deployed]
    exact after_renews variant streamCounts counted alive records

/-- The teardown decision is sound exactly when a suite that counts as complete has
nothing of another digest. -/
theorem teardownSound_iff (streamCounts : List Nat) (run : List (VariantRun kind))
    (files : Files kind) :
    TeardownSound streamCounts run files ↔
      (suiteStatus (labels run) streamCounts files = .complete →
        ∀ variant ∈ run, ∀ streamCount ∈ streamCounts,
          (files variant.label).TaggedAt kind.imageDigest variant.digest streamCount) := by
  rw [TeardownSound]
  apply imp_congr_right
  intro complete
  rw [suiteStatus_complete_iff] at complete
  apply forall₂_congr
  intro variant member
  apply forall₂_congr
  intro streamCount counted
  rcases complete variant.label (List.mem_map_of_mem member) streamCount counted with
    ⟨cell, present, whole, fine⟩
  exact statusOf_good_iff present whole fine

theorem afterBenchRuns_append (streamCounts : List Nat)
    (runs : List (List (VariantRun kind))) (run : List (VariantRun kind)) :
    afterBenchRuns streamCounts (runs ++ [run]) =
      benchRun streamCounts (afterBenchRuns streamCounts runs) run := by
  simp [afterBenchRuns]

end

/-- For every suite and over every history of runs: a last run that replaces all it finds
of another digest leaves a sound teardown decision; and wherever the suite counts as
complete, a cell of another digest makes the decision unsound. -/
theorem teardown_sound_of_renewal (workload : SuiteWorkload) (streamCounts : List Nat)
    (runs : List (List (VariantRun workload.kind)))
    (run : List (VariantRun workload.kind)) :
    (Renews streamCounts (afterBenchRuns streamCounts runs) run →
        TeardownSound streamCounts run (afterBenchRuns streamCounts (runs ++ [run]))) ∧
      ((∃ variant ∈ run, ∃ streamCount ∈ streamCounts,
          ¬ (afterBenchRuns streamCounts (runs ++ [run]) variant.label).TaggedAt
            workload.kind.imageDigest variant.digest streamCount) →
        suiteStatus (labels run) streamCounts
            (afterBenchRuns streamCounts (runs ++ [run])) = .complete →
          ¬ TeardownSound streamCounts run (afterBenchRuns streamCounts (runs ++ [run]))) := by
  constructor
  · intro renews
    rw [teardownSound_iff, afterBenchRuns_append]
    intro _ variant member streamCount counted
    exact tagged_of_renews streamCounts renews member counted
  · intro stale complete sound
    rcases stale with ⟨variant, member, streamCount, counted, other⟩
    rw [teardownSound_iff] at sound
    exact other (sound complete variant member streamCount counted)

/-! ## A new image that does not deploy -/

def finishedCell (imageDigest : Text) : CellRecord :=
  ⟨10, imageDigest, [], some 1, 100, none, none, none, true, .ok, .plateau⟩

/-- The write suite's `wal` label under a digest. -/
def walRun (imageDigest : Text) (deployed : Bool) (budget : Option Nat) :
    VariantRun SuiteWorkload.writeThroughput.kind where
  label := "wal".toList
  deployed := deployed
  work :=
    { digest := imageDigest
      measured := fun streamCount =>
        if streamCount = 10 then some (finishedCell imageDigest) else none
      own := by
        intro streamCount cell measured
        split at measured
        · rename_i ten
          cases measured
          exact ⟨ten.symm, rfl⟩
        · cases measured }
  budget := budget

/-- The run under the new image is not interrupted: the cell is measured again. -/
theorem deployed_image_renews :
    suiteStatus (labels [walRun "d2".toList true none]) [10]
        (afterBenchRuns [10]
          ([[walRun "d1".toList true none]] ++ [[walRun "d2".toList true none]])) =
      .complete ∧
      TeardownSound [10] [walRun "d2".toList true none]
        (afterBenchRuns [10]
          ([[walRun "d1".toList true none]] ++ [[walRun "d2".toList true none]])) := by
  refine ⟨by decide +kernel, ?_⟩
  apply (teardown_sound_of_renewal .writeThroughput [10] [[walRun "d1".toList true none]]
    [walRun "d2".toList true none]).1
  refine ⟨List.nodup_singleton _, ?_⟩
  intro variant member streamCount counted _
  rcases List.mem_singleton.mp member with rfl
  rcases List.mem_singleton.mp counted with rfl
  refine ⟨rfl, ?_, rfl⟩
  intro spent
  cases spent

/-- The new image does not deploy: the suite counts as complete on the cell of the old
one, and the store has nothing under the new digest. -/
theorem failed_deploy_counts_complete :
    suiteStatus (labels [walRun "d2".toList false none]) [10]
        (afterBenchRuns [10] [[walRun "d1".toList true none],
          [walRun "d2".toList false none]]) = .complete ∧
      Cells.statusOf
        (afterBenchRuns [10] [[walRun "d1".toList true none],
          [walRun "d2".toList false none]] "wal".toList) 10 "d2".toList = .absent := by
  decide +kernel

end DsBench.Harness
