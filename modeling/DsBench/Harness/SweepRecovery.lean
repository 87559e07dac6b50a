import DsBench.Harness.CellRecovery

/-! # What survives of a sweep

The stores of the reads and the mixed workload keep the levels of a sweep in a dictionary of
their own, within the cell.
-/

namespace DsBench.Harness.CellDocuments

/-! ## The calls -/

structure EntryFormat (Entry : Type) (levelOf : Entry → Nat) where
  fields : Entry → List (Text × Json)
  statusIn : Entry → Status
  status : ∀ entry, (Members.ofList (fields entry)).get "status".toList =
    some (.str (Status.text (statusIn entry)))

/-- The calls that change a store of sweeps. -/
inductive SweepOp (Entry : Type) where
  | record (streamCount : Nat) (imageDigest : Text) (entry : Entry)
  | markComplete (streamCount : Nat) (imageDigest : Text)

def SweepOp.act {Entry : Type} {levelOf : Entry → Nat} :
    SweepOp Entry → SweepCell.File levelOf → SweepCell.File levelOf
  | .record streamCount imageDigest entry, file =>
      SweepCell.record file streamCount imageDigest entry
  | .markComplete streamCount imageDigest, file =>
      SweepCell.markComplete file streamCount imageDigest

namespace EntryFormat

section

variable {Entry : Type} {levelOf : Entry → Nat} (format : EntryFormat Entry levelOf)
  (names : SweepNames)

def store : SavedDocument Json (SweepOp Entry) where
  absent := emptyDocument
  dump := Json.render .python 0
  load := loads
  load_dump := loads_python
  apply op data :=
    match op with
    | .record streamCount imageDigest entry =>
        recordLevel names streamCount (levelOf entry) imageDigest
          (.ofList (format.fields entry)) data
    | .markComplete streamCount imageDigest => markComplete streamCount imageDigest data

structure Sweep (cell : Members) (value : SweepCell levelOf) : Prop where
  dict : cell.IsDict
  streamCount : cell.get "stream_count".toList = some (.ofU64 value.streamCount)
  digest : cell.get "image_digest".toList = some (.str value.imageDigest)
  complete : cell.get "complete".toList = some (.bool value.complete)
  levels : ∃ levels, cell.get names.levels.toList = some (.obj levels) ∧
    Files (fun stored entry => stored = .ofList (format.fields entry)) levels value.entries

variable {format names}

theorem levels_distinct (names : SweepNames) :
    "stream_count".toList ≠ names.levels.toList ∧
      "image_digest".toList ≠ names.levels.toList ∧
        "complete".toList ≠ names.levels.toList := by
  have distinct := names.distinct
  simp only [List.mem_cons, List.not_mem_nil, or_false, not_or] at distinct
  exact ⟨Ne.symm distinct.1, Ne.symm distinct.2.1, Ne.symm distinct.2.2⟩

theorem sweep_fresh (streamCount : Nat) (imageDigest : Text) :
    format.Sweep names (.ofList (freshFields names streamCount imageDigest))
      ⟨streamCount, imageDigest, false, .empty⟩ := by
  have distinct : ((freshFields names streamCount imageDigest).map Prod.fst).Nodup :=
    List.Nodup.concat names.distinct (by decide)
  refine ⟨?_, ?_, ?_, ?_, .nil, ?_, files_empty⟩
  · rw [Members.IsDict, Members.keys_ofList]
    exact distinct
  · exact Members.get_ofList distinct (List.mem_cons_self)
  · exact Members.get_ofList distinct (.tail _ List.mem_cons_self)
  · exact Members.get_ofList distinct (.tail _ (.tail _ List.mem_cons_self))
  · exact Members.get_ofList distinct (.tail _ (.tail _ (.tail _ List.mem_cons_self)))

theorem Sweep.withLevel {cell : Members} {value : SweepCell levelOf}
    (sweep : format.Sweep names cell value) (entry : Entry) :
    ∃ next, withLevel names cell (levelOf entry) (.ofList (format.fields entry)) =
        some next ∧ format.Sweep names next (value.withEntry entry) := by
  rcases sweep.levels with ⟨levels, found, files⟩
  rcases levels_distinct names with ⟨first, second, third⟩
  refine ⟨_, by rw [CellDocuments.withLevel, found], sweep.dict.set _ _, ?_, ?_, ?_, ?_⟩
  · rw [sweep.dict.get_set, if_neg first]
    exact sweep.streamCount
  · rw [sweep.dict.get_set, if_neg second]
    exact sweep.digest
  · rw [sweep.dict.get_set, if_neg third]
    exact sweep.complete
  · refine ⟨_, ?_, files.put rfl⟩
    rw [sweep.dict.get_set, if_pos rfl]

theorem Sweep.completed {cell : Members} {value : SweepCell levelOf}
    (sweep : format.Sweep names cell value) :
    format.Sweep names (cell.set "complete".toList (.bool true)) value.completed := by
  rcases sweep.levels with ⟨levels, found, files⟩
  rcases levels_distinct names with ⟨-, -, third⟩
  refine ⟨sweep.dict.set _ _, ?_, ?_, ?_, levels, ?_, files⟩
  · rw [sweep.dict.get_set, if_neg (by decide)]
    exact sweep.streamCount
  · rw [sweep.dict.get_set, if_neg (by decide)]
    exact sweep.digest
  · rw [sweep.dict.get_set, if_pos rfl]
    rfl
  · rw [sweep.dict.get_set, if_neg (Ne.symm third)]
    exact found

theorem sweep_tagged :
    Tagged (format.Sweep names) (@SweepCell.imageDigest Entry levelOf) :=
  fun _ _ sweep => sweep.digest

variable {data : Json} {file : SweepCell.File levelOf}

theorem sweepCell_held (held : Holds (format.Sweep names) data file) (streamCount : Nat)
    (imageDigest : Text) :
    ∃ cell, sweepCell names data streamCount imageDigest = some cell ∧
      format.Sweep names cell (SweepCell.cell file streamCount imageDigest) := by
  rw [sweepCell, SweepCell.cell]
  rcases held.lookup sweep_tagged streamCount imageDigest with
    ⟨absent, other⟩ | ⟨cell, value, found, filed, same, sweep⟩
  · rw [absent]
    refine ⟨_, rfl, ?_⟩
    cases filed : file.get streamCount with
    | none => exact sweep_fresh streamCount imageDigest
    | some value =>
        simp only
        rw [if_pos (other value filed)]
        exact sweep_fresh streamCount imageDigest
  · rw [found, filed]
    simp only [same, ne_eq, not_true_eq_false, if_false]
    exact ⟨cell, rfl, sweep⟩

theorem record_held (held : Holds (format.Sweep names) data file) (streamCount : Nat)
    (imageDigest : Text) (entry : Entry) :
    ∃ next, (format.store names).apply (.record streamCount imageDigest entry) data =
        .saved next ∧
      Holds (format.Sweep names) next
        (SweepCell.record file streamCount imageDigest entry) := by
  rcases held.opened with ⟨members, cells, found, dict, files⟩
  rcases sweepCell_held held streamCount imageDigest with ⟨cell, made, sweep⟩
  rcases sweep.withLevel entry with ⟨grown, added, grownSweep⟩
  refine ⟨withCell members cells streamCount grown, ?_, ?_⟩
  · change recordLevel names streamCount (levelOf entry) imageDigest _ data = _
    unfold recordLevel
    rw [found, made, Option.bind_some, added]
  · have own : ((SweepCell.cell file streamCount imageDigest).withEntry entry).streamCount =
        streamCount := SweepCell.cell_streamCount file streamCount imageDigest
    have written := holds_withCell dict files grownSweep
    rw [own] at written
    exact written

theorem markComplete_held (held : Holds (format.Sweep names) data file)
    (streamCount : Nat) (imageDigest : Text) :
    ((format.store names).apply (.markComplete streamCount imageDigest) data = .kept ∧
        SweepCell.markComplete file streamCount imageDigest = file) ∨
      ∃ next, (format.store names).apply (.markComplete streamCount imageDigest) data =
          .saved next ∧
        Holds (format.Sweep names) next
          (SweepCell.markComplete file streamCount imageDigest) := by
  rcases held.opened with ⟨members, cells, opened, dict, files⟩
  rcases held.lookup sweep_tagged streamCount imageDigest with
    ⟨absent, other⟩ | ⟨cell, value, found, filed, same, sweep⟩
  · left
    constructor
    · change markComplete streamCount imageDigest data = _
      unfold markComplete
      rw [opened, absent]
    · rw [SweepCell.markComplete]
      cases filed : file.get streamCount with
      | none => rfl
      | some value =>
          simp only
          rw [if_neg (other value filed)]
  · right
    refine ⟨withCell members cells streamCount (cell.set "complete".toList (.bool true)),
      ?_, ?_⟩
    · change markComplete streamCount imageDigest data = _
      unfold markComplete
      rw [opened, found]
    · have own : value.completed.streamCount = streamCount :=
        (KeyedFile.keyOf_of_get filed : value.streamCount = streamCount)
      have written := holds_withCell dict files sweep.completed
      rw [own] at written
      rw [SweepCell.markComplete, filed]
      simp only
      rw [if_pos same]
      exact written

theorem represents (format : EntryFormat Entry levelOf) (names : SweepNames) :
    (format.store names).Represents (Holds (format.Sweep names))
      (.empty : SweepCell.File levelOf) SweepOp.act where
  absent := holds_empty
  raises := by
    intro op data file held raised
    cases op with
    | record streamCount imageDigest entry =>
        rcases record_held held streamCount imageDigest entry with ⟨next, saved, -⟩
        rw [saved] at raised
        cases raised
    | markComplete streamCount imageDigest =>
        rcases markComplete_held held streamCount imageDigest with
          ⟨kept, -⟩ | ⟨next, saved, -⟩
        · rw [kept] at raised
          cases raised
        · rw [saved] at raised
          cases raised
  keeps := by
    intro op data file held kept
    cases op with
    | record streamCount imageDigest entry =>
        rcases record_held held streamCount imageDigest entry with ⟨next, saved, -⟩
        rw [saved] at kept
        cases kept
    | markComplete streamCount imageDigest =>
        rcases markComplete_held held streamCount imageDigest with
          ⟨-, same⟩ | ⟨next, saved, -⟩
        · rw [SweepOp.act, same]
          exact held
        · rw [saved] at kept
          cases kept
  saves := by
    intro op data file next held saved
    cases op with
    | record streamCount imageDigest entry =>
        rcases record_held held streamCount imageDigest entry with ⟨other, made, holds⟩
        rw [made] at saved
        cases saved
        exact holds
    | markComplete streamCount imageDigest =>
        rcases markComplete_held held streamCount imageDigest with
          ⟨kept, -⟩ | ⟨other, made, holds⟩
        · rw [kept] at saved
          cases saved
        · rw [made] at saved
          cases saved
          exact holds

/-! ### What a document of sweeps answers -/

theorem levelStatus_held (held : Holds (format.Sweep names) data file)
    (streamCount level : Nat) (imageDigest : Text) :
    levelStatus names data streamCount level imageDigest =
      some (SweepCell.levelStatus format.statusIn file streamCount level imageDigest) := by
  rw [levelStatus, SweepCell.levelStatus]
  rcases held.lookup sweep_tagged streamCount imageDigest with
    ⟨absent, other⟩ | ⟨cell, value, found, filed, same, sweep⟩
  · rw [absent, KeyedFile.answer]
    cases filed : file.get streamCount with
    | none => rfl
    | some value =>
        simp only
        rw [if_pos (other value filed)]
  · rcases sweep.levels with ⟨levels, there, files⟩
    rw [found, KeyedFile.answer_of_tag filed same]
    simp only [there]
    cases recorded : value.entries.get level with
    | none => simp [files.absent level recorded]
    | some entry =>
        rcases files.present level entry recorded with ⟨stored, listed, written⟩
        have ok := (hasStatus_of_written (format.status entry)).2
        rw [← written] at ok
        simp only [listed, ok, Option.any_some, decide_eq_true_eq]

theorem anyError_dicts {values : List Json}
    (dicts : ∀ json ∈ values, ∃ stored, json = .obj stored) :
    ∃ failed, anyError values = some failed ∧
      (failed = true ↔ ∃ stored, .obj stored ∈ values ∧ hasStatus "error" stored) := by
  induction values with
  | nil => exact ⟨false, rfl, by simp⟩
  | cons json values induction =>
      rcases dicts json List.mem_cons_self with ⟨first, same⟩
      rcases induction fun other member => dicts other (List.mem_cons_of_mem _ member) with
        ⟨failed, found, meaning⟩
      rw [same, anyError]
      by_cases here : hasStatus "error" first
      · rw [if_pos here]
        exact ⟨true, rfl, fun _ => ⟨first, List.mem_cons_self, here⟩, fun _ => rfl⟩
      · rw [if_neg here]
        refine ⟨failed, found, meaning.trans ⟨?_, ?_⟩⟩
        · intro later
          rcases later with ⟨stored, member, failing⟩
          exact ⟨stored, List.mem_cons_of_mem _ member, failing⟩
        · intro somewhere
          rcases somewhere with ⟨stored, member, failing⟩
          rcases List.mem_cons.mp member with own | later
          · cases own
            exact (here failing).elim
          · exact ⟨stored, later, failing⟩

theorem anyError_levels {levels : Members} {value : SweepCell levelOf}
    (files : Files (fun stored entry => stored = .ofList (format.fields entry)) levels
      value.entries) :
    anyError levels.values = some (value.hasError format.statusIn) := by
  have dicts : ∀ json ∈ levels.values, ∃ stored, json = .obj stored := by
    intro json member
    rcases files.value_of_mem member with ⟨stored, entry, same, -⟩
    exact ⟨stored, same⟩
  rcases anyError_dicts dicts with ⟨failed, found, meaning⟩
  rw [found, Option.some_inj, Bool.eq_iff_iff, meaning, SweepCell.hasError, List.any_eq_true]
  constructor
  · intro somewhere
    rcases somewhere with ⟨stored, member, failing⟩
    rcases files.value_of_mem member with ⟨other, entry, same, listed, written⟩
    cases same
    rw [written] at failing
    exact ⟨entry, listed,
      decide_eq_true ((hasStatus_of_written (format.status entry)).1.mp failing)⟩
  · intro somewhere
    rcases somewhere with ⟨entry, listed, failing⟩
    rcases files.mem_of_value listed with ⟨stored, member, written⟩
    refine ⟨stored, member, ?_⟩
    rw [written]
    exact (hasStatus_of_written (format.status entry)).1.mpr (of_decide_eq_true failing)

theorem sweepStatus_held (held : Holds (format.Sweep names) data file) (streamCount : Nat)
    (imageDigest : Text) :
    sweepStatus names data streamCount imageDigest =
      some (SweepCell.statusOf format.statusIn file streamCount imageDigest) := by
  rw [sweepStatus, SweepCell.statusOf]
  rcases held.lookup sweep_tagged streamCount imageDigest with
    ⟨absent, other⟩ | ⟨cell, value, found, filed, same, sweep⟩
  · rw [absent, KeyedFile.answer]
    cases filed : file.get streamCount with
    | none => rfl
    | some value =>
        simp only
        rw [if_pos (other value filed)]
  · rcases sweep.levels with ⟨levels, there, files⟩
    rw [found, KeyedFile.answer_of_tag filed same, SweepCell.verdict]
    simp only [there, sweep.complete, isTrue, Option.any_some, Json.truthy,
      anyError_levels files, Option.map_some]
    cases value.complete <;> rfl

/-- What holds of a store of sweeps whenever it is looked at: the file answers for every cell
and level as the store of the calls that were settled, and between calls, or after one was
killed, any call can be made. -/
structure Survives (format : EntryFormat Entry levelOf) (names : SweepNames)
    (disk : SavedDocument.Disk (SweepOp Entry)) : Prop where
  answers : ∃ data, (format.store names).read disk.file = some data ∧
    (∀ streamCount imageDigest, sweepStatus names data streamCount imageDigest =
      some (SweepCell.statusOf format.statusIn
        (SavedDocument.valueAfter (.empty : SweepCell.File levelOf) SweepOp.act disk.settled)
        streamCount imageDigest)) ∧
    ∀ streamCount level imageDigest, levelStatus names data streamCount level imageDigest =
      some (SweepCell.levelStatus format.statusIn
        (SavedDocument.valueAfter (.empty : SweepCell.File levelOf) SweepOp.act disk.settled)
        streamCount level imageDigest)
  returned : disk.returned.Sublist disk.settled
  settled : disk.settled.Sublist disk.begun
  returns : disk.call = none → ∀ op, ∃ after, (format.store names).system.Run disk after ∧
    after.call = none ∧ after.settled = disk.settled ++ [op] ∧
      after.returned = disk.returned ++ [op]

theorem survives {disk : SavedDocument.Disk (SweepOp Entry)}
    (reachable : (format.store names).system.Reachable disk) : format.Survives names disk := by
  rcases (represents format names).read_file reachable with
    ⟨data, found, held, returned, settled⟩
  refine ⟨⟨data, found, ?_, ?_⟩, returned, settled, ?_⟩
  · intro streamCount imageDigest
    exact sweepStatus_held held streamCount imageDigest
  · intro streamCount level imageDigest
    exact levelStatus_held held streamCount level imageDigest
  · intro idle op
    exact (represents format names).returns reachable idle op

end

end EntryFormat

/-! ### The two stores -/

def readsFormat : EntryFormat ReadsEntry ReadsEntry.connections where
  fields := readsFields
  statusIn := ReadsEntry.status
  status entry := by simp [readsFields, Members.ofList, Members.get]

def mixedFormat : EntryFormat MixedEntry MixedEntry.level where
  fields := mixedFields
  statusIn := MixedEntry.status
  status entry := by
    have distinct : ((mixedFields entry).map Prod.fst).Nodup := by
      cases found : entry.metrics <;> simp [mixedFields, metricsFields, found]
    apply Members.get_ofList distinct
    simp [mixedFields]

/-- Whatever calls are made of the reads and the mixed store, and whichever of them are
killed and when, the file is never torn, has lost no call that returned, and answers as the
stores do. -/
theorem sweep_stores_survive :
    (∀ disk, (readsFormat.store readsNames).system.Reachable disk →
        readsFormat.Survives readsNames disk) ∧
      ∀ disk, (mixedFormat.store mixedNames).system.Reachable disk →
        mixedFormat.Survives mixedNames disk :=
  ⟨fun _ reachable => EntryFormat.survives reachable,
    fun _ reachable => EntryFormat.survives reachable⟩

/-! ### A killed call -/

def levelOfOk (connections : Nat) : ReadsEntry where
  connections := connections
  opsPerSec := some 5
  bytesPerSec := some 1280
  p50 := some 1
  p99 := some 1
  backpressure := 0
  otherErr := 0
  status := .ok
  reason := .complete

def recordOk (connections : Nat) : SweepOp ReadsEntry :=
  .record 50 "d1".toList (levelOfOk connections)

theorem killed_reachable : (readsFormat.store readsNames).system.Reachable
    ⟨some ((readsFormat.store readsNames).dump
        ((readsFormat.store readsNames).replay [recordOk 8])), some [], none,
      [recordOk 8, recordOk 16], [recordOk 8], [recordOk 8]⟩ := by
  rcases EntryFormat.record_held holds_empty 50 "d1".toList (levelOfOk 8) with
    ⟨recorded, saved, held⟩
  rcases EntryFormat.record_held held 50 "d1".toList (levelOfOk 16) with ⟨next, saves, -⟩
  have made : (readsFormat.store readsNames).apply (recordOk 8) emptyDocument =
      .saved recorded := saved
  have replayed : (readsFormat.store readsNames).replay ([] ++ [recordOk 8]) = recorded :=
    SavedDocument.replay_saved _ made
  rw [List.nil_append] at replayed
  have absent : (readsFormat.store readsNames).read none = some emptyDocument := rfl
  have first : (readsFormat.store readsNames).system.Run ⟨none, none, none, [], [], []⟩ _ :=
    SavedDocument.saving_run absent made
  have found : (readsFormat.store readsNames).read
      (some ((readsFormat.store readsNames).dump recorded)) = some recorded :=
    loads_python recorded
  have opened := first.tail (SavedDocument.Step.openTemp (recordOk 16) found saves)
  rw [replayed]
  exact ⟨_, .mk none, opened.tail (SavedDocument.Step.kill _)⟩

/-- The level that was recorded is found, and the other one is still to be measured. -/
theorem survives_killed_call :
    readsFormat.Survives readsNames
        ⟨some ((readsFormat.store readsNames).dump
            ((readsFormat.store readsNames).replay [recordOk 8])), some [], none,
          [recordOk 8, recordOk 16], [recordOk 8], [recordOk 8]⟩ ∧
      ReadsCells.connStatus (SavedDocument.valueAfter .empty SweepOp.act [recordOk 8]) 50 8
        "d1".toList = .done ∧
      ReadsCells.connStatus (SavedDocument.valueAfter .empty SweepOp.act [recordOk 8]) 50 16
        "d1".toList = .absent :=
  ⟨sweep_stores_survive.1 _ killed_reachable, by decide +kernel, by decide +kernel⟩

end DsBench.Harness.CellDocuments
