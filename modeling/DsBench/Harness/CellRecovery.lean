import DsBench.Harness.CellDocuments

/-! # What survives of the cell stores

A store is saved whole by each call that changes it, and any call may be killed. Whenever
the file is read, it answers as the store of the calls that were settled.
-/

namespace DsBench.Harness.CellDocuments

/-! ## Dictionaries and keyed files -/

structure Files {Value : Type} {keyOf : Value → Nat} (holds : Members → Value → Prop)
    (members : Members) (file : KeyedFile keyOf) : Prop where
  dict : members.IsDict
  keys : ∀ key ∈ members.keys, ∃ number, key = decimal number
  absent : ∀ number, file.get number = none → members.get (decimal number) = none
  present : ∀ number value, file.get number = some value →
    ∃ stored, members.get (decimal number) = some (.obj stored) ∧ holds stored value

section

variable {Value : Type} {keyOf : Value → Nat} {holds : Members → Value → Prop}
  {members : Members} {file : KeyedFile keyOf}

theorem files_empty : Files holds .nil (.empty : KeyedFile keyOf) where
  dict := List.nodup_nil
  keys := nofun
  absent _ _ := rfl
  present _ _ found := by cases found

theorem Files.put (files : Files holds members file) {stored : Members} {value : Value}
    (held : holds stored value) :
    Files holds (members.set (decimal (keyOf value)) (.obj stored)) (file.put value) where
  dict := files.dict.set _ _
  keys := by
    intro key member
    rcases Members.mem_keys_set.mp member with own | other
    · exact ⟨_, own⟩
    · exact files.keys key other
  absent := by
    intro number missing
    rw [KeyedFile.get_put] at missing
    by_cases own : number = keyOf value
    · rw [if_pos own] at missing
      cases missing
    · rw [if_neg own] at missing
      have other : decimal number ≠ decimal (keyOf value) :=
        fun same => own (decimal_injective same)
      rw [files.dict.get_set, if_neg other]
      exact files.absent number missing
  present := by
    intro number found filed
    rw [KeyedFile.get_put] at filed
    by_cases own : number = keyOf value
    · rw [if_pos own] at filed
      cases filed
      refine ⟨stored, ?_, held⟩
      rw [own, files.dict.get_set, if_pos rfl]
    · rw [if_neg own] at filed
      have other : decimal number ≠ decimal (keyOf value) :=
        fun same => own (decimal_injective same)
      rw [files.dict.get_set, if_neg other]
      exact files.present number found filed

theorem Files.value_of_mem (files : Files holds members file) {json : Json}
    (member : json ∈ members.values) :
    ∃ stored value, json = .obj stored ∧ value ∈ file.values ∧ holds stored value := by
  rcases (files.dict.mem_values_iff json).mp member with ⟨key, found⟩
  have listed : key ∈ members.keys := by
    by_contra missing
    rw [Members.get_of_notMem missing] at found
    cases found
  rcases files.keys key listed with ⟨number, same⟩
  rw [same] at found
  cases filed : file.get number with
  | none =>
      rw [files.absent number filed] at found
      cases found
  | some value =>
      rcases files.present number value filed with ⟨stored, there, held⟩
      rw [there] at found
      cases found
      refine ⟨stored, value, rfl, ?_, held⟩
      rw [KeyedFile.mem_values_iff, KeyedFile.keyOf_of_get filed]
      exact filed

theorem Files.mem_of_value (files : Files holds members file) {value : Value}
    (member : value ∈ file.values) :
    ∃ stored, .obj stored ∈ members.values ∧ holds stored value := by
  rw [KeyedFile.mem_values_iff] at member
  rcases files.present _ value member with ⟨stored, there, held⟩
  exact ⟨stored, (files.dict.mem_values_iff _).mpr ⟨_, there⟩, held⟩

end

/-! ## Documents and stores -/

structure Holds {Value : Type} {keyOf : Value → Nat} (holds : Members → Value → Prop)
    (data : Json) (file : KeyedFile keyOf) : Prop where
  stored : ∃ members cells, data = .obj members ∧ members.IsDict ∧
    members.get "cells".toList = some (.obj cells) ∧ Files holds cells file

section

variable {Value : Type} {keyOf : Value → Nat} {holds : Members → Value → Prop}
  {data : Json} {file : KeyedFile keyOf}

theorem holds_empty : Holds holds emptyDocument (.empty : KeyedFile keyOf) where
  stored := ⟨_, .nil, rfl, List.nodup_singleton _, rfl, files_empty⟩

theorem Holds.opened (held : Holds holds data file) :
    ∃ members cells, cellsOf data = some (members, cells) ∧ members.IsDict ∧
      Files holds cells file := by
  rcases held.stored with ⟨members, cells, same, dict, found, files⟩
  refine ⟨members, cells, ?_, dict, files⟩
  rw [same]
  simp only [cellsOf, found]

theorem holds_withCell {members cells : Members} (dict : members.IsDict)
    (files : Files holds cells file) {cell : Members} {value : Value}
    (held : holds cell value) :
    Holds holds (withCell members cells (keyOf value) cell) (file.put value) where
  stored := by
    refine ⟨_, _, rfl, dict.set _ _, ?_, files.put held⟩
    rw [dict.get_set, if_pos rfl]

def Tagged (holds : Members → Value → Prop) (tagOf : Value → Text) : Prop :=
  ∀ cell value, holds cell value →
    cell.get "image_digest".toList = some (.str (tagOf value))

/-- A cell counts for its own digest only, in the document as in the store. -/
theorem Holds.lookup (held : Holds holds data file) {tagOf : Value → Text}
    (tagged : Tagged holds tagOf) (key : Nat) (imageDigest : Text) :
    (cellOf data key imageDigest = some none ∧
        ∀ value, file.get key = some value → tagOf value ≠ imageDigest) ∨
      ∃ cell value, cellOf data key imageDigest = some (some cell) ∧
        file.get key = some value ∧ tagOf value = imageDigest ∧ holds cell value := by
  rcases held.opened with ⟨members, cells, found, -, files⟩
  rw [cellOf, found]
  cases filed : file.get key with
  | none =>
      left
      simp only [files.absent key filed]
      refine ⟨trivial, ?_⟩
      intro value other
      cases other
  | some value =>
      rcases files.present key value filed with ⟨cell, there, holdsCell⟩
      have digest := tagged cell value holdsCell
      simp only [there, digest]
      by_cases same : tagOf value = imageDigest
      · right
        refine ⟨cell, value, ?_, rfl, same, holdsCell⟩
        rw [if_pos (by rw [same])]
      · left
        constructor
        · rw [if_neg]
          intro equal
          cases equal
          exact same rfl
        · intro other equal
          cases equal
          exact same

/-- What the document answers of a cell is what the store answers. -/
theorem Holds.answer (held : Holds holds data file) {tagOf : Value → Text}
    (tagged : Tagged holds tagOf) {verdict : Value → CellStatus}
    {read : Members → CellStatus}
    (reads : ∀ cell value, holds cell value → read cell = verdict value) (key : Nat)
    (imageDigest : Text) :
    statusOf read data key imageDigest =
      some (file.answer tagOf verdict .absent key imageDigest) := by
  rw [statusOf]
  rcases held.lookup tagged key imageDigest with
    ⟨absent, other⟩ | ⟨cell, value, found, filed, same, holdsCell⟩
  · rw [absent, Option.map_some, Option.elim_none, KeyedFile.answer]
    cases filed : file.get key with
    | none => rfl
    | some value =>
        simp only
        rw [if_pos (other value filed)]
  · rw [found, Option.map_some, Option.elim_some, KeyedFile.answer_of_tag filed same,
      reads cell value holdsCell]

/-! ## Stores of one measurement per cell -/

structure CellFormat (Value : Type) (keyOf : Value → Nat) where
  fields : Value → List (Text × Json)
  digestOf : Value → Text
  verdict : Value → CellStatus
  read : Members → CellStatus
  digest : ∀ value, (Members.ofList (fields value)).get "image_digest".toList =
    some (.str (digestOf value))
  reads : ∀ value, read (.ofList (fields value)) = verdict value

namespace CellFormat

variable (format : CellFormat Value keyOf)

def store : SavedDocument Json Value where
  absent := emptyDocument
  dump := Json.render .python 0
  load := loads
  load_dump := loads_python
  apply value data := recordCell (keyOf value) (.ofList (format.fields value)) data

def Written (cell : Members) (value : Value) : Prop := cell = .ofList (format.fields value)

theorem apply_opened {data : Json} {members cells : Members}
    (found : cellsOf data = some (members, cells)) (value : Value) :
    format.store.apply value data =
      .saved (withCell members cells (keyOf value) (.ofList (format.fields value))) := by
  change recordCell (keyOf value) (.ofList (format.fields value)) data = _
  unfold recordCell
  rw [found]

theorem record_held {data : Json} {file : KeyedFile keyOf}
    (held : Holds format.Written data file) (value : Value) :
    ∃ next, format.store.apply value data = .saved next ∧
      Holds format.Written next (file.put value) := by
  rcases held.opened with ⟨members, cells, found, dict, files⟩
  exact ⟨_, format.apply_opened found value, holds_withCell dict files rfl⟩

theorem represents :
    format.store.Represents (Holds format.Written) (.empty : KeyedFile keyOf)
      fun value file => file.put value where
  absent := holds_empty
  raises := by
    intro value data file held raised
    rcases format.record_held held value with ⟨next, saved, -⟩
    rw [saved] at raised
    cases raised
  keeps := by
    intro value data file held kept
    rcases format.record_held held value with ⟨next, saved, -⟩
    rw [saved] at kept
    cases kept
  saves := by
    intro value data file next held saved
    rcases format.record_held held value with ⟨other, made, holds⟩
    rw [made] at saved
    cases saved
    exact holds

theorem tagged : Tagged format.Written format.digestOf := by
  intro cell value written
  rw [written]
  exact format.digest value

/-- What holds of a store whenever it is looked at: the file answers for every cell as the
store of the records that were settled, and between calls, or after one was killed, any
record can be made. -/
structure Survives (disk : SavedDocument.Disk Value) : Prop where
  answers : ∃ data, format.store.read disk.file = some data ∧
    ∀ key imageDigest, statusOf format.read data key imageDigest =
      some ((SavedDocument.valueAfter (.empty : KeyedFile keyOf)
        (fun value file => file.put value) disk.settled).answer
          format.digestOf format.verdict .absent key imageDigest)
  returned : disk.returned.Sublist disk.settled
  settled : disk.settled.Sublist disk.begun
  returns : disk.call = none → ∀ value, ∃ after, format.store.system.Run disk after ∧
    after.call = none ∧ after.settled = disk.settled ++ [value] ∧
      after.returned = disk.returned ++ [value]

theorem survives {disk : SavedDocument.Disk Value}
    (reachable : format.store.system.Reachable disk) : format.Survives disk := by
  rcases format.represents.read_file reachable with ⟨data, found, held, returned, settled⟩
  refine ⟨⟨data, found, ?_⟩, returned, settled, ?_⟩
  · intro key imageDigest
    apply held.answer format.tagged
    intro cell value written
    rw [written]
    exact format.reads value
  · intro idle value
    exact format.represents.returns reachable idle value

end CellFormat

end

/-! ### The three stores -/

theorem hasStatus_of_written {members : Members} {status : Status}
    (written : members.get "status".toList = some (.str (Status.text status))) :
    (hasStatus "error" members ↔ status = .error) ∧
      (hasStatus "ok" members ↔ status = .ok) := by
  unfold hasStatus
  rw [written]
  cases status <;> decide

def cellFormat : CellFormat CellRecord CellRecord.streamCount where
  fields := cellFields
  digestOf := CellRecord.imageDigest
  verdict := Cells.verdict
  read := readCell
  digest cell := by simp [cellFields, Members.ofList, Members.get]
  reads cell := by
    have status : (Members.ofList (cellFields cell)).get "status".toList =
        some (.str (Status.text cell.status)) := by
      simp [cellFields, Members.ofList, Members.get]
    have saturated : (Members.ofList (cellFields cell)).get "saturated".toList =
        some (.bool cell.saturated) := by
      simp [cellFields, Members.ofList, Members.get]
    rw [readCell, Cells.verdict, saturated]
    simp only [hasStatus_of_written status, isTrue, Option.any_some, Json.truthy]
    by_cases failed : cell.status = .error
    · rw [if_pos failed, if_pos failed]
    · rw [if_neg failed, if_neg failed]
      cases cell.saturated <;> rfl

theorem readSingle_of_status {members : Members} {status : Status}
    (written : members.get "status".toList = some (.str (Status.text status))) :
    readSingle members = singleVerdict status := by
  rw [readSingle]
  simp only [hasStatus_of_written written]
  cases status <;> rfl

def sustainedFormat : CellFormat SustainedRecord SustainedRecord.streamCount where
  fields := sustainedFields
  digestOf := SustainedRecord.imageDigest
  verdict cell := singleVerdict cell.status
  read := readSingle
  digest cell := by simp [sustainedFields, Members.ofList, Members.get]
  reads cell := by
    apply readSingle_of_status
    simp [sustainedFields, Members.ofList, Members.get]

def catchupFormat : CellFormat CatchupRecord CatchupRecord.preEvents where
  fields := catchupFields
  digestOf := CatchupRecord.imageDigest
  verdict cell := singleVerdict cell.status
  read := readSingle
  digest cell := by simp [catchupFields, Members.ofList, Members.get]
  reads cell := by
    apply readSingle_of_status
    simp [catchupFields, Members.ofList, Members.get]

/-- Whatever records are made in the three stores of one measurement per cell, and whichever
of the calls are killed and when, the file is never torn, has lost no record whose call
returned, and answers as the stores do. -/
theorem cell_stores_survive :
    (∀ disk, cellFormat.store.system.Reachable disk → cellFormat.Survives disk) ∧
      (∀ disk, sustainedFormat.store.system.Reachable disk →
        sustainedFormat.Survives disk) ∧
      ∀ disk, catchupFormat.store.system.Reachable disk → catchupFormat.Survives disk :=
  ⟨fun _ => cellFormat.survives, fun _ => sustainedFormat.survives,
    fun _ => catchupFormat.survives⟩

/-! ### A killed record -/

/-- The measurement of a sustained cell. -/
def steadyCell (streamCount : Nat) : SustainedRecord where
  streamCount := streamCount
  imageDigest := "d1".toList
  pods := 1
  ratePerStream := 5
  durationSecs := 60
  throughput := 250
  p50 := some 1
  p99 := some 2
  p999 := some 3
  rssPeakMb := 100
  rssDriftMb := 0
  cpuMean := 50
  stable := true
  status := .ok
  reason := .complete

theorem killedSecond_reachable : sustainedFormat.store.system.Reachable
    ⟨some (sustainedFormat.store.dump (sustainedFormat.store.replay [steadyCell 50])),
      some [], none, [steadyCell 50, steadyCell 80], [steadyCell 50], [steadyCell 50]⟩ := by
  rcases sustainedFormat.record_held holds_empty (steadyCell 50) with
    ⟨recorded, saved, held⟩
  rcases sustainedFormat.record_held held (steadyCell 80) with ⟨next, saves, -⟩
  have made : sustainedFormat.store.apply (steadyCell 50) emptyDocument =
      .saved recorded := saved
  have replayed : sustainedFormat.store.replay ([] ++ [steadyCell 50]) = recorded :=
    SavedDocument.replay_saved _ made
  rw [List.nil_append] at replayed
  have absent : sustainedFormat.store.read none = some emptyDocument := rfl
  have first : sustainedFormat.store.system.Run ⟨none, none, none, [], [], []⟩ _ :=
    SavedDocument.saving_run absent made
  have found : sustainedFormat.store.read
      (some (sustainedFormat.store.dump recorded)) = some recorded :=
    loads_python recorded
  have opened := first.tail (SavedDocument.Step.openTemp (steadyCell 80) found saves)
  rw [replayed]
  exact ⟨_, .mk none, opened.tail (SavedDocument.Step.kill _)⟩

/-- The cell that was recorded is found, and the other one is still to be measured. -/
theorem survives_killed_second :
    sustainedFormat.Survives
        ⟨some (sustainedFormat.store.dump (sustainedFormat.store.replay [steadyCell 50])),
          some [], none, [steadyCell 50, steadyCell 80], [steadyCell 50],
          [steadyCell 50]⟩ ∧
      SustainedCells.statusOf (.put .empty (steadyCell 50)) 50 "d1".toList = .done ∧
      SustainedCells.statusOf (.put .empty (steadyCell 50)) 80 "d1".toList = .absent :=
  ⟨cell_stores_survive.2.1 _ killedSecond_reachable, by decide +kernel, by decide +kernel⟩

end DsBench.Harness.CellDocuments
