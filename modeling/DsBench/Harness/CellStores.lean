import DsBench.Foundation.KeyedFile
import DsBench.Harness.SustainedCell

/-! # The cell stores

Each workload keeps the results of a label in a file of its own kind: one entry per
stream count or, for catch-up, per number of events. An entry carries the digest of the
server image and arguments it was measured on, and `status_of` answers for that digest.
-/

namespace DsBench.Harness

/-- What `status_of` prints. -/
inductive CellStatus where
  | absent
  | error
  | saturated
  | resume
  | done
deriving DecidableEq, Repr

/-! ## Stores of one measurement per cell -/

namespace Cells

abbrev File := KeyedFile CellRecord.streamCount

def record (file : File) (cell : CellRecord) : File := file.put cell

def verdict (cell : CellRecord) : CellStatus :=
  if cell.status = .error then .error
  else if cell.saturated then .saturated
  else .resume

def statusOf (file : File) (streamCount : Nat) (imageDigest : Text) : CellStatus :=
  file.answer CellRecord.imageDigest verdict .absent streamCount imageDigest

end Cells

def singleVerdict (status : Status) : CellStatus :=
  match status with
  | .error => .error
  | .ok => .done

namespace SustainedCells

abbrev File := KeyedFile SustainedRecord.streamCount

def record (file : File) (cell : SustainedRecord) : File := file.put cell

def statusOf (file : File) (streamCount : Nat) (imageDigest : Text) : CellStatus :=
  file.answer SustainedRecord.imageDigest (fun cell => singleVerdict cell.status) .absent
    streamCount imageDigest

end SustainedCells

inductive CatchupReason where
  | complete
  | creationChoke
deriving DecidableEq, Repr

structure CatchupRecord where
  preEvents : Nat
  imageDigest : Text
  clients : Nat
  eventBytes : Nat
  snapshotBytes : Nat
  pods : Nat
  p50 : Option ℚ
  p99 : Option ℚ
  bytesReceivedTotal : Option ℚ
  bodyKb : Option ℚ
  mbPerSec : Option ℚ
  status : Status
  reason : CatchupReason
deriving DecidableEq, Repr

namespace CatchupCells

abbrev File := KeyedFile CatchupRecord.preEvents

def record (file : File) (cell : CatchupRecord) : File := file.put cell

def statusOf (file : File) (preEvents : Nat) (imageDigest : Text) : CellStatus :=
  file.answer CatchupRecord.imageDigest (fun cell => singleVerdict cell.status) .absent
    preEvents imageDigest

end CatchupCells

/-! ## Stores of a sweep per cell -/

/-- A cell that is swept over levels: what was measured of each level, and whether the
sweep has been through all of them. -/
structure SweepCell {Entry : Type} (levelOf : Entry → Nat) where
  streamCount : Nat
  imageDigest : Text
  complete : Bool
  entries : KeyedFile levelOf

namespace SweepCell

variable {Entry : Type} {levelOf : Entry → Nat}

abbrev File (levelOf : Entry → Nat) :=
  KeyedFile (@SweepCell.streamCount Entry levelOf)

/-- `_cell`: the cell as it is if it is of that digest, else a new one. -/
def cell (file : File levelOf) (streamCount : Nat) (imageDigest : Text) :
    SweepCell levelOf :=
  match file.get streamCount with
  | none => ⟨streamCount, imageDigest, false, .empty⟩
  | some cell =>
      if cell.imageDigest ≠ imageDigest then ⟨streamCount, imageDigest, false, .empty⟩
      else cell

def withEntry (cell : SweepCell levelOf) (entry : Entry) : SweepCell levelOf :=
  { cell with entries := cell.entries.put entry }

def completed (cell : SweepCell levelOf) : SweepCell levelOf := { cell with complete := true }

def record (file : File levelOf) (streamCount : Nat) (imageDigest : Text)
    (entry : Entry) : File levelOf :=
  file.put ((cell file streamCount imageDigest).withEntry entry)

def markComplete (file : File levelOf) (streamCount : Nat) (imageDigest : Text) :
    File levelOf :=
  match file.get streamCount with
  | none => file
  | some cell =>
      if cell.imageDigest = imageDigest then file.put cell.completed else file

variable (statusIn : Entry → Status)

def levelStatus (file : File levelOf) (streamCount level : Nat) (imageDigest : Text) :
    CellStatus :=
  file.answer SweepCell.imageDigest
    (fun cell =>
      if (cell.entries.get level).any fun entry => decide (statusIn entry = .ok) then .done
      else .absent)
    .absent streamCount imageDigest

def hasError (cell : SweepCell levelOf) : Bool :=
  cell.entries.values.any fun entry => decide (statusIn entry = .error)

def verdict (cell : SweepCell levelOf) : CellStatus :=
  if !cell.complete then .absent
  else if cell.hasError statusIn then .error
  else .done

def statusOf (file : File levelOf) (streamCount : Nat) (imageDigest : Text) : CellStatus :=
  file.answer SweepCell.imageDigest (verdict statusIn) .absent streamCount imageDigest

end SweepCell

inductive ReadsReason where
  | complete
  | noReads
deriving DecidableEq, Repr

/-- What one connection level of a reads cell measured. -/
structure ReadsEntry where
  connections : Nat
  opsPerSec : Option ℚ
  bytesPerSec : Option ℚ
  p50 : Option ℚ
  p99 : Option ℚ
  backpressure : Int
  otherErr : Int
  status : Status
  reason : ReadsReason
deriving DecidableEq, Repr

namespace ReadsCells

abbrev File := SweepCell.File ReadsEntry.connections

def record (file : File) (streamCount : Nat) (imageDigest : Text) (entry : ReadsEntry) :
    File :=
  SweepCell.record file streamCount imageDigest entry

def connStatus (file : File) (streamCount connections : Nat) (imageDigest : Text) :
    CellStatus :=
  SweepCell.levelStatus ReadsEntry.status file streamCount connections imageDigest

def markComplete (file : File) (streamCount : Nat) (imageDigest : Text) : File :=
  SweepCell.markComplete file streamCount imageDigest

def statusOf (file : File) (streamCount : Nat) (imageDigest : Text) : CellStatus :=
  SweepCell.statusOf ReadsEntry.status file streamCount imageDigest

end ReadsCells

/-- The metrics a mixed level stores: rates, percentiles and counts of its three
classes of traffic. -/
structure MixedMetrics where
  writeOpsPerSec : Option ℚ
  writeP50 : Option ℚ
  writeP99 : Option ℚ
  readOpsPerSec : Option ℚ
  readMibPerSec : Option ℚ
  readP50 : Option ℚ
  readP99 : Option ℚ
  eventsPerSec : Option ℚ
  deliveryP50 : Option ℚ
  deliveryP99 : Option ℚ
  writeOk : ℚ
  writeBp : ℚ
  writeErr : ℚ
  readOk : ℚ
  readBp : ℚ
  readErr : ℚ
  eventsReceived : ℚ
  controlEventsReceived : ℚ
  elapsedSecs : ℚ
  driveSecs : ℚ
deriving DecidableEq, Repr

inductive MixedReason where
  | complete
  | noMergedResult
  | noWrites
  | noReads
  | noDelivery
deriving DecidableEq, Repr

/-- What one level of a mixed cell measured. No metrics are stored where no merged
result was found. -/
structure MixedEntry where
  metrics : Option MixedMetrics
  level : Nat
  readers : Nat
  subscribers : Nat
  writerRate : Nat
  readRate : Nat
  status : Status
  reason : MixedReason
deriving DecidableEq, Repr

namespace MixedCells

abbrev File := SweepCell.File MixedEntry.level

def record (file : File) (streamCount : Nat) (imageDigest : Text) (entry : MixedEntry) :
    File :=
  SweepCell.record file streamCount imageDigest entry

def levelStatus (file : File) (streamCount level : Nat) (imageDigest : Text) :
    CellStatus :=
  SweepCell.levelStatus MixedEntry.status file streamCount level imageDigest

def markComplete (file : File) (streamCount : Nat) (imageDigest : Text) : File :=
  SweepCell.markComplete file streamCount imageDigest

def statusOf (file : File) (streamCount : Nat) (imageDigest : Text) : CellStatus :=
  SweepCell.statusOf MixedEntry.status file streamCount imageDigest

end MixedCells

/-! ## What a write changes -/

namespace SweepCell

variable {Entry : Type} {levelOf : Entry → Nat}

@[simp] theorem cell_streamCount (file : File levelOf) (streamCount : Nat)
    (imageDigest : Text) : (cell file streamCount imageDigest).streamCount = streamCount := by
  rw [cell]
  cases present : file.get streamCount with
  | none => rfl
  | some old =>
      simp only
      split
      · rfl
      · exact KeyedFile.keyOf_of_get present

theorem cell_cases (file : File levelOf) (streamCount : Nat) (imageDigest : Text) :
    ((file.get streamCount).map SweepCell.imageDigest ≠ some imageDigest ∧
        cell file streamCount imageDigest = ⟨streamCount, imageDigest, false, .empty⟩) ∨
      ∃ old, file.get streamCount = some old ∧ old.imageDigest = imageDigest ∧
        cell file streamCount imageDigest = old := by
  rw [cell]
  cases file.get streamCount with
  | none =>
      left
      constructor
      · simp
      · rfl
  | some old =>
      by_cases same : old.imageDigest = imageDigest
      · exact .inr ⟨old, rfl, same, if_neg (not_not.mpr same)⟩
      · left
        constructor
        · simpa using same
        · exact if_pos same

theorem cell_imageDigest (file : File levelOf) (streamCount : Nat) (imageDigest : Text) :
    (cell file streamCount imageDigest).imageDigest = imageDigest := by
  rcases cell_cases file streamCount imageDigest with ⟨-, fresh⟩ | ⟨old, -, same, kept⟩
  · rw [fresh]
  · rw [kept, same]

theorem get_record (file : File levelOf) (streamCount : Nat) (imageDigest : Text)
    (entry : Entry) (other : Nat) :
    (record file streamCount imageDigest entry).get other =
      if other = streamCount then
        some ((cell file streamCount imageDigest).withEntry entry)
      else file.get other := by
  rw [record, KeyedFile.get_put, withEntry, cell_streamCount]

theorem get_markComplete (file : File levelOf) (streamCount : Nat) (imageDigest : Text)
    (other : Nat) :
    (markComplete file streamCount imageDigest).get other =
      if other = streamCount then
        (file.get streamCount).map fun cell =>
          if cell.imageDigest = imageDigest then cell.completed else cell
      else file.get other := by
  cases present : file.get streamCount with
  | none =>
      simp only [markComplete, present, Option.map_none]
      split
      · rename_i own
        rw [own, present]
      · rfl
  | some cell =>
      have own := KeyedFile.keyOf_of_get present
      simp only [markComplete, present, Option.map_some]
      by_cases same : cell.imageDigest = imageDigest
      · rw [if_pos same, if_pos same, KeyedFile.get_put, completed, own]
      · rw [if_neg same, if_neg same]
        split
        · rename_i here
          rw [here, present]
        · rfl

end SweepCell

/-! ## What the stores answer -/

namespace Cells

variable {file : File} {streamCount : Nat} {imageDigest : Text}

@[simp] theorem verdict_ne_absent (cell : CellRecord) : verdict cell ≠ .absent := by
  rw [verdict]
  split
  · decide
  · split
    · decide
    · decide

end Cells

@[simp] theorem singleVerdict_ne_absent (status : Status) :
    singleVerdict status ≠ .absent := by
  cases status with
  | ok => decide
  | error => decide

namespace SweepCell

variable {Entry : Type} {levelOf : Entry → Nat} {statusIn : Entry → Status}
  {file : File levelOf} {streamCount : Nat} {imageDigest : Text}

theorem hasError_iff (statusIn : Entry → Status) (cell : SweepCell levelOf) :
    cell.hasError statusIn = true ↔
      ∃ level entry, cell.entries.get level = some entry ∧ statusIn entry = .error := by
  rw [hasError, List.any_eq_true]
  constructor
  · intro found
    rcases found with ⟨entry, member, failed⟩
    rw [KeyedFile.mem_values_iff] at member
    exact ⟨levelOf entry, entry, member, by simpa using failed⟩
  · intro found
    rcases found with ⟨level, entry, present, failed⟩
    refine ⟨entry, ?_, by simpa using failed⟩
    rw [KeyedFile.mem_values_iff, KeyedFile.keyOf_of_get present]
    exact present

/-- A finished cell is a complete one of that digest without a failed level. -/
theorem statusOf_done_iff :
    statusOf statusIn file streamCount imageDigest = .done ↔
      ∃ cell, file.get streamCount = some cell ∧ cell.imageDigest = imageDigest ∧
        cell.complete = true ∧ cell.hasError statusIn = false := by
  constructor
  · intro done
    have answers : file.answer SweepCell.imageDigest (verdict statusIn) .absent streamCount
        imageDigest ≠ .absent := by
      rw [← statusOf, done]
      decide
    rcases KeyedFile.exists_of_answer answers with ⟨cell, present, same, verdictHere⟩
    rw [← statusOf, done, verdict] at verdictHere
    refine ⟨cell, present, same, ?_⟩
    cases complete : cell.complete with
    | false => simp [complete] at verdictHere
    | true =>
        cases failed : cell.hasError statusIn with
        | false => exact ⟨rfl, rfl⟩
        | true => simp [complete, failed] at verdictHere
  · intro found
    rcases found with ⟨cell, present, same, complete, clean⟩
    rw [statusOf, KeyedFile.answer_of_tag present same, verdict]
    simp [complete, clean]

theorem levelStatus_done_iff {level : Nat} :
    levelStatus statusIn file streamCount level imageDigest = .done ↔
      ∃ cell, file.get streamCount = some cell ∧ cell.imageDigest = imageDigest ∧
        ∃ entry, cell.entries.get level = some entry ∧ statusIn entry = .ok := by
  rw [levelStatus]
  cases present : file.get streamCount with
  | none => simp [KeyedFile.answer, present]
  | some cell =>
      by_cases same : cell.imageDigest = imageDigest
      · rw [KeyedFile.answer_of_tag present same]
        cases entry : cell.entries.get level with
        | none => simp [entry]
        | some entry => simp [same, entry]
      · rw [KeyedFile.answer_of_tag_ne present same]
        simp [same]

end SweepCell

end DsBench.Harness
