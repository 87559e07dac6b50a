import DsBench.Foundation.TaggedHistory
import DsBench.Harness.CellRecorders

/-! # What a sweep cell owes to the calls of its store

The reads and mixed stores change a file in two ways only: a level is recorded, or a
cell is marked complete. A record under another digest replaces the whole cell, so a
cell shows what was called since it took the digest it has.
-/

namespace DsBench.Harness

/-- One call of a store. What `record` is given beyond the cell differs by store. -/
inductive StoreCall (Args : Type) where
  | record (streamCount : Nat) (imageDigest : Text) (args : Args)
  | markComplete (streamCount : Nat) (imageDigest : Text)

namespace StoreCall

variable {Args Entry : Type}

def streamCount : StoreCall Args → Nat
  | record streamCount _ _ => streamCount
  | markComplete streamCount _ => streamCount

/-- The digest that the cell of a stream count has after the call, where it is the call
that settles it. -/
def setsDigest (streamCount : Nat) : StoreCall Args → Option Text
  | record own imageDigest _ => if own = streamCount then some imageDigest else none
  | markComplete _ _ => none

def recordedAt (entryOf : Args → Entry) (levelOf : Entry → Nat) (streamCount level : Nat) :
    StoreCall Args → Option Entry
  | record own _ args =>
      if own = streamCount ∧ levelOf (entryOf args) = level then some (entryOf args)
      else none
  | markComplete _ _ => none

end StoreCall

namespace SweepCell

variable {Args Entry : Type} {levelOf : Entry → Nat}

def perform (entryOf : Args → Entry) (file : File levelOf) : StoreCall Args → File levelOf
  | .record streamCount imageDigest args =>
      record file streamCount imageDigest (entryOf args)
  | .markComplete streamCount imageDigest => markComplete file streamCount imageDigest

def afterCalls (levelOf : Entry → Nat) (entryOf : Args → Entry)
    (calls : List (StoreCall Args)) : File levelOf :=
  calls.foldl (perform entryOf) .empty

end SweepCell

/-- `record` of the reads store is given the entry. -/
def ReadsCells.perform (file : ReadsCells.File) (call : StoreCall ReadsEntry) :
    ReadsCells.File :=
  match call with
  | .record streamCount imageDigest entry => record file streamCount imageDigest entry
  | .markComplete streamCount imageDigest => markComplete file streamCount imageDigest

/-- `record_merged` of the mixed store is given the merged text and the load. -/
def MixedCells.perform (file : MixedCells.File)
    (call : StoreCall (Option Text × MixedLoad)) : MixedCells.File :=
  match call with
  | .record streamCount imageDigest (merged, load) =>
      record file streamCount imageDigest (recordMerged merged load)
  | .markComplete streamCount imageDigest => markComplete file streamCount imageDigest

namespace SweepCell

variable {Args Entry : Type} {levelOf : Entry → Nat} {entryOf : Args → Entry}
  {file : File levelOf} {calls : List (StoreCall Args)} {streamCount : Nat}

/-! ## One call -/

theorem get_perform_of_ne {call : StoreCall Args} (other : call.streamCount ≠ streamCount) :
    (perform entryOf file call).get streamCount = file.get streamCount := by
  cases call with
  | record own imageDigest args =>
      have different : streamCount ≠ own := Ne.symm other
      rw [perform, get_record, if_neg different]
  | markComplete own imageDigest =>
      have different : streamCount ≠ own := Ne.symm other
      rw [perform, get_markComplete, if_neg different]

theorem markComplete_foreign {imageDigest : Text}
    (foreign : ∀ cell, file.get streamCount = some cell → cell.imageDigest ≠ imageDigest) :
    markComplete file streamCount imageDigest = file := by
  rw [markComplete]
  cases present : file.get streamCount with
  | none => rfl
  | some cell => exact if_neg (foreign cell present)

/-! ## What the cell shows of the calls -/

/-- The entries and the flag of a cell are those of the calls since it took its digest:
the last record of each level, and whether it was marked complete. -/
structure Shows (entryOf : Args → Entry) (streamCount : Nat) (cell : SweepCell levelOf)
    (since : List (StoreCall Args)) : Prop where
  entries : ∀ level, cell.entries.get level =
    lastOf (StoreCall.recordedAt entryOf levelOf streamCount level) since
  complete : cell.complete = true ↔
    StoreCall.markComplete streamCount cell.imageDigest ∈ since

def Follows (entryOf : Args → Entry) (calls : List (StoreCall Args)) (streamCount : Nat) :
    Option (SweepCell levelOf) → Prop
  | none => lastOf (StoreCall.setsDigest streamCount) calls = none
  | some cell => ∃ since,
      Took (StoreCall.setsDigest streamCount) calls cell.imageDigest since ∧
        Shows entryOf streamCount cell since

theorem Follows.lastOf_eq {held : Option (SweepCell levelOf)}
    (follows : Follows entryOf calls streamCount held) :
    lastOf (StoreCall.setsDigest streamCount) calls = held.map SweepCell.imageDigest := by
  cases held with
  | none => exact follows
  | some cell =>
      rcases follows with ⟨since, took, -⟩
      exact took.lastOf_eq

theorem Follows.append_other {held : Option (SweepCell levelOf)}
    (follows : Follows entryOf calls streamCount held) {call : StoreCall Args}
    (other : call.streamCount ≠ streamCount) :
    Follows entryOf (calls ++ [call]) streamCount held := by
  have silent : call.setsDigest streamCount = none := by
    cases call with
    | record own imageDigest args => exact if_neg other
    | markComplete own imageDigest => rfl
  cases held with
  | none =>
      rw [Follows, lastOf_append, lastOf_singleton, silent, Option.none_or]
      exact follows
  | some cell =>
      rcases follows with ⟨since, took, shows⟩
      refine ⟨since ++ [call], took.append ?_, ?_, ?_⟩
      · intro value sets
        rw [silent] at sets
        cases sets
      · intro level
        have unrecorded :
            call.recordedAt entryOf levelOf streamCount level = none := by
          cases call with
          | record own imageDigest args => exact if_neg fun both => other both.1
          | markComplete own imageDigest => rfl
        rw [lastOf_append, lastOf_singleton, unrecorded, Option.none_or]
        exact shows.entries level
      · have unmarked : StoreCall.markComplete streamCount cell.imageDigest ≠ call := by
          intro same
          rw [← same] at other
          exact other rfl
        rw [shows.complete, List.mem_append, List.mem_singleton]
        simp only [unmarked, or_false]

theorem Follows.append_first {held : Option (SweepCell levelOf)}
    (follows : Follows entryOf calls streamCount held) {imageDigest : Text} (args : Args)
    (new : held.map SweepCell.imageDigest ≠ some imageDigest) :
    Follows entryOf (calls ++ [.record streamCount imageDigest args]) streamCount
      (some ((⟨streamCount, imageDigest, false, .empty⟩ : SweepCell levelOf).withEntry
        (entryOf args))) := by
  refine ⟨[.record streamCount imageDigest args], .restart (if_pos rfl) ?_, ?_, ?_⟩
  · rw [follows.lastOf_eq]
    exact new
  · intro level
    rw [withEntry, KeyedFile.get_put, KeyedFile.get_empty, lastOf_singleton,
      StoreCall.recordedAt]
    simp only [true_and, eq_comm]
  · simp [withEntry]

theorem Follows.append_record {cell : SweepCell levelOf}
    (follows : Follows entryOf calls streamCount (some cell)) (args : Args) :
    Follows entryOf (calls ++ [.record streamCount cell.imageDigest args]) streamCount
      (some (cell.withEntry (entryOf args))) := by
  rcases follows with ⟨since, took, shows⟩
  refine ⟨since ++ [.record streamCount cell.imageDigest args], took.append ?_, ?_, ?_⟩
  · intro other sets
    rw [StoreCall.setsDigest, if_pos rfl] at sets
    cases sets
    rfl
  · intro level
    rw [withEntry, KeyedFile.get_put, lastOf_append, lastOf_singleton, StoreCall.recordedAt,
      shows.entries level]
    by_cases here : level = levelOf (entryOf args)
    · rw [if_pos here, if_pos ⟨rfl, here.symm⟩, Option.some_or]
    · rw [if_neg here, if_neg fun both => here both.2.symm, Option.none_or]
  · rw [withEntry, shows.complete, List.mem_append, List.mem_singleton]
    simp

theorem Follows.append_mark {cell : SweepCell levelOf} {imageDigest : Text}
    (follows : Follows entryOf calls streamCount (some cell)) :
    Follows entryOf (calls ++ [.markComplete streamCount imageDigest]) streamCount
      (some (if cell.imageDigest = imageDigest then cell.completed else cell)) := by
  rcases follows with ⟨since, took, shows⟩
  have goesOn : Took (StoreCall.setsDigest streamCount)
      (calls ++ [(.markComplete streamCount imageDigest : StoreCall Args)])
      cell.imageDigest (since ++ [.markComplete streamCount imageDigest]) := by
    apply took.append
    intro other sets
    cases sets
  have entries : ∀ level, cell.entries.get level =
      lastOf (StoreCall.recordedAt entryOf levelOf streamCount level)
        (since ++ [.markComplete streamCount imageDigest]) := by
    intro level
    rw [lastOf_append, lastOf_singleton, StoreCall.recordedAt, Option.none_or]
    exact shows.entries level
  by_cases same : cell.imageDigest = imageDigest
  · rw [if_pos same]
    refine ⟨_, goesOn, entries, ?_⟩
    simp [completed, same]
  · rw [if_neg same]
    refine ⟨_, goesOn, entries, ?_⟩
    rw [shows.complete, List.mem_append, List.mem_singleton]
    simp [same]

theorem perform_follows (call : StoreCall Args)
    (follows : ∀ streamCount, Follows entryOf calls streamCount (file.get streamCount)) :
    ∀ streamCount, Follows entryOf (calls ++ [call]) streamCount
      ((perform entryOf file call).get streamCount) := by
  intro streamCount
  have here := follows streamCount
  by_cases own : call.streamCount = streamCount
  · subst own
    cases call with
    | record streamCount imageDigest args =>
        rw [StoreCall.streamCount] at here ⊢
        rw [perform, get_record, if_pos rfl]
        rcases cell_cases file streamCount imageDigest with
          ⟨new, fresh⟩ | ⟨old, present, same, kept⟩
        · rw [fresh]
          exact here.append_first args new
        · rw [kept]
          rw [present] at here
          subst same
          exact here.append_record args
    | markComplete streamCount imageDigest =>
        rw [StoreCall.streamCount] at here ⊢
        rw [perform, get_markComplete, if_pos rfl]
        cases present : file.get streamCount with
        | none =>
            rw [present] at here
            rw [Option.map_none, Follows, lastOf_append, lastOf_singleton,
              StoreCall.setsDigest, Option.none_or]
            exact here
        | some cell =>
            rw [present] at here
            exact here.append_mark
  · rw [get_perform_of_ne own]
    exact here.append_other own

theorem afterCalls_follows (calls : List (StoreCall Args)) :
    ∀ streamCount, Follows entryOf calls streamCount
      ((afterCalls levelOf entryOf calls).get streamCount) := by
  induction calls using List.reverseRecOn with
  | nil =>
      intro streamCount
      exact lastOf_nil _
  | append_singleton calls call induction =>
      rw [afterCalls, List.foldl_append]
      exact perform_follows call induction

/-! ## The law of a store -/

/-- What holds of a store after some calls, and of one more call on it. The store is given
by what a call makes of its file and by the two questions it answers. -/
structure FollowsCalls (perform : File levelOf → StoreCall Args → File levelOf)
    (statusOf : File levelOf → Nat → Text → CellStatus)
    (levelStatus : File levelOf → Nat → Nat → Text → CellStatus) (entryOf : Args → Entry)
    (calls : List (StoreCall Args)) (file : File levelOf) : Prop where
  /-- A stream count has a cell where some record settled its digest. -/
  present : ∀ streamCount,
    (file.get streamCount).map SweepCell.imageDigest =
      lastOf (StoreCall.setsDigest streamCount) calls
  /-- A cell took its digest at some point of the history. -/
  taken : ∀ streamCount cell, file.get streamCount = some cell →
    ∃ since, Took (StoreCall.setsDigest streamCount) calls cell.imageDigest since
  /-- What the cell holds is what was called since. -/
  shows : ∀ streamCount cell since, file.get streamCount = some cell →
    Took (StoreCall.setsDigest streamCount) calls cell.imageDigest since →
      Shows entryOf streamCount cell since
  /-- Every entry was recorded under the digest that the cell has. -/
  recorded : ∀ streamCount cell since level entry, file.get streamCount = some cell →
    Took (StoreCall.setsDigest streamCount) calls cell.imageDigest since →
      cell.entries.get level = some entry →
        ∃ args, .record streamCount cell.imageDigest args ∈ since ∧ entryOf args = entry ∧
          levelOf entry = level
  others : ∀ (call : StoreCall Args) (streamCount : Nat), call.streamCount ≠ streamCount →
    (perform file call).get streamCount = file.get streamCount
  foreign : ∀ streamCount imageDigest,
    (∀ cell, file.get streamCount = some cell → cell.imageDigest ≠ imageDigest) →
      perform file (.markComplete streamCount imageDigest) = file
  absent : ∀ streamCount imageDigest,
    (∀ cell, file.get streamCount = some cell → cell.imageDigest ≠ imageDigest) →
      statusOf file streamCount imageDigest = .absent ∧
        ∀ level, levelStatus file streamCount level imageDigest = .absent

theorem Shows.recorded {cell : SweepCell levelOf} {since : List (StoreCall Args)}
    {level : Nat} {entry : Entry} (shows : Shows entryOf streamCount cell since)
    (took : Took (StoreCall.setsDigest streamCount) calls cell.imageDigest since)
    (present : cell.entries.get level = some entry) :
    ∃ args, .record streamCount cell.imageDigest args ∈ since ∧ entryOf args = entry ∧
      levelOf entry = level := by
  rw [shows.entries] at present
  rcases exists_of_lastOf present with ⟨call, member, records⟩
  cases call with
  | markComplete own imageDigest => cases records
  | record own imageDigest args =>
      rw [StoreCall.recordedAt] at records
      split at records
      · rename_i here
        rcases here with ⟨rfl, rfl⟩
        cases records
        have same := took.kept _ member imageDigest (if_pos rfl)
        subst same
        exact ⟨args, member, rfl, rfl⟩
      · cases records

theorem absent_of_foreign (statusIn : Entry → Status) {imageDigest : Text}
    (foreign : ∀ cell, file.get streamCount = some cell → cell.imageDigest ≠ imageDigest) :
    statusOf statusIn file streamCount imageDigest = .absent ∧
      ∀ level, levelStatus statusIn file streamCount level imageDigest = .absent := by
  cases present : file.get streamCount with
  | none => simp [statusOf, levelStatus, KeyedFile.answer, present]
  | some cell =>
      have other := foreign cell present
      constructor
      · exact KeyedFile.answer_of_tag_ne present other
      · intro level
        exact KeyedFile.answer_of_tag_ne present other

theorem afterCalls_followsCalls (statusIn : Entry → Status) (entryOf : Args → Entry)
    (calls : List (StoreCall Args)) :
    FollowsCalls (perform entryOf) (statusOf statusIn) (levelStatus statusIn) entryOf calls
      (afterCalls levelOf entryOf calls) := by
  have follows : ∀ streamCount, Follows entryOf calls streamCount
      ((afterCalls levelOf entryOf calls).get streamCount) := afterCalls_follows calls
  have shows : ∀ streamCount cell since,
      (afterCalls levelOf entryOf calls).get streamCount = some cell →
        Took (StoreCall.setsDigest streamCount) calls cell.imageDigest since →
          Shows entryOf streamCount cell since := by
    intro streamCount cell since present took
    have here := follows streamCount
    rw [present] at here
    rcases here with ⟨other, tookOther, shows⟩
    rw [took.unique tookOther]
    exact shows
  constructor
  case present =>
    intro streamCount
    exact (follows streamCount).lastOf_eq.symm
  case taken =>
    intro streamCount cell present
    have here := follows streamCount
    rw [present] at here
    rcases here with ⟨since, took, -⟩
    exact ⟨since, took⟩
  case shows => exact shows
  case recorded =>
    intro streamCount cell since level entry present took held
    exact (shows streamCount cell since present took).recorded took held
  case others =>
    intro call streamCount other
    exact get_perform_of_ne other
  case foreign =>
    intro streamCount imageDigest foreign
    exact markComplete_foreign foreign
  case absent =>
    intro streamCount imageDigest foreign
    exact absent_of_foreign statusIn foreign

end SweepCell

def ReadsCells.afterCalls (calls : List (StoreCall ReadsEntry)) : ReadsCells.File :=
  calls.foldl ReadsCells.perform .empty

def MixedCells.afterCalls (calls : List (StoreCall (Option Text × MixedLoad))) :
    MixedCells.File :=
  calls.foldl MixedCells.perform .empty

theorem ReadsCells.perform_eq : ReadsCells.perform = SweepCell.perform id := by
  funext file call
  cases call with
  | record streamCount imageDigest entry => rfl
  | markComplete streamCount imageDigest => rfl

def MixedCells.entryOf (args : Option Text × MixedLoad) : MixedEntry :=
  recordMerged args.1 args.2

theorem MixedCells.perform_eq :
    MixedCells.perform = SweepCell.perform MixedCells.entryOf := by
  funext file call
  cases call with
  | record streamCount imageDigest args => rfl
  | markComplete streamCount imageDigest => rfl

/-- Both stores show, after every sequence of calls, what was called since each cell took
its digest. -/
theorem sweep_stores_follow_their_calls :
    (∀ calls : List (StoreCall ReadsEntry),
      SweepCell.FollowsCalls ReadsCells.perform ReadsCells.statusOf ReadsCells.connStatus id
        calls (ReadsCells.afterCalls calls)) ∧
    (∀ calls : List (StoreCall (Option Text × MixedLoad)),
      SweepCell.FollowsCalls MixedCells.perform MixedCells.statusOf MixedCells.levelStatus
        MixedCells.entryOf calls (MixedCells.afterCalls calls)) := by
  constructor
  · intro calls
    rw [ReadsCells.afterCalls, ReadsCells.perform_eq]
    exact SweepCell.afterCalls_followsCalls ReadsEntry.status id calls
  · intro calls
    rw [MixedCells.afterCalls, MixedCells.perform_eq]
    exact SweepCell.afterCalls_followsCalls MixedEntry.status MixedCells.entryOf calls

end DsBench.Harness
