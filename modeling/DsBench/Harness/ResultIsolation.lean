import DsBench.Foundation.Decimal

/-! # Result isolation between fleet launches

Every fleet launch uploads its result files under the prefix of its `RUN_ID`, and
the coordinator merges whatever lies under that prefix. The prefix carries neither
the server-config label nor the pass, so a later launch can find files of an
earlier one there. Each object remembers the launch that put it last.
-/

namespace DsBench.Harness

/-! ## Cells and their prefixes -/

inductive Cell where
  | write (streamCount : Nat)
  | sustained (streamCount : Nat)
  | catchup (preEvents : Nat)
  | reads (streamCount connections : Nat)
  | mixed (streamCount level : Nat)
deriving DecidableEq, Repr

namespace Cell

def name (mode : Text) (pods : Nat) : Cell → Text
  | .write streamCount =>
      mode ++ "-write-n".toList ++ decimal streamCount ++ "-p".toList ++ decimal pods
  | .sustained streamCount =>
      mode ++ "-sustained-n".toList ++ decimal streamCount ++ "-p".toList ++ decimal pods
  | .catchup preEvents =>
      mode ++ "-catchup-pe".toList ++ decimal preEvents ++ "-p".toList ++ decimal pods
  | .reads streamCount connections =>
      mode ++ "-reads-n".toList ++ decimal streamCount ++ "-c".toList ++
        decimal connections
  | .mixed streamCount level =>
      mode ++ "-mixed-n".toList ++ decimal streamCount ++ "-l".toList ++ decimal level

def outPrefix : Cell → Text
  | .write _ => "write".toList
  | .sustained _ => "sustained".toList
  | .catchup _ => "catchup".toList
  | .reads _ _ => "reads".toList
  | .mixed _ _ => "mixed".toList

/-- `BARRIER_DIR` as the fleet is launched with it. Only the write cells, whose rates
are summed, put a default in its place. -/
def barrierDir (environment : Option Text) : Cell → Text
  | .write _ =>
      if environment.getD [] = [] then "/barrier".toList else environment.getD []
  | _ => environment.getD []

end Cell

/-- One launch of a fleet with its coordinator. `uploads` are the files its pods put
before the coordinator downloads the prefix, `lateUploads` those they put afterwards,
until the next launch deletes them. -/
structure Launch where
  suite : Text
  mode : Text
  label : Text
  cell : Cell
  rep : Nat
  pods : Nat
  barrierEnvironment : Option Text
  uploads : List Text
  lateUploads : List Text

namespace Launch

def runId (launch : Launch) : Text :=
  launch.suite ++ '-' :: launch.mode ++ '-' :: launch.cell.name launch.mode launch.pods ++
    "-r".toList ++ decimal launch.rep ++ "-p".toList ++ decimal launch.pods

/-- `_barrier_reset` is only reached with a barrier directory. -/
def resets (launch : Launch) : Bool :=
  launch.cell.barrierDir launch.barrierEnvironment != []

end Launch

def resultFile (cell : Cell) (index : Nat) : Text :=
  cell.outPrefix ++ '-' :: decimal index ++ ".json".toList

/-- The files `hdr-merge` reads. -/
def isResultFile (file : Text) : Bool :=
  ".hdr".toList.isSuffixOf file || ".json".toList.isSuffixOf file

example : isResultFile (resultFile (.reads 100 8) 1) = true := by decide

/-! ## The bucket -/

abbrev Bucket := Text → Text → Option Nat

namespace Bucket

def reset (bucket : Bucket) (runId : Text) : Bucket := fun key file =>
  if key = runId then none else bucket key file

def put (bucket : Bucket) (runId : Text) (files : List Text) (launch : Nat) : Bucket :=
  fun key file => if key = runId ∧ file ∈ files then some launch else bucket key file

end Bucket

structure Store where
  bucket : Bucket
  launches : Nat

namespace Store

def empty : Store := ⟨fun _ _ => none, 0⟩

def atMerge (store : Store) (launch : Launch) : Bucket :=
  (if launch.resets then store.bucket.reset launch.runId else store.bucket).put
    launch.runId launch.uploads store.launches

def merged (store : Store) (launch : Launch) (file : Text) : Option Nat :=
  if isResultFile file then store.atMerge launch launch.runId file else none

def run (store : Store) (launch : Launch) : Store :=
  ⟨(store.atMerge launch).put launch.runId launch.lateUploads store.launches,
    store.launches + 1⟩

def runAll (launches : List Launch) : Store := launches.foldl run empty

theorem runAll_concat (launches : List Launch) (last : Launch) :
    runAll (launches ++ [last]) = (runAll launches).run last := by
  simp [runAll]

@[simp] theorem launches_runAll (launches : List Launch) :
    (runAll launches).launches = launches.length := by
  induction launches using List.reverseRecOn with
  | nil => rfl
  | append_singleton launches last induction =>
      simp [runAll_concat, run, induction]

end Store

/-! ## What earlier launches leave behind -/

def LeftBehind (launches : List Launch) (key file : Text) : Prop :=
  ∃ before earlier since, launches = before ++ earlier :: since ∧
    earlier.runId = key ∧ file ∈ earlier.uploads ++ earlier.lateUploads ∧
    ∀ later ∈ since, later.runId = key → later.resets = false

theorem not_leftBehind_nil (key file : Text) : ¬ LeftBehind [] key file := by
  intro left
  rcases left with ⟨before, earlier, since, equal, -⟩
  simp at equal

theorem leftBehind_concat (launches : List Launch) (last : Launch) (key file : Text) :
    LeftBehind (launches ++ [last]) key file ↔
      (last.runId = key ∧ file ∈ last.uploads ++ last.lateUploads) ∨
        (LeftBehind launches key file ∧ (last.runId = key → last.resets = false)) := by
  constructor
  · intro left
    rcases left with ⟨before, earlier, since, equal, samePrefix, uploaded, kept⟩
    cases since using List.reverseRecOn with
    | nil =>
        rcases List.append_inj' equal rfl with ⟨-, same⟩
        cases same
        exact .inl ⟨samePrefix, uploaded⟩
    | append_singleton since final =>
        rw [← List.cons_append, ← List.append_assoc] at equal
        rcases List.append_inj' equal rfl with ⟨split, same⟩
        cases same
        refine .inr ⟨⟨before, earlier, since, split, samePrefix, uploaded,
          fun later member => kept later (by simp [member])⟩, kept last (by simp)⟩
  · intro cause
    rcases cause with ⟨samePrefix, uploaded⟩ |
      ⟨⟨before, earlier, since, rfl, samePrefix, uploaded, kept⟩, keeps⟩
    · exact ⟨launches, last, [], rfl, samePrefix, uploaded, by simp⟩
    · refine ⟨before, earlier, since ++ [last], by simp, samePrefix, uploaded, ?_⟩
      intro later member
      rcases List.mem_append.mp member with inside | isLast
      · exact kept later inside
      · rw [List.mem_singleton.mp isLast]
        exact keeps

namespace Store

theorem run_bucket (store : Store) (launch : Launch) (key file : Text) :
    (store.run launch).bucket key file =
      if launch.runId = key ∧ file ∈ launch.uploads ++ launch.lateUploads then
        some store.launches
      else if launch.runId = key ∧ launch.resets then none
      else store.bucket key file := by
  by_cases samePrefix : launch.runId = key
  · subst samePrefix
    by_cases uploaded : file ∈ launch.uploads <;>
      by_cases late : file ∈ launch.lateUploads <;>
        cases resets : launch.resets <;>
          simp [run, atMerge, Bucket.put, Bucket.reset, uploaded, late, resets]
  · have other : key ≠ launch.runId := fun equal => samePrefix equal.symm
    cases resets : launch.resets <;>
      simp [run, atMerge, Bucket.put, Bucket.reset, samePrefix, other, resets]

/-- The bucket holds exactly the objects that were left behind. -/
theorem isSome_runAll_iff (launches : List Launch) (key file : Text) :
    ((runAll launches).bucket key file).isSome ↔ LeftBehind launches key file := by
  induction launches using List.reverseRecOn with
  | nil => simp [runAll, empty, not_leftBehind_nil]
  | append_singleton launches last induction =>
      rw [runAll_concat, run_bucket, leftBehind_concat, ← induction]
      split
      · rename_i own
        simp [own]
      · rename_i notOwn
        rw [or_iff_right notOwn]
        split
        · rename_i cleared
          simp [cleared]
        · rename_i kept
          simp only [not_and, Bool.not_eq_true] at kept
          simp only [iff_self_and]
          exact fun _ => kept

theorem lt_of_runAll {launches : List Launch} {key file : Text} {number : Nat}
    (stored : (runAll launches).bucket key file = some number) :
    number < launches.length := by
  induction launches using List.reverseRecOn with
  | nil => cases stored
  | append_singleton launches last induction =>
      rw [runAll_concat, run_bucket] at stored
      rw [List.length_append, List.length_singleton]
      split at stored
      · simp only [launches_runAll, Option.some.injEq] at stored
        omega
      · split at stored
        · cases stored
        · exact Nat.lt_succ_of_lt (induction stored)

end Store

/-! ## When merges are isolated -/

/-- Everything merged for the launch was uploaded by its own fleet. -/
def Isolated (before : List Launch) (launch : Launch) : Prop :=
  ∀ file number, (Store.runAll before).merged launch file = some number →
    number = before.length

/-- The launch clears its prefix, or its fleet uploads every result file still there
once more in time for the merge. -/
def ReplacesLeftovers (before : List Launch) (launch : Launch) : Prop :=
  launch.resets = true ∨ ∀ file, isResultFile file → LeftBehind before launch.runId file →
    file ∈ launch.uploads

theorem isolated_iff (before : List Launch) (launch : Launch) :
    Isolated before launch ↔ ReplacesLeftovers before launch := by
  constructor
  · intro isolated
    cases resets : launch.resets with
    | true => exact .inl resets
    | false =>
        right
        intro file result left
        by_contra notUploaded
        rcases Option.isSome_iff_exists.mp
          ((Store.isSome_runAll_iff before launch.runId file).mpr left) with
          ⟨number, stored⟩
        have merged : (Store.runAll before).merged launch file = some number := by
          simp [Store.merged, Store.atMerge, Bucket.put, result, resets, notUploaded,
            stored]
        have earlier := Store.lt_of_runAll stored
        have own := isolated file number merged
        omega
  · intro replaces file number merged
    rw [Store.merged] at merged
    split at merged
    · rename_i result
      rw [Store.atMerge, Bucket.put] at merged
      split at merged
      · simpa using merged.symm
      · rename_i notUploaded
        simp only [true_and] at notUploaded
        exfalso
        rcases replaces with resets | uploaded
        · simp [resets, Bucket.reset] at merged
        · apply notUploaded (uploaded file result _)
          rw [← Store.isSome_runAll_iff]
          split at merged
          · simp [Bucket.reset] at merged
          · simp [merged]
    · cases merged

theorem isolated_of_write {launch : Launch} {streamCount : Nat}
    (write : launch.cell = .write streamCount) (before : List Launch) :
    Isolated before launch := by
  rw [isolated_iff]
  left
  unfold Launch.resets Cell.barrierDir
  rw [write]
  by_cases unset : launch.barrierEnvironment.getD [] = [] <;> simp [unset]

/-- Every merge of a run is isolated exactly when every launch of it resets its prefix
or replaces what earlier launches left under it. -/
theorem merges_isolated_iff (launches : List Launch) :
    (∀ before launch after, launches = before ++ launch :: after →
      Isolated before launch) ↔
    ∀ before launch after, launches = before ++ launch :: after →
      ReplacesLeftovers before launch := by
  simp only [isolated_iff]

/-! ## A suite with several server configs -/

/-- `run_mode` for a single-shot workload whose cells are all still to be done: every
label in turn runs every cell once. -/
def runMode (suite mode : Text) (labels : List Text) (cells : List Cell) (pods : Nat)
    (uploads : (label : Text) → Cell → List Text) : List Launch :=
  labels.flatMap fun label => cells.map fun cell =>
    { suite := suite
      mode := mode
      label := label
      cell := cell
      rep := 1
      pods := pods
      barrierEnvironment := none
      uploads := uploads label cell
      lateUploads := [] }

/-- Two labels of one reads cell on two pods, of which the second pod of the second
label never uploads. -/
def twoLabels : List Launch :=
  runMode "canonical-reads".toList "wal".toList ["wal".toList, "memory".toList]
    [.reads 100 8] 2 fun label cell =>
      if label = "wal".toList then [resultFile cell 0, resultFile cell 1]
      else [resultFile cell 0]

/-- The second label merges the first label's `reads-1.json`. -/
theorem second_label_merges_first_label :
    ¬ ∀ before launch after, twoLabels = before ++ launch :: after →
      Isolated before launch := by
  intro isolated
  have second := isolated [twoLabels.get ⟨0, by decide⟩]
    (twoLabels.get ⟨1, by decide⟩) [] (by rfl)
  have foreign := second (resultFile (.reads 100 8) 1) 0 (by decide)
  cases foreign

end DsBench.Harness
