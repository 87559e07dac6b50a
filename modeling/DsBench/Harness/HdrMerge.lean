import DsBench.Foundation.BucketCounts
import DsBench.Foundation.ShellText
import DsBench.Harness.PartialFleet
import DsBench.Merge.ScanOrder
import Mathlib.Data.Multiset.Sort

/-! # Histogram files

A pod writes its histograms into files, and the coordinator merges the files of a directory.
The summary of a merge depends neither on the order in which the directories list their
files nor on how the samples were spread over workers and pods.
-/

namespace DsBench.Harness

open DsBench.Merge

/-! ## The files -/

/-- What the histogram library promises: histograms by buckets of whole microseconds, the
number of samples among what is read from one, and a format from which every histogram is
read back as it was written. -/
structure HdrCrate (Hist Encoded : Type) extends BucketHistogram Nat Nat Hist Histogram where
  serialize : Hist → Encoded
  deserialize : Encoded → Option Hist
  lossless : ∀ hist, deserialize (serialize hist) = some hist
  len_empty : (read empty).len = 0
  len_add : ∀ hist other, (read (add hist other)).len = (read hist).len + (read other).len

/-- A file of the directory; `content` is `none` when it cannot be read. -/
structure HdrEntry (Encoded : Type) where
  name : Text
  content : Option Encoded

def lowMicros : Nat := 1

def highMicros : Nat := 60000000

def clampMicros (micros : Nat) : Nat :=
  max (min (min micros (2 ^ 64 - 1)) highMicros) lowMicros

/-- The name under which `emit_hdr` writes, without its extension: an instance counts when
it is set and not empty. -/
def hdrStem (podInstance : Option Text) (label : Text) : Text :=
  match podInstance.filter fun value => value ≠ [] with
  | some value => label ++ '-' :: value
  | none => label

namespace HdrCrate

variable {Hist Encoded : Type} (crate : HdrCrate Hist Encoded)

/-- `record_micros` of a duration of so many microseconds. -/
def recordMicros (hist : Hist) (micros : Nat) : Hist :=
  crate.record hist (clampMicros micros)

/-- The histogram of a pod: those of its workers, put into a new one by `merge`. -/
def podHist (workers : List (List Nat)) : Hist :=
  (workers.map fun samples => samples.foldl crate.recordMicros crate.empty).foldl crate.add
    crate.empty

/-- The file that `emit_hdr` writes into the directory that the job gives it. -/
def emitHdr (podInstance : Option Text) (hist : Hist) (label : Text) : HdrEntry Encoded :=
  ⟨hdrStem podInstance label ++ ".hdr".toList, some (crate.serialize hist)⟩

def load (labelPrefix : Option Text) :
    Option (HdrEntry Encoded) → Option (Option Hist)
  | none => none
  | some entry =>
      if extension entry.name ≠ some "hdr".toList then some none
      else if labelPrefix.any fun start => !start.isPrefixOf (stem entry.name) then some none
      else (entry.content.bind crate.deserialize).map some

/-- One pass of the loop of `merge_dir_filtered`. -/
def mergeStep (labelPrefix : Option Text) (merged : Hist)
    (entry : Option (HdrEntry Encoded)) : Option Hist :=
  (crate.load labelPrefix entry).map fun loaded => loaded.elim merged (crate.add merged)

/-- `merge_dir_filtered` over the entries that the directory yields, `none` for one that
fails. -/
def mergeDirFiltered (labelPrefix : Option Text)
    (entries : List (Option (HdrEntry Encoded))) : Option Hist :=
  entries.foldlM (crate.mergeStep labelPrefix) crate.empty

/-- `merge_summary_filtered`; `none` for a directory that cannot be listed. -/
def mergeSummary (labelPrefix : Option Text)
    (hdrDir : Option (List (Option (HdrEntry Encoded))))
    (resultsDir : Option (List DirEntry)) : Option MergeSummary :=
  mergeSummaryFiltered
    ((hdrDir.bind (crate.mergeDirFiltered labelPrefix)).map crate.read) resultsDir

/-! ## What is merged -/

def selected (labelPrefix : Option Text) (entries : List (Option (HdrEntry Encoded))) :
    List Hist :=
  entries.filterMap fun entry => (crate.load labelPrefix entry).join

theorem foldlM_mergeStep (labelPrefix : Option Text)
    (entries : List (Option (HdrEntry Encoded))) (merged : Hist) :
    entries.foldlM (crate.mergeStep labelPrefix) merged =
      if entries.all fun entry => (crate.load labelPrefix entry).isSome then
        some (crate.addAll merged (crate.selected labelPrefix entries))
      else none := by
  induction entries generalizing merged with
  | nil => rfl
  | cons entry entries induction =>
      rw [List.foldlM_cons, mergeStep, selected, List.filterMap_cons, List.all_cons]
      cases crate.load labelPrefix entry with
      | none => rfl
      | some loaded =>
          cases loaded with
          | none => exact induction merged
          | some hist => exact induction (crate.add merged hist)

theorem mergeDirFiltered_eq (labelPrefix : Option Text)
    (entries : List (Option (HdrEntry Encoded))) :
    crate.mergeDirFiltered labelPrefix entries =
      if entries.all fun entry => (crate.load labelPrefix entry).isSome then
        some (crate.addAll crate.empty (crate.selected labelPrefix entries))
      else none :=
  crate.foldlM_mergeStep labelPrefix entries crate.empty

theorem mergeDirFiltered_of_loads {labelPrefix : Option Text}
    {entries : List (Option (HdrEntry Encoded))}
    (loads : ∀ entry ∈ entries, (crate.load labelPrefix entry).isSome = true) :
    crate.mergeDirFiltered labelPrefix entries =
      some (crate.addAll crate.empty (crate.selected labelPrefix entries)) := by
  rw [mergeDirFiltered_eq, if_pos (List.all_eq_true.mpr loads)]

theorem len_addAll (hists : List Hist) (hist : Hist) :
    (crate.read (crate.addAll hist hists)).len =
      (crate.read hist).len + (hists.map fun other => (crate.read other).len).sum := by
  induction hists generalizing hist with
  | nil => rfl
  | cons other hists induction =>
      have step : crate.addAll hist (other :: hists) =
          crate.addAll (crate.add hist other) hists := rfl
      rw [step, induction, crate.len_add, List.map_cons, List.sum_cons, Nat.add_assoc]

theorem read_mergeDirFiltered_perm (labelPrefix : Option Text)
    {entries others : List (Option (HdrEntry Encoded))} (reordered : entries.Perm others) :
    (crate.mergeDirFiltered labelPrefix entries).map crate.read =
      (crate.mergeDirFiltered labelPrefix others).map crate.read := by
  rw [mergeDirFiltered_eq, mergeDirFiltered_eq, reordered.all_eq]
  split
  · have same := crate.read_addAll_perm (reordered.filterMap fun entry =>
      (crate.load labelPrefix entry).join) crate.empty
    exact congrArg some same
  · rfl

/-! ## The merge of the files that a fleet left -/

def mergeHists (hists : List Hist) : Option Histogram :=
  some (crate.read (crate.addAll crate.empty hists))

def fileEntries (files : List (HdrFile Hist)) : List (Option (HdrEntry Encoded)) :=
  files.map fun file => some ⟨file.name, some (crate.serialize file.content)⟩

theorem load_file (labelPrefix : Text) (file : HdrFile Hist) :
    crate.load (some labelPrefix) (some ⟨file.name, some (crate.serialize file.content)⟩) =
      if extension file.name = some "hdr".toList ∧
        labelPrefix.isPrefixOf (stem file.name) = true then some (some file.content)
      else some none := by
  have read : (some (crate.serialize file.content)).bind crate.deserialize =
      some file.content := crate.lossless file.content
  rw [load, read]
  by_cases isHdr : extension file.name = some "hdr".toList
  · by_cases begins : labelPrefix.isPrefixOf (stem file.name) = true
    · simp [isHdr, begins]
    · simp [isHdr, begins]
  · rw [if_pos isHdr, if_neg fun both => isHdr both.1]

/-- The coordinator's merge of the histograms is the merge of their files. -/
theorem mergeDirFiltered_files (labelPrefix : Text) (files : List (HdrFile Hist)) :
    Harness.mergeDirFiltered crate.mergeHists labelPrefix files =
      (crate.mergeDirFiltered (some labelPrefix) (crate.fileEntries files)).map
        crate.read := by
  have loads : ∀ entry ∈ crate.fileEntries files,
      (crate.load (some labelPrefix) entry).isSome = true := by
    intro entry member
    rcases List.mem_map.mp member with ⟨file, -, same⟩
    rw [← same, load_file]
    split <;> rfl
  have chosen : crate.selected (some labelPrefix) (crate.fileEntries files) =
      (files.filter fun file => extension file.name = some "hdr".toList &&
        labelPrefix.isPrefixOf (stem file.name)).map HdrFile.content := by
    rw [selected, fileEntries, List.filterMap_map, ← List.filterMap_eq_map,
      List.filterMap_filter]
    congr 1
    funext file
    rw [Function.comp_apply, load_file]
    simp only [Bool.and_eq_true, decide_eq_true_eq]
    split <;> rfl
  rw [crate.mergeDirFiltered_of_loads loads, chosen]
  rfl

/-! ## What is written -/

theorem stem_append {front after : Text} (nonempty : front ≠ []) (noDot : '.' ∉ after) :
    stem (front ++ '.' :: after) = front := by
  have length : (front ++ '.' :: after).length - after.length - 1 = front.length := by
    rw [List.length_append, List.length_cons]
    omega
  rw [stem, extension_append nonempty noDot]
  simp only [length]
  exact List.take_left

theorem hdrStem_ne_nil {label : Text} (labelled : label ≠ []) (podInstance : Option Text) :
    hdrStem podInstance label ≠ [] := by
  rw [hdrStem]
  split
  · simp
  · exact labelled

theorem isPrefixOf_hdrStem {start label : Text} (begins : start.isPrefixOf label = true)
    (podInstance : Option Text) : start.isPrefixOf (hdrStem podInstance label) = true := by
  rw [List.isPrefixOf_iff_prefix] at begins ⊢
  rw [hdrStem]
  split
  · exact begins.trans (List.prefix_append _ _)
  · exact begins

theorem load_emitHdr (labelPrefix podInstance : Option Text) {label : Text}
    (labelled : label ≠ []) (hist : Hist) :
    crate.load labelPrefix (some (crate.emitHdr podInstance hist label)) =
      if labelPrefix.all fun start => start.isPrefixOf (hdrStem podInstance label) then
        some (some hist)
      else some none := by
  have nonempty := hdrStem_ne_nil labelled podInstance
  have noDot : '.' ∉ "hdr".toList := by decide
  have named : (crate.emitHdr podInstance hist label).name =
      hdrStem podInstance label ++ '.' :: "hdr".toList := rfl
  have read : ((crate.emitHdr podInstance hist label).content.bind crate.deserialize) =
      some hist := crate.lossless hist
  rw [load, named, extension_append nonempty noDot, stem_append nonempty noDot, read]
  cases labelPrefix with
  | none => rfl
  | some start =>
      by_cases begins : start.isPrefixOf (hdrStem podInstance label) = true
      · simp [begins]
      · simp [begins]

theorem foldl_recordMicros (samples : List Nat) (hist : Hist) :
    samples.foldl crate.recordMicros hist =
      crate.recordAll hist (samples.map clampMicros) := by
  rw [BucketHistogram.recordAll, List.foldl_map]
  rfl

theorem podHist_eq (workers : List (List Nat)) :
    crate.podHist workers = crate.addAll crate.empty
      ((workers.map (List.map clampMicros)).map (crate.recordAll crate.empty)) := by
  rw [podHist, List.map_map]
  congr 1
  apply List.map_congr_left
  intro samples _
  exact crate.foldl_recordMicros samples crate.empty

end HdrCrate

/-! ## Samples spread over workers and pods -/

/-- One pod's run of a workload: the label it emits under, its instance, and the samples of
each of its workers. -/
structure EmittedRun where
  label : Text
  podInstance : Option Text
  workers : List (List Nat)

namespace HdrCrate

variable {Hist Encoded : Type} (crate : HdrCrate Hist Encoded)

def runFile (run : EmittedRun) : HdrEntry Encoded :=
  crate.emitHdr run.podInstance (crate.podHist run.workers) run.label

theorem mergeDirFiltered_runs {labelPrefix : Option Text} {runs : List EmittedRun}
    (labelled : ∀ run ∈ runs, run.label ≠ [] ∧
      labelPrefix.all fun start => start.isPrefixOf run.label) :
    crate.mergeDirFiltered labelPrefix (runs.map fun run => some (crate.runFile run)) =
      some (crate.addAll crate.empty (runs.map fun run => crate.podHist run.workers)) := by
  have loads : ∀ run ∈ runs, crate.load labelPrefix (some (crate.runFile run)) =
      some (some (crate.podHist run.workers)) := by
    intro run member
    rcases labelled run member with ⟨nonempty, begins⟩
    have passes : labelPrefix.all fun start =>
        start.isPrefixOf (hdrStem run.podInstance run.label) := by
      cases labelPrefix with
      | none => rfl
      | some start => exact isPrefixOf_hdrStem begins run.podInstance
    rw [runFile, crate.load_emitHdr labelPrefix run.podInstance nonempty, if_pos passes]
  have noneFails : ∀ entry ∈ runs.map fun run => some (crate.runFile run),
      (crate.load labelPrefix entry).isSome = true := by
    intro entry member
    rcases List.mem_map.mp member with ⟨run, inRuns, same⟩
    rw [← same, loads run inRuns]
    rfl
  have chosen : crate.selected labelPrefix (runs.map fun run => some (crate.runFile run)) =
      runs.map fun run => crate.podHist run.workers := by
    rw [selected, List.filterMap_map, ← List.filterMap_eq_map]
    apply List.filterMap_congr
    intro run member
    rw [Function.comp_apply, loads run member]
    rfl
  rw [crate.mergeDirFiltered_of_loads noneFails, chosen]

theorem read_mergeDirFiltered_runs {labelPrefix : Option Text} {runs : List EmittedRun}
    (labelled : ∀ run ∈ runs, run.label ≠ [] ∧
      labelPrefix.all fun start => start.isPrefixOf run.label)
    {samples : List Nat}
    (spread : (runs.flatMap fun run => run.workers.flatten).Perm samples) :
    (crate.mergeDirFiltered labelPrefix (runs.map fun run => some (crate.runFile run))).map
        crate.read =
      some (crate.read (samples.foldl crate.recordMicros crate.empty)) := by
  let groups := runs.map fun run => run.workers.map (List.map clampMicros)
  have clamped : (groups.map List.flatten).flatten.Perm (samples.map clampMicros) := by
    have flattened : (groups.map List.flatten).flatten =
        (runs.flatMap fun run => run.workers.flatten).map clampMicros := by
      rw [List.map_map, List.map_flatMap, List.flatMap]
      congr 1
      apply List.map_congr_left
      intro run _
      exact List.map_flatten.symm
    rw [flattened]
    exact spread.map clampMicros
  have hists : (runs.map fun run => crate.podHist run.workers) = groups.map fun parts =>
      crate.addAll crate.empty (parts.map (crate.recordAll crate.empty)) := by
    rw [List.map_map]
    apply List.map_congr_left
    intro run _
    exact crate.podHist_eq run.workers
  rw [crate.mergeDirFiltered_runs labelled, Option.map_some, hists,
    crate.read_spread clamped, foldl_recordMicros]

/-- The order in which the directories list their files makes no difference to the summary,
and neither does the spread of the samples over workers and pods to what is read from the
merged histogram. -/
theorem merge_order_independent (labelPrefix : Option Text) :
    (∀ (hdrDir otherHdrs : Option (List (Option (HdrEntry Encoded))))
        (resultsDir otherResults : Option (List DirEntry)),
      Option.Rel List.Perm hdrDir otherHdrs →
      Option.Rel List.Perm resultsDir otherResults →
      crate.mergeSummary labelPrefix hdrDir resultsDir =
        crate.mergeSummary labelPrefix otherHdrs otherResults) ∧
    (∀ (runs : List EmittedRun) (samples : List Nat)
        (listed : List (Option (HdrEntry Encoded))),
      (∀ run ∈ runs, run.label ≠ [] ∧
        labelPrefix.all fun start => start.isPrefixOf run.label) →
      (runs.flatMap fun run => run.workers.flatten).Perm samples →
      listed.Perm (runs.map fun run => some (crate.runFile run)) →
      (crate.mergeDirFiltered labelPrefix listed).map crate.read =
        some (crate.read (samples.foldl crate.recordMicros crate.empty))) := by
  constructor
  · intro hdrDir otherHdrs resultsDir otherResults hdrs results
    have histograms :
        (hdrDir.bind (crate.mergeDirFiltered labelPrefix)).map crate.read =
          (otherHdrs.bind (crate.mergeDirFiltered labelPrefix)).map crate.read := by
      cases hdrs with
      | none => rfl
      | some reordered => exact crate.read_mergeDirFiltered_perm labelPrefix reordered
    have headlines : scanHeadlines resultsDir = scanHeadlines otherResults := by
      cases results with
      | none => rfl
      | some reordered => exact scanHeadlines_perm reordered
    rw [mergeSummary, mergeSummary, mergeSummaryFiltered, mergeSummaryFiltered, histograms,
      headlines]
  · intro runs samples listed labelled spread reordered
    rw [crate.read_mergeDirFiltered_perm labelPrefix reordered]
    exact crate.read_mergeDirFiltered_runs labelled spread

end HdrCrate

/-! ## A library of histograms -/

/-- The layout for three significant digits: buckets of one microsecond up to 2048, then
1024 buckets for each doubling. -/
def bucketOf (micros : Nat) : Nat :=
  let doublings := Nat.log2 (micros ||| 2047) - 10
  doublings * 1024 + micros >>> doublings

def highestIn (index : Nat) : Nat :=
  let doublings := index / 1024 - 1
  (index - doublings * 1024 + 1) <<< doublings - 1

example : bucketOf 5000 = 3298 ∧ highestIn 3298 = 5003 := by decide

def valueAtQuantile (buckets : Multiset Nat) (quantile : ℚ) : Nat :=
  let rank := max 1 ⌈quantile * buckets.card⌉₊
  (buckets.sort (· ≤ ·))[rank - 1]?.elim 0 highestIn

def readBuckets (buckets : Multiset Nat) : Histogram where
  len := buckets.card
  p50 := valueAtQuantile buckets (1 / 2)
  p90 := valueAtQuantile buckets (9 / 10)
  p99 := valueAtQuantile buckets (99 / 100)
  p999 := valueAtQuantile buckets (999 / 1000)
  max := (buckets.sort (· ≤ ·)).getLast?.elim 0 highestIn

/-- Histograms as the buckets of their samples, written as they are. -/
def bucketCrate : HdrCrate (Multiset Nat) (Multiset Nat) where
  empty := 0
  record hist micros := bucketOf micros ::ₘ hist
  add hist other := hist + other
  read := readBuckets
  bucket := bucketOf
  count hist index := hist.count index
  count_empty := Multiset.count_zero
  count_record hist micros index := by
    rw [Multiset.count_cons]
    simp only [eq_comm]
  count_add hist other index := Multiset.count_add index hist other
  read_eq hist other same := by
    rw [Multiset.ext.mpr fun index => congrFun same index]
  serialize hist := hist
  deserialize := some
  lossless _ := rfl
  len_empty := rfl
  len_add := Multiset.card_add

def readsRuns : List EmittedRun :=
  [⟨"reads-7".toList, some "0".toList, [[1500], [900, 2500]]⟩,
    ⟨"reads-9".toList, some "1".toList, [[40]]⟩]

def readsDocument (backpressure : Nat) : Json := .obj (.ofList [
  ("scenario".toList, .str "reads".toList),
  ("counts".toList, .obj (.ofList [("backpressure".toList, .ofU64 backpressure)]))])

def readsResults : List DirEntry := [
  ⟨"reads-0.json".toList, some ((readsDocument 3).render .serdePretty 0)⟩,
  ⟨"reads-1.json".toList, some ((readsDocument 4).render .serdePretty 0)⟩]

theorem merge_order_independent_reads :
    (scanHeadlines (some readsResults)).readsBackpressure = 7 ∧
    bucketCrate.mergeSummary (some "reads-".toList)
        (some (readsRuns.map fun run => some (bucketCrate.runFile run)))
        (some readsResults) =
      bucketCrate.mergeSummary (some "reads-".toList)
        (some (readsRuns.map fun run => some (bucketCrate.runFile run)).reverse)
        (some readsResults.reverse) ∧
    (bucketCrate.mergeDirFiltered (some "reads-".toList)
        (readsRuns.map fun run => some (bucketCrate.runFile run)).reverse).map
          bucketCrate.read =
      some (bucketCrate.read
        ([40, 900, 1500, 2500].foldl bucketCrate.recordMicros bucketCrate.empty)) := by
  have independent := bucketCrate.merge_order_independent (some "reads-".toList)
  have reversed := (List.reverse_perm (readsRuns.map fun run =>
    some (bucketCrate.runFile run)))
  refine ⟨by decide +kernel, ?_, ?_⟩
  · exact independent.1 _ _ _ _ (.some reversed.symm)
      (.some (List.reverse_perm readsResults).symm)
  · apply independent.2 readsRuns [40, 900, 1500, 2500] _ _ _ reversed
    · intro run member
      simp only [readsRuns, List.mem_cons, List.not_mem_nil, or_false] at member
      rcases member with first | second
      · rw [first]
        decide
      · rw [second]
        decide
    · decide

end DsBench.Harness
