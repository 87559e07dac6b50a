import DsBench.Foundation.AssembledJson
import DsBench.Harness.CellRecorders
import DsBench.Harness.FleetReading
import DsBench.Workloads.MixedResult
import Mathlib.Algebra.BigOperators.Fin

/-! # Fleets that lose pods

A pod that fails uploads nothing, or a part of its files; a crashed one uploads the empty file
that its result was to be printed to. Before a fleet of the reads, catch-up or mixed workload
the prefix of its run is not cleared, so files that an earlier fleet left there are merged
too, unless a file of the same name replaces them. The recorders accept or reject the merged
output without comparing the pods it was merged from with those configured.
-/

namespace DsBench.Harness

open DsBench.Merge

/-! ## What reaches the coordinator -/

/-- A histogram file as a pod writes it; what is in it is left open. -/
structure HdrFile (Hdr : Type) where
  name : Text
  content : Hdr

structure Upload (Hdr Result : Type) where
  hdrs : List (HdrFile Hdr)
  result : Result

/-- A result file. The result is printed at the end of the run, so that of a run that crashed
is empty. -/
inductive ResultFile (Result : Type) where
  | missing
  | empty
  | printed (result : Result)

namespace ResultFile

variable {Result : Type}

def text (printer : Result → Text) : ResultFile Result → Option Text
  | .missing => none
  | .empty => some []
  | .printed result => some (printer result)

def result : ResultFile Result → Option Result
  | .missing => none
  | .empty => none
  | .printed result => some result

def onto (file before : ResultFile Result) : ResultFile Result :=
  match file with
  | .missing => before
  | .empty => .empty
  | .printed result => .printed result

end ResultFile

/-- What a pod uploads: all files of its run, or a part of what a failed run leaves. -/
inductive Delivery (Hdr Result : Type) where
  | whole (upload : Upload Hdr Result)
  | broken (hdrs : List (HdrFile Hdr)) (file : ResultFile Result)

namespace Delivery

variable {Hdr Result : Type}

def hdrs : Delivery Hdr Result → List (HdrFile Hdr)
  | .whole upload => upload.hdrs
  | .broken hdrs _ => hdrs

def file : Delivery Hdr Result → ResultFile Result
  | .whole upload => .printed upload.result
  | .broken _ file => file

end Delivery

def layOver {Hdr : Type} (fresh before : List (HdrFile Hdr)) : List (HdrFile Hdr) :=
  fresh ++ before.filter fun file => !(fresh.map HdrFile.name).contains file.name

/-- A fleet with what each of its pods uploads and what earlier fleets have left under the
prefix of its run, and the orders in which the coordinator lists the directory it downloads
the prefix to: the histograms, the results as `read_dir` lists them, and as the shell does. -/
structure Fleet (Hdr Result : Type) where
  pods : Nat
  deliveries : Fin pods → Delivery Hdr Result
  leftHdrs : List (HdrFile Hdr)
  leftResults : Fin pods → ResultFile Result
  hdrDir : List (HdrFile Hdr)
  hdrDirAll : hdrDir.Perm
    (layOver ((List.finRange pods).flatMap fun pod => (deliveries pod).hdrs) leftHdrs)
  listed : List (Fin pods)
  listedAll : listed.Perm (List.finRange pods)
  globbed : List (Fin pods)
  globbedAll : globbed.Perm (List.finRange pods)

namespace Fleet

variable {Hdr Result : Type}

def resultFile (fleet : Fleet Hdr Result) (pod : Fin fleet.pods) : ResultFile Result :=
  (fleet.deliveries pod).file.onto (fleet.leftResults pod)

def scanned (fleet : Fleet Hdr Result) : List Result :=
  fleet.listed.filterMap fun pod => (fleet.resultFile pod).result

def results (fleet : Fleet Hdr Result) : List Result :=
  fleet.globbed.filterMap fun pod => (fleet.resultFile pod).result

/-- How many files `mc ls` counts under the prefix. -/
def fileCount (fleet : Fleet Hdr Result) : Nat :=
  fleet.hdrDir.length +
    (fleet.listed.filter fun pod => ((fleet.resultFile pod).text fun _ => []).isSome).length

/-- The merged output has the results of all pods of the fleet. -/
def Complete (fleet : Fleet Hdr Result) : Prop :=
  ∀ pod, ∃ upload, fleet.deliveries pod = .whole upload

def countSum (fleet : Fleet Hdr Result) (count : Result → Nat) : Nat :=
  ∑ pod, (fleet.resultFile pod).result.elim 0 count

theorem sum_listing (fleet : Fleet Hdr Result) (count : Result → Nat)
    {listing : List (Fin fleet.pods)} (all : listing.Perm (List.finRange fleet.pods)) :
    ((listing.filterMap fun pod => (fleet.resultFile pod).result).map count).sum =
      fleet.countSum count := by
  have summed : ∀ pods : List (Fin fleet.pods),
      ((pods.filterMap fun pod => (fleet.resultFile pod).result).map count).sum =
        (pods.map fun pod => (fleet.resultFile pod).result.elim 0 count).sum := by
    intro pods
    induction pods with
    | nil => rfl
    | cons pod pods induction =>
        rw [List.filterMap_cons, List.map_cons, List.sum_cons, ← induction]
        cases (fleet.resultFile pod).result with
        | none => exact (Nat.zero_add _).symm
        | some result => rfl
  rw [countSum, Fin.sum_univ_def, ← summed]
  exact ((all.filterMap _).map count).sum_eq

theorem scanned_perm (fleet : Fleet Hdr Result) : fleet.scanned.Perm fleet.results :=
  (fleet.listedAll.trans fleet.globbedAll.symm).filterMap _

/-- Whatever an earlier fleet left, each pod of a complete one has its own result merged. -/
theorem resultFile_of_complete {fleet : Fleet Hdr Result} (complete : fleet.Complete)
    (pod : Fin fleet.pods) : ∃ upload, fleet.deliveries pod = .whole upload ∧
      fleet.resultFile pod = .printed upload.result := by
  rcases complete pod with ⟨upload, whole⟩
  refine ⟨upload, whole, ?_⟩
  rw [resultFile, whole]
  rfl

theorem length_scanned {fleet : Fleet Hdr Result} (complete : fleet.Complete) :
    fleet.scanned.length = fleet.pods := by
  have all : fleet.scanned.length = fleet.listed.length := by
    apply List.filterMap_length_eq_length.mpr
    intro pod _
    rcases resultFile_of_complete complete pod with ⟨upload, -, printed⟩
    rw [printed]
    rfl
  rw [all, fleet.listedAll.length_eq, List.length_finRange]

theorem fileCount_pos {fleet : Fleet Hdr Result} (some_result : fleet.scanned ≠ []) :
    fleet.fileCount ≠ 0 := by
  rcases List.exists_mem_of_ne_nil _ some_result with ⟨result, member⟩
  rcases List.mem_filterMap.mp member with ⟨pod, listed, printed⟩
  have present : pod ∈ fleet.listed.filter fun pod =>
      ((fleet.resultFile pod).text fun _ => []).isSome := by
    apply List.mem_filter.mpr
    refine ⟨listed, ?_⟩
    cases file : fleet.resultFile pod with
    | missing =>
        rw [file] at printed
        cases printed
    | empty => rfl
    | printed result => rfl
  have counted := List.length_pos_of_mem present
  rw [fileCount]
  omega

end Fleet

/-! ## The coordinator -/

/-- What `mc` prints before the merge. -/
structure Chatter where
  text : Text
  noBrace : '{' ∉ text
  noQuote : '"' ∉ text

def noResults : Text :=
  "\x7b\"error\":\"no_client_results_uploaded\",".toList ++
    "\"merged_count\":0,\"collected_files\":0\x7d\n".toList

section

variable {Hdr Result : Type} (mergeHdrs : List Hdr → Option Histogram) (chatter : Chatter)

/-- `Path::file_stem`: what stands before the last dot. -/
def stem (name : Text) : Text :=
  match extension name with
  | none => name
  | some after => name.take (name.length - after.length - 1)

/-- `merge_dir_filtered`: the histograms under the label. -/
def mergeDirFiltered (labelPrefix : Text) (files : List (HdrFile Hdr)) : Option Histogram :=
  mergeHdrs ((files.filter fun file =>
    extension file.name = some "hdr".toList && labelPrefix.isPrefixOf (stem file.name)).map
      HdrFile.content)

/-- `ds-bench hdr-merge` on the standard output: nothing where the merge fails. -/
def hdrMerge (labelPrefix : Text) (resultsDir : Option (List DirEntry))
    (files : List (HdrFile Hdr)) : Text :=
  match mergeSummaryFiltered (mergeDirFiltered mergeHdrs labelPrefix files) resultsDir with
  | none => []
  | some summary => summary.print

variable (fleet : Fleet Hdr Result)

def coordinator (mergeCmd : Fleet Hdr Result → Text) : Text :=
  if fleet.fileCount = 0 then chatter.text ++ noResults else chatter.text ++ mergeCmd fleet

def resultEntries (outPrefix : Text) (printer : Result → Text) : List DirEntry :=
  fleet.listed.filterMap fun pod => ((fleet.resultFile pod).text printer).map fun text =>
    ⟨resultName outPrefix pod, some text⟩

def plainMerge (outPrefix labelPrefix : Text) (printer : Result → Text) : Text :=
  hdrMerge mergeHdrs labelPrefix (some (resultEntries fleet outPrefix printer)) fleet.hdrDir

end

theorem documents_of_parsed {Hdr Result : Type} (fleet : Fleet Hdr Result) (outPrefix : Text)
    {printer : Result → Text} {toJson : Result → Json}
    (parsed : ∀ result, loads (printer result) = some (toJson result)) :
    (resultEntries fleet outPrefix printer).filterMap DirEntry.document =
      fleet.scanned.map toJson := by
  rw [resultEntries, List.filterMap_filterMap, Fleet.scanned, List.map_filterMap]
  congr 1
  funext pod
  have isJson : extension (resultName outPrefix pod) = some "json".toList :=
    extension_resultName outPrefix pod
  cases fleet.resultFile pod with
  | missing => rfl
  | empty =>
      simp only [ResultFile.text, Option.map_some, Option.bind_some, DirEntry.document,
        if_pos isJson]
      rfl
  | printed result =>
      simp only [ResultFile.text, Option.map_some, Option.bind_some, DirEntry.document,
        if_pos isJson, parsed]
      rfl

/-! ## What `grep` finds in a printed summary -/

def fieldHead (name : String) : Text := '"' :: (name.toList ++ ['"', ':', ' '])

def fieldLines (fields : List (String × Number)) (rest : Text) : Text :=
  fields.foldr (fun field text =>
    indentation 1 ++ (fieldHead field.1 ++ (field.2.render ++ (',' :: text)))) rest

def linesBeforeP99 (summary : MergeSummary) : List (String × Number) := [
  ("merged_count", .int summary.mergedCount), ("p50_ms", .ofRat summary.p50Ms),
  ("p90_ms", .ofRat summary.p90Ms)]

theorem print_shape (summary : MergeSummary) :
    ∃ rest, summary.print = '{' :: fieldLines (linesBeforeP99 summary)
      (indentation 1 ++ (fieldHead "p99_ms" ++
        ((Number.ofRat summary.p99Ms).render ++ (',' :: rest)))) := by
  rw [MergeSummary.print, MergeSummary.toJson, MergeSummary.members, MergeSummary.fields,
    Members.ofFields]
  simp only [List.filterMap_cons, Option.map_some]
  simp only [Members.ofList, Json.render, Members.render, Json.ofU64, Json.ofF64]
  simp only [List.cons_append, List.append_assoc]
  simp only [fieldLines, linesBeforeP99, List.foldr_cons, List.foldr_nil]
  exact ⟨_, rfl⟩

theorem noQuote_render (number : Number) : '"' ∉ number.render := by
  intro member
  rcases mem_render_number member with digit | minus | point
  · cases digit
  · cases minus
  · cases point

theorem isNumberChar_render {value : ℚ} (nonneg : 0 ≤ value) :
    ∀ character ∈ (Number.ofRat value).render, isNumberChar character = true := by
  have unsigned : ¬ round (value * 10 ^ decimalPlaces value) < 0 := by
    rw [not_lt, round_eq]
    apply Int.floor_nonneg.mpr
    positivity
  intro character member
  rw [Number.ofRat, Number.render, if_neg unsigned] at member
  rw [isNumberChar, Bool.or_eq_true]
  rcases List.mem_append.mp member with whole | rest
  · exact .inl (isDigit_of_mem_decimal whole)
  · rcases List.mem_cons.mp rest with point | fraction
    · exact .inr (decide_eq_true point)
    · exact .inl (isDigit_of_mem_padded fraction)

theorem takeWhile_number {value rest : Text}
    (numeric : ∀ character ∈ value, isNumberChar character = true) :
    (value ++ ',' :: rest).takeWhile isNumberChar = value := by
  rw [List.takeWhile_append_of_pos numeric, List.takeWhile_cons_of_neg (by decide),
    List.append_nil]

theorem signedNumber_unsigned {value rest : Text}
    (numeric : ∀ character ∈ value, isNumberChar character = true) (nonempty : value ≠ []) :
    signedNumber (value ++ ',' :: rest) = value := by
  cases value with
  | nil => exact (nonempty rfl).elim
  | cons first others =>
      have noSign : first ≠ '-' := by
        intro sign
        have digit := numeric first List.mem_cons_self
        rw [sign] at digit
        cases digit
      rw [signedNumber.eq_def]
      split
      · rename_i same
        exact (noSign (List.cons.inj same).1).elim
      · exact takeWhile_number numeric

theorem firstMatch_fieldHead {number : Text → Text} {key name : String} {value : Text}
    (noQuote : '"' ∉ key.toList) (noColon : key.toList.head? ≠ some ':') (nonempty : key ≠ "")
    (nameNoQuote : '"' ∉ name.toList) (other : name.toList ≠ key.toList)
    (valueNoQuote : '"' ∉ value) (rest : Text) :
    firstMatch (fieldMatch number key) (fieldHead name ++ (value ++ (',' :: rest))) =
      firstMatch (fieldMatch number key) rest := by
  have shape : fieldHead name ++ (value ++ (',' :: rest)) =
      '"' :: (name.toList ++ '"' :: ':' :: ((' ' :: (value ++ [','])) ++ rest)) := by
    simp [fieldHead]
  rw [shape]
  apply firstMatch_other_field noQuote noColon nonempty nameNoQuote other
  simpa using valueNoQuote

theorem render_head_opens (number : Number) :
    ∀ character ∈ number.render.head?, character ≠ ':' ∧ character ≠ ' ' := by
  intro character opens
  rcases number.render_head with ⟨first, tail, head, begins⟩
  rw [head, List.head?_cons] at opens
  cases opens
  rcases begins with digit | minus
  · constructor
    · intro colon
      rw [colon] at digit
      cases digit
    · intro blank
      rw [blank] at digit
      cases digit
  · rw [minus]
    decide

theorem firstMatch_fieldLines {number : Text → Text} {key : String}
    (noQuote : '"' ∉ key.toList) (noColon : key.toList.head? ≠ some ':') (nonempty : key ≠ "")
    {fields : List (String × Number)}
    (others : ∀ name ∈ fields.map Prod.fst, '"' ∉ name.toList ∧ name.toList ≠ key.toList)
    (rest : Text) :
    firstMatch (fieldMatch number key) (fieldLines fields rest) =
      firstMatch (fieldMatch number key) rest := by
  induction fields with
  | nil => rfl
  | cons field fields induction =>
      have blanks : '"' ∉ indentation 1 := by decide
      rcases others field.1 List.mem_cons_self with ⟨nameNoQuote, other⟩
      have unfolded : fieldLines (field :: fields) rest = indentation 1 ++
          (fieldHead field.1 ++ (field.2.render ++ (',' :: fieldLines fields rest))) := rfl
      rw [unfolded, firstMatch_skip blanks, firstMatch_fieldHead noQuote noColon nonempty
        nameNoQuote other (noQuote_render field.2)]
      exact induction fun name member => others name (List.mem_cons_of_mem _ member)

/-- A number printed after other fields is what `grep` finds behind the chatter. -/
theorem firstMatch_printed {number : Text → Text} {key : String} (chatter : Chatter)
    (noQuote : '"' ∉ key.toList) (noColon : key.toList.head? ≠ some ':') (nonempty : key ≠ "")
    {fields : List (String × Number)}
    (others : ∀ name ∈ fields.map Prod.fst, '"' ∉ name.toList ∧ name.toList ≠ key.toList)
    {value : Number} {rest : Text} (takes : number (value.render ++ rest) = value.render) :
    firstMatch (fieldMatch number key) (chatter.text ++ '{' :: fieldLines fields
        (indentation 1 ++ (fieldHead key ++ (value.render ++ rest)))) = some value.render := by
  have brace : '"' ∉ ['{'] := by decide
  have blanks : '"' ∉ indentation 1 := by decide
  have same : fieldHead key ++ (value.render ++ rest) =
      '"' :: (key.toList ++ '"' :: ':' :: ' ' :: (value.render ++ rest)) := by
    simp [fieldHead]
  rw [firstMatch_skip chatter.noQuote, ← List.singleton_append, firstMatch_skip brace,
    firstMatch_fieldLines noQuote noColon nonempty others, firstMatch_skip blanks, same]
  apply firstMatch_field takes
  · rcases value.render_head with ⟨first, tail, head, -⟩
    rw [head]
    exact List.cons_ne_nil first tail
  · exact render_head_opens value

/-- The p99 of a summary is what `grep` finds behind the chatter. -/
theorem firstMatch_p99 {number : Text → Text} (chatter : Chatter) (summary : MergeSummary)
    (takes : ∀ rest, number ((Number.ofRat summary.p99Ms).render ++ ',' :: rest) =
      (Number.ofRat summary.p99Ms).render) :
    firstMatch (fieldMatch number "p99_ms") (chatter.text ++ summary.print) =
      some (Number.ofRat summary.p99Ms).render := by
  rcases print_shape summary with ⟨rest, shape⟩
  have named : (linesBeforeP99 summary).map Prod.fst = ["merged_count", "p50_ms", "p90_ms"] :=
    rfl
  have others : ∀ name ∈ (linesBeforeP99 summary).map Prod.fst,
      '"' ∉ name.toList ∧ name.toList ≠ "p99_ms".toList := by
    rw [named]
    decide
  rw [shape]
  exact firstMatch_printed chatter (by decide) (by decide) (by decide) others (takes rest)

/-! ## Reads and catch-up -/

section

variable {Hdr Result : Type} (mergeHdrs : List Hdr → Option Histogram) (chatter : Chatter)
  (printer : Result → Text) (fleet : Fleet Hdr Result)

def plainOutput (outPrefix labelPrefix : Text) : Text :=
  coordinator chatter fleet fun fleet =>
    plainMerge mergeHdrs fleet outPrefix labelPrefix printer

/-- One connection level of `run_reads_cell`. -/
def runReadsLevel (connections : Nat) : ReadsEntry :=
  recordReadsCell
    (some (plainOutput mergeHdrs chatter printer fleet "reads".toList "reads-".toList))
    connections

/-- `run_catchup_cell` on what its fleet leaves. -/
def runCatchupFleet (settings : CatchupSettings) : CatchupRecord :=
  runCatchupCell settings
    (some (plainOutput mergeHdrs chatter printer fleet "catchup".toList "bootstrap-".toList))

/-- What is under the prefix has, merged, a 99th percentile above zero. -/
def Fleet.SawLatency (labelPrefix : Text) : Prop :=
  fleet.fileCount ≠ 0 ∧ ∃ histogram,
    mergeDirFiltered mergeHdrs labelPrefix fleet.hdrDir = some histogram ∧ 0 < histogram.p99

variable {mergeHdrs chatter printer fleet}

theorem ms_mem_decimals (micros : Nat) : ms micros ∈ decimals := by
  apply mem_decimals_of_scaled 3 micros
  rw [ms]
  norm_num

theorem floatOr_render (number : Number) (fallback : String) :
    floatOr (some number.render) fallback = some number.toRat := by
  rw [floatOr, Option.getD_some, (isWord_render number).orDefault, readFloat_render]

theorem floatOr_p99_pos_iff {number : Text → Text} (outPrefix labelPrefix : Text)
    (takes : ∀ {value rest : Text},
      (∀ character ∈ value, isNumberChar character = true) → value ≠ [] →
        number (value ++ ',' :: rest) = value)
    (missing : firstMatch (fieldMatch number "p99_ms") noResults = none) :
    (∃ p99, floatOr (firstMatch (fieldMatch number "p99_ms")
        (plainOutput mergeHdrs chatter printer fleet outPrefix labelPrefix)) "None" =
          some p99 ∧ 0 < p99) ↔
      fleet.SawLatency mergeHdrs labelPrefix := by
  have absent : floatOr none "None" = none := by decide +kernel
  rw [plainOutput, coordinator, Fleet.SawLatency]
  by_cases none_left : fleet.fileCount = 0
  · rw [if_pos none_left, firstMatch_skip chatter.noQuote, missing, absent]
    simp [none_left]
  · rw [if_neg none_left, plainMerge, hdrMerge, mergeSummaryFiltered]
    cases merge : mergeDirFiltered mergeHdrs labelPrefix fleet.hdrDir with
    | none =>
        rw [Option.map_none]
        simp only
        rw [firstMatch_skip chatter.noQuote, firstMatch, absent]
        simp
    | some histogram =>
        rw [Option.map_some]
        simp only
        have nonneg : (0 : ℚ) ≤ ms histogram.p99 := by
          rw [ms]
          positivity
        have p99 : ∀ acc : HeadlineAcc, (acc.summarize histogram).p99Ms = ms histogram.p99 :=
          fun _ => rfl
        rw [firstMatch_p99, floatOr_render]
        · rw [p99, Number.toRat_ofRat (ms_mem_decimals _)]
          have positive : 0 < ms histogram.p99 ↔ 0 < histogram.p99 := by
            rw [ms]
            constructor
            · intro above
              by_contra zero
              simp [Nat.eq_zero_of_not_pos zero] at above
            · intro above
              positivity
          simp [none_left, positive]
        · intro rest
          rw [p99]
          apply takes (isNumberChar_render nonneg)
          rcases (Number.ofRat (ms histogram.p99)).render_head with ⟨first, tail, head, -⟩
          rw [head]
          exact List.cons_ne_nil _ _

theorem runReadsLevel_ok_iff (connections : Nat) :
    (runReadsLevel mergeHdrs chatter printer fleet connections).status = .ok ↔
      fleet.SawLatency mergeHdrs "reads-".toList := by
  rw [runReadsLevel, recordReadsCell_ok_iff]
  exact floatOr_p99_pos_iff _ _ signedNumber_unsigned (by decide +kernel)

theorem runCatchupFleet_ok_iff (settings : CatchupSettings) :
    (runCatchupFleet mergeHdrs chatter printer fleet settings).status = .ok ↔
      fleet.SawLatency mergeHdrs "bootstrap-".toList := by
  rw [runCatchupFleet, runCatchupCell_ok_iff, cuField, Option.bind_some, grepField_eq]
  exact floatOr_p99_pos_iff _ _ (fun numeric _ => takeWhile_number numeric)
    (by decide +kernel)

end

/-! ## Mixed -/

section

variable {Hdr : Type} (mergeHdrs : List Hdr → Option Histogram) (chatter : Chatter)

variable (fleet : Fleet Hdr Workloads.MixedResult)

def catResults : Text :=
  List.intercalate [','] (fleet.globbed.filterMap fun pod =>
    (fleet.resultFile pod).text Workloads.MixedResult.print)

/-- `MIXED_MERGE_CMD`: three merges and the result files in one document. The last line
feed is the one `merged.json` is stored with. -/
def mixedMerge : Text :=
  let entries := resultEntries fleet "mixed".toList Workloads.MixedResult.print
  "\x7b\"write\":".toList ++
    (hdrMerge mergeHdrs "mixed-write-".toList (some entries) fleet.hdrDir ++
    (",\"fanout\":".toList ++
    (hdrMerge mergeHdrs "mixed-fanout-".toList none fleet.hdrDir ++
    (",\"read\":".toList ++
    (hdrMerge mergeHdrs "mixed-read-".toList none fleet.hdrDir ++
    (",\"pods\":[".toList ++ (catResults fleet ++ "]\x7d\n".toList)))))))

def mixedOutput : Text := coordinator chatter fleet (mixedMerge mergeHdrs)

/-- One level of `run_mixed_cell`. -/
def runMixedLevel (load : MixedLoad) : MixedEntry :=
  recordMerged (some (mixedOutput mergeHdrs chatter fleet)) load

def mixedLabels : List Text :=
  ["mixed-write-".toList, "mixed-fanout-".toList, "mixed-read-".toList]

def Fleet.Merges : Prop :=
  ∀ labelPrefix ∈ mixedLabels,
    (mergeDirFiltered mergeHdrs labelPrefix fleet.hdrDir).isSome = true

/-- No result file under the prefix is that of a crashed run. -/
def Fleet.NoneEmpty : Prop := ∀ pod, fleet.resultFile pod ≠ .empty

/-- What is under the prefix shows, together, all the traffic that was configured. -/
def Fleet.SawTraffic (load : MixedLoad) : Prop :=
  fleet.Merges mergeHdrs ∧ fleet.NoneEmpty ∧
    SeesTraffic load
      (fleet.results.map fun result => (result.writeCounts.ok : ℚ)).sum
      (fleet.results.map fun result => (result.readCounts.ok : ℚ)).sum
      (fleet.results.map fun result => (result.eventsReceived : ℚ)).sum

/-! ### The composite document -/

def summaryPiece (summary : MergeSummary) : Piece :=
  .rendered .serdePretty summary.toJson ['\n'] rfl

def resultPiece (result : Workloads.MixedResult) : Piece :=
  .rendered .serdePretty result.toJson ['\n'] rfl

def composite (write fanout read : MergeSummary) (results : List Workloads.MixedResult) :
    Piece :=
  .object .serdePretty [("write".toList, summaryPiece write),
    ("fanout".toList, summaryPiece fanout), ("read".toList, summaryPiece read),
    ("pods".toList, .array (results.map resultPiece))]

theorem itemsAfter_eq (pieces : List Piece) :
    Piece.itemsAfter pieces = pieces.flatMap (fun piece => ',' :: piece.text) ++ [']'] := by
  induction pieces with
  | nil => rfl
  | cons piece pieces induction =>
      rw [Piece.itemsAfter, induction]
      simp

theorem intercalate_cons (first : Text) (others : List Text) :
    List.intercalate [','] (first :: others) =
      first ++ others.flatMap fun other => ',' :: other := by
  induction others generalizing first with
  | nil => simp
  | cons next others induction =>
      rw [List.intercalate_cons_cons, induction]
      simp

theorem arrayText_eq (results : List Workloads.MixedResult) :
    Piece.arrayText (results.map resultPiece) =
      '[' :: (List.intercalate [','] (results.map fun result => result.print) ++ [']']) := by
  cases results with
  | nil => rfl
  | cons first others =>
      rw [List.map_cons, List.map_cons, Piece.arrayText, itemsAfter_eq, intercalate_cons,
        List.flatMap_map, List.flatMap_map, List.append_assoc]
      rfl

variable {mergeHdrs chatter fleet}

theorem marker_head : ∃ rest, marker = '{' :: rest := ⟨"\"write\":".toList, by decide⟩

theorem fromMarker_skip {front : Text} (noBrace : '{' ∉ front) (rest : Text) :
    fromMarker (front ++ rest) = fromMarker rest := by
  induction front with
  | nil => rfl
  | cons character front induction =>
      rw [List.mem_cons, not_or] at noBrace
      have noMarker : marker.isPrefixOf (character :: (front ++ rest)) = false := by
        rw [Bool.eq_false_iff]
        intro begins
        rcases marker_head with ⟨tail, head⟩
        have same := List.isPrefixOf_iff_prefix.mp begins
        rw [head, List.cons_prefix_cons] at same
        exact noBrace.1 same.1
      rw [List.cons_append, fromMarker, noMarker]
      exact induction noBrace.2

theorem fromMarker_marker (rest : Text) :
    fromMarker (marker ++ rest) = some (marker ++ rest) := by
  rcases marker_head with ⟨tail, head⟩
  have begins : marker.isPrefixOf (marker ++ rest) = true :=
    List.isPrefixOf_iff_prefix.mpr (List.prefix_append _ _)
  rw [head, List.cons_append] at begins ⊢
  rw [fromMarker, head, if_pos begins]

/-! ### The text as pieces -/

theorem keys_quoted :
    marker = '{' :: (Layout.serdePretty.quote "write".toList ++ [':']) ∧
      ",\"fanout\":".toList = ',' :: (Layout.serdePretty.quote "fanout".toList ++ [':']) ∧
      ",\"read\":".toList = ',' :: (Layout.serdePretty.quote "read".toList ++ [':']) ∧
      ",\"pods\":[".toList = ',' :: (Layout.serdePretty.quote "pods".toList ++ [':', '[']) ∧
      "]\x7d\n".toList = [']', '}', '\n'] := by
  decide +kernel

theorem summaryPiece_text (summary : MergeSummary) :
    (summaryPiece summary).text = summary.print := rfl

theorem composite_text (write fanout read : MergeSummary)
    (results : List Workloads.MixedResult) :
    (composite write fanout read results).text =
      '{' :: (Layout.serdePretty.quote "write".toList ++ ':' :: (write.print ++
      (',' :: (Layout.serdePretty.quote "fanout".toList ++ ':' :: (fanout.print ++
      (',' :: (Layout.serdePretty.quote "read".toList ++ ':' :: (read.print ++
      (',' :: (Layout.serdePretty.quote "pods".toList ++
        ':' :: (Piece.arrayText (results.map resultPiece) ++ ['}']))))))))))) := by
  have pods : (Piece.array (results.map resultPiece)).text =
      Piece.arrayText (results.map resultPiece) := List.append_nil _
  rw [composite, Piece.text, Piece.object]
  simp only [Piece.objectText, Piece.membersAfter, summaryPiece_text, pods, List.append_nil]

theorem mixedMerge_def :
    mixedMerge mergeHdrs fleet =
      marker ++ (hdrMerge mergeHdrs "mixed-write-".toList
        (some (resultEntries fleet "mixed".toList Workloads.MixedResult.print))
        fleet.hdrDir ++
      (",\"fanout\":".toList ++
      (hdrMerge mergeHdrs "mixed-fanout-".toList none fleet.hdrDir ++
      (",\"read\":".toList ++
      (hdrMerge mergeHdrs "mixed-read-".toList none fleet.hdrDir ++
      (",\"pods\":[".toList ++ (catResults fleet ++ "]\x7d\n".toList))))))) := rfl

theorem catResults_printed (noneEmpty : fleet.NoneEmpty) :
    catResults fleet =
      List.intercalate [','] (fleet.results.map fun result => result.print) := by
  rw [catResults, Fleet.results, List.map_filterMap]
  congr 2
  funext pod
  cases file : fleet.resultFile pod with
  | missing => rfl
  | empty => exact (noneEmpty pod file).elim
  | printed result => rfl

theorem mixedMerge_eq {write fanout read : MergeSummary} (noneEmpty : fleet.NoneEmpty)
    (writes : hdrMerge mergeHdrs "mixed-write-".toList
      (some (resultEntries fleet "mixed".toList Workloads.MixedResult.print))
      fleet.hdrDir = write.print)
    (fans : hdrMerge mergeHdrs "mixed-fanout-".toList none fleet.hdrDir = fanout.print)
    (reads : hdrMerge mergeHdrs "mixed-read-".toList none fleet.hdrDir = read.print) :
    mixedMerge mergeHdrs fleet =
      (composite write fanout read fleet.results).text ++ ['\n'] := by
  rcases keys_quoted with ⟨writeKey, fanoutKey, readKey, podsKey, closing⟩
  rw [composite_text, arrayText_eq, mixedMerge_def, writes, fans, reads,
    catResults_printed noneEmpty, writeKey, fanoutKey, readKey, podsKey, closing]
  simp

theorem parseMerged_mixedMerge (chatter : Chatter) :
    parseMerged (chatter.text ++ mixedMerge mergeHdrs fleet) =
      loads (mixedMerge mergeHdrs fleet) := by
  have found := fromMarker_skip chatter.noBrace (mixedMerge mergeHdrs fleet)
  rw [parseMerged, found, mixedMerge_def, fromMarker_marker, Option.bind_some]

theorem parseMerged_composite {write fanout read : MergeSummary}
    (noneEmpty : fleet.NoneEmpty)
    (writes : hdrMerge mergeHdrs "mixed-write-".toList
      (some (resultEntries fleet "mixed".toList Workloads.MixedResult.print))
      fleet.hdrDir = write.print)
    (fans : hdrMerge mergeHdrs "mixed-fanout-".toList none fleet.hdrDir = fanout.print)
    (reads : hdrMerge mergeHdrs "mixed-read-".toList none fleet.hdrDir = read.print) :
    parseMerged (chatter.text ++ mixedMerge mergeHdrs fleet) =
      some (composite write fanout read fleet.results).value := by
  have lineFeed : ['\n'].all isBlank = true := rfl
  rw [parseMerged_mixedMerge, mixedMerge_eq noneEmpty writes fans reads]
  exact Piece.loads_text _ lineFeed

theorem hdrMerge_cases (labelPrefix : Text) (resultsDir : Option (List DirEntry))
    (files : List (HdrFile Hdr)) :
    (mergeDirFiltered mergeHdrs labelPrefix files).isSome = true ∧
        (∃ summary, hdrMerge mergeHdrs labelPrefix resultsDir files =
          MergeSummary.print summary) ∨
      (mergeDirFiltered mergeHdrs labelPrefix files).isSome = false ∧
        hdrMerge mergeHdrs labelPrefix resultsDir files = [] := by
  rw [hdrMerge, mergeSummaryFiltered]
  cases mergeDirFiltered mergeHdrs labelPrefix files with
  | none => exact .inr ⟨rfl, rfl⟩
  | some histogram => exact .inl ⟨rfl, _, rfl⟩

theorem Fleet.Merges.printed (merges : fleet.Merges mergeHdrs) {labelPrefix : Text}
    (label : labelPrefix ∈ mixedLabels) (resultsDir : Option (List DirEntry)) :
    ∃ summary, hdrMerge mergeHdrs labelPrefix resultsDir fleet.hdrDir =
      MergeSummary.print summary := by
  rcases hdrMerge_cases labelPrefix resultsDir fleet.hdrDir with
    ⟨-, summary, shown⟩ | ⟨fails, -⟩
  · exact ⟨summary, shown⟩
  · rw [merges labelPrefix label] at fails
    cases fails

theorem loads_broken {rest : Text}
    (unreadable : Piece.Unreadable (Layout.serdePretty.quote "write".toList ++ rest)) :
    loads ('{' :: (Layout.serdePretty.quote "write".toList ++ rest)) = none := by
  rw [Layout.quote, List.cons_append] at unreadable ⊢
  exact Piece.loads_unreadable unreadable

/-- Without one of the merges the composite is no document. -/
theorem parseMerged_missing (missing : ¬ fleet.Merges mergeHdrs) :
    parseMerged (chatter.text ++ mixedMerge mergeHdrs fleet) = none := by
  rcases keys_quoted with ⟨writeKey, fanoutKey, readKey, podsKey, -⟩
  rw [parseMerged_mixedMerge, mixedMerge_def, writeKey, fanoutKey, readKey, podsKey]
  simp only [List.cons_append, List.append_assoc, List.nil_append]
  apply loads_broken
  rcases hdrMerge_cases "mixed-write-".toList
    (some (resultEntries fleet "mixed".toList Workloads.MixedResult.print)) fleet.hdrDir with
    ⟨writes, write, writePrinted⟩ | ⟨-, noWrite⟩
  · rw [writePrinted, ← summaryPiece_text]
    apply Piece.Unreadable.after
    rcases hdrMerge_cases "mixed-fanout-".toList none fleet.hdrDir with
      ⟨fans, fanout, fanoutPrinted⟩ | ⟨-, noFanout⟩
    · rw [fanoutPrinted, ← summaryPiece_text]
      apply Piece.Unreadable.after
      rcases hdrMerge_cases "mixed-read-".toList none fleet.hdrDir with
        ⟨reads, read, readPrinted⟩ | ⟨-, noRead⟩
      · exfalso
        apply missing
        intro labelPrefix label
        simp only [mixedLabels, List.mem_cons, List.not_mem_nil, or_false] at label
        rcases label with rfl | rfl | rfl
        · exact writes
        · exact fans
        · exact reads
      · rw [noRead]
        exact Piece.unreadable_comma _ _ _
    · rw [noFanout]
      exact Piece.unreadable_comma _ _ _
  · rw [noWrite]
    exact Piece.unreadable_comma _ _ _

/-! ### An empty result file -/

def resultPieces (fleet : Fleet Hdr Workloads.MixedResult) : List (Option Piece) :=
  fleet.globbed.filterMap fun pod =>
    match fleet.resultFile pod with
    | .missing => none
    | .empty => some none
    | .printed result => some (some (resultPiece result))

theorem catResults_eq : catResults fleet = Piece.joined (resultPieces fleet) := by
  rw [catResults, Piece.joined, resultPieces, List.map_filterMap]
  congr 2
  funext pod
  cases fleet.resultFile pod with
  | missing => rfl
  | empty => rfl
  | printed result => rfl

theorem gap_of_empty (some_empty : ¬ fleet.NoneEmpty) : none ∈ resultPieces fleet := by
  rw [Fleet.NoneEmpty, not_forall] at some_empty
  rcases some_empty with ⟨pod, empty⟩
  have globbed : pod ∈ fleet.globbed := fleet.globbedAll.mem_iff.mpr (List.mem_finRange pod)
  apply List.mem_filterMap.mpr
  refine ⟨pod, globbed, ?_⟩
  rw [not_not.mp empty]

theorem results_nil_of_gap (alone : resultPieces fleet = [none]) : fleet.results = [] := by
  apply List.filterMap_eq_nil_iff.mpr
  intro pod globbed
  cases file : fleet.resultFile pod with
  | missing => rfl
  | empty => rfl
  | printed result =>
      have piece : some (resultPiece result) ∈ resultPieces fleet := by
        apply List.mem_filterMap.mpr
        refine ⟨pod, globbed, ?_⟩
        rw [file]
      rw [alone] at piece
      cases List.mem_singleton.mp piece

/-- Beside an empty result file there is another, and the composite is no document, or there is
none, and it has no result. -/
theorem parseMerged_empty (merges : fleet.Merges mergeHdrs) (some_empty : ¬ fleet.NoneEmpty) :
    parseMerged (chatter.text ++ mixedMerge mergeHdrs fleet) = none ∨
      fleet.results = [] ∧ ∃ write fanout read,
        parseMerged (chatter.text ++ mixedMerge mergeHdrs fleet) =
          some (composite write fanout read []).value := by
  rcases keys_quoted with ⟨writeKey, fanoutKey, readKey, podsKey, closing⟩
  rcases merges.printed (.head _)
    (some (resultEntries fleet "mixed".toList Workloads.MixedResult.print)) with ⟨write, writes⟩
  rcases merges.printed (.tail _ (.head _)) none with ⟨fanout, fans⟩
  rcases merges.printed (.tail _ (.tail _ (.head _))) none with ⟨read, reads⟩
  have gap := gap_of_empty some_empty
  rw [parseMerged_mixedMerge, mixedMerge_def, writes, fans, reads, catResults_eq]
  cases pieces : resultPieces fleet with
  | nil =>
      rw [pieces] at gap
      cases gap
  | cons piece others =>
      rw [pieces] at gap
      cases others with
      | nil =>
          right
          rw [← List.mem_singleton.mp gap] at pieces ⊢
          refine ⟨results_nil_of_gap pieces, write, fanout, read, ?_⟩
          have lineFeed : ['\n'].all isBlank = true := rfl
          have alone : Piece.joined [none] = [] := rfl
          rw [← Piece.loads_text (composite write fanout read []) lineFeed, composite_text,
            alone, writeKey, fanoutKey, readKey, podsKey, closing]
          simp [Piece.arrayText]
      | cons next others =>
          left
          rcases Piece.joined_opens piece next others (']' :: ['}', '\n']) with
            ⟨first, rest, shape, visible, open_⟩
          have broken := Piece.unreadableItems_joined gap ['}', '\n']
          rw [writeKey, fanoutKey, readKey, podsKey, closing]
          simp only [List.cons_append, List.append_assoc, List.nil_append]
          apply loads_broken
          rw [← summaryPiece_text, ← summaryPiece_text, ← summaryPiece_text, shape]
          rw [shape] at broken
          apply Piece.Unreadable.after
          apply Piece.Unreadable.after
          apply Piece.Unreadable.after
          exact Piece.unreadable_array _ _ visible open_ broken

/-! ### The metrics of a composite -/

theorem numberOr0_ofU64 (value : Nat) : numberOr0 (some (.ofU64 value)) = value := by
  by_cases zero : value = 0
  · subst zero
    decide +kernel
  · have truth : (Json.ofU64 value).truthy = true := by
      simp [Json.ofU64, Json.truthy, Number.toRat, zero]
    rw [numberOr0, truthy, Option.filter_some, if_pos truth]
    simp [Json.ofU64, Json.asPyNumber, Number.toRat]

/-- The `ok` count of a class. -/
theorem okCount (result : Workloads.MixedResult) (field : String)
    (counts : Workloads.Counts)
    (written : result.members.get field.toList = some counts.toJson) :
    numberOr0 (fieldOf (truthy (fieldOf (some result.toJson) field)) "ok") = counts.ok := by
  have outer : fieldOf (some result.toJson) field = some counts.toJson := written
  have inner : counts.toJson.get "ok".toList = some (.ofU64 counts.ok) := by
    simp [Workloads.Counts.toJson, Json.get, Members.ofFields, Members.ofList, Members.get]
  have truth : counts.toJson.truthy = true := by
    simp [Workloads.Counts.toJson, Json.truthy, Members.ofFields, Members.ofList]
  rw [outer, truthy, Option.filter_some, if_pos truth, fieldOf, Option.bind_some, inner,
    numberOr0_ofU64]

theorem elements_ofList (items : List Json) : elements (.ofList items) = items := by
  induction items with
  | nil => rfl
  | cons head tail induction => rw [Items.ofList, elements, induction]

theorem podsOf_composite (write fanout read : MergeSummary)
    (results : List Workloads.MixedResult) :
    podsOf (composite write fanout read results).value =
      results.map Workloads.MixedResult.toJson := by
  have pods : (composite write fanout read results).value.get "pods".toList =
      some (.arr (.ofList (results.map Workloads.MixedResult.toJson))) := by
    have values : Piece.itemsValue (results.map resultPiece) =
        .ofList (results.map Workloads.MixedResult.toJson) := by
      rw [Piece.itemsValue, List.map_map]
      rfl
    rw [← values]
    simp [composite, Piece.object, Piece.membersValue, Members.ofList, Json.get, Members.get,
      Piece.array]
  rw [podsOf, pods]
  cases results with
  | nil => rfl
  | cons first others =>
      have truth : (Json.arr (.ofList ((first :: others).map
          Workloads.MixedResult.toJson))).truthy = true := by
        simp [Json.truthy, Items.ofList]
      rw [truthy, Option.filter_some, if_pos truth]
      exact elements_ofList _

theorem metrics_composite (write fanout read : MergeSummary)
    (results : List Workloads.MixedResult) :
    (metricsFromMerged (composite write fanout read results).value).writeOk =
        (results.map fun result => (result.writeCounts.ok : ℚ)).sum ∧
      (metricsFromMerged (composite write fanout read results).value).readOk =
        (results.map fun result => (result.readCounts.ok : ℚ)).sum ∧
      (metricsFromMerged (composite write fanout read results).value).eventsReceived =
        (results.map fun result => (result.eventsReceived : ℚ)).sum := by
  simp only [metricsFromMerged, podsOf_composite, csum, fsum, List.map_map]
  refine ⟨?_, ?_, ?_⟩
  · apply congrArg List.sum
    apply List.map_congr_left
    intro result _
    exact okCount result "write_counts" result.writeCounts (Workloads.MixedResult.get_field
      (List.mem_of_getElem? (show result.fields[16]? = some _ from rfl)))
  · apply congrArg List.sum
    apply List.map_congr_left
    intro result _
    exact okCount result "read_counts" result.readCounts (Workloads.MixedResult.get_field
      (List.mem_of_getElem? (show result.fields[20]? = some _ from rfl)))
  · apply congrArg List.sum
    apply List.map_congr_left
    intro result _
    have written : fieldOf (some result.toJson) "events_received" =
        some (.ofU64 result.eventsReceived) := Workloads.MixedResult.get_field
      (List.mem_of_getElem? (show result.fields[17]? = some _ from rfl))
    rw [Function.comp_apply, written, numberOr0_ofU64]

theorem parseMerged_noResults : parseMerged (chatter.text ++ noResults) = none := by
  have noMarker : fromMarker noResults = none := by decide +kernel
  rw [parseMerged, fromMarker_skip chatter.noBrace, noMarker, Option.bind_none]

/-- Where all three merges succeed and no result is empty, the output is a composite of the
results under the prefix. -/
theorem parseMerged_merged (merges : fleet.Merges mergeHdrs) (noneEmpty : fleet.NoneEmpty) :
    ∃ write fanout read, parseMerged (chatter.text ++ mixedMerge mergeHdrs fleet) =
      some (composite write fanout read fleet.results).value := by
  rcases merges.printed (.head _)
    (some (resultEntries fleet "mixed".toList Workloads.MixedResult.print)) with ⟨write, writes⟩
  rcases merges.printed (.tail _ (.head _)) none with ⟨fanout, fans⟩
  rcases merges.printed (.tail _ (.tail _ (.head _))) none with ⟨read, reads⟩
  exact ⟨write, fanout, read, parseMerged_composite noneEmpty writes fans reads⟩

theorem not_seesTraffic_nil (load : MixedLoad) (write fanout read : MergeSummary) :
    ¬ SeesTraffic load
      (metricsFromMerged (composite write fanout read []).value).writeOk
      (metricsFromMerged (composite write fanout read []).value).readOk
      (metricsFromMerged (composite write fanout read []).value).eventsReceived := by
  intro seen
  apply seen.1
  rw [(metrics_composite write fanout read []).1]
  rfl

theorem runMixedLevel_ok_iff (load : MixedLoad) :
    (runMixedLevel mergeHdrs chatter fleet load).status = .ok ↔
      fleet.SawTraffic mergeHdrs load := by
  rw [runMixedLevel, recordMerged_ok_iff, Option.bind_some, mixedOutput, coordinator,
    Fleet.SawTraffic]
  by_cases nothing : fleet.fileCount = 0
  · have none_left : fleet.results = [] := by
      by_contra some_result
      have scanned : fleet.scanned ≠ [] := by
        intro empty
        have perm := fleet.scanned_perm
        rw [empty] at perm
        exact some_result perm.nil_eq.symm
      exact Fleet.fileCount_pos scanned nothing
    rw [if_pos nothing, parseMerged_noResults, none_left]
    simp [SeesTraffic]
  · rw [if_neg nothing]
    by_cases merges : fleet.Merges mergeHdrs
    · by_cases noneEmpty : fleet.NoneEmpty
      · rcases parseMerged_merged merges noneEmpty with ⟨write, fanout, read, parsed⟩
        rcases metrics_composite write fanout read fleet.results with
          ⟨writeOk, readOk, events⟩
        rw [parsed]
        simp only [Option.some.injEq, exists_eq_left']
        rw [writeOk, readOk, events]
        exact ⟨fun seen => ⟨merges, noneEmpty, seen⟩, fun seen => seen.2.2⟩
      · apply iff_of_false
        · rintro ⟨doc, parsed, seen⟩
          rcases parseMerged_empty merges noneEmpty with none | ⟨-, write, fanout, read, some⟩
          · rw [none] at parsed
            cases parsed
          · rw [some] at parsed
            rw [← Option.some.inj parsed] at seen
            exact not_seesTraffic_nil load write fanout read seen
        · intro seen
          exact noneEmpty seen.2.1
    · rw [parseMerged_missing merges]
      apply iff_of_false
      · rintro ⟨doc, absent, -⟩
        cases absent
      · intro seen
        exact merges seen.1

end

/-! ## Acceptance of a partial fleet -/

/-- For each of the three workloads: it takes only a complete fleet for good exactly when
the fleet is complete, or what is under the prefix of its run fails the workload's own
test. -/
theorem incomplete_fleet_rejected_iff {Hdr Result : Type}
    (mergeHdrs : List Hdr → Option Histogram) (chatter : Chatter)
    (printer : Result → Text) :
    (∀ (fleet : Fleet Hdr Result) (connections : Nat),
      ((runReadsLevel mergeHdrs chatter printer fleet connections).status = .ok →
          fleet.Complete) ↔
        fleet.Complete ∨ ¬ fleet.SawLatency mergeHdrs "reads-".toList) ∧
      (∀ (fleet : Fleet Hdr Result) (settings : CatchupSettings),
        ((runCatchupFleet mergeHdrs chatter printer fleet settings).status = .ok →
            fleet.Complete) ↔
          fleet.Complete ∨ ¬ fleet.SawLatency mergeHdrs "bootstrap-".toList) ∧
      ∀ (fleet : Fleet Hdr Workloads.MixedResult) (load : MixedLoad),
        ((runMixedLevel mergeHdrs chatter fleet load).status = .ok → fleet.Complete) ↔
          fleet.Complete ∨ ¬ fleet.SawTraffic mergeHdrs load := by
  refine ⟨?_, ?_, ?_⟩
  · intro fleet connections
    rw [runReadsLevel_ok_iff, imp_iff_or_not]
  · intro fleet settings
    rw [runCatchupFleet_ok_iff, imp_iff_or_not]
  · intro fleet load
    rw [runMixedLevel_ok_iff, imp_iff_or_not]

/-! ### Two pods, one of them lost -/

/-- The first of two pods uploads, the second does not. -/
def lostPod {Hdr Result : Type} (upload : Upload Hdr Result) : Fleet Hdr Result where
  pods := 2
  deliveries pod := if pod = 0 then .whole upload else .broken [] .missing
  leftHdrs := []
  leftResults _ := .missing
  hdrDir := upload.hdrs
  hdrDirAll := by
    change upload.hdrs.Perm (upload.hdrs ++ [] ++ [])
    simp
  listed := [0, 1]
  listedAll := by decide
  globbed := [0, 1]
  globbedAll := by decide

theorem lostPod_not_complete {Hdr Result : Type} (upload : Upload Hdr Result) :
    ¬ (lostPod upload).Complete := by
  intro complete
  rcases complete (1 : Fin 2) with ⟨other, whole⟩
  cases whole

/-- Neither of two pods uploads anything, but an earlier fleet did. -/
def staleFleet {Hdr Result : Type} (upload : Upload Hdr Result) : Fleet Hdr Result where
  pods := 2
  deliveries _ := .broken [] .missing
  leftHdrs := upload.hdrs
  leftResults _ := .printed upload.result
  hdrDir := upload.hdrs
  hdrDirAll := by
    change upload.hdrs.Perm (upload.hdrs.filter fun _ => true)
    simp
  listed := [0, 1]
  listedAll := by decide
  globbed := [0, 1]
  globbedAll := by decide

def firstHistogram (histograms : List Histogram) : Option Histogram := histograms.head?

def oneMs : Histogram := ⟨100, 1000, 1000, 1000, 1000, 1000⟩

def aliasAdded : Chatter := ⟨"Added alias successfully.\n".toList, by decide, by decide⟩

/-- A pod that made a hundred requests of each class. -/
def busyPod : Workloads.MixedResult where
  apiStyle := .durable
  target := "http://ds:4437".toList
  bucket := "bench".toList
  streams := 1
  writersPerStream := 1
  readers := 1
  readRate := 0
  readIntervalMs := 0
  backfillEvents := 200
  subscribers := 1
  writerRate := 5
  durationSecs := 20
  payloadBytes := 256
  elapsedSecs := 25
  driveSecs := 20
  writeCounts := ⟨100, 0, 0⟩
  eventsReceived := 100
  controlEventsReceived := 0
  readBytesTotal := 25600
  readCounts := ⟨100, 0, 0⟩
  aggregateOpsPerSec := 5
  writeLatencyMs := ⟨100, 1, 1, 1, 1, 1, 1⟩
  fanOutLatencyMs := ⟨100, 1, 1, 1, 1, 1, 1⟩
  readLatencyMs := ⟨100, 1, 1, 1, 1, 1, 1⟩

def busyUpload {Result : Type} (names : List String) (result : Result) :
    Upload Histogram Result :=
  ⟨names.map fun name => ⟨name.toList, oneMs⟩, result⟩

/-- One of two pods uploads nothing, and all three workloads accept the other's result for
the whole fleet; and where no pod uploads anything, that of an earlier fleet. -/
theorem lost_pod_accepted :
    ((runReadsLevel firstHistogram aliasAdded id
        (lostPod (busyUpload ["reads-7-0.hdr"] "\x7b\x7d".toList)) 8).status = .ok ∧
      ¬ (lostPod (busyUpload ["reads-7-0.hdr"] "\x7b\x7d".toList)).Complete) ∧
    ((runCatchupFleet firstHistogram aliasAdded id
        (lostPod (busyUpload ["bootstrap-7-0.hdr"] "\x7b\x7d".toList))
        ⟨1000, "d1".toList, 10, 1024, 0, 2⟩).status = .ok ∧
      ¬ (lostPod (busyUpload ["bootstrap-7-0.hdr"] "\x7b\x7d".toList)).Complete) ∧
    ((runMixedLevel firstHistogram aliasAdded
        (lostPod (busyUpload
          ["mixed-write-7-0.hdr", "mixed-fanout-7-0.hdr", "mixed-read-7-0.hdr"] busyPod))
        ⟨1, 1, 1, 5, 0⟩).status = .ok ∧
      ¬ (lostPod (busyUpload
          ["mixed-write-7-0.hdr", "mixed-fanout-7-0.hdr", "mixed-read-7-0.hdr"]
          busyPod)).Complete) ∧
    ((runReadsLevel firstHistogram aliasAdded id
        (staleFleet (busyUpload ["reads-7-0.hdr"] "\x7b\x7d".toList)) 8).status = .ok ∧
      ¬ (staleFleet (busyUpload ["reads-7-0.hdr"] "\x7b\x7d".toList)).Complete) := by
  have stale : ¬ (staleFleet (busyUpload ["reads-7-0.hdr"] "\x7b\x7d".toList)).Complete := by
    intro complete
    rcases complete (0 : Fin 2) with ⟨other, whole⟩
    cases whole
  refine ⟨⟨?_, lostPod_not_complete _⟩, ⟨?_, lostPod_not_complete _⟩,
    ⟨?_, lostPod_not_complete _⟩, ⟨?_, stale⟩⟩
  · rw [runReadsLevel_ok_iff]
    exact ⟨by decide +kernel, oneMs, by decide +kernel, by decide⟩
  · rw [runCatchupFleet_ok_iff]
    exact ⟨by decide +kernel, oneMs, by decide +kernel, by decide⟩
  · rw [runMixedLevel_ok_iff]
    have merges : ∀ labelPrefix ∈ mixedLabels, (mergeDirFiltered firstHistogram labelPrefix
        (lostPod (busyUpload ["mixed-write-7-0.hdr", "mixed-fanout-7-0.hdr",
          "mixed-read-7-0.hdr"] busyPod)).hdrDir).isSome = true := by decide +kernel
    refine ⟨merges, ?_, by decide +kernel, ?_, ?_⟩
    · intro pod empty
      rcases pod with ⟨_ | _, _⟩
      · cases empty
      · cases empty
    · decide +kernel
    · decide +kernel
  · rw [runReadsLevel_ok_iff]
    exact ⟨by decide +kernel, oneMs, by decide +kernel, by decide⟩

end DsBench.Harness
