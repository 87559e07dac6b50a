import DsBench.Harness.HdrMerge

/-! # Histograms by workload

Every pod of a fleet writes one file for each kind of operation it measured. The files of
all pods go into one directory, where a merge under a label finds one for each pod.
-/

namespace DsBench.Harness

open DsBench.Merge

/-! ## Labels -/

/-- The kinds of operations that have a histogram of their own. -/
inductive WorkloadClass where
  | multiStream
  | mixedWrite
  | mixedFanout
  | mixedRead
  | reads
  | multiFanout
  | fanout
  | bootstrap
  | append
  | catchUp
  | sustained
deriving DecidableEq, Repr

namespace WorkloadClass

def name : WorkloadClass → Text
  | multiStream => "multi-stream".toList
  | mixedWrite => "mixed-write".toList
  | mixedFanout => "mixed-fanout".toList
  | mixedRead => "mixed-read".toList
  | reads => "reads".toList
  | multiFanout => "multi-fanout".toList
  | fanout => "fanout".toList
  | bootstrap => "bootstrap".toList
  | append => "append".toList
  | catchUp => "catch-up".toList
  | sustained => "sustained".toList

def all : List WorkloadClass :=
  [multiStream, mixedWrite, mixedFanout, mixedRead, reads, multiFanout, fanout, bootstrap,
    append, catchUp, sustained]

theorem mem_all (kind : WorkloadClass) : kind ∈ all := by
  cases kind <;> decide

theorem nodup_all : all.Nodup := by decide

theorem eq_of_name_prefix {kind other : WorkloadClass} (begins : kind.name <+: other.name) :
    kind = other := by
  have table : (all.all fun kind => all.all fun other =>
      !kind.name.isPrefixOf other.name || decide (kind = other)) = true := by decide
  have row := List.all_eq_true.mp table kind (mem_all kind)
  have entry := List.all_eq_true.mp row other (mem_all other)
  rw [List.isPrefixOf_iff_prefix.mpr begins] at entry
  simpa using entry

def label (kind : WorkloadClass) (pid : Nat) : Text := kind.name ++ '-' :: decimal pid

/-- The prefixes by which a merge asks for the class: its name, or its name and the dash
behind it. -/
def prefixes (kind : WorkloadClass) : List Text := [kind.name, kind.name ++ ['-']]

theorem label_ne_nil (kind : WorkloadClass) (pid : Nat) : kind.label pid ≠ [] := by
  simp [label]

end WorkloadClass

theorem append_dash_inj {front other back rest : Text} (noDash : '-' ∉ back)
    (restNoDash : '-' ∉ rest) (same : front ++ '-' :: back = other ++ '-' :: rest) :
    front = other ∧ back = rest := by
  have ends : back = rest := by
    rw [← afterLast_append noDash front, same, afterLast_append restNoDash]
  rw [ends] at same
  exact ⟨List.append_cancel_right same, ends⟩

theorem no_dash_of_digits {text : Text} (digits : ∀ digit ∈ text, digit.isDigit = true) :
    '-' ∉ text := by
  intro dash
  have digit := digits '-' dash
  cases digit

/-! ## A fleet -/

/-- A pod with the histograms it emits. The index of a job's pod is a number. -/
structure EmittingPod (Hist : Type) where
  podInstance : Text
  pid : Nat
  emitted : WorkloadClass → Option Hist
  nonempty : podInstance ≠ []
  numeric : ∀ digit ∈ podInstance, digit.isDigit = true

/-- Pods of one fleet have different indices; their process ids may well be equal. -/
structure EmittingFleet (Hist : Type) where
  pods : List (EmittingPod Hist)
  distinct : (pods.map EmittingPod.podInstance).Nodup

def writeFile {Encoded : Type} (dir : List (HdrEntry Encoded)) (file : HdrEntry Encoded) :
    List (HdrEntry Encoded) :=
  file :: dir.filter fun other => other.name ≠ file.name

def collect {Encoded : Type} (files : List (HdrEntry Encoded)) : List (HdrEntry Encoded) :=
  files.foldl writeFile []

namespace HdrCrate

variable {Hist Encoded : Type} (crate : HdrCrate Hist Encoded)

def classFile (podInstance : Text) (pid : Nat) (kind : WorkloadClass) (hist : Hist) :
    HdrEntry Encoded :=
  crate.emitHdr (some podInstance) hist (kind.label pid)

def podFiles (pod : EmittingPod Hist) : List (HdrEntry Encoded) :=
  WorkloadClass.all.filterMap fun kind =>
    (pod.emitted kind).map (crate.classFile pod.podInstance pod.pid kind)

def fleetFiles (fleet : EmittingFleet Hist) : List (HdrEntry Encoded) :=
  fleet.pods.flatMap crate.podFiles

/-! ## Nothing is lost -/

theorem hdrStem_label {podInstance : Text} (nonempty : podInstance ≠ [])
    (kind : WorkloadClass) (pid : Nat) :
    hdrStem (some podInstance) (kind.label pid) =
      kind.name ++ '-' :: decimal pid ++ '-' :: podInstance := by
  have set : (some podInstance).filter (fun value => value ≠ []) = some podInstance := by
    simp [Option.filter, nonempty]
  rw [hdrStem, set]
  rfl

theorem classFile_name_inj {podInstance other : Text} {pid otherPid : Nat}
    {kind otherKind : WorkloadClass} {hist otherHist : Hist}
    (nonempty : podInstance ≠ []) (otherNonempty : other ≠ [])
    (numeric : ∀ digit ∈ podInstance, digit.isDigit = true)
    (otherNumeric : ∀ digit ∈ other, digit.isDigit = true)
    (same : (crate.classFile podInstance pid kind hist).name =
      (crate.classFile other otherPid otherKind otherHist).name) :
    podInstance = other ∧ pid = otherPid ∧ kind = otherKind := by
  have stems : hdrStem (some podInstance) (kind.label pid) =
      hdrStem (some other) (otherKind.label otherPid) := List.append_cancel_right same
  rw [hdrStem_label nonempty, hdrStem_label otherNonempty] at stems
  rcases append_dash_inj (no_dash_of_digits numeric) (no_dash_of_digits otherNumeric) stems
    with ⟨labels, instances⟩
  have pidDigits : ∀ pid digit, digit ∈ decimal pid → digit.isDigit = true :=
    fun _ _ => isDigit_of_mem_decimal
  rcases append_dash_inj (no_dash_of_digits (pidDigits pid))
    (no_dash_of_digits (pidDigits otherPid)) labels with ⟨names, pids⟩
  refine ⟨instances, decimal_injective pids, WorkloadClass.eq_of_name_prefix ?_⟩
  rw [names]

end HdrCrate

theorem foldl_writeFile_perm {Encoded : Type} (files dir : List (HdrEntry Encoded))
    (distinct : ((dir ++ files).map HdrEntry.name).Nodup) :
    (files.foldl writeFile dir).Perm (dir ++ files) := by
  induction files generalizing dir with
  | nil => rw [List.foldl_nil, List.append_nil]
  | cons file files induction =>
      have kept : writeFile dir file = file :: dir := by
        have others : ∀ other ∈ dir, decide (other.name ≠ file.name) = true := by
          intro other member
          rw [decide_eq_true_eq]
          intro same
          rw [List.map_append, List.nodup_append] at distinct
          exact distinct.2.2 _ (List.mem_map_of_mem member) _
            (List.mem_map_of_mem List.mem_cons_self) same
        rw [writeFile, List.filter_eq_self.mpr others]
      have moved : (dir ++ file :: files).Perm (file :: dir ++ files) :=
        List.perm_middle
      have distinctNext : ((file :: dir ++ files).map HdrEntry.name).Nodup :=
        (moved.map HdrEntry.name).nodup_iff.mp distinct
      rw [List.foldl_cons, kept]
      exact (induction (file :: dir) distinctNext).trans moved.symm

theorem collect_perm {Encoded : Type} {files : List (HdrEntry Encoded)}
    (distinct : (files.map HdrEntry.name).Nodup) : (collect files).Perm files :=
  foldl_writeFile_perm files [] distinct

namespace HdrCrate

variable {Hist Encoded : Type} (crate : HdrCrate Hist Encoded)

theorem mem_podFiles {pod : EmittingPod Hist} {file : HdrEntry Encoded}
    (member : file ∈ crate.podFiles pod) :
    ∃ kind hist, pod.emitted kind = some hist ∧
      file = crate.classFile pod.podInstance pod.pid kind hist := by
  rcases List.mem_filterMap.mp member with ⟨kind, -, made⟩
  rcases Option.map_eq_some_iff.mp made with ⟨hist, emitted, same⟩
  exact ⟨kind, hist, emitted, same.symm⟩

theorem nodup_names_podFiles (pod : EmittingPod Hist) :
    ((crate.podFiles pod).map HdrEntry.name).Nodup := by
  rw [podFiles, List.map_filterMap]
  apply WorkloadClass.nodup_all.filterMap
  intro kind other name made otherMade
  rcases Option.map_eq_some_iff.mp made with ⟨file, written, named⟩
  rcases Option.map_eq_some_iff.mp otherMade with ⟨otherFile, otherWritten, otherNamed⟩
  rcases Option.map_eq_some_iff.mp written with ⟨hist, -, same⟩
  rcases Option.map_eq_some_iff.mp otherWritten with ⟨otherHist, -, otherSame⟩
  rw [← same] at named
  rw [← otherSame] at otherNamed
  exact (crate.classFile_name_inj pod.nonempty pod.nonempty pod.numeric pod.numeric
    (named.trans otherNamed.symm)).2.2

theorem nodup_names_fleetFiles (fleet : EmittingFleet Hist) :
    ((crate.fleetFiles fleet).map HdrEntry.name).Nodup := by
  rw [fleetFiles, List.map_flatMap, List.nodup_flatMap]
  constructor
  · intro pod _
    exact crate.nodup_names_podFiles pod
  · have apart := List.pairwise_map.mp fleet.distinct
    apply apart.imp
    intro pod other different name ofPod ofOther
    rcases List.mem_map.mp ofPod with ⟨file, written, named⟩
    rcases List.mem_map.mp ofOther with ⟨otherFile, otherWritten, otherNamed⟩
    rcases crate.mem_podFiles written with ⟨kind, hist, -, same⟩
    rcases crate.mem_podFiles otherWritten with ⟨otherKind, otherHist, -, otherSame⟩
    rw [same] at named
    rw [otherSame] at otherNamed
    exact different (crate.classFile_name_inj pod.nonempty other.nonempty pod.numeric
      other.numeric (named.trans otherNamed.symm)).1

/-! ## What a merge finds -/

theorem load_classFile_none {podInstance : Text} (pid : Nat) (kind : WorkloadClass)
    (hist : Hist) :
    crate.load none (some (crate.classFile podInstance pid kind hist)) = some (some hist) :=
  crate.load_emitHdr none (some podInstance) (kind.label_ne_nil pid) hist

theorem isPrefixOf_classStem_iff {podInstance start : Text} (nonempty : podInstance ≠ [])
    (pid : Nat) {kind asked : WorkloadClass} (isPrefix : start ∈ asked.prefixes) :
    start.isPrefixOf (hdrStem (some podInstance) (kind.label pid)) = true ↔
      kind = asked := by
  rw [List.isPrefixOf_iff_prefix, hdrStem_label nonempty, List.append_assoc]
  rw [WorkloadClass.prefixes, List.mem_cons, List.mem_singleton] at isPrefix
  constructor
  · intro begins
    have asks : asked.name <+: kind.name ++ ('-' :: decimal pid ++ '-' :: podInstance) := by
      rcases isPrefix with bare | dashed
      · rw [← bare]
        exact begins
      · rw [dashed] at begins
        exact (List.prefix_append _ _).trans begins
    rcases List.prefix_or_prefix_of_prefix asks (List.prefix_append kind.name _) with
      shorter | longer
    · exact (WorkloadClass.eq_of_name_prefix shorter).symm
    · exact WorkloadClass.eq_of_name_prefix longer
  · intro same
    rw [same]
    rcases isPrefix with bare | dashed
    · rw [bare]
      exact List.prefix_append _ _
    · rw [dashed, List.prefix_append_right_inj]
      exact List.cons_prefix_cons.mpr ⟨rfl, List.nil_prefix⟩

theorem load_classFile_some {podInstance start : Text} (nonempty : podInstance ≠ [])
    (pid : Nat) (kind : WorkloadClass) {asked : WorkloadClass}
    (isPrefix : start ∈ asked.prefixes) (hist : Hist) :
    crate.load (some start) (some (crate.classFile podInstance pid kind hist)) =
      if kind = asked then some (some hist) else some none := by
  rw [classFile, crate.load_emitHdr (some start) _ (kind.label_ne_nil pid), Option.all_some]
  simp only [isPrefixOf_classStem_iff nonempty pid isPrefix]

theorem selected_fleetFiles_none (fleet : EmittingFleet Hist) :
    crate.selected none ((crate.fleetFiles fleet).map some) =
      fleet.pods.flatMap fun pod => WorkloadClass.all.filterMap pod.emitted := by
  rw [selected, List.filterMap_map, fleetFiles, List.filterMap_flatMap]
  congr 1
  funext pod
  rw [podFiles, List.filterMap_filterMap]
  congr 1
  funext kind
  cases pod.emitted kind with
  | none => rfl
  | some hist =>
      rw [Option.map_some, Option.bind_some, Function.comp_apply, load_classFile_none]
      rfl

theorem filterMap_asked {Key Value : Type} [DecidableEq Key] {keys : List Key}
    (nodup : keys.Nodup) (value : Key → Option Value) (asked : Key) :
    (keys.filterMap fun key => if key = asked then value key else none) =
      if asked ∈ keys then (value asked).toList else [] := by
  induction keys with
  | nil => rfl
  | cons key keys induction =>
      have parts := List.nodup_cons.mp nodup
      rw [List.filterMap_cons, induction parts.2]
      by_cases same : key = asked
      · rw [if_pos same, ← same, if_neg parts.1, if_pos List.mem_cons_self]
        cases value key <;> rfl
      · rw [if_neg same]
        have elsewhere : asked ∈ key :: keys ↔ asked ∈ keys := by
          rw [List.mem_cons]
          exact or_iff_right fun other => same other.symm
        simp only [elsewhere]

theorem selected_fleetFiles_some (fleet : EmittingFleet Hist) {asked : WorkloadClass}
    {start : Text} (isPrefix : start ∈ asked.prefixes) :
    crate.selected (some start) ((crate.fleetFiles fleet).map some) =
      fleet.pods.filterMap fun pod => pod.emitted asked := by
  rw [selected, List.filterMap_map, fleetFiles, List.filterMap_flatMap,
    List.filterMap_eq_flatMap_toList]
  congr 1
  funext pod
  have own := filterMap_asked WorkloadClass.nodup_all pod.emitted asked
  rw [if_pos asked.mem_all] at own
  rw [podFiles, List.filterMap_filterMap, ← own]
  congr 1
  funext kind
  cases pod.emitted kind with
  | none => simp
  | some hist =>
      rw [Option.map_some, Option.bind_some, Function.comp_apply,
        crate.load_classFile_some pod.nonempty pod.pid kind isPrefix]
      split <;> rfl

theorem mergeDirFiltered_fleet (labelPrefix : Option Text) {fleet : EmittingFleet Hist}
    {listed : List (Option (HdrEntry Encoded))}
    (lists : listed.Perm ((crate.fleetFiles fleet).map some)) :
    crate.mergeDirFiltered labelPrefix listed =
      some (crate.addAll crate.empty (crate.selected labelPrefix listed)) := by
  apply crate.mergeDirFiltered_of_loads
  intro entry member
  rcases List.mem_map.mp (lists.mem_iff.mp member) with ⟨file, inFleet, same⟩
  rcases List.mem_flatMap.mp inFleet with ⟨pod, -, ofPod⟩
  rcases crate.mem_podFiles ofPod with ⟨kind, hist, -, written⟩
  rw [← same, written, classFile,
    crate.load_emitHdr labelPrefix _ (kind.label_ne_nil pod.pid)]
  split <;> rfl

theorem sum_map_filterMap {Item Value : Type} (items : List Item) (value : Item → Option Value)
    (size : Value → Nat) :
    ((items.filterMap value).map size).sum =
      (items.map fun item => (value item).elim 0 size).sum := by
  induction items with
  | nil => rfl
  | cons item items induction =>
      rw [List.filterMap_cons, List.map_cons, List.sum_cons, ← induction]
      cases value item with
      | none => exact (Nat.zero_add _).symm
      | some found => rfl

theorem sum_by_class (pods : List (EmittingPod Hist)) (size : Hist → Nat) :
    (WorkloadClass.all.map fun kind =>
        ((pods.filterMap fun pod => pod.emitted kind).map size).sum).sum =
      ((pods.flatMap fun pod => WorkloadClass.all.filterMap pod.emitted).map size).sum := by
  induction pods with
  | nil => rfl
  | cons pod pods induction =>
      have parts : ∀ kind, (((pod :: pods).filterMap fun pod => pod.emitted kind).map
          size).sum = (pod.emitted kind).elim 0 size +
            ((pods.filterMap fun pod => pod.emitted kind).map size).sum := by
        intro kind
        rw [sum_map_filterMap, sum_map_filterMap, List.map_cons, List.sum_cons]
      simp only [parts]
      rw [List.sum_map_add, induction, List.flatMap_cons, List.map_append, List.sum_append,
        sum_map_filterMap]

def samplesUnder (labelPrefix : Option Text) (listed : List (Option (HdrEntry Encoded))) :
    Nat :=
  ((crate.mergeDirFiltered labelPrefix listed).map fun merged =>
    (crate.read merged).len).getD 0

theorem samplesUnder_fleet (labelPrefix : Option Text) {fleet : EmittingFleet Hist}
    {listed : List (Option (HdrEntry Encoded))}
    (lists : listed.Perm ((crate.fleetFiles fleet).map some)) :
    crate.samplesUnder labelPrefix listed =
      ((crate.selected labelPrefix ((crate.fleetFiles fleet).map some)).map fun hist =>
        (crate.read hist).len).sum := by
  have chosen : (crate.selected labelPrefix listed).Perm
      (crate.selected labelPrefix ((crate.fleetFiles fleet).map some)) := lists.filterMap _
  rw [samplesUnder, crate.mergeDirFiltered_fleet labelPrefix lists, Option.map_some,
    Option.getD_some, len_addAll, crate.len_empty, Nat.zero_add]
  exact (chosen.map _).sum_eq

/-- Files of a fleet collected into one directory are all kept, and in whatever order they
are listed a merge under the name of a class is the sum of the histograms of that class,
one from each pod that emitted it, and of nothing else. So the samples counted under the
classes are those of the merge of all files. -/
theorem class_merge_each_pod_once (fleet : EmittingFleet Hist)
    (listed : List (Option (HdrEntry Encoded)))
    (lists : listed.Perm ((collect (crate.fleetFiles fleet)).map some)) :
    (collect (crate.fleetFiles fleet)).Perm (crate.fleetFiles fleet) ∧
      (∀ kind : WorkloadClass, ∀ start ∈ kind.prefixes,
        crate.mergeDirFiltered (some start) listed =
            some (crate.addAll crate.empty (crate.selected (some start) listed)) ∧
          (crate.selected (some start) listed).Perm
            (fleet.pods.filterMap fun pod => pod.emitted kind)) ∧
      (∃ whole, crate.mergeDirFiltered none listed = some whole) ∧
      ∀ start : WorkloadClass → Text, (∀ kind, start kind ∈ kind.prefixes) →
        (WorkloadClass.all.map fun kind =>
            crate.samplesUnder (some (start kind)) listed).sum =
          crate.samplesUnder none listed := by
  have kept := collect_perm (crate.nodup_names_fleetFiles fleet)
  have files := lists.trans (kept.map some)
  refine ⟨kept, ?_, ⟨_, crate.mergeDirFiltered_fleet none files⟩, ?_⟩
  · intro kind start isPrefix
    refine ⟨crate.mergeDirFiltered_fleet (some start) files, ?_⟩
    rw [← crate.selected_fleetFiles_some fleet isPrefix]
    exact files.filterMap _
  · intro start isPrefix
    rw [crate.samplesUnder_fleet none files, selected_fleetFiles_none, ← sum_by_class]
    congr 1
    apply List.map_congr_left
    intro kind _
    rw [crate.samplesUnder_fleet (some (start kind)) files,
      crate.selected_fleetFiles_some fleet (isPrefix kind)]

end HdrCrate

/-- A pod of a mixed run that recorded two samples of every class. -/
def mixedPod (podInstance : Text) (first second : Nat)
    (nonempty : podInstance ≠ []) (numeric : ∀ digit ∈ podInstance, digit.isDigit = true) :
    EmittingPod (Multiset Nat) where
  podInstance := podInstance
  pid := 7
  emitted
    | .mixedWrite => some ([first, second].foldl bucketCrate.recordMicros 0)
    | .mixedFanout => some ([10 * first, 10 * second].foldl bucketCrate.recordMicros 0)
    | .mixedRead => some ([100 * first, 100 * second].foldl bucketCrate.recordMicros 0)
    | _ => none
  nonempty := nonempty
  numeric := numeric

theorem numeric_zero : ∀ digit ∈ "0".toList, digit.isDigit = true := by simp

theorem numeric_one : ∀ digit ∈ "1".toList, digit.isDigit = true := by simp

def mixedFleet : EmittingFleet (Multiset Nat) where
  pods := [mixedPod "0".toList 100 200 (List.cons_ne_nil _ _) numeric_zero,
    mixedPod "1".toList 300 400 (List.cons_ne_nil _ _) numeric_one]
  distinct := by decide

theorem class_merge_each_pod_once_mixed :
    (bucketCrate.selected (some "mixed-write-".toList)
        ((collect (bucketCrate.fleetFiles mixedFleet)).map some).reverse).Perm
      [[100, 200].foldl bucketCrate.recordMicros 0,
        [300, 400].foldl bucketCrate.recordMicros 0] :=
  ((bucketCrate.class_merge_each_pod_once mixedFleet _ (List.reverse_perm _)).2.1
    .mixedWrite "mixed-write-".toList (List.mem_cons_of_mem _ List.mem_cons_self)).2

end DsBench.Harness
