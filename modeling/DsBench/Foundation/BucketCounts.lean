import Mathlib.Algebra.BigOperators.Group.List.Basic
import Mathlib.Algebra.GroupWithZero.Nat
import Mathlib.Data.List.Count
import Mathlib.Data.List.Perm.Basic

/-! # Histograms by buckets

A histogram counts what is recorded by buckets, and what is read from it depends on the
counts alone. How the recorded values are spread over histograms that are added up, and in
which order, then makes no difference.
-/

namespace DsBench

/-- A kind of histogram: recording counts one more in the bucket of the value, and adding
counts bucket by bucket. -/
structure BucketHistogram (Value Bucket Hist Reading : Type) [DecidableEq Bucket] where
  empty : Hist
  record : Hist → Value → Hist
  add : Hist → Hist → Hist
  read : Hist → Reading
  bucket : Value → Bucket
  count : Hist → Bucket → Nat
  count_empty : ∀ index, count empty index = 0
  count_record : ∀ hist value index,
    count (record hist value) index = count hist index + if bucket value = index then 1 else 0
  count_add : ∀ hist other index,
    count (add hist other) index = count hist index + count other index
  read_eq : ∀ hist other, count hist = count other → read hist = read other

namespace BucketHistogram

variable {Value Bucket Hist Reading : Type} [DecidableEq Bucket]
  (kind : BucketHistogram Value Bucket Hist Reading)

def recordAll (hist : Hist) (values : List Value) : Hist := values.foldl kind.record hist

def addAll (hist : Hist) (others : List Hist) : Hist := others.foldl kind.add hist

theorem count_recordAll (values : List Value) (hist : Hist) (index : Bucket) :
    kind.count (kind.recordAll hist values) index =
      kind.count hist index + (values.map kind.bucket).count index := by
  induction values generalizing hist with
  | nil => rfl
  | cons value values induction =>
      have step : kind.recordAll hist (value :: values) =
          kind.recordAll (kind.record hist value) values := rfl
      rw [step, induction, kind.count_record, List.map_cons, List.count_cons]
      simp only [beq_iff_eq]
      omega

theorem count_addAll (others : List Hist) (hist : Hist) (index : Bucket) :
    kind.count (kind.addAll hist others) index =
      kind.count hist index + (others.map fun other => kind.count other index).sum := by
  induction others generalizing hist with
  | nil => rfl
  | cons other others induction =>
      have step : kind.addAll hist (other :: others) =
          kind.addAll (kind.add hist other) others := rfl
      rw [step, induction, kind.count_add, List.map_cons, List.sum_cons]
      omega

theorem read_addAll_perm {hists others : List Hist} (reordered : hists.Perm others)
    (hist : Hist) :
    kind.read (kind.addAll hist hists) = kind.read (kind.addAll hist others) := by
  apply kind.read_eq
  funext index
  rw [kind.count_addAll, kind.count_addAll, (reordered.map _).sum_eq]

theorem read_recordAll_perm {values others : List Value} (reordered : values.Perm others)
    (hist : Hist) :
    kind.read (kind.recordAll hist values) = kind.read (kind.recordAll hist others) := by
  apply kind.read_eq
  funext index
  rw [kind.count_recordAll, kind.count_recordAll,
    (reordered.map kind.bucket).count_eq]

theorem count_addAll_recordAll (parts : List (List Value)) :
    kind.count (kind.addAll kind.empty (parts.map (kind.recordAll kind.empty))) =
      kind.count (kind.recordAll kind.empty parts.flatten) := by
  funext index
  rw [kind.count_addAll, kind.count_recordAll, kind.count_empty]
  induction parts with
  | nil => rfl
  | cons part parts induction =>
      rw [List.map_cons, List.map_cons, List.sum_cons, kind.count_recordAll,
        kind.count_empty, List.flatten_cons, List.map_append, List.count_append]
      omega

theorem count_addAll_congr {Part : Type} (parts : List Part) {hist other : Part → Hist}
    (same : ∀ part, kind.count (hist part) = kind.count (other part)) :
    kind.count (kind.addAll kind.empty (parts.map hist)) =
      kind.count (kind.addAll kind.empty (parts.map other)) := by
  funext index
  rw [kind.count_addAll, kind.count_addAll, List.map_map, List.map_map]
  congr 2
  apply List.map_congr_left
  intro part _
  exact congrFun (same part) index

theorem read_spread {groups : List (List (List Value))} {values : List Value}
    (spread : (groups.map List.flatten).flatten.Perm values) :
    kind.read (kind.addAll kind.empty (groups.map fun parts =>
        kind.addAll kind.empty (parts.map (kind.recordAll kind.empty)))) =
      kind.read (kind.recordAll kind.empty values) := by
  rw [← kind.read_recordAll_perm spread]
  apply kind.read_eq
  rw [kind.count_addAll_congr groups fun parts => kind.count_addAll_recordAll parts,
    ← kind.count_addAll_recordAll (groups.map List.flatten), List.map_map]
  rfl

end BucketHistogram

end DsBench
