import Mathlib.Data.Int.CardIntervalMod
import Mathlib.Data.Nat.Find
import Mathlib.Tactic.Ring

/-! # Proportional splits and round-robin cursors

An interval of naturals cut into contiguous parts by floor division, and a cursor
that walks one part again and again.
-/

namespace DsBench

/-- Half-open ranges that cut `[lower, upper)` into nonempty parts of nearly one size. -/
structure EvenPartition (lower upper parts : Nat) (slice : Nat → Nat × Nat) : Prop where
  nonempty : ∀ i, i < parts → (slice i).1 < (slice i).2
  first : (slice 0).1 = lower
  last : (slice (parts - 1)).2 = upper
  contiguous : ∀ i, i + 1 < parts → (slice i).2 = (slice (i + 1)).1
  disjoint : ∀ i j, i < parts → j < parts → i ≠ j →
    ∀ key, ¬ (((slice i).1 ≤ key ∧ key < (slice i).2) ∧
      ((slice j).1 ≤ key ∧ key < (slice j).2))
  covers : ∀ key, lower ≤ key ∧ key < upper ↔
    ∃ i, i < parts ∧ (slice i).1 ≤ key ∧ key < (slice i).2
  balanced : ∀ i j, i < parts → j < parts →
    (slice i).2 - (slice i).1 ≤ (slice j).2 - (slice j).1 + 1

/-- Only the slices with an index below `parts` matter. -/
theorem EvenPartition.congr {lower upper parts : Nat} {slice other : Nat → Nat × Nat}
    (partition : EvenPartition lower upper parts slice) (positive : 0 < parts)
    (equal : ∀ i, i < parts → other i = slice i) :
    EvenPartition lower upper parts other where
  nonempty i bounded := by
    rw [equal i bounded]
    exact partition.nonempty i bounded
  first := by
    rw [equal 0 positive]
    exact partition.first
  last := by
    rw [equal (parts - 1) (by omega)]
    exact partition.last
  contiguous i bounded := by
    rw [equal i (by omega), equal (i + 1) bounded]
    exact partition.contiguous i bounded
  disjoint i j left right := by
    rw [equal i left, equal j right]
    exact partition.disjoint i j left right
  covers key := by
    rw [partition.covers key]
    apply exists_congr
    intro i
    apply and_congr_right
    intro bounded
    rw [equal i bounded]
  balanced i j left right := by
    rw [equal i left, equal j right]
    exact partition.balanced i j left right

/-! ## Cuts -/

/-- Where part `i` of `size` keys begins, counted from the first key. -/
def cut (size parts i : Nat) : Nat :=
  i * size / parts

section

variable {parts : Nat}

@[simp] theorem cut_zero (size : Nat) : cut size parts 0 = 0 := by
  simp [cut]

theorem cut_parts (size : Nat) (positive : 0 < parts) : cut size parts parts = size :=
  Nat.mul_div_cancel_left size positive

theorem cut_succ (size : Nat) (positive : 0 < parts) (i : Nat) :
    cut size parts i + size / parts ≤ cut size parts (i + 1) ∧
      cut size parts (i + 1) ≤ cut size parts i + size / parts + 1 := by
  have here := Nat.div_add_mod (i * size) parts
  have whole := Nat.div_add_mod size parts
  have hereSmall := Nat.mod_lt (i * size) positive
  have wholeSmall := Nat.mod_lt size positive
  rw [cut, cut, Nat.succ_mul]
  constructor
  · rw [Nat.le_div_iff_mul_le positive, Nat.add_mul, Nat.mul_comm _ parts,
      Nat.mul_comm _ parts]
    omega
  · have below : (i * size + size) / parts < i * size / parts + size / parts + 2 := by
      rw [Nat.div_lt_iff_lt_mul positive]
      have expanded : (i * size / parts + size / parts + 2) * parts =
          parts * (i * size / parts) + parts * (size / parts) + parts + parts := by
        ring
      omega
    omega

theorem cut_mono (size : Nat) (positive : 0 < parts) : Monotone (cut size parts) := by
  apply monotone_nat_of_le_succ
  intro i
  exact le_trans (Nat.le_add_right _ _) (cut_succ size positive i).1

theorem cut_lt_cut_succ {size : Nat} (positive : 0 < parts) (enough : parts ≤ size) (i : Nat) :
    cut size parts i < cut size parts (i + 1) := by
  have quotient : 0 < size / parts := Nat.div_pos enough positive
  have step := (cut_succ size positive i).1
  omega

theorem exists_cut {size key : Nat} (positive : 0 < parts) (inside : key < size) :
    ∃ i, i < parts ∧ cut size parts i ≤ key ∧ key < cut size parts (i + 1) := by
  have some_past : ∃ i, key < cut size parts i :=
    ⟨parts, by rwa [cut_parts size positive]⟩
  have past := Nat.find_spec some_past
  have early : ∀ i, i < Nat.find some_past → cut size parts i ≤ key :=
    fun i before => Nat.le_of_not_lt (Nat.find_min some_past before)
  have bounded : Nat.find some_past ≤ parts :=
    Nat.find_min' some_past (by rwa [cut_parts size positive])
  cases found : Nat.find some_past with
  | zero =>
      rw [found, cut_zero] at past
      omega
  | succ i =>
      rw [found] at past
      exact ⟨i, by omega, early i (by omega), past⟩

theorem evenPartition_cut {size : Nat} (lower : Nat) (positive : 0 < parts)
    (enough : parts ≤ size) :
    EvenPartition lower (lower + size) parts fun i =>
      (lower + cut size parts i, lower + cut size parts (i + 1)) where
  nonempty i _ := by
    have step := cut_lt_cut_succ positive enough i
    simp only
    omega
  first := by simp
  last := by
    have final : parts - 1 + 1 = parts := by omega
    simp only [final, cut_parts size positive]
  contiguous _ _ := rfl
  disjoint i j _ _ different key := by
    intro both
    rcases both with ⟨⟨fromLeft, toLeft⟩, fromRight, toRight⟩
    simp only at fromLeft toLeft fromRight toRight
    rcases Nat.lt_or_gt_of_ne different with before | after
    · have ordered := cut_mono size positive (Nat.succ_le_of_lt before)
      simp only [Nat.succ_eq_add_one] at ordered
      omega
    · have ordered := cut_mono size positive (Nat.succ_le_of_lt after)
      simp only [Nat.succ_eq_add_one] at ordered
      omega
  covers key := by
    constructor
    · intro inside
      have offset : key - lower < size := by omega
      rcases exists_cut positive offset with ⟨i, bounded, above, below⟩
      exact ⟨i, bounded, by simp only; omega, by simp only; omega⟩
    · intro covered
      rcases covered with ⟨i, bounded, above, below⟩
      have ordered := cut_mono size positive (Nat.succ_le_of_lt bounded)
      rw [cut_parts size positive] at ordered
      simp only [Nat.succ_eq_add_one] at above below ordered
      omega
  balanced i j _ _ := by
    have left := cut_succ size positive i
    have right := cut_succ size positive j
    simp only
    omega

end

/-! ## Round robin -/

/-- Where a cursor over `span` keys stands after `turns` turns. -/
def cursor (span phase turns : Nat) : Nat :=
  (phase + turns) % span

theorem cursor_succ (span phase turns : Nat) :
    (cursor span phase turns + 1) % span = cursor span phase (turns + 1) := by
  simp only [cursor, Nat.mod_add_mod, Nat.add_assoc]

theorem cursor_lt {span : Nat} (positive : 0 < span) (phase turns : Nat) :
    cursor span phase turns < span :=
  Nat.mod_lt _ positive

/-- How often the first `turns` turns visit one key. -/
def visits (span phase turns key : Nat) : Nat :=
  Nat.count (fun turn => cursor span phase turn = key) turns

theorem cursor_eq_iff {span key : Nat} (inside : key < span) (phase turn : Nat) :
    cursor span phase turn = key ↔ turn ≡ key + (span - phase % span) [MOD span] := by
  have positive : 0 < span := by omega
  have small := Nat.mod_lt phase positive
  have restart : (phase + (key + (span - phase % span))) % span = key := by
    have split := Nat.div_add_mod phase span
    have total : phase + (key + (span - phase % span)) =
        key + span * (phase / span + 1) := by
      rw [Nat.mul_add]
      omega
    rw [total, Nat.add_mul_mod_self_left, Nat.mod_eq_of_lt inside]
  constructor
  · intro here
    apply Nat.ModEq.add_left_cancel' phase
    rw [Nat.ModEq, restart]
    exact here
  · intro same
    rw [cursor, ← restart]
    exact same.add_left phase

/-- Any two keys are visited equally often, up to one visit. -/
theorem visits_balanced {span left right : Nat} (leftInside : left < span)
    (rightInside : right < span) (phase turns : Nat) :
    visits span phase turns left ≤ visits span phase turns right + 1 := by
  have positive : 0 < span := by omega
  simp only [visits, cursor_eq_iff leftInside, cursor_eq_iff rightInside,
    Nat.count_modEq_card _ positive]
  split <;> split <;> omega

end DsBench
