import Mathlib.Data.List.Perm.Basic
import Mathlib.Order.Lattice

/-! # Ranges that tile an interval

Half-open ranges in order, each beginning where the one before it ends.
-/

namespace DsBench

variable {Point : Type u}

def InRange [LinearOrder Point] (key : Point) (range : Point × Point) : Prop :=
  range.1 ≤ key ∧ key < range.2

/-- `Tiles lower upper ranges`: from `lower` on each range ends where the next begins,
and the last one ends at `upper`. -/
inductive Tiles (upper : Point) : Point → List (Point × Point) → Prop where
  | last (lower : Point) : Tiles upper lower [(lower, upper)]
  | next (lower middle : Point) {rest : List (Point × Point)} :
      Tiles upper middle rest → Tiles upper lower ((lower, middle) :: rest)

namespace Tiles

variable {lower upper : Point} {ranges : List (Point × Point)}

theorem first (tiles : Tiles upper lower ranges) :
    ∃ stop rest, ranges = (lower, stop) :: rest := by
  cases tiles with
  | last => exact ⟨_, _, rfl⟩
  | next middle rest => exact ⟨_, _, rfl⟩

section

variable [LinearOrder Point]

theorem covers (tiles : Tiles upper lower ranges) {key : Point} (above : lower ≤ key)
    (below : key < upper) : ∃ range ∈ ranges, InRange key range := by
  induction tiles with
  | last lower => exact ⟨_, List.mem_singleton_self _, above, below⟩
  | next lower middle rest induction =>
      by_cases inside : key < middle
      · exact ⟨_, List.mem_cons_self, above, inside⟩
      · rcases induction (le_of_not_gt inside) with ⟨range, member, contains⟩
        exact ⟨range, List.mem_cons_of_mem _ member, contains⟩

theorem within (tiles : Tiles upper lower ranges)
    (forward : ∀ range ∈ ranges, range.1 ≤ range.2) :
    lower ≤ upper ∧ ∀ range ∈ ranges, lower ≤ range.1 ∧ range.2 ≤ upper := by
  induction tiles with
  | last lower =>
      refine ⟨forward _ (List.mem_singleton_self _), ?_⟩
      intro range member
      rw [List.mem_singleton] at member
      subst member
      exact ⟨le_rfl, le_rfl⟩
  | next lower middle rest induction =>
      have here := forward _ List.mem_cons_self
      have there := induction fun range member =>
        forward range (List.mem_cons_of_mem _ member)
      simp only at here
      refine ⟨le_trans here there.1, ?_⟩
      intro range member
      rcases List.mem_cons.mp member with own | later
      · subst own
        exact ⟨le_rfl, there.1⟩
      · have bounds := there.2 range later
        exact ⟨le_trans here bounds.1, bounds.2⟩

theorem disjoint (tiles : Tiles upper lower ranges)
    (forward : ∀ range ∈ ranges, range.1 ≤ range.2) :
    ranges.Pairwise fun left right => ∀ key, ¬ (InRange key left ∧ InRange key right) := by
  induction tiles with
  | last lower => exact List.pairwise_singleton _ _
  | next lower middle rest induction =>
      have later := fun range member => forward range (List.mem_cons_of_mem _ member)
      apply List.Pairwise.cons _ (induction later)
      intro range member key both
      have bounds := (rest.within later).2 range member
      rcases both with ⟨⟨_, before⟩, after, _⟩
      exact absurd (lt_of_lt_of_le before bounds.1) (not_lt_of_ge after)

end

end Tiles

/-! ## The check -/

section

variable [DecidableEq Point]

def touches : List (Point × Point) → Bool
  | left :: right :: rest => left.2 == right.1 && touches (right :: rest)
  | _ => true

/-- From `lower` to `upper` without a gap. -/
def tilesDomain (lower upper : Point) (ranges : List (Point × Point)) : Bool :=
  match ranges.head?, ranges.getLast? with
  | some first, some last => first.1 == lower && last.2 == upper && touches ranges
  | _, _ => false

theorem tiles_of_touches {first last : Point × Point} {rest : List (Point × Point)}
    (ends : (first :: rest).getLast? = some last)
    (touching : touches (first :: rest) = true) :
    Tiles last.2 first.1 (first :: rest) := by
  induction rest generalizing first with
  | nil =>
      cases ends
      exact .last _
  | cons second rest induction =>
      rw [touches, Bool.and_eq_true, beq_iff_eq] at touching
      rw [List.getLast?_cons_cons] at ends
      have following := induction ends touching.2
      rw [← touching.1] at following
      exact .next first.1 first.2 following

theorem Tiles.touches {lower upper : Point} {ranges : List (Point × Point)}
    (tiles : Tiles upper lower ranges) :
    DsBench.touches ranges = true ∧ ∃ last, ranges.getLast? = some last ∧
      last.2 = upper := by
  induction tiles with
  | last lower => exact ⟨rfl, _, rfl, rfl⟩
  | next lower middle rest induction =>
      rcases rest.first with ⟨stop, others, same⟩
      subst same
      rw [DsBench.touches, induction.1, List.getLast?_cons_cons]
      simp only [BEq.rfl, Bool.and_self, true_and]
      exact induction.2

/-- The check accepts exactly the lists that tile the domain. -/
theorem tilesDomain_iff {lower upper : Point} {ranges : List (Point × Point)} :
    tilesDomain lower upper ranges = true ↔ Tiles upper lower ranges := by
  constructor
  · intro accepted
    cases ranges with
    | nil => cases accepted
    | cons first rest =>
        rw [tilesDomain, List.head?_cons, List.getLast?_eq_getLast_of_ne_nil (by simp)]
          at accepted
        simp only [Bool.and_eq_true, beq_iff_eq] at accepted
        rcases accepted with ⟨⟨start, stop⟩, touching⟩
        have tiles := tiles_of_touches
          (List.getLast?_eq_getLast_of_ne_nil (by simp)) touching
        rwa [start, stop] at tiles
  · intro tiles
    rcases tiles.first with ⟨stop, rest, same⟩
    rcases tiles.touches with ⟨touching, last, ends, stops⟩
    rw [tilesDomain, ends, same, List.head?_cons]
    rw [same] at touching
    simp [touching, stops]

end

theorem tiles_of_contiguous {count : Nat} {slice : Nat → Point × Point} (start : Nat)
    (contiguous : ∀ i, i < count → (slice (start + i)).2 = (slice (start + i + 1)).1) :
    Tiles (slice (start + count)).2 (slice start).1
      ((List.range' start (count + 1)).map slice) := by
  induction count generalizing start with
  | zero => exact .last _
  | succ count induction =>
      rw [List.range'_succ, List.map_cons]
      have following := induction (start + 1) fun i bounded => by
        have next := contiguous (i + 1) (by omega)
        rwa [show start + (i + 1) = start + 1 + i by omega] at next
      have here := contiguous 0 (by omega)
      rw [Nat.add_zero] at here
      rw [← here, show start + 1 + count = start + (count + 1) by omega] at following
      exact .next (slice start).1 (slice start).2 following

end DsBench
