import Mathlib.Algebra.BigOperators.Group.List.Basic
import Mathlib.Algebra.Order.BigOperators.Group.List
import Mathlib.Algebra.Order.Field.Basic
import Mathlib.Data.List.Perm.Subperm
import Mathlib.Data.Rat.Defs
import Mathlib.Tactic.Linarith
import Mathlib.Tactic.Ring

/-! # Rates measured over windows of one length

Several parties each count completions in a window of the same length and divide by
it. When the windows lie close together, the sum of the rates exceeds what one server
can do by no more than the windows' span exceeds their length.
-/

namespace DsBench

def completedWithin (completions : List ℚ) (first last : ℚ) : List ℚ :=
  completions.filter fun instant => first ≤ instant ∧ instant ≤ last

/-- No interval of at least the given length sees more completions than the rate
allows. Shorter intervals are left free, so that completions can happen at all. -/
def KeepsRate (completions : List ℚ) (rate least : ℚ) : Prop :=
  ∀ first last, least ≤ last - first →
    (completedWithin completions first last).length ≤ rate * (last - first)

namespace KeepsRate

variable {completions : List ℚ} {rate least : ℚ}

theorem rate_nonneg (keeps : KeepsRate completions rate least) (positive : 0 < least) :
    0 ≤ rate := by
  have empty := keeps 0 least (by linarith)
  have counted : (0 : ℚ) ≤ (completedWithin completions 0 least).length := by positivity
  rw [sub_zero] at empty
  by_contra negative
  have product := mul_neg_of_neg_of_pos (not_le.mp negative) positive
  linarith

theorem length_le (keeps : KeepsRate completions rate least) {part : List ℚ}
    {first last : ℚ} (partOf : part.Subperm completions)
    (within : ∀ instant ∈ part, first ≤ instant ∧ instant ≤ last)
    (long : least ≤ last - first) : (part.length : ℚ) ≤ rate * (last - first) := by
  have kept : completedWithin part first last = part := by
    rw [completedWithin, List.filter_eq_self]
    simpa using within
  have fewer : part.length ≤ (completedWithin completions first last).length := by
    rw [← kept]
    exact (partOf.filter _).length_le
  calc
    (part.length : ℚ) ≤ (completedWithin completions first last).length := by
      exact_mod_cast fewer
    _ ≤ rate * (last - first) := keeps first last long

end KeepsRate

/-- Rates over windows of one length, summed: each party's rate times the window is no
more than what it completed, and all of that lies between `first` and `last`. -/
theorem sum_rates_le {Party : Type u} (parties : List Party) (rateOf : Party → ℚ)
    (completed : Party → List ℚ) (first last : ℚ) {server : List ℚ}
    {capacity window factor : ℚ}
    (counted : ∀ party ∈ parties, rateOf party * window ≤ (completed party).length)
    (within : ∀ party ∈ parties, ∀ instant ∈ completed party,
      first ≤ instant ∧ instant ≤ last)
    (served : (parties.flatMap completed).Subperm server)
    (keeps : KeepsRate server capacity window) (positive : 0 < window)
    (long : window ≤ last - first) (close : last - first ≤ factor * window) :
    (parties.map rateOf).sum ≤ factor * capacity := by
  have summed : (parties.map rateOf).sum * window ≤ (parties.flatMap completed).length := by
    clear within served
    induction parties with
    | nil => simp
    | cons party parties induction =>
        have here := counted party (by simp)
        have rest := induction fun other member => counted other (by simp [member])
        simp only [List.map_cons, List.sum_cons, List.flatMap_cons, List.length_append,
          Nat.cast_add]
        linarith
  have allWithin : ∀ instant ∈ parties.flatMap completed,
      first ≤ instant ∧ instant ≤ last := by
    intro instant member
    rcases List.mem_flatMap.mp member with ⟨party, inParties, instantOf⟩
    exact within party inParties instant instantOf
  have bounded := keeps.length_le served allWithin long
  have scaled : (parties.map rateOf).sum * window ≤ factor * capacity * window :=
    calc
      (parties.map rateOf).sum * window ≤ capacity * (last - first) := by linarith
      _ ≤ capacity * (factor * window) :=
        mul_le_mul_of_nonneg_left close (keeps.rate_nonneg positive)
      _ = factor * capacity * window := by ring
  exact le_of_mul_le_mul_right scaled positive

end DsBench
