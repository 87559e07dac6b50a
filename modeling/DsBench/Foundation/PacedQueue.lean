import Mathlib.Algebra.Order.Monoid.Defs
import Mathlib.Data.Nat.Find
import Mathlib.Order.Monotone.Basic

/-! # Work that falls due at fixed instants

A worker takes its pieces of work in turn. It sleeps until the next one is due, and the
sleep may end late; it starts at once when it is behind. It leaves no piece out, so after
a stall it works through its backlog, until a piece would start at a deadline or later.
-/

namespace DsBench

/-- When each piece of work is due, how late a sleep until then ends, and how long the
worker is held up by the piece. -/
structure PacedQueue (Time : Type u) [Zero Time] [LE Time] where
  opens : Time
  due : Nat → Time
  late : Nat → Time
  busy : Nat → Time
  opens_le : opens ≤ due 0
  late_nonneg : ∀ piece, 0 ≤ late piece
  busy_nonneg : ∀ piece, 0 ≤ busy piece

variable {Time : Type u} [LinearOrder Time] [AddCommMonoid Time]

def sleepUntil (due late now : Time) : Time := if now < due then due + late else now

section

variable [IsOrderedAddMonoid Time] {due late now deadline : Time}

theorem due_le_sleepUntil (nonneg : 0 ≤ late) : due ≤ sleepUntil due late now := by
  rw [sleepUntil]
  split
  · exact le_add_of_nonneg_right nonneg
  · rename_i behind
    exact not_lt.mp behind

theorem now_le_sleepUntil (nonneg : 0 ≤ late) : now ≤ sleepUntil due late now := by
  rw [sleepUntil]
  split
  · rename_i early
    exact early.le.trans (le_add_of_nonneg_right nonneg)
  · exact le_refl now

theorem sleepUntil_lt_iff (nonneg : 0 ≤ late) (inTime : due + late < deadline) :
    sleepUntil due late now < deadline ↔ now < deadline := by
  rw [sleepUntil]
  split
  · rename_i early
    have dueInTime : due < deadline := (le_add_of_nonneg_right nonneg).trans_lt inTime
    exact ⟨fun _ => early.trans dueInTime, fun _ => inTime⟩
  · exact Iff.rfl

end

namespace PacedQueue

variable (queue : PacedQueue Time)

def free : Nat → Time
  | 0 => queue.opens
  | piece + 1 =>
      sleepUntil (queue.due piece) (queue.late piece) (free piece) + queue.busy piece

def starts (piece : Nat) : Time :=
  sleepUntil (queue.due piece) (queue.late piece) (queue.free piece)

theorem free_succ (piece : Nat) :
    queue.free (piece + 1) = queue.starts piece + queue.busy piece := rfl

/-- The worker takes the pieces below `count` and no more. -/
structure LeavesAt (deadline : Time) (count : Nat) : Prop where
  before : ∀ piece < count, queue.starts piece < deadline
  past : deadline ≤ queue.starts count

variable [IsOrderedAddMonoid Time] {deadline : Time} {count : Nat}

theorem due_le_starts (piece : Nat) : queue.due piece ≤ queue.starts piece :=
  due_le_sleepUntil (queue.late_nonneg piece)

theorem exists_leavesAt {piece : Nat} (past : deadline ≤ queue.due piece) :
    ∃ count ≤ piece, queue.LeavesAt deadline count := by
  classical
  have late : ∃ piece, deadline ≤ queue.starts piece :=
    ⟨piece, past.trans (queue.due_le_starts piece)⟩
  refine ⟨Nat.find late, Nat.find_min' late (past.trans (queue.due_le_starts piece)), ?_⟩
  exact {
    before := fun earlier before => not_le.mp (Nat.find_min late before)
    past := Nat.find_spec late }

variable {queue}

namespace LeavesAt

theorem held_up (leaves : queue.LeavesAt deadline count)
    (inTime : queue.due count + queue.late count < deadline) :
    ∃ last, count = last + 1 ∧ deadline ≤ queue.starts last + queue.busy last := by
  have behind : deadline ≤ queue.free count := by
    by_contra early
    have started := (sleepUntil_lt_iff (queue.late_nonneg count) inTime).mpr
      (not_le.mp early)
    exact absurd leaves.past (not_le.mpr started)
  cases count with
  | zero =>
      -- nothing precedes the first piece, which is not due before the worker opens
      have dueLate : deadline ≤ queue.due 0 := behind.trans queue.opens_le
      have dueInTime := (le_add_of_nonneg_right (queue.late_nonneg 0)).trans_lt inTime
      exact absurd dueLate (not_le.mpr dueInTime)
  | succ last => exact ⟨last, rfl, behind⟩

end LeavesAt

end PacedQueue

/-! ## Slots of one length -/

/-- How many of the instants `first`, `first + interval` and so on lie before the
deadline. -/
def slotsBefore (first interval deadline : Nat) : Nat :=
  (deadline - first + (interval - 1)) / interval

section

variable {first interval deadline : Nat}

end

end DsBench
