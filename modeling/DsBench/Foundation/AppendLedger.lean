import Mathlib.Data.List.Perm.Basic
import Mathlib.Tactic.Ring

/-! # What a log stores against what it acknowledges

Clients append to a log under keys. An append may be stored before it is answered, after
it, or never, and its answer may be lost, so the log and its clients can come to differ in
two ways: records stored without an acknowledgement, and acknowledgements without a record.
-/

namespace DsBench

/-- The records of a log beside what its clients know of it. -/
structure AppendLedger (Key : Type u) where
  /-- What the log holds. -/
  stored : List Key
  /-- What its clients were told it holds. -/
  acknowledged : List Key
  /-- Stored, but never acknowledged. -/
  doubtful : List Key
  /-- Acknowledged, and not stored yet. -/
  owed : List Key
  /-- Given up before it was stored. It may still come to be. -/
  adrift : List Key

namespace AppendLedger

variable {Key : Type u}

def empty : AppendLedger Key := ⟨[], [], [], [], []⟩

def store (ledger : AppendLedger Key) (key : Key) : AppendLedger Key :=
  { ledger with stored := ledger.stored ++ [key] }

/-- The client is told that its append succeeded. `arrived` says that it was stored. -/
def acknowledge (ledger : AppendLedger Key) (key : Key) (arrived : Bool) :
    AppendLedger Key :=
  { ledger with
    acknowledged := ledger.acknowledged ++ [key]
    owed := if arrived then ledger.owed else key :: ledger.owed }

def abandon (ledger : AppendLedger Key) (key : Key) (arrived : Bool) : AppendLedger Key :=
  if arrived then { ledger with doubtful := ledger.doubtful ++ [key] }
  else { ledger with adrift := key :: ledger.adrift }

section

variable [DecidableEq Key]

def settle (ledger : AppendLedger Key) (key : Key) : Option (AppendLedger Key) :=
  if key ∈ ledger.owed then
    some { ledger with stored := ledger.stored ++ [key], owed := ledger.owed.erase key }
  else none

def straggle (ledger : AppendLedger Key) (key : Key) : Option (AppendLedger Key) :=
  if key ∈ ledger.adrift then
    some { ledger with
      stored := ledger.stored ++ [key]
      doubtful := ledger.doubtful ++ [key]
      adrift := ledger.adrift.erase key }
  else none

/-- How much more of a key is stored, or owed, than acknowledged or in doubt. -/
def excess (ledger : AppendLedger Key) (key : Key) : ℤ :=
  ledger.stored.count key + ledger.owed.count key - ledger.acknowledged.count key -
    ledger.doubtful.count key

def held (asked : Option Key) (arrived : Bool) (key : Key) : ℤ :=
  if asked = some key ∧ arrived = true then 1 else 0

@[simp] theorem held_none (arrived : Bool) (key : Key) : held none arrived key = 0 := by
  simp [held]

@[simp] theorem held_false (asked : Option Key) (key : Key) : held asked false key = 0 := by
  simp [held]

theorem count_concat (keys : List Key) (key other : Key) :
    (keys ++ [other]).count key =
      keys.count key + if some other = some key then 1 else 0 := by
  rw [List.count_append, List.count_singleton]
  simp

theorem excess_store (ledger : AppendLedger Key) (key other : Key) :
    (ledger.store other).excess key = ledger.excess key + held (some other) true key := by
  simp only [excess, store, held, count_concat, and_true]
  push_cast
  ring

theorem excess_acknowledge (ledger : AppendLedger Key) (key other : Key) (arrived : Bool) :
    (ledger.acknowledge other arrived).excess key =
      ledger.excess key - held (some other) arrived key := by
  cases arrived with
  | true =>
      simp only [excess, acknowledge, held, count_concat, and_true, if_true]
      push_cast
      ring
  | false =>
      simp only [excess, acknowledge, held_false, count_concat]
      by_cases same : other = key
      · simp [same]
        ring
      · simp [same]

theorem excess_abandon (ledger : AppendLedger Key) (key other : Key) (arrived : Bool) :
    (ledger.abandon other arrived).excess key =
      ledger.excess key - held (some other) arrived key := by
  cases arrived with
  | true =>
      simp only [excess, abandon, held, count_concat, and_true, if_true]
      push_cast
      ring
  | false => simp [excess, abandon]

theorem count_erase_of_mem {keys : List Key} {other : Key} (member : other ∈ keys)
    (key : Key) :
    (keys.erase other).count key + (if some other = some key then 1 else 0) =
      keys.count key := by
  have whole := (List.perm_cons_erase member).count_eq key
  rw [List.count_cons] at whole
  rw [whole]
  simp

theorem excess_settle {ledger next : AppendLedger Key} {other : Key}
    (settled : ledger.settle other = some next) (key : Key) :
    next.excess key = ledger.excess key := by
  rw [settle, Option.ite_none_right_eq_some] at settled
  rcases settled with ⟨member, same⟩
  cases same
  have taken := count_erase_of_mem member key
  simp only [excess, count_concat]
  omega

theorem excess_straggle {ledger next : AppendLedger Key} {other : Key}
    (straggled : ledger.straggle other = some next) (key : Key) :
    next.excess key = ledger.excess key := by
  rw [straggle, Option.ite_none_right_eq_some] at straggled
  rcases straggled with ⟨_, same⟩
  cases same
  simp only [excess, count_concat]
  push_cast
  ring

/-- Where nothing is in excess, what is stored or owed is what was acknowledged or is in
doubt. -/
theorem balanced {ledger : AppendLedger Key} (even : ∀ key, ledger.excess key = 0) :
    (ledger.stored ++ ledger.owed).Perm (ledger.acknowledged ++ ledger.doubtful) := by
  rw [List.perm_iff_count]
  intro key
  have here := even key
  rw [excess] at here
  rw [List.count_append, List.count_append]
  omega

end

/-! ## The keys in use -/

structure Only (Good : Key → Prop) (ledger : AppendLedger Key) : Prop where
  stored : ∀ key ∈ ledger.stored, Good key
  owed : ∀ key ∈ ledger.owed, Good key
  adrift : ∀ key ∈ ledger.adrift, Good key

namespace Only

variable {Good : Key → Prop} {ledger next : AppendLedger Key} {key : Key}

theorem concat {keys : List Key} (good : ∀ key ∈ keys, Good key) (new : Good key) :
    ∀ other ∈ keys ++ [key], Good other := by
  intro other member
  rcases List.mem_append.mp member with old | last
  · exact good other old
  · rw [List.mem_singleton] at last
    rwa [last]

theorem empty : (AppendLedger.empty : AppendLedger Key).Only Good := by
  constructor <;>
  · intro key member
    cases member

theorem store (only : ledger.Only Good) (good : Good key) : (ledger.store key).Only Good :=
  ⟨concat only.stored good, only.owed, only.adrift⟩

theorem acknowledge (only : ledger.Only Good) (good : Good key) (arrived : Bool) :
    (ledger.acknowledge key arrived).Only Good := by
  refine ⟨only.stored, ?_, only.adrift⟩
  cases arrived with
  | true => exact only.owed
  | false => exact List.forall_mem_cons.mpr ⟨good, only.owed⟩

theorem abandon (only : ledger.Only Good) (good : Good key) (arrived : Bool) :
    (ledger.abandon key arrived).Only Good := by
  cases arrived with
  | true => exact ⟨only.stored, only.owed, only.adrift⟩
  | false => exact ⟨only.stored, only.owed, List.forall_mem_cons.mpr ⟨good, only.adrift⟩⟩

variable [DecidableEq Key]

theorem settle (only : ledger.Only Good) (settled : ledger.settle key = some next) :
    next.Only Good := by
  rw [AppendLedger.settle, Option.ite_none_right_eq_some] at settled
  rcases settled with ⟨member, same⟩
  cases same
  refine ⟨concat only.stored (only.owed key member), ?_, only.adrift⟩
  intro other left
  exact only.owed other (List.mem_of_mem_erase left)

theorem straggle (only : ledger.Only Good) (straggled : ledger.straggle key = some next) :
    next.Only Good := by
  rw [AppendLedger.straggle, Option.ite_none_right_eq_some] at straggled
  rcases straggled with ⟨member, same⟩
  cases same
  refine ⟨concat only.stored (only.adrift key member), only.owed, ?_⟩
  intro other left
  exact only.adrift other (List.mem_of_mem_erase left)

end Only

end AppendLedger

end DsBench
