import Mathlib.Data.List.DropRight
import Mathlib.Data.List.Infix

/-! # Text without long runs

Runs of symbols of one kind, and texts in which none of them reaches a given length.
-/

namespace DsBench

variable {Symbol : Type u} {kind : Symbol → Bool} {limit : Nat} {text : List Symbol}

def RunFree (kind : Symbol → Bool) (limit : Nat) (text : List Symbol) : Prop :=
  ∀ run, run <:+: text → (∀ symbol ∈ run, kind symbol = true) → run.length < limit

namespace RunFree

theorem of_part {part : List Symbol} (free : RunFree kind limit text)
    (inside : part <:+: text) : RunFree kind limit part :=
  fun run within same => free run (within.trans inside) same

theorem mono {larger : Nat} (free : RunFree kind limit text) (le : limit ≤ larger) :
    RunFree kind larger text :=
  fun run within same => (free run within same).trans_le le

theorem nil (positive : 0 < limit) : RunFree kind limit [] := by
  intro run within _
  rw [List.infix_nil.mp within]
  exact positive

theorem of_filter {keep : Symbol → Bool}
    (keeps : ∀ symbol, kind symbol = true → keep symbol = true)
    (free : RunFree kind limit (text.filter keep)) : RunFree kind limit text := by
  intro run within same
  have kept : run.filter keep = run :=
    List.filter_eq_self.mpr fun symbol member => keeps symbol (same symbol member)
  apply free run _ same
  rw [← kept]
  exact within.filter keep

theorem of_aligned {period : Nat} (positive : 0 < period)
    (aligned : ∀ index symbol, text[period * index]? = some symbol → kind symbol = false) :
    RunFree kind period text := by
  intro run within same
  by_contra long
  rw [not_lt] at long
  rcases within with ⟨front, back, shape⟩
  let index := (front.length + period - 1) / period
  have upper : period * index ≤ front.length + period - 1 := Nat.mul_div_le _ _
  have lower : front.length + period - 1 < period * (index + 1) :=
    Nat.lt_mul_div_succ _ positive
  rw [Nat.mul_succ] at lower
  have inside : period * index - front.length < run.length := by omega
  have found : text[period * index]? = some run[period * index - front.length] := by
    rw [← shape, List.append_assoc, List.getElem?_append_right (by omega),
      List.getElem?_append_left inside, List.getElem?_eq_getElem inside]
  have other := aligned index _ found
  rw [same _ (List.getElem_mem inside)] at other
  cases other

theorem length_rtakeWhile (free : RunFree kind limit text) :
    (text.rtakeWhile kind).length < limit :=
  free _ (List.rtakeWhile_suffix kind text).isInfix fun _ member =>
    List.mem_rtakeWhile_imp member

theorem join {front back : List Symbol} {symbol : Symbol} (freeFront : RunFree kind limit front)
    (other : kind symbol = false) (freeBack : RunFree kind limit back) :
    RunFree kind limit (front ++ symbol :: back) := by
  intro run within same
  rcases List.infix_append_iff.mp within with
    inFront | inBack | ⟨left, right, shape, ends, begins⟩
  · exact freeFront run inFront same
  · rcases List.infix_cons_iff.mp inBack with begins | inside
    · cases run with
      | nil => exact freeFront [] List.nil_infix same
      | cons first run =>
          have equal := (List.cons_prefix_cons.mp begins).1
          have isKind := same first List.mem_cons_self
          rw [equal, other] at isKind
          cases isKind
    · exact freeBack run inside same
  · cases right with
    | nil =>
        rw [List.append_nil] at shape
        rw [shape] at same ⊢
        exact freeFront left ends.isInfix same
    | cons first right =>
        have equal := (List.cons_prefix_cons.mp begins).1
        have isKind := same first (by rw [shape]; simp)
        rw [equal, other] at isKind
        cases isKind

end RunFree

/-- The first run that reaches the limit, in its full extent: no run before it is as long,
and a symbol of another kind bounds it at either end. -/
structure FirstRun (kind : Symbol → Bool) (limit : Nat)
    (text front run back : List Symbol) : Prop where
  text_eq : text = front ++ (run ++ back)
  free : RunFree kind limit front
  before : ∀ last ∈ front.getLast?, kind last = false
  same : ∀ symbol ∈ run, kind symbol = true
  long : limit ≤ run.length
  after : ∀ next ∈ back.head?, kind next = false

namespace FirstRun

variable {front run back : List Symbol}

theorem isInfix (first : FirstRun kind limit text front run back) : run <:+: text := by
  rw [first.text_eq]
  exact List.infix_append' front run back

theorem of_takeWhile (positive : 0 < limit) (long : limit ≤ (text.takeWhile kind).length) :
    FirstRun kind limit text [] (text.takeWhile kind) (text.dropWhile kind) where
  text_eq := by rw [List.nil_append, List.takeWhile_append_dropWhile]
  free := RunFree.nil positive
  before := by
    intro last member
    cases member
  same := fun _ => List.mem_takeWhile_imp
  long := long
  after := by
    intro next member
    have stops := List.head?_dropWhile_not kind text
    rw [Option.mem_def] at member
    rw [member] at stops
    exact stops

theorem behind {skipped : List Symbol} {symbol : Symbol}
    (first : FirstRun kind limit text front run back)
    (freeSkipped : RunFree kind limit skipped) (other : kind symbol = false) :
    FirstRun kind limit (skipped ++ symbol :: text) (skipped ++ symbol :: front) run back where
  text_eq := by
    rw [List.append_assoc, List.cons_append, ← first.text_eq]
  free := freeSkipped.join other first.free
  before := by
    intro last member
    rw [List.getLast?_append, List.getLast?_cons] at member
    cases ends : front.getLast? with
    | none =>
        rw [ends] at member
        cases member
        exact other
    | some final =>
        rw [ends] at member
        cases member
        exact first.before final (by rw [ends]; rfl)
  same := first.same
  long := first.long
  after := first.after

end FirstRun

theorem runFree_or_firstRun (positive : 0 < limit) (text : List Symbol) :
    RunFree kind limit text ∨ ∃ front run back, FirstRun kind limit text front run back := by
  induction length : text.length using Nat.strong_induction_on generalizing text with
  | _ size induction =>
      by_cases long : limit ≤ (text.takeWhile kind).length
      · exact .inr ⟨[], _, _, FirstRun.of_takeWhile positive long⟩
      · have split : text.takeWhile kind ++ text.dropWhile kind = text :=
          List.takeWhile_append_dropWhile
        have short : RunFree kind limit (text.takeWhile kind) := by
          intro run within _
          exact lt_of_le_of_lt within.length_le (not_le.mp long)
        cases dropped : text.dropWhile kind with
        | nil =>
            rw [dropped, List.append_nil] at split
            rw [split] at short
            exact .inl short
        | cons symbol rest =>
            have stops := List.head?_dropWhile_not kind text
            rw [dropped] at stops split
            have shorter : rest.length < size := by
              rw [← length, ← split, List.length_append, List.length_cons]
              omega
            rcases induction rest.length shorter rest rfl with
              free | ⟨front, run, back, first⟩
            · left
              rw [← split]
              exact short.join stops free
            · right
              rw [← split]
              exact ⟨_, run, back, first.behind short stops⟩

end DsBench
