import DsBench.Workloads.ReplayLoop
import Mathlib.Data.List.Infix

/-! # Backpressure by the text of an error

A reader tells backpressure from other failures by the digits in the text of the error.
The text names the status of the last response, if there was one.
-/

namespace DsBench.Workloads

theorem contains_iff {needle text : Text} :
    contains needle text = true ↔ needle <:+: text := by
  rw [contains, List.any_eq_true, List.infix_iff_prefix_suffix]
  constructor
  · intro found
    rcases found with ⟨tail, listed, front⟩
    exact ⟨tail, List.isPrefixOf_iff_prefix.mp front, (List.mem_tails tail text).mp listed⟩
  · intro found
    rcases found with ⟨tail, front, back⟩
    exact ⟨tail, (List.mem_tails tail text).mpr back, List.isPrefixOf_iff_prefix.mpr front⟩

def Wordy (text : Text) : Prop := ∀ character ∈ text, character.isDigit = false

instance (text : Text) : Decidable (Wordy text) :=
  List.decidableBAll (fun character : Char => character.isDigit = false) text

theorem Wordy.disjoint {words needle part : Text} (wordy : Wordy words)
    (digits : ∀ character ∈ needle, character.isDigit = true) (some_part : part ≠ [])
    (inside : ∀ character ∈ part, character ∈ words)
    (taken : ∀ character ∈ part, character ∈ needle) : False := by
  rcases List.exists_mem_of_ne_nil part some_part with ⟨character, member⟩
  have word := wordy character (inside character member)
  rw [digits character (taken character member)] at word
  cases word

theorem infix_after_words {needle words rest : Text} (wordy : Wordy words)
    (digits : ∀ character ∈ needle, character.isDigit = true) (some_needle : needle ≠ []) :
    needle <:+: words ++ rest ↔ needle <:+: rest := by
  rw [List.infix_append_iff_ne_nil]
  constructor
  · intro found
    rcases found with inside | inside | ⟨left, right, some_left, _, split, back, _⟩
    · exact (wordy.disjoint digits some_needle (fun _ member => inside.subset member)
        (fun _ member => member)).elim
    · exact inside
    · exact (wordy.disjoint digits some_left (fun _ member => back.subset member)
        (fun _ member => by rw [split]; exact List.mem_append_left _ member)).elim
  · intro found
    exact .inr (.inl found)

theorem infix_before_words {needle words front : Text} (wordy : Wordy words)
    (digits : ∀ character ∈ needle, character.isDigit = true) (some_needle : needle ≠ []) :
    needle <:+: front ++ words ↔ needle <:+: front := by
  rw [List.infix_append_iff_ne_nil]
  constructor
  · intro found
    rcases found with inside | inside | ⟨left, right, _, some_right, split, _, ahead⟩
    · exact inside
    · exact (wordy.disjoint digits some_needle (fun _ member => inside.subset member)
        (fun _ member => member)).elim
    · exact (wordy.disjoint digits some_right (fun _ member => ahead.subset member)
        (fun _ member => by rw [split]; exact List.mem_append_right _ member)).elim
  · intro found
    exact .inl found

theorem length_decimal {value : Nat} (lower : 100 ≤ value) (upper : value < 1000) :
    (decimal value).length = 3 := by
  have short := (Nat.length_toDigits_le_iff (by decide) (by decide)).mpr
    (upper.trans_eq (by decide : 1000 = 10 ^ 3))
  have long : ¬ (decimal value).length ≤ 2 := by
    intro shorter
    have small := (Nat.length_toDigits_le_iff (by decide) (by decide)).mp shorter
    omega
  rw [decimal] at long ⊢
  omega

def IsStatus (code : Nat) : Prop := 100 ≤ code ∧ code < 1000

instance (code : Nat) : Decidable (IsStatus code) := inferInstanceAs (Decidable (_ ∧ _))

namespace ReplayLoop

open CatchUp

theorem contains_statusText {what reason : Text} {code wanted : Nat} (status : IsStatus code)
    (sought : IsStatus wanted) (before : Wordy what) (after : Wordy reason) :
    contains (decimal wanted) (what ++ statusText code reason) = true ↔ code = wanted := by
  have digits : ∀ character ∈ decimal wanted, character.isDigit = true :=
    fun _ member => isDigit_of_mem_decimal member
  have words : Wordy (' ' :: reason) := by
    intro character member
    rcases List.mem_cons.mp member with space | inside
    · rw [space]
      rfl
    · exact after character inside
  rw [contains_iff, infix_after_words before digits (decimal_ne_nil wanted), statusText,
    infix_before_words words digits (decimal_ne_nil wanted)]
  constructor
  · intro inside
    have same := inside.eq_of_length
      ((length_decimal sought.1 sought.2).trans (length_decimal status.1 status.2).symm)
    exact (decimal_injective same).symm
  · intro equal
    rw [equal]

theorem contains_words {text : Text} {wanted : Nat} (wordy : Wordy text) :
    contains (decimal wanted) text = false := by
  rw [← Bool.not_eq_true, contains_iff]
  intro inside
  exact wordy.disjoint (fun _ member => isDigit_of_mem_decimal member)
    (decimal_ne_nil wanted) (fun _ member => inside.subset member) fun _ member => member

structure Describes (describe : Failure → Text) : Prop where
  get : Wordy (describe .get)
  body : Wordy (describe .body)
  status : ∃ what, Wordy what ∧ ∀ code reason,
    describe (.status code reason) = what ++ statusText code reason

def Failure.Sensible : Failure → Prop
  | .status code reason => IsStatus code ∧ Wordy reason
  | _ => True

def Failure.Busy : Failure → Prop
  | .status code _ => isBackpressure code
  | _ => False

instance (failure : Failure) : Decidable failure.Busy := by
  cases failure
  · exact inferInstanceAs (Decidable False)
  · exact inferInstanceAs (Decidable (isBackpressure _))
  · exact inferInstanceAs (Decidable False)

theorem Describes.busy_iff {describe : Failure → Text} (describes : Describes describe)
    {failure : Failure} (sensible : failure.Sensible) :
    isBusyMessage (describe failure) = true ↔ failure.Busy := by
  have first : "503".toList = decimal 503 := by decide
  have second : "429".toList = decimal 429 := by decide
  rw [isBusyMessage, Bool.or_eq_true, first, second]
  cases failure with
  | get => simp [contains_words describes.get, Failure.Busy]
  | body => simp [contains_words describes.body, Failure.Busy]
  | status code reason =>
      rcases describes.status with ⟨what, wordy, text⟩
      rw [text, contains_statusText sensible.1 (by decide) wordy sensible.2,
        contains_statusText sensible.1 (by decide) wordy sensible.2]
      exact Iff.rfl

theorem catchUpFailure_describes : Describes catchUpFailure where
  get := by decide +kernel
  body := by decide +kernel
  status := ⟨"catch-up status ".toList, by decide +kernel, fun _ _ => rfl⟩

theorem readsFailure_describes : Describes readsFailure where
  get := by decide +kernel
  body := by decide +kernel
  status := ⟨"reads GET status ".toList, by decide +kernel, fun _ _ => rfl⟩

/-- A pass of the reads workload and a replay take the same failures for backpressure. -/
theorem busy_alike {failure : Failure} (sensible : failure.Sensible) :
    isBusyMessage (readsFailure failure) = true ↔
      isBusyMessage (catchUpFailure failure) = true := by
  rw [readsFailure_describes.busy_iff sensible, catchUpFailure_describes.busy_iff sensible]

end ReplayLoop

end DsBench.Workloads
