import Mathlib.Algebra.Order.Round
import Mathlib.Algebra.Ring.Subring.Basic
import Mathlib.Data.Nat.Factorization.Basic
import Mathlib.Data.Rat.Floor
import Mathlib.Tactic.FieldSimp
import Mathlib.Tactic.Linarith
import Mathlib.Tactic.Ring

/-! # Decimal text

Natural numbers and finite decimal fractions as the characters that print them.
Text is a list of characters throughout, so that parsers recurse on it directly.
-/

namespace DsBench

abbrev Text := List Char

/-! ## Natural numbers -/

def decimal (value : Nat) : Text := Nat.toDigits 10 value

/-- At least `width` digits, filled with leading zeros. -/
def padded (width value : Nat) : Text :=
  List.replicate (width - (decimal value).length) '0' ++ decimal value

def digitsValue (digits : Text) : Nat := Nat.ofDigitChars 10 digits 0

@[simp] theorem digitsValue_decimal (value : Nat) :
    digitsValue (decimal value) = value := by
  simp [digitsValue, decimal]

@[simp] theorem digitsValue_padded (width value : Nat) :
    digitsValue (padded width value) = value := by
  simp [digitsValue, padded, decimal, Nat.ofDigitChars_append]

theorem digitsValue_append (upper lower : Text) :
    digitsValue (upper ++ lower) =
      digitsValue upper * 10 ^ lower.length + digitsValue lower := by
  unfold digitsValue
  rw [Nat.ofDigitChars_append, Nat.ofDigitChars_eq_ofDigitChars_zero,
    Nat.mul_comm]

@[simp] theorem decimal_ne_nil (value : Nat) : decimal value ≠ [] := by
  simp [decimal]

theorem isDigit_of_mem_decimal {value : Nat} {digit : Char}
    (member : digit ∈ decimal value) : digit.isDigit = true :=
  Nat.isDigit_of_mem_toDigits (by decide) (by decide) member

theorem isDigit_of_mem_padded {width value : Nat} {digit : Char}
    (member : digit ∈ padded width value) : digit.isDigit = true := by
  rcases List.mem_append.mp member with filler | digits
  · rw [List.eq_of_mem_replicate filler]
    rfl
  · exact isDigit_of_mem_decimal digits

theorem length_padded {width value : Nat} (positive : 0 < width)
    (bound : value < 10 ^ width) : (padded width value).length = width := by
  have fits : (decimal value).length ≤ width :=
    (Nat.length_toDigits_le_iff (by decide) positive).mpr bound
  simp [padded]
  omega

private theorem digitChar_ne_zero : ∀ digit, digit < 10 → 0 < digit →
    Nat.digitChar digit ≠ '0' := by
  decide

theorem head_decimal_ne_zero {value : Nat} (positive : 0 < value) :
    (decimal value).head? ≠ some '0' := by
  induction value using Nat.strongRecOn with
  | ind value induction =>
      by_cases single : value < 10
      · rw [decimal, Nat.toDigits_of_lt_base single]
        simpa using digitChar_ne_zero value single positive
      · have split : decimal value =
            decimal (value / 10) ++ [Nat.digitChar (value % 10)] :=
          Nat.toDigits_of_base_le (by decide) (by omega)
        rw [split, List.head?_append_of_ne_nil _ (decimal_ne_nil _)]
        exact induction (value / 10) (by omega) (by omega)

@[simp] theorem decimal_zero : decimal 0 = ['0'] := rfl

theorem decimal_injective : Function.Injective decimal := by
  intro left right equal
  simpa using congrArg digitsValue equal

theorem padded_injective (width : Nat) : Function.Injective (padded width) := by
  intro left right equal
  simpa using congrArg digitsValue equal

/-! ## Reading unsigned integers -/

def trim (text : Text) : Text :=
  ((text.dropWhile Char.isWhitespace).reverse.dropWhile Char.isWhitespace).reverse

/-- `str::parse::<u64>`: digits with an optional plus sign, in range. -/
def parseU64 (text : Text) : Option Nat :=
  let unsigned := match text with
    | '+' :: rest => rest
    | _ => text
  if unsigned ≠ [] ∧ unsigned.all Char.isDigit ∧ digitsValue unsigned < 2 ^ 64 then
    some (digitsValue unsigned)
  else none

theorem not_isWhitespace_of_isDigit {character : Char}
    (digit : character.isDigit = true) : character.isWhitespace = false := by
  rw [Char.isWhitespace]
  simp only [Char.isDigit, Bool.and_eq_true, decide_eq_true_eq] at digit
  rcases digit with ⟨lower, -⟩
  have distinct : ∀ blank : Char, blank.val < '0'.val → character ≠ blank := by
    intro blank below equal
    cases equal
    exact absurd below (UInt32.not_lt.mpr lower)
  simp [distinct ' ' (by decide), distinct '\t' (by decide), distinct '\r' (by decide),
    distinct '\n' (by decide)]

theorem trim_decimal (value : Nat) : trim (decimal value) = decimal value := by
  have digits : ∀ digit ∈ decimal value, digit.isWhitespace = false := fun digit member =>
    not_isWhitespace_of_isDigit (isDigit_of_mem_decimal member)
  have front : (decimal value).dropWhile Char.isWhitespace = decimal value := by
    cases shape : decimal value with
    | nil => rfl
    | cons first rest => simp [digits first (by simp [shape])]
  have back : (decimal value).reverse.dropWhile Char.isWhitespace =
      (decimal value).reverse := by
    cases shape : (decimal value).reverse with
    | nil => rfl
    | cons last rest =>
        have member : last ∈ decimal value := by
          rw [← List.mem_reverse, shape]
          exact List.mem_cons_self
        simp [digits last member]
  rw [trim, front, back, List.reverse_reverse]

theorem trim_decimal_newline (value : Nat) :
    trim (decimal value ++ ['\n']) = decimal value := by
  have digits : ∀ digit ∈ decimal value, digit.isWhitespace = false := fun digit member =>
    not_isWhitespace_of_isDigit (isDigit_of_mem_decimal member)
  have keepFront : (decimal value ++ ['\n']).dropWhile Char.isWhitespace =
      decimal value ++ ['\n'] := by
    cases shape : decimal value with
    | nil => exact absurd shape (decimal_ne_nil value)
    | cons first rest =>
        have visible := digits first (by simp [shape])
        simp [visible]
  have keepBack : (decimal value).reverse.dropWhile Char.isWhitespace =
      (decimal value).reverse := by
    cases shape : (decimal value).reverse with
    | nil => exact absurd (List.reverse_eq_nil_iff.mp shape) (decimal_ne_nil value)
    | cons last rest =>
        have member : last ∈ decimal value := by
          rw [← List.mem_reverse, shape]
          simp
        simp [digits last member]
  have newline : Char.isWhitespace '\n' = true := rfl
  rw [trim, keepFront, List.reverse_append]
  simp [newline, keepBack]

theorem parseU64_decimal (value : Nat) :
    parseU64 (decimal value) = if value < 2 ^ 64 then some value else none := by
  have unsigned : (match decimal value with
      | '+' :: rest => rest
      | _ => decimal value) = decimal value := by
    split
    · rename_i rest shape
      have sign : '+' ∈ decimal value := by simp [shape]
      cases isDigit_of_mem_decimal sign
    · rfl
  have allDigits : (decimal value).all Char.isDigit = true :=
    List.all_eq_true.mpr fun _ => isDigit_of_mem_decimal
  simp [parseU64, unsigned, allDigits]

/-! ## Splitting at the end of a digit run -/

def StopsDigits (text : Text) : Prop :=
  ∀ first, text.head? = some first → first.isDigit = false

@[simp] theorem stopsDigits_nil : StopsDigits [] := by
  intro first equal
  cases equal

@[simp] theorem stopsDigits_cons (first : Char) (rest : Text) :
    StopsDigits (first :: rest) ↔ first.isDigit = false := by
  simp [StopsDigits]

theorem takeWhile_digits_append {digits rest : Text}
    (allDigits : ∀ digit ∈ digits, digit.isDigit = true)
    (stops : StopsDigits rest) :
    (digits ++ rest).takeWhile Char.isDigit = digits := by
  rw [List.takeWhile_append_of_pos allDigits]
  cases rest with
  | nil => simp
  | cons first rest =>
      have notDigit := stops first rfl
      simp [notDigit]

theorem dropWhile_digits_append {digits rest : Text}
    (allDigits : ∀ digit ∈ digits, digit.isDigit = true)
    (stops : StopsDigits rest) :
    (digits ++ rest).dropWhile Char.isDigit = rest := by
  rw [List.dropWhile_append_of_pos allDigits]
  cases rest with
  | nil => simp
  | cons first rest =>
      have notDigit := stops first rfl
      simp [notDigit]

theorem digits_append_inj {left right leftRest rightRest : Text}
    (leftDigits : ∀ digit ∈ left, digit.isDigit = true)
    (rightDigits : ∀ digit ∈ right, digit.isDigit = true)
    (leftStops : StopsDigits leftRest) (rightStops : StopsDigits rightRest)
    (equal : left ++ leftRest = right ++ rightRest) :
    left = right ∧ leftRest = rightRest := by
  constructor
  · rw [← takeWhile_digits_append leftDigits leftStops, equal,
      takeWhile_digits_append rightDigits rightStops]
  · rw [← dropWhile_digits_append leftDigits leftStops, equal,
      dropWhile_digits_append rightDigits rightStops]

/-! ## Finite decimal fractions -/

/-- The rationals with a finite decimal expansion. Every binary floating-point
value is one, and they are closed under the sums taken of them. -/
def decimals : Subring ℚ where
  carrier := {value | ∃ (places : Nat) (mantissa : Int),
    value * 10 ^ places = mantissa}
  zero_mem' := ⟨0, 0, by simp⟩
  one_mem' := ⟨0, 1, by simp⟩
  neg_mem' := by
    intro value member
    rcases member with ⟨places, mantissa, scaled⟩
    exact ⟨places, -mantissa, by push_cast; rw [← scaled]; ring⟩
  add_mem' := by
    intro left right leftMember rightMember
    rcases leftMember with ⟨leftPlaces, leftMantissa, leftScaled⟩
    rcases rightMember with ⟨rightPlaces, rightMantissa, rightScaled⟩
    refine ⟨leftPlaces + rightPlaces,
      leftMantissa * 10 ^ rightPlaces + rightMantissa * 10 ^ leftPlaces, ?_⟩
    push_cast
    rw [← leftScaled, ← rightScaled]
    ring
  mul_mem' := by
    intro left right leftMember rightMember
    rcases leftMember with ⟨leftPlaces, leftMantissa, leftScaled⟩
    rcases rightMember with ⟨rightPlaces, rightMantissa, rightScaled⟩
    refine ⟨leftPlaces + rightPlaces, leftMantissa * rightMantissa, ?_⟩
    push_cast
    rw [← leftScaled, ← rightScaled]
    ring

theorem mem_decimals_of_scaled {value : ℚ} (places : Nat) (mantissa : Int)
    (scaled : value * 10 ^ places = mantissa) : value ∈ decimals :=
  ⟨places, mantissa, scaled⟩

theorem dvd_ten_pow_self {den exponent : Nat} (divides : den ∣ 10 ^ exponent) :
    den ∣ 10 ^ den := by
  have denNonzero : den ≠ 0 := by
    intro equal
    cases equal
    simp at divides
  rw [← Nat.factorization_le_iff_dvd denNonzero (by positivity)]
  have bounded := (Nat.factorization_le_iff_dvd denNonzero (by positivity)).mpr divides
  intro prime
  have atPrime := bounded prime
  simp only [Nat.factorization_pow, Finsupp.smul_apply, smul_eq_mul] at atPrime ⊢
  by_cases absent : Nat.factorization 10 prime = 0
  · simpa [absent] using atPrime
  · calc
      den.factorization prime ≤ den := (Nat.factorization_lt prime denNonzero).le
      _ ≤ den * Nat.factorization 10 prime :=
        Nat.le_mul_of_pos_right den (Nat.pos_of_ne_zero absent)

/-- The first number of places, from `places` on, at which `den` divides the
matching power of ten; sixteen when none of the next `fuel` does. -/
def findPlaces (den : Nat) : (fuel places : Nat) → Nat
  | 0, _ => 16
  | fuel + 1, places =>
      if den ∣ 10 ^ places then places else findPlaces den fuel (places + 1)

theorem findPlaces_spec {den target : Nat} (divides : den ∣ 10 ^ target) :
    ∀ {fuel places : Nat}, places ≤ target → target < places + fuel →
      den ∣ 10 ^ findPlaces den fuel places
  | 0, places, above, below => by omega
  | fuel + 1, places, above, below => by
      rw [findPlaces]
      split
      · assumption
      · rename_i notHere
        have later : places ≠ target := by
          intro equal
          cases equal
          exact notHere divides
        exact findPlaces_spec divides (by omega) (by omega)

def decimalPlaces (value : ℚ) : Nat := findPlaces value.den (value.den + 1) 1

theorem findPlaces_pos (den : Nat) : ∀ {fuel places : Nat}, 0 < places →
    0 < findPlaces den fuel places
  | 0, _, _ => by simp [findPlaces]
  | fuel + 1, places, positive => by
      rw [findPlaces]
      split
      · exact positive
      · exact findPlaces_pos den (Nat.succ_pos places)

theorem decimalPlaces_pos (value : ℚ) : 0 < decimalPlaces value :=
  findPlaces_pos value.den Nat.one_pos

theorem den_dvd_of_mem_decimals {value : ℚ} (member : value ∈ decimals) :
    value.den ∣ 10 ^ decimalPlaces value := by
  rcases member with ⟨places, mantissa, scaled⟩
  have integral : value.den ∣ 10 ^ places := by
    have asQuotient : value = mantissa / ((10 ^ places : Nat) : Int) := by
      push_cast
      rw [eq_div_iff (by positivity), scaled]
    rw [asQuotient]
    exact_mod_cast Rat.den_dvd mantissa ((10 ^ places : Nat) : Int)
  have reached := dvd_ten_pow_self integral
  have positive := value.pos
  exact findPlaces_spec reached (by omega) (by omega)

theorem round_scaled_of_mem_decimals {value : ℚ} (member : value ∈ decimals) :
    (round (value * 10 ^ decimalPlaces value) : ℚ) =
      value * 10 ^ decimalPlaces value := by
  rcases den_dvd_of_mem_decimals member with ⟨factor, equal⟩
  have integral : value * 10 ^ decimalPlaces value = ((value.num * factor : Int) : ℚ) := by
    have power : (10 : ℚ) ^ decimalPlaces value = value.den * factor := by
      exact_mod_cast equal
    rw [power]
    push_cast
    rw [← mul_assoc, Rat.mul_den_eq_num]
  rw [integral, round_intCast]

/-! ## Rounding -/

/-- The nearest integer, of two equally near the even one. -/
def roundHalfEven (value : ℚ) : Int :=
  let lower := ⌊value⌋
  if value - lower < 1 / 2 then lower
  else if 1 / 2 < value - lower then lower + 1
  else if lower % 2 = 0 then lower else lower + 1

end DsBench
