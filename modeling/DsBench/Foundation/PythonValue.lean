import DsBench.Foundation.JsonRendering

/-! # JSON values as Python reads and prints them

Truth, numbers and text of the values that `json.loads` returns. Floats are exact,
and printed with all their digits.
-/

namespace DsBench

/-! ## Reading -/

/-- `bool(value)`. -/
def Json.truthy : Json → Bool
  | .null => false
  | .bool value => value
  | .num value => decide (value.toRat ≠ 0)
  | .str value => decide (value ≠ [])
  | .arr items => decide (items ≠ .nil)
  | .obj members => decide (members ≠ .nil)

def Json.asPyNumber : Json → Option ℚ
  | .bool value => some (if value then 1 else 0)
  | .num value => some value.toRat
  | _ => none

def takeFraction : Text → Text × Text
  | '.' :: rest => (rest.takeWhile Char.isDigit, rest.dropWhile Char.isDigit)
  | rest => ([], rest)

def takeFloatSign : Text → Bool × Text
  | '+' :: rest => (false, rest)
  | signed => takeSign signed

/-- `float(text)`, `none` where it raises. -/
def readFloat (text : Text) : Option ℚ :=
  let (negative, unsigned) := takeFloatSign (trim text)
  let whole := unsigned.takeWhile Char.isDigit
  let (fraction, afterFraction) := takeFraction (unsigned.dropWhile Char.isDigit)
  if whole = [] ∧ fraction = [] then none
  else match parseExponent afterFraction with
    | (exponent, []) => some (assembleNumber negative whole fraction exponent).toRat
    | _ => none

/-- `float(value)`, `none` where it raises. -/
def Json.pyFloat : Json → Option ℚ
  | .str value => readFloat value
  | value => value.asPyNumber

/-! ## Printing -/

/-- `str` of a float. -/
def printFloat (value : ℚ) : Text := (Number.ofRat value).render

/-- `str` of a number: integers as such, all others as floats. -/
def printNumber : Number → Text
  | .int value => (Number.int value).render
  | .decimal mantissa places => printFloat (Number.decimal mantissa places).toRat

/-- `repr` of a character inside a string that the given quote encloses. -/
def reprChar (quote character : Char) : Text :=
  if character = quote ∨ character = '\\' then ['\\', character]
  else if character = '\n' then ['\\', 'n']
  else if character = '\r' then ['\\', 'r']
  else if character = '\t' then ['\\', 't']
  else if character.toNat < 0x20 ∨ character.toNat = 0x7f then
    ['\\', 'x', hexDigit (character.toNat / 16), hexDigit (character.toNat % 16)]
  else [character]

/-- `repr` of a string: single quotes, unless those occur and double quotes do not. -/
def reprText (text : Text) : Text :=
  let single := Char.ofNat 39
  let quote := if single ∈ text ∧ '"' ∉ text then '"' else single
  quote :: (text.flatMap (reprChar quote) ++ [quote])

mutual
def Json.repr : Json → Text
  | .null => "None".toList
  | .bool true => "True".toList
  | .bool false => "False".toList
  | .num value => printNumber value
  | .str value => reprText value
  | .arr .nil => ['[', ']']
  | .arr (.cons head tail) => '[' :: (head.repr ++ tail.repr)
  | .obj .nil => ['{', '}']
  | .obj (.cons key value tail) =>
      '{' :: (reprText key ++ ':' :: ' ' :: (value.repr ++ tail.repr))

def Items.repr : Items → Text
  | .nil => [']']
  | .cons head tail => ',' :: ' ' :: (head.repr ++ tail.repr)

def Members.repr : Members → Text
  | .nil => ['}']
  | .cons key value tail =>
      ',' :: ' ' :: (reprText key ++ ':' :: ' ' :: (value.repr ++ tail.repr))
end

/-- `str(value)`: a string prints as itself. -/
def Json.pyStr : Json → Text
  | .str value => value
  | value => value.repr

/-! ## A printed number read back -/

theorem mem_render_number {number : Number} {character : Char}
    (member : character ∈ number.render) :
    character.isDigit = true ∨ character = '-' ∨ character = '.' := by
  have sign : ∀ {negative : Bool} {rest : Text},
      character ∈ (if negative then ['-'] else []) ++ rest →
        character = '-' ∨ character ∈ rest := by
    intro negative rest
    cases negative with
    | false => exact .inr
    | true => exact List.mem_cons.mp
  rw [Number.render_sign] at member
  cases number with
  | int value =>
      rcases sign member with minus | digits
      · exact .inr (.inl minus)
      · rw [List.append_nil] at digits
        exact .inl (isDigit_of_mem_decimal digits)
  | decimal mantissa places =>
      rcases sign member with minus | unsigned
      · exact .inr (.inl minus)
      · rcases List.mem_append.mp unsigned with whole | rest
        · exact .inl (isDigit_of_mem_decimal whole)
        · rcases List.mem_cons.mp rest with point | fraction
          · exact .inr (.inr point)
          · exact .inl (isDigit_of_mem_padded fraction)

theorem not_isWhitespace_of_mem_render {number : Number} {character : Char}
    (member : character ∈ number.render) : character.isWhitespace = false := by
  rcases mem_render_number member with digit | rfl | rfl
  · exact not_isWhitespace_of_isDigit digit
  · rfl
  · rfl

theorem trim_of_visible {text : Text}
    (visible : ∀ character ∈ text, character.isWhitespace = false) : trim text = text := by
  have keeps : ∀ {text : Text}, (∀ character ∈ text, character.isWhitespace = false) →
      text.dropWhile Char.isWhitespace = text := by
    intro text visible
    cases text with
    | nil => rfl
    | cons first rest => simp [visible first (by simp)]
  have reversed : ∀ character ∈ text.reverse, character.isWhitespace = false := by
    intro character member
    exact visible character (List.mem_reverse.mp member)
  rw [trim, keeps visible, keeps reversed, List.reverse_reverse]

theorem takeFraction_point {digits rest : Text}
    (allDigits : ∀ digit ∈ digits, digit.isDigit = true) (stops : StopsDigits rest) :
    takeFraction ('.' :: (digits ++ rest)) = (digits, rest) := by
  simp [takeFraction, takeWhile_digits_append allDigits stops,
    dropWhile_digits_append allDigits stops]

theorem takeFloatSign_decimal (negative : Bool) (value : Nat) (rest : Text) :
    takeFloatSign ((if negative then ['-'] else []) ++ (decimal value ++ rest)) =
      (negative, decimal value ++ rest) := by
  unfold takeFloatSign
  split
  · rename_i tail shape
    rcases signed_head negative value rest with ⟨first, others, opens, digit | minus⟩
    · rw [opens] at shape
      rw [(List.cons.inj shape).1] at digit
      cases digit
    · rw [opens, minus] at shape
      cases (List.cons.inj shape).1
  · exact takeSign_decimal negative value rest

theorem readFloat_parts (negative : Bool) (value : Nat) {tail fraction : Text}
    (visible : ∀ character ∈ (if negative then ['-'] else []) ++ (decimal value ++ tail),
      character.isWhitespace = false)
    (stopsWhole : StopsDigits tail) (readsFraction : takeFraction tail = (fraction, [])) :
    readFloat ((if negative then ['-'] else []) ++ (decimal value ++ tail)) =
      some (assembleNumber negative (decimal value) fraction none).toRat := by
  have whole : (decimal value ++ tail).takeWhile Char.isDigit = decimal value :=
    takeWhile_digits_append (fun _ => isDigit_of_mem_decimal) stopsWhole
  have after : (decimal value ++ tail).dropWhile Char.isDigit = tail :=
    dropWhile_digits_append (fun _ => isDigit_of_mem_decimal) stopsWhole
  rw [readFloat]
  rw [trim_of_visible visible, takeFloatSign_decimal]
  simp only [whole, after, readsFraction, decimal_ne_nil, false_and, if_false,
    parseExponent_of_stops stopsNumber_nil]

/-- `float` of a printed number is the number. -/
theorem readFloat_render (number : Number) : readFloat number.render = some number.toRat := by
  have visible : ∀ character ∈ number.render, character.isWhitespace = false :=
    fun _ member => not_isWhitespace_of_mem_render member
  rw [Number.render_sign] at visible ⊢
  cases number with
  | int value =>
      rw [readFloat_parts _ _ visible stopsDigits_nil rfl,
        assembleNumber_int, Int.signed_natAbs]
  | decimal mantissa places =>
      have power : 0 < 10 ^ (places + 1) := by positivity
      have bound := Nat.mod_lt mantissa.natAbs power
      have readsFraction :
          takeFraction ('.' :: padded (places + 1) (mantissa.natAbs % 10 ^ (places + 1))) =
            (padded (places + 1) (mantissa.natAbs % 10 ^ (places + 1)), []) := by
        simpa using takeFraction_point (fun _ => isDigit_of_mem_padded) stopsDigits_nil
      rw [readFloat_parts _ _ visible (stopsDigits_point _)
        readsFraction, assembleNumber_decimal _ _ _ _ bound, Nat.div_add_mod',
        Int.signed_natAbs]

theorem readFloat_printNumber (number : Number) :
    readFloat (printNumber number) = some number.toRat := by
  cases number with
  | int value =>
      rw [printNumber]
      exact readFloat_render (.int value)
  | decimal mantissa places =>
      rw [printNumber, printFloat, readFloat_render,
        Number.toRat_ofRat (Number.toRat_mem_decimals _)]

theorem readFloat_printFloat {value : ℚ} (member : value ∈ decimals) :
    readFloat (printFloat value) = some value := by
  rw [printFloat, readFloat_render, Number.toRat_ofRat member]

end DsBench
