import DsBench.Foundation.Decimal

/-! # JSON values and their parser

The value model shared by the Rust and the Python side, and a recursive-descent
parser over text: the texts that both sides take in, which are all that either prints.
Numbers keep the distinction both sides make between integer and fractional literals; an
object keeps its members in the order written.
-/

namespace DsBench

/-! ## Numbers -/

/-- A number as JSON distinguishes them. `decimal mantissa places` is the
fractional literal `mantissa / 10 ^ (places + 1)`, so it always has at least one
digit after the point. -/
inductive Number where
  | int (value : Int)
  | decimal (mantissa : Int) (places : Nat)
deriving DecidableEq, Repr

namespace Number

def toRat : Number → ℚ
  | .int value => value
  | .decimal mantissa places => mantissa / 10 ^ (places + 1)

theorem toRat_mem_decimals (number : Number) : number.toRat ∈ decimals := by
  cases number with
  | int value => exact mem_decimals_of_scaled 0 value (by simp [toRat])
  | decimal mantissa places =>
      exact mem_decimals_of_scaled (places + 1) mantissa (by simp [toRat])

/-- The shortest fractional literal of a value. A value without a finite
expansion is rounded to sixteen places. -/
def ofRat (value : ℚ) : Number :=
  .decimal (round (value * 10 ^ decimalPlaces value)) (decimalPlaces value - 1)

theorem toRat_ofRat {value : ℚ} (member : value ∈ decimals) :
    (ofRat value).toRat = value := by
  have atLeastOne : decimalPlaces value - 1 + 1 = decimalPlaces value := by
    have positive := decimalPlaces_pos value
    omega
  rw [ofRat, toRat, atLeastOne, round_scaled_of_mem_decimals member]
  field_simp

def asU64 : Number → Option Nat
  | .int value => if 0 ≤ value ∧ value < 2 ^ 64 then some value.toNat else none
  | .decimal _ _ => none

def render : Number → Text
  | .int value =>
      if value < 0 then '-' :: DsBench.decimal value.natAbs
      else DsBench.decimal value.natAbs
  | .decimal mantissa places =>
      let magnitude := mantissa.natAbs
      let digits := DsBench.decimal (magnitude / 10 ^ (places + 1)) ++
        '.' :: padded (places + 1) (magnitude % 10 ^ (places + 1))
      if mantissa < 0 then '-' :: digits else digits

end Number

/-! ## Values -/

mutual
inductive Json where
  | null
  | bool (value : Bool)
  | num (value : Number)
  | str (value : Text)
  | arr (items : Items)
  | obj (members : Members)

inductive Items where
  | nil
  | cons (head : Json) (tail : Items)

inductive Members where
  | nil
  | cons (key : Text) (value : Json) (tail : Members)
end

deriving instance DecidableEq for Json
deriving instance DecidableEq for Items
deriving instance DecidableEq for Members

def Items.ofList : List Json → Items
  | [] => .nil
  | head :: tail => .cons head (ofList tail)

namespace Members

def ofList : List (Text × Json) → Members
  | [] => .nil
  | (key, value) :: tail => .cons key value (ofList tail)

/-- Member lookup. Of members with one key the last written wins, as in a Python
`dict` and in a `serde_json` map. -/
def get (key : Text) : Members → Option Json
  | .nil => none
  | .cons other value tail =>
      match tail.get key with
      | some later => some later
      | none => if other = key then some value else none

/-- An object whose fields may be left out, as `skip_serializing_if` writes it. -/
def ofFields (fields : List (Text × Option Json)) : Members :=
  ofList (fields.filterMap fun field => field.2.map fun value => (field.1, value))

@[simp] theorem ofFields_cons_some (key : Text) (value : Json)
    (fields : List (Text × Option Json)) :
    ofFields ((key, some value) :: fields) = .cons key value (ofFields fields) := rfl

@[simp] theorem ofFields_cons_none (key : Text) (fields : List (Text × Option Json)) :
    ofFields ((key, none) :: fields) = ofFields fields := rfl

theorem get_ofFields_of_notMem {key : Text} {fields : List (Text × Option Json)}
    (absent : key ∉ fields.map Prod.fst) : (ofFields fields).get key = none := by
  induction fields with
  | nil => rfl
  | cons field fields induction =>
      rcases field with ⟨other, value⟩
      simp only [List.map_cons, List.mem_cons, not_or] at absent
      have differs : other ≠ key := fun equal => absent.1 equal.symm
      cases value with
      | none => simpa using induction absent.2
      | some value => simp [get, induction absent.2, differs]

theorem get_ofFields {key : Text} {value : Option Json}
    {fields : List (Text × Option Json)} (distinct : (fields.map Prod.fst).Nodup)
    (member : (key, value) ∈ fields) : (ofFields fields).get key = value := by
  induction fields with
  | nil => cases member
  | cons field fields induction =>
      rcases field with ⟨other, written⟩
      simp only [List.map_cons, List.nodup_cons] at distinct
      rcases List.mem_cons.mp member with here | later
      · cases here
        have absent := get_ofFields_of_notMem distinct.1
        cases value with
        | none => simpa using absent
        | some written => simp [get, absent]
      · have found := induction distinct.2 later
        have differs : other ≠ key := by
          intro equal
          cases equal
          exact distinct.1 (List.mem_map.mpr ⟨_, later, rfl⟩)
        cases written with
        | none => simpa using found
        | some written => cases value <;> simp [get, found, differs]

end Members

namespace Json

/-- `Value::get` on anything but an object finds nothing. -/
def get (key : Text) : Json → Option Json
  | .obj members => members.get key
  | _ => none

def asNumber : Json → Option Number
  | .num value => some value
  | _ => none

def asStr : Json → Option Text
  | .str value => some value
  | _ => none

/-- `as_f64`: any number, read exactly. -/
def asF64 (value : Json) : Option ℚ := value.asNumber.map Number.toRat

def asU64 (value : Json) : Option Nat := value.asNumber.bind Number.asU64

def ofF64 (value : ℚ) : Json := .num (.ofRat value)

def ofU64 (value : Nat) : Json := .num (.int value)

end Json

/-! ## Parsing -/

def isBlank (character : Char) : Bool :=
  character = ' ' || character = '\t' || character = '\n' || character = '\r'

def skipBlank (text : Text) : Text := text.dropWhile isBlank

def hexValue (character : Char) : Option Nat :=
  if '0' ≤ character ∧ character ≤ '9' then some (character.toNat - '0'.toNat)
  else if 'a' ≤ character ∧ character ≤ 'f' then some (character.toNat - 'a'.toNat + 10)
  else if 'A' ≤ character ∧ character ≤ 'F' then some (character.toNat - 'A'.toNat + 10)
  else none

def codeUnit (first second third fourth : Char) : Option Nat := do
  let a ← hexValue first
  let b ← hexValue second
  let c ← hexValue third
  let d ← hexValue fourth
  return ((a * 16 + b) * 16 + c) * 16 + d

/-- What follows a backslash: the escaped character and the text after it. A
code unit above the basic plane needs its low surrogate. -/
def parseEscape : Text → Option (Char × Text)
  | 'u' :: a :: b :: c :: d :: rest => do
      let unit ← codeUnit a b c d
      if 0xDC00 ≤ unit ∧ unit ≤ 0xDFFF then none
      else if 0xD800 ≤ unit ∧ unit ≤ 0xDBFF then
        match rest with
        | '\\' :: 'u' :: e :: f :: g :: h :: rest =>
            let low ← codeUnit e f g h
            if 0xDC00 ≤ low ∧ low ≤ 0xDFFF then
              some (Char.ofNat ((unit - 0xD800) * 0x400 + (low - 0xDC00) + 0x10000), rest)
            else none
        | _ => none
      else some (Char.ofNat unit, rest)
  | '"' :: rest => some ('"', rest)
  | '\\' :: rest => some ('\\', rest)
  | '/' :: rest => some ('/', rest)
  | 'b' :: rest => some ('\x08', rest)
  | 'f' :: rest => some ('\x0c', rest)
  | 'n' :: rest => some ('\n', rest)
  | 'r' :: rest => some ('\r', rest)
  | 't' :: rest => some ('\t', rest)
  | _ => none

/-- The body of a string up to its closing quote, and the text after the quote.
Raw control characters are refused. -/
def parseString : (fuel : Nat) → Text → Option (Text × Text)
  | 0, _ => none
  | _ + 1, [] => none
  | fuel + 1, character :: rest =>
      if character = '"' then some ([], rest)
      else if character = '\\' then do
        let (escaped, rest) ← parseEscape rest
        let (body, after) ← parseString fuel rest
        return (escaped :: body, after)
      else if character.toNat < 0x20 then none
      else do
        let (body, after) ← parseString fuel rest
        return (character :: body, after)

/-- Optional fraction digits. A point without a digit after it is left alone. -/
def parseFraction (text : Text) : Text × Text :=
  match text with
  | '.' :: rest =>
      if rest.takeWhile Char.isDigit = [] then ([], text)
      else (rest.takeWhile Char.isDigit, rest.dropWhile Char.isDigit)
  | _ => ([], text)

/-- Optional exponent. `none` when there is none. -/
def parseExponent (text : Text) : Option Int × Text :=
  match text with
  | [] => (none, text)
  | mark :: rest =>
      if mark = 'e' ∨ mark = 'E' then
        let (negative, unsigned) := match rest with
          | '-' :: unsigned => (true, unsigned)
          | '+' :: unsigned => (false, unsigned)
          | _ => (false, rest)
        let digits := unsigned.takeWhile Char.isDigit
        if digits = [] then (none, text)
        else
          let magnitude : Int := digitsValue digits
          (some (if negative then -magnitude else magnitude),
            unsigned.dropWhile Char.isDigit)
      else (none, text)

def assembleNumber (negative : Bool) (whole fraction : Text)
    (exponent : Option Int) : Number :=
  let magnitude : Int := digitsValue (whole ++ fraction)
  let mantissa := if negative then -magnitude else magnitude
  if fraction = [] ∧ exponent = none then .int mantissa
  else
    let power := exponent.getD 0 - fraction.length
    if power < 0 then .decimal mantissa (power.natAbs - 1)
    else .decimal (mantissa * 10 ^ (power.natAbs + 1)) 0

def takeSign : Text → Bool × Text
  | '-' :: rest => (true, rest)
  | text => (false, text)

def parseNumber (text : Text) : Option (Number × Text) :=
  let (negative, unsigned) := takeSign text
  let whole := unsigned.takeWhile Char.isDigit
  if whole = [] ∨ (whole.head? = some '0' ∧ whole ≠ ['0']) then none
  else
    let (fraction, afterFraction) := parseFraction (unsigned.dropWhile Char.isDigit)
    let (exponent, rest) := parseExponent afterFraction
    some (assembleNumber negative whole fraction exponent, rest)

mutual
/-- One value after optional blanks, and the text left after it. The fuel bounds
the nesting and the number of elements; the length of the text suffices. -/
def parseValue : (fuel : Nat) → Text → Option (Json × Text)
  | 0, _ => none
  | fuel + 1, text =>
      match skipBlank text with
      | 'n' :: 'u' :: 'l' :: 'l' :: rest => some (.null, rest)
      | 't' :: 'r' :: 'u' :: 'e' :: rest => some (.bool true, rest)
      | 'f' :: 'a' :: 'l' :: 's' :: 'e' :: rest => some (.bool false, rest)
      | '"' :: rest => (parseString (rest.length + 1) rest).map
          fun (body, rest) => (.str body, rest)
      | '[' :: rest =>
          match skipBlank rest with
          | ']' :: rest => some (.arr .nil, rest)
          | _ => (parseItems fuel rest).map fun (items, rest) => (.arr items, rest)
      | '{' :: rest =>
          match skipBlank rest with
          | '}' :: rest => some (.obj .nil, rest)
          | _ => (parseMembers fuel rest).map fun (members, rest) => (.obj members, rest)
      | other => (parseNumber other).map fun (number, rest) => (.num number, rest)

def parseItems : (fuel : Nat) → Text → Option (Items × Text)
  | 0, _ => none
  | fuel + 1, text => do
      let (head, rest) ← parseValue fuel text
      match skipBlank rest with
      | ',' :: rest =>
          let (tail, rest) ← parseItems fuel rest
          return (.cons head tail, rest)
      | ']' :: rest => return (.cons head .nil, rest)
      | _ => none

/-- The members of an object that is not empty, through its closing brace. -/
def parseMembers : (fuel : Nat) → Text → Option (Members × Text)
  | 0, _ => none
  | fuel + 1, text =>
      match skipBlank text with
      | '"' :: rest => do
          let (key, rest) ← parseString (rest.length + 1) rest
          match skipBlank rest with
          | ':' :: rest =>
              let (value, rest) ← parseValue fuel rest
              match skipBlank rest with
              | ',' :: rest =>
                  let (tail, rest) ← parseMembers fuel rest
                  return (.cons key value tail, rest)
              | '}' :: rest => return (.cons key value .nil, rest)
              | _ => none
          | _ => none
      | _ => none
end

/-- A whole text as one value, blanks around it allowed. This is what the readers share;
Python's own takes in more. -/
def loads (text : Text) : Option Json :=
  match parseValue (text.length + 1) text with
  | some (value, rest) => if skipBlank rest = [] then some value else none
  | none => none

end DsBench
