import DsBench.Foundation.JsonLexing
import Mathlib.Data.Int.Log

/-! # JSON as Python reads it

`json.loads` reads more than other readers do: the words `NaN`, `Infinity` and `-Infinity`, and
either half of a surrogate pair by itself. Floats are doubles, a dictionary keeps the last of
the values written under a key, and the interpreter has limits past which it raises.
-/

namespace DsBench

/-! ## Values -/

inductive PyFloat where
  | finite (value : ℚ)
  | infinity
  | minusInfinity
  | nan
deriving DecidableEq

def PyFloat.nearest (value : ℚ) : PyFloat :=
  let scale : ℚ := 2 ^ max (Int.log 2 |value| - 52) (-1074)
  let rounded := roundHalfEven (value / scale) * scale
  if 2 ^ 1024 ≤ rounded then .infinity
  else if rounded ≤ -2 ^ 1024 then .minusInfinity
  else .finite rounded

/-- A string as its code points, halves of surrogate pairs among them. -/
abbrev PyStr := List Nat

mutual
inductive PyValue where
  | null
  | bool (value : Bool)
  | int (value : Int)
  | float (value : PyFloat)
  | str (value : PyStr)
  | list (items : PyItems)
  | dict (members : PyDict)

inductive PyItems where
  | nil
  | cons (head : PyValue) (tail : PyItems)

inductive PyDict where
  | nil
  | cons (key : PyStr) (value : PyValue) (tail : PyDict)
end

deriving instance DecidableEq for PyValue
deriving instance DecidableEq for PyItems
deriving instance DecidableEq for PyDict

namespace PyDict

def keys : PyDict → List PyStr
  | .nil => []
  | .cons key _ tail => key :: tail.keys

def take (key : PyStr) : PyDict → Option (PyValue × PyDict)
  | .nil => none
  | .cons other value tail =>
      if other = key then some (value, tail)
      else (tail.take key).map fun taken => (taken.1, .cons other value taken.2)

def put (key : PyStr) (value : PyValue) (tail : PyDict) : PyDict :=
  match tail.take key with
  | some taken => .cons key taken.1 taken.2
  | none => .cons key value tail

theorem induct {Property : PyDict → Prop} (empty : Property .nil)
    (next : ∀ key value tail, Property tail → Property (.cons key value tail))
    (members : PyDict) : Property members :=
  @PyDict.rec (fun _ => True) (fun _ => True) Property trivial (fun _ => trivial)
    (fun _ => trivial) (fun _ => trivial) (fun _ => trivial) (fun _ _ => trivial)
    (fun _ _ => trivial) trivial (fun _ _ _ _ => trivial) empty
    (fun key value tail _ holds => next key value tail holds) members

theorem put_of_notMem {key : PyStr} {tail : PyDict} (absent : key ∉ tail.keys)
    (value : PyValue) : tail.put key value = .cons key value tail := by
  have nothing : tail.take key = none := by
    induction tail using induct with
    | empty => rfl
    | next other value tail induction =>
        rw [keys, List.mem_cons, not_or] at absent
        rw [take, if_neg (Ne.symm absent.1), induction absent.2]
        rfl
  rw [put, nothing]

end PyDict

/-! ## Measures of a value -/

mutual
def PyValue.strings : PyValue → Nat
  | .str _ => 1
  | .list items => items.strings
  | .dict members => members.strings
  | .null => 0
  | .bool _ => 0
  | .int _ => 0
  | .float _ => 0

def PyItems.strings : PyItems → Nat
  | .nil => 0
  | .cons head tail => head.strings + tail.strings

def PyDict.strings : PyDict → Nat
  | .nil => 0
  | .cons _ value tail => 1 + value.strings + tail.strings
end

def digitCount (value : Int) : Nat := (decimal value.natAbs).length

/-- What an interpreter decodes: so many lists and dictionaries inside one another before its
recursion limit is reached, and integers of so many digits. -/
structure Limits where
  levels : Nat
  digits : Nat

mutual
def PyValue.within (digits levels : Nat) : PyValue → Bool
  | .list items => decide (0 < levels) && items.within digits (levels - 1)
  | .dict members => decide (0 < levels) && members.within digits (levels - 1)
  | .int value => decide (digitCount value ≤ digits)
  | .null => true
  | .bool _ => true
  | .float _ => true
  | .str _ => true

def PyItems.within (digits levels : Nat) : PyItems → Bool
  | .nil => true
  | .cons head tail => head.within digits levels && tail.within digits levels

def PyDict.within (digits levels : Nat) : PyDict → Bool
  | .nil => true
  | .cons _ value tail => value.within digits levels && tail.within digits levels
end

namespace PyDict

variable {key : PyStr} {value : PyValue} {members : PyDict}

theorem strings_take {taken : PyValue × PyDict} (found : members.take key = some taken) :
    members.strings = 1 + taken.1.strings + taken.2.strings := by
  induction members using induct generalizing taken with
  | empty => cases found
  | next other value tail induction =>
      rw [take] at found
      split at found
      · cases found
        rfl
      · rcases Option.map_eq_some_iff.mp found with ⟨later, inside, same⟩
        have counted := induction inside
        rw [← same]
        simp only [strings]
        omega

theorem strings_put (key : PyStr) (value : PyValue) (tail : PyDict) :
    (tail.put key value).strings ≤ 1 + value.strings + tail.strings := by
  rw [put]
  split
  · rename_i taken found
    rw [strings, strings_take found]
    omega
  · rw [strings]

theorem within_take {digits levels : Nat} {taken : PyValue × PyDict}
    (found : members.take key = some taken) (fits : members.within digits levels = true) :
    taken.1.within digits levels = true ∧ taken.2.within digits levels = true := by
  induction members using induct generalizing taken with
  | empty => cases found
  | next other value tail induction =>
      rw [within, Bool.and_eq_true] at fits
      rw [take] at found
      split at found
      · cases found
        exact fits
      · rcases Option.map_eq_some_iff.mp found with ⟨later, inside, same⟩
        rcases induction inside fits.2 with ⟨first, rest⟩
        rw [← same, within, fits.1, rest]
        exact ⟨first, rfl⟩

theorem within_put {digits levels : Nat} {tail : PyDict} (key : PyStr)
    (first : value.within digits levels = true) (rest : tail.within digits levels = true) :
    (tail.put key value).within digits levels = true := by
  rw [put]
  split
  · rename_i taken found
    rcases within_take found rest with ⟨inside, others⟩
    rw [within, inside, others]
    rfl
  · rw [within, first, rest]
    rfl

end PyDict

mutual
/-- What becomes of a value as written: of members with one key the last one counts, in the
place of the first. -/
def PyValue.dedupe : PyValue → PyValue
  | .list items => .list items.dedupe
  | .dict members => .dict members.dedupe
  | .null => .null
  | .bool value => .bool value
  | .int value => .int value
  | .float value => .float value
  | .str value => .str value

def PyItems.dedupe : PyItems → PyItems
  | .nil => .nil
  | .cons head tail => .cons head.dedupe tail.dedupe

def PyDict.dedupe : PyDict → PyDict
  | .nil => .nil
  | .cons key value tail => tail.dedupe.put key value.dedupe
end

mutual
def PyValue.distinct : PyValue → Bool
  | .list items => items.distinct
  | .dict members => members.distinct
  | .null => true
  | .bool _ => true
  | .int _ => true
  | .float _ => true
  | .str _ => true

def PyItems.distinct : PyItems → Bool
  | .nil => true
  | .cons head tail => head.distinct && tail.distinct

def PyDict.distinct : PyDict → Bool
  | .nil => true
  | .cons key value tail => decide (key ∉ tail.keys) && (value.distinct && tail.distinct)
end

mutual
theorem PyValue.dedupe_of_distinct :
    (value : PyValue) → value.distinct = true → value.dedupe = value
  | .list items, distinct => by rw [PyValue.dedupe, items.dedupe_of_distinct distinct]
  | .dict members, distinct => by rw [PyValue.dedupe, members.dedupe_of_distinct distinct]
  | .null, _ => rfl
  | .bool _, _ => rfl
  | .int _, _ => rfl
  | .float _, _ => rfl
  | .str _, _ => rfl

theorem PyItems.dedupe_of_distinct :
    (items : PyItems) → items.distinct = true → items.dedupe = items
  | .nil, _ => rfl
  | .cons head tail, distinct => by
      rw [PyItems.distinct, Bool.and_eq_true] at distinct
      rw [PyItems.dedupe, head.dedupe_of_distinct distinct.1, tail.dedupe_of_distinct distinct.2]

theorem PyDict.dedupe_of_distinct :
    (members : PyDict) → members.distinct = true → members.dedupe = members
  | .nil, _ => rfl
  | .cons key value tail, distinct => by
      rw [PyDict.distinct, Bool.and_eq_true, Bool.and_eq_true, decide_eq_true_eq] at distinct
      rcases distinct with ⟨absent, first, rest⟩
      rw [PyDict.dedupe, value.dedupe_of_distinct first, tail.dedupe_of_distinct rest,
        PyDict.put_of_notMem absent]
end

mutual
theorem PyValue.strings_dedupe : (value : PyValue) → value.dedupe.strings ≤ value.strings
  | .list items => items.strings_dedupe
  | .dict members => members.strings_dedupe
  | .null => Nat.le_refl _
  | .bool _ => Nat.le_refl _
  | .int _ => Nat.le_refl _
  | .float _ => Nat.le_refl _
  | .str _ => Nat.le_refl _

theorem PyItems.strings_dedupe : (items : PyItems) → items.dedupe.strings ≤ items.strings
  | .nil => Nat.le_refl _
  | .cons head tail => Nat.add_le_add head.strings_dedupe tail.strings_dedupe

theorem PyDict.strings_dedupe : (members : PyDict) → members.dedupe.strings ≤ members.strings
  | .nil => Nat.le_refl _
  | .cons key value tail =>
      (PyDict.strings_put key value.dedupe tail.dedupe).trans
        (Nat.add_le_add (Nat.add_le_add_left value.strings_dedupe 1) tail.strings_dedupe)
end

mutual
theorem PyValue.within_dedupe (digits levels : Nat) :
    (value : PyValue) → value.within digits levels = true →
      value.dedupe.within digits levels = true
  | .list items, fits => by
      rw [PyValue.within, Bool.and_eq_true] at fits
      rw [PyValue.dedupe, PyValue.within, fits.1, items.within_dedupe digits _ fits.2]
      rfl
  | .dict members, fits => by
      rw [PyValue.within, Bool.and_eq_true] at fits
      rw [PyValue.dedupe, PyValue.within, fits.1, members.within_dedupe digits _ fits.2]
      rfl
  | .null, _ => rfl
  | .bool _, _ => rfl
  | .int _, fits => fits
  | .float _, _ => rfl
  | .str _, _ => rfl

theorem PyItems.within_dedupe (digits levels : Nat) :
    (items : PyItems) → items.within digits levels = true →
      items.dedupe.within digits levels = true
  | .nil, _ => rfl
  | .cons head tail, fits => by
      rw [PyItems.within, Bool.and_eq_true] at fits
      rw [PyItems.dedupe, PyItems.within, head.within_dedupe digits levels fits.1,
        tail.within_dedupe digits levels fits.2]
      rfl

theorem PyDict.within_dedupe (digits levels : Nat) :
    (members : PyDict) → members.within digits levels = true →
      members.dedupe.within digits levels = true
  | .nil, _ => rfl
  | .cons key value tail, fits => by
      rw [PyDict.within, Bool.and_eq_true] at fits
      exact PyDict.within_put key (value.within_dedupe digits levels fits.1)
        (tail.within_dedupe digits levels fits.2)
end

/-! ## The reader -/

/-- A unit behind an escape. The first half of a pair that its other half follows is joined
with it; whatever else stands for itself. -/
def joinUnits (unit : Nat) (rest : Text) : Option (Nat × Text) :=
  if 0xD800 ≤ unit ∧ unit ≤ 0xDBFF then
    match rest with
    | '\\' :: 'u' :: e :: f :: g :: h :: after =>
        (codeUnit e f g h).map fun low =>
          if 0xDC00 ≤ low ∧ low ≤ 0xDFFF then
            ((unit - 0xD800) * 0x400 + (low - 0xDC00) + 0x10000, after)
          else (unit, rest)
    | _ => some (unit, rest)
  else some (unit, rest)

def scanEscape : Text → Option (Nat × Text)
  | 'u' :: a :: b :: c :: d :: rest => (codeUnit a b c d).bind fun unit => joinUnits unit rest
  | '"' :: rest => some ('"'.toNat, rest)
  | '\\' :: rest => some ('\\'.toNat, rest)
  | '/' :: rest => some ('/'.toNat, rest)
  | 'b' :: rest => some (0x08, rest)
  | 'f' :: rest => some (0x0c, rest)
  | 'n' :: rest => some ('\n'.toNat, rest)
  | 'r' :: rest => some ('\r'.toNat, rest)
  | 't' :: rest => some ('\t'.toNat, rest)
  | _ => none

/-- The body of a string up to its closing quote, and the text after the quote. -/
def scanString : (fuel : Nat) → Text → Option (PyStr × Text)
  | 0, _ => none
  | _ + 1, [] => none
  | fuel + 1, character :: rest =>
      if character = '"' then some ([], rest)
      else if character = '\\' then do
        let (escaped, rest) ← scanEscape rest
        let (body, after) ← scanString fuel rest
        return (escaped :: body, after)
      else if character.toNat < 0x20 then none
      else do
        let (body, after) ← scanString fuel rest
        return (character.toNat :: body, after)

def constants : List (Text × PyValue) :=
  [("null".toList, .null), ("true".toList, .bool true), ("false".toList, .bool false),
    ("NaN".toList, .float .nan), ("Infinity".toList, .float .infinity),
    ("-Infinity".toList, .float .minusInfinity)]

def scanConstant (text : Text) : Option (PyValue × Text) :=
  (constants.find? fun constant => constant.1.isPrefixOf text).map fun constant =>
    (constant.2, text.drop constant.1.length)

def Number.toPython : Number → PyValue
  | .int value => .int value
  | .decimal mantissa places => .float (.nearest (Number.decimal mantissa places).toRat)

mutual
/-- One value after optional blanks, and the text left after it. The fuel bounds the nesting
and the number of elements; the length of the text suffices. -/
def scanOnce : (fuel : Nat) → Text → Option (PyValue × Text)
  | 0, _ => none
  | fuel + 1, text =>
      match scanConstant (skipBlank text) with
      | some found => some found
      | none =>
          match skipBlank text with
          | '"' :: rest => (scanString (rest.length + 1) rest).map
              fun (body, rest) => (.str body, rest)
          | '[' :: rest =>
              match skipBlank rest with
              | ']' :: rest => some (.list .nil, rest)
              | _ => (scanArray fuel rest).map fun (items, rest) => (.list items, rest)
          | '{' :: rest =>
              match skipBlank rest with
              | '}' :: rest => some (.dict .nil, rest)
              | _ => (scanObject fuel rest).map fun (members, rest) => (.dict members, rest)
          | other => (parseNumber other).map fun (number, rest) => (number.toPython, rest)

def scanArray : (fuel : Nat) → Text → Option (PyItems × Text)
  | 0, _ => none
  | fuel + 1, text => do
      let (head, rest) ← scanOnce fuel text
      match skipBlank rest with
      | ',' :: rest =>
          let (tail, rest) ← scanArray fuel rest
          return (.cons head tail, rest)
      | ']' :: rest => return (.cons head .nil, rest)
      | _ => none

/-- The members of an object that is not empty, through its closing brace, as written. -/
def scanObject : (fuel : Nat) → Text → Option (PyDict × Text)
  | 0, _ => none
  | fuel + 1, text =>
      match skipBlank text with
      | '"' :: rest => do
          let (key, rest) ← scanString (rest.length + 1) rest
          match skipBlank rest with
          | ':' :: rest =>
              let (value, rest) ← scanOnce fuel rest
              match skipBlank rest with
              | ',' :: rest =>
                  let (tail, rest) ← scanObject fuel rest
                  return (.cons key value tail, rest)
              | '}' :: rest => return (.cons key value .nil, rest)
              | _ => none
          | _ => none
      | _ => none
end

def scanText (text : Text) : Option PyValue :=
  match scanOnce (text.length + 1) text with
  | some (value, rest) => if skipBlank rest = [] then some value else none
  | none => none

/-- `json.loads`, `none` where it raises: at a text that is not a value, and at one that goes
past a limit of the interpreter anywhere. -/
def pyLoads (limits : Limits) (text : Text) : Option PyValue :=
  (scanText text).bind fun value =>
    if value.within limits.digits limits.levels then some value.dedupe else none

/-! ## What every reader reads -/

theorem hexValue_lt {character : Char} {value : Nat} (hex : hexValue character = some value) :
    value < 16 := by
  rw [hexValue] at hex
  simp only [Char.le_def, UInt32.le_iff_toNat_le] at hex
  split_ifs at hex with digit lower upper
  all_goals
    cases hex
    simp only [Char.toNat, Char.reduceVal, UInt32.reduceToNat] at *
    omega

theorem codeUnit_lt {a b c d : Char} {unit : Nat} (reads : codeUnit a b c d = some unit) :
    unit < 0x10000 := by
  simp only [codeUnit, Option.bind_eq_bind, Option.bind_eq_some_iff] at reads
  rcases reads with ⟨first, one, second, two, third, three, fourth, four, same⟩
  have bounds := And.intro (And.intro (hexValue_lt one) (hexValue_lt two))
    (And.intro (hexValue_lt three) (hexValue_lt four))
  cases same
  omega

theorem toNat_ofNat_of_valid {code : Nat}
    (valid : code < 0xD800 ∨ 0xDFFF < code ∧ code < 0x110000) :
    (Char.ofNat code).toNat = code := by
  have isValid : code.isValidChar := valid
  rw [Char.ofNat, dif_pos isValid]
  exact UInt32.toNat_ofNatLT

theorem joinUnits_alone {unit : Nat} (notLead : ¬ (0xD800 ≤ unit ∧ unit ≤ 0xDBFF))
    (rest : Text) : joinUnits unit rest = some (unit, rest) := if_neg notLead

theorem joinUnits_pair {unit low : Nat} {e f g h : Char}
    (isLead : 0xD800 ≤ unit ∧ unit ≤ 0xDBFF) (digits : codeUnit e f g h = some low)
    (isTrail : 0xDC00 ≤ low ∧ low ≤ 0xDFFF) (rest : Text) :
    joinUnits unit ('\\' :: 'u' :: e :: f :: g :: h :: rest) =
      some ((unit - 0xD800) * 0x400 + (low - 0xDC00) + 0x10000, rest) := by
  rw [joinUnits.eq_def, if_pos isLead]
  simp only [digits, Option.map_some, if_pos isTrail]

theorem scanEscape_of_parse {text rest : Text} {character : Char}
    (reads : parseEscape text = some (character, rest)) :
    scanEscape text = some (character.toNat, rest) := by
  rw [parseEscape.eq_def] at reads
  split at reads
  · rename_i a b c d after
    simp only [Option.bind_eq_bind, Option.bind_eq_some_iff] at reads
    rcases reads with ⟨unit, digits, reads⟩
    have small := codeUnit_lt digits
    have scanned : scanEscape ('u' :: a :: b :: c :: d :: after) = joinUnits unit after := by
      rw [scanEscape, digits, Option.bind_some]
    rw [scanned]
    split at reads
    · cases reads
    · rename_i notTrail
      split at reads
      · rename_i isLead
        split at reads
        · rename_i e f g h further
          simp only [Option.bind_eq_some_iff] at reads
          rcases reads with ⟨low, lowDigits, reads⟩
          split at reads
          · rename_i isTrail
            rcases Prod.mk.inj (Option.some.inj reads) with ⟨joined, remains⟩
            rw [joinUnits_pair isLead lowDigits isTrail, ← joined, ← remains,
              toNat_ofNat_of_valid (by omega)]
          · cases reads
        · cases reads
      · rename_i notLead
        rcases Prod.mk.inj (Option.some.inj reads) with ⟨alone, remains⟩
        rw [joinUnits_alone notLead, ← alone, ← remains, toNat_ofNat_of_valid (by omega)]
  case h_10 => cases reads
  all_goals
    cases reads
    rfl

theorem scanString_of_parse {fuel : Nat} {text body rest : Text}
    (reads : parseString fuel text = some (body, rest)) :
    scanString fuel text = some (body.map Char.toNat, rest) := by
  induction fuel generalizing text body rest with
  | zero => cases reads
  | succ fuel induction =>
      cases text with
      | nil => cases reads
      | cons character text =>
          rw [parseString] at reads
          rw [scanString]
          split at reads
          · rename_i quote
            cases reads
            rw [if_pos quote]
            rfl
          · rename_i notQuote
            rw [if_neg notQuote]
            split at reads
            · rename_i backslash
              simp only [Option.bind_eq_bind, Option.bind_eq_some_iff] at reads
              rcases reads with ⟨⟨escaped, after⟩, escape, ⟨tail, further⟩, onwards, same⟩
              cases same
              rw [if_pos backslash, scanEscape_of_parse escape]
              simp only [Option.bind_eq_bind, Option.bind_some, induction onwards]
              rfl
            · rename_i notBackslash
              rw [if_neg notBackslash]
              split at reads
              · cases reads
              · rename_i printable
                simp only [Option.bind_eq_bind, Option.bind_eq_some_iff] at reads
                rcases reads with ⟨⟨tail, further⟩, onwards, same⟩
                cases same
                rw [if_neg printable]
                simp only [Option.bind_eq_bind, Option.bind_some, induction onwards]
                rfl

mutual
def Json.toPython : Json → PyValue
  | .null => .null
  | .bool value => .bool value
  | .num value => value.toPython
  | .str value => .str (value.map Char.toNat)
  | .arr items => .list items.toPython
  | .obj members => .dict members.toPython

def Items.toPython : Items → PyItems
  | .nil => .nil
  | .cons head tail => .cons head.toPython tail.toPython

def Members.toPython : Members → PyDict
  | .nil => .nil
  | .cons key value tail => .cons (key.map Char.toNat) value.toPython tail.toPython
end

theorem scanConstant_number {text : Text} {read : Number × Text}
    (reads : parseNumber text = some read) : scanConstant text = none := by
  have notWord : ∀ {character : Char} (rest : Text), character.isDigit = true →
      scanConstant (character :: rest) = none ∧
        scanConstant ('-' :: character :: rest) = none := by
    intro character rest digit
    have other : ∀ letter, letter.isDigit = false → (letter == character) = false := by
      intro letter notDigit
      apply beq_false_of_ne
      rintro rfl
      rw [digit] at notDigit
      cases notDigit
    constructor
    · simp [scanConstant, constants, List.find?, List.isPrefixOf, other]
    · simp [scanConstant, constants, List.find?, List.isPrefixOf, other]
  have digits : ∃ character rest, character.isDigit = true ∧
      (text = character :: rest ∨ text = '-' :: character :: rest) := by
    rw [parseNumber] at reads
    simp only at reads
    split at reads
    · cases reads
    · rename_i visible
      rw [not_or] at visible
      cases found : (takeSign text).2 with
      | nil =>
          rw [found] at visible
          exact (visible.1 rfl).elim
      | cons character rest =>
          have digit : character.isDigit = true := by
            rw [found] at visible
            by_contra other
            apply visible.1
            exact List.takeWhile_cons_of_neg other
          refine ⟨character, rest, digit, ?_⟩
          rw [takeSign.eq_def] at found
          split at found
          · right
            rw [← found]
          · left
            exact found
  rcases digits with ⟨character, rest, digit, shape | shape⟩
  · rw [shape]
    exact (notWord rest digit).1
  · rw [shape]
    exact (notWord rest digit).2

section

variable (fuel : Nat)

def ValuesRead : Prop :=
  ∀ text value rest, parseValue fuel text = some (value, rest) →
    scanOnce fuel text = some (value.toPython, rest)

def ItemsRead : Prop :=
  ∀ text items rest, parseItems fuel text = some (items, rest) →
    scanArray fuel text = some (items.toPython, rest)

def MembersRead : Prop :=
  ∀ text members rest, parseMembers fuel text = some (members, rest) →
    scanObject fuel text = some (members.toPython, rest)

variable {fuel}

theorem itemsRead_succ (values : ValuesRead fuel) (items : ItemsRead fuel) :
    ItemsRead (fuel + 1) := by
  intro text list rest reads
  rw [parseItems] at reads
  simp only [Option.bind_eq_bind, Option.bind_eq_some_iff] at reads
  rcases reads with ⟨⟨head, after⟩, readsHead, reads⟩
  have first := values text head after readsHead
  rw [scanArray]
  simp only at reads
  split at reads
  · rename_i further comma
    simp only [Option.bind_eq_some_iff] at reads
    rcases reads with ⟨⟨tail, last⟩, readsTail, same⟩
    cases same
    have others := items further tail last readsTail
    simp only [first, comma, others, Option.bind_eq_bind, Option.bind_some]
    rfl
  · rename_i further bracket
    cases reads
    simp only [first, bracket, Option.bind_eq_bind, Option.bind_some]
    rfl
  · cases reads

theorem membersRead_succ (values : ValuesRead fuel) (members : MembersRead fuel) :
    MembersRead (fuel + 1) := by
  intro text list rest reads
  rw [parseMembers] at reads
  rw [scanObject]
  split at reads
  · rename_i inside quote
    simp only [Option.bind_eq_bind, Option.bind_eq_some_iff] at reads
    rcases reads with ⟨⟨key, afterKey⟩, readsKey, reads⟩
    have keyed := scanString_of_parse readsKey
    simp only at reads
    split at reads
    · rename_i afterColon colon
      simp only [Option.bind_eq_some_iff] at reads
      rcases reads with ⟨⟨value, after⟩, readsValue, reads⟩
      have first := values afterColon value after readsValue
      simp only at reads
      split at reads
      · rename_i further comma
        simp only [Option.bind_eq_some_iff] at reads
        rcases reads with ⟨⟨tail, last⟩, readsTail, same⟩
        cases same
        have others := members further tail last readsTail
        simp only [quote, keyed, colon, first, comma, others, Option.bind_eq_bind,
          Option.bind_some]
        rfl
      · rename_i further brace
        cases reads
        simp only [quote, keyed, colon, first, brace, Option.bind_eq_bind, Option.bind_some]
        rfl
      · cases reads
    · cases reads
  · cases reads

theorem scanOnce_word {text rest : Text} {value : PyValue}
    (word : scanConstant (skipBlank text) = some (value, rest)) :
    scanOnce (fuel + 1) text = some (value, rest) := by
  rw [scanOnce, word]

theorem scanOnce_noItems {text inside rest : Text} (bracket : skipBlank text = '[' :: inside)
    (closing : skipBlank inside = ']' :: rest) :
    scanOnce (fuel + 1) text = some (.list .nil, rest) := by
  have notWord : scanConstant ('[' :: inside) = none := rfl
  rw [scanOnce, bracket, notWord]
  simp only [closing]

theorem scanOnce_items {text inside : Text} (bracket : skipBlank text = '[' :: inside)
    (other : ∀ rest, skipBlank inside ≠ ']' :: rest) :
    scanOnce (fuel + 1) text =
      (scanArray fuel inside).map fun (items, rest) => (.list items, rest) := by
  have notWord : scanConstant ('[' :: inside) = none := rfl
  rw [scanOnce, bracket, notWord]
  show (match skipBlank inside with
    | ']' :: rest => some (PyValue.list .nil, rest)
    | _ => (scanArray fuel inside).map fun (inner, rest) => (PyValue.list inner, rest)) = _
  split
  · rename_i closing
    exact (other _ closing).elim
  · rfl

theorem scanOnce_noMembers {text inside rest : Text} (brace : skipBlank text = '{' :: inside)
    (closing : skipBlank inside = '}' :: rest) :
    scanOnce (fuel + 1) text = some (PyValue.dict .nil, rest) := by
  have notWord : scanConstant ('{' :: inside) = none := rfl
  rw [scanOnce, brace, notWord]
  simp only [closing]

theorem scanOnce_members {text inside : Text} (brace : skipBlank text = '{' :: inside)
    (other : ∀ rest, skipBlank inside ≠ '}' :: rest) :
    scanOnce (fuel + 1) text =
      (scanObject fuel inside).map fun (members, rest) => (.dict members, rest) := by
  have notWord : scanConstant ('{' :: inside) = none := rfl
  rw [scanOnce, brace, notWord]
  show (match skipBlank inside with
    | '}' :: rest => some (PyValue.dict .nil, rest)
    | _ => (scanObject fuel inside).map fun (inner, rest) => (PyValue.dict inner, rest)) = _
  split
  · rename_i closing
    exact (other _ closing).elim
  · rfl

theorem valuesRead_succ (items : ItemsRead fuel) (members : MembersRead fuel) :
    ValuesRead (fuel + 1) := by
  intro text value rest reads
  rw [parseValue] at reads
  split at reads
  case h_1 found =>
    cases reads
    apply scanOnce_word
    rw [found]
    rfl
  case h_2 found =>
    cases reads
    apply scanOnce_word
    rw [found]
    rfl
  case h_3 found =>
    cases reads
    apply scanOnce_word
    rw [found]
    rfl
  case h_4 inside quote =>
    rcases Option.map_eq_some_iff.mp reads with ⟨⟨body, after⟩, readsBody, same⟩
    cases same
    have notWord : scanConstant ('"' :: inside) = none := rfl
    rw [scanOnce, quote, notWord]
    simp only [scanString_of_parse readsBody, Option.map_some]
    rfl
  case h_5 inside bracket =>
    split at reads
    · rename_i after closing
      cases reads
      exact scanOnce_noItems bracket closing
    · rename_i other
      rcases Option.map_eq_some_iff.mp reads with ⟨⟨list, after⟩, readsItems, same⟩
      cases same
      rw [scanOnce_items bracket other, items inside list rest readsItems]
      rfl
  case h_6 inside brace =>
    split at reads
    · rename_i after closing
      cases reads
      exact scanOnce_noMembers brace closing
    · rename_i other
      rcases Option.map_eq_some_iff.mp reads with ⟨⟨list, after⟩, readsMembers, same⟩
      cases same
      rw [scanOnce_members brace other, members inside list rest readsMembers]
      rfl
  case h_7 =>
    rcases Option.map_eq_some_iff.mp reads with ⟨⟨number, after⟩, readsNumber, same⟩
    cases same
    rw [scanOnce, scanConstant_number readsNumber]
    simp only [readsNumber, Option.map_some]
    rfl

end

theorem parsers_read (fuel : Nat) : ValuesRead fuel ∧ ItemsRead fuel ∧ MembersRead fuel := by
  induction fuel with
  | zero =>
      refine ⟨?_, ?_, ?_⟩
      · intro text value rest reads
        rw [parseValue] at reads
        cases reads
      · intro text items rest reads
        rw [parseItems] at reads
        cases reads
      · intro text members rest reads
        rw [parseMembers] at reads
        cases reads
  | succ fuel induction =>
      rcases induction with ⟨values, items, members⟩
      exact ⟨valuesRead_succ items members, itemsRead_succ values items,
        membersRead_succ values members⟩

theorem scanText_of_loads {text : Text} {value : Json} (reads : loads text = some value) :
    scanText text = some value.toPython := by
  rw [loads] at reads
  split at reads
  · rename_i found rest parsed
    split at reads
    · rename_i blank
      cases reads
      have scanned := (parsers_read (text.length + 1)).1 text value rest parsed
      rw [scanText, scanned]
      simp only [if_pos blank]
    · cases reads
  · cases reads

end DsBench
