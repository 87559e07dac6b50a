import DsBench.Foundation.Json

/-! # Rendering JSON and reading it back

One renderer for every way this system writes JSON. A layout says where blanks go
and how characters are escaped, and carries the facts that make it readable; the
parser then returns the rendered value from any rendering, and leaves what follows.
-/

namespace DsBench

/-! ## Numbers -/

def StopsNumber (rest : Text) : Prop :=
  ∀ first, rest.head? = some first →
    first.isDigit = false ∧ first ≠ '.' ∧ first ≠ 'e' ∧ first ≠ 'E'

@[simp] theorem stopsNumber_nil : StopsNumber [] := by
  intro first equal
  cases equal

@[simp] theorem stopsNumber_cons (first : Char) (rest : Text) :
    StopsNumber (first :: rest) ↔
      first.isDigit = false ∧ first ≠ '.' ∧ first ≠ 'e' ∧ first ≠ 'E' := by
  simp [StopsNumber]

theorem StopsNumber.digits {rest : Text} (stops : StopsNumber rest) : StopsDigits rest :=
  fun first equal => (stops first equal).1

theorem parseFraction_of_stops {rest : Text} (stops : StopsNumber rest) :
    parseFraction rest = ([], rest) := by
  unfold parseFraction
  split
  · exact absurd rfl (stops '.' rfl).2.1
  · rfl

theorem parseExponent_of_stops {rest : Text} (stops : StopsNumber rest) :
    parseExponent rest = (none, rest) := by
  unfold parseExponent
  split
  · rfl
  · rename_i mark tail
    rcases stops mark rfl with ⟨-, -, lower, upper⟩
    simp [lower, upper]

theorem parseFraction_point {digits rest : Text}
    (allDigits : ∀ digit ∈ digits, digit.isDigit = true) (nonempty : digits ≠ [])
    (stops : StopsNumber rest) :
    parseFraction ('.' :: (digits ++ rest)) = (digits, rest) := by
  simp [parseFraction, takeWhile_digits_append allDigits stops.digits,
    dropWhile_digits_append allDigits stops.digits, nonempty]

theorem decimal_wholePart (value : Nat) :
    ¬ (decimal value = [] ∨
      ((decimal value).head? = some '0' ∧ decimal value ≠ ['0'])) := by
  intro shape
  rcases shape with empty | ⟨leading, longer⟩
  · exact decimal_ne_nil value empty
  · by_cases zero : value = 0
    · subst zero
      exact longer decimal_zero
    · exact head_decimal_ne_zero (Nat.pos_of_ne_zero zero) leading

theorem stopsDigits_point (rest : Text) : StopsDigits ('.' :: rest) := by simp

theorem takeSign_decimal (negative : Bool) (value : Nat) (rest : Text) :
    takeSign ((if negative then ['-'] else []) ++ (decimal value ++ rest)) =
      (negative, decimal value ++ rest) := by
  cases negative with
  | true => rfl
  | false =>
      rw [if_neg Bool.false_ne_true, List.nil_append]
      unfold takeSign
      split
      · rename_i tail shape
        cases digits : decimal value with
        | nil => exact absurd digits (decimal_ne_nil value)
        | cons first others =>
            have member : first ∈ decimal value := by simp [digits]
            have digit := isDigit_of_mem_decimal member
            rw [digits, List.cons_append] at shape
            rw [(List.cons.inj shape).1] at digit
            cases digit
      · rfl

theorem parseNumber_parts (negative : Bool) (value : Nat) {tail fraction rest : Text}
    (stopsWhole : StopsDigits tail) (readsFraction : parseFraction tail = (fraction, rest))
    (stops : StopsNumber rest) :
    parseNumber ((if negative then ['-'] else []) ++ (decimal value ++ tail)) =
      some (assembleNumber negative (decimal value) fraction none, rest) := by
  have whole : (decimal value ++ tail).takeWhile Char.isDigit = decimal value :=
    takeWhile_digits_append (fun _ => isDigit_of_mem_decimal) stopsWhole
  have after : (decimal value ++ tail).dropWhile Char.isDigit = tail :=
    dropWhile_digits_append (fun _ => isDigit_of_mem_decimal) stopsWhole
  rw [parseNumber]
  rw [takeSign_decimal]
  simp only [whole, after, readsFraction, parseExponent_of_stops stops,
    if_neg (decimal_wholePart value)]

theorem assembleNumber_int (negative : Bool) (value : Nat) :
    assembleNumber negative (decimal value) [] none =
      .int (if negative then -(value : Int) else value) := by
  simp [assembleNumber]

theorem assembleNumber_decimal (negative : Bool) (whole places value : Nat)
    (bound : value < 10 ^ (places + 1)) :
    assembleNumber negative (decimal whole) (padded (places + 1) value) none =
      .decimal
        (if negative then -((whole * 10 ^ (places + 1) + value : Nat) : Int)
          else (whole * 10 ^ (places + 1) + value : Nat)) places := by
  have length : (padded (places + 1) value).length = places + 1 :=
    length_padded (Nat.succ_pos places) bound
  have nonempty : padded (places + 1) value ≠ [] := by
    intro empty
    simp [empty] at length
  have magnitude : digitsValue (decimal whole ++ padded (places + 1) value) =
      whole * 10 ^ (places + 1) + value := by
    rw [digitsValue_append, digitsValue_decimal, digitsValue_padded, length]
  have power : (0 : Int) - ((places + 1 : Nat) : Int) < 0 := by omega
  have count : ((0 : Int) - ((places + 1 : Nat) : Int)).natAbs - 1 = places := by omega
  rw [assembleNumber]
  rw [if_neg (by simp [nonempty]), magnitude, length]
  simp only [Option.getD_none, if_pos power, count]

theorem Number.render_sign (number : Number) :
    number.render =
      match number with
      | .int value =>
          (if decide (value < 0) then ['-'] else []) ++ (DsBench.decimal value.natAbs ++ [])
      | .decimal mantissa places =>
          (if decide (mantissa < 0) then ['-'] else []) ++
            (DsBench.decimal (mantissa.natAbs / 10 ^ (places + 1)) ++
              '.' :: padded (places + 1) (mantissa.natAbs % 10 ^ (places + 1))) := by
  cases number with
  | int value =>
      by_cases negative : value < 0 <;> simp [render, negative]
  | decimal mantissa places =>
      by_cases negative : mantissa < 0 <;> simp [render, negative]

theorem Int.signed_natAbs (value : Int) :
    (if decide (value < 0) = true then -(value.natAbs : Int) else (value.natAbs : Int)) =
      value := by
  by_cases negative : value < 0
  · simp only [negative, decide_true, if_true]
    omega
  · simp only [negative, decide_false, Bool.false_eq_true, if_false]
    omega

theorem parseNumber_render (number : Number) {rest : Text} (stops : StopsNumber rest) :
    parseNumber (number.render ++ rest) = some (number, rest) := by
  rw [Number.render_sign]
  cases number with
  | int value =>
      simp only [List.append_assoc, List.nil_append]
      rw [parseNumber_parts _ _ stops.digits (parseFraction_of_stops stops) stops,
        assembleNumber_int, Int.signed_natAbs]
  | decimal mantissa places =>
      have power : 0 < 10 ^ (places + 1) := by positivity
      have bound := Nat.mod_lt mantissa.natAbs power
      have nonempty : padded (places + 1) (mantissa.natAbs % 10 ^ (places + 1)) ≠ [] := by
        intro empty
        have length := length_padded (Nat.succ_pos places) bound
        simp [empty] at length
      have readsFraction := parseFraction_point
        (fun digit => isDigit_of_mem_padded) nonempty stops
      simp only [List.append_assoc, List.cons_append]
      rw [parseNumber_parts _ _ (stopsDigits_point _) readsFraction stops,
        assembleNumber_decimal _ _ _ _ bound, Nat.div_add_mod', Int.signed_natAbs]

/-! ## Layouts -/

/-- How a writer lays JSON out. `opening`, `between` and `closing` are the blanks after
an opening bracket, after a comma and before a closing bracket, at a given depth. -/
structure Layout where
  escape : Char → Text
  opening : Nat → Text
  between : Nat → Text
  closing : Nat → Text
  afterColon : Text
  readsEscape : ∀ character fuel rest,
    parseString (fuel + 1) (escape character ++ rest) =
      (parseString fuel rest).map fun read => (character :: read.1, read.2)
  openingBlank : ∀ depth, (opening depth).all isBlank = true
  betweenBlank : ∀ depth, (between depth).all isBlank = true
  closingBlank : ∀ depth, (closing depth).all isBlank = true
  colonBlank : afterColon.all isBlank = true

namespace Layout

def quote (layout : Layout) (body : Text) : Text :=
  '"' :: (body.flatMap layout.escape ++ ['"'])

theorem escape_ne_nil (layout : Layout) (character : Char) :
    layout.escape character ≠ [] := by
  intro empty
  have read := layout.readsEscape character 1 ['"']
  simp [empty, parseString] at read

theorem length_le_escaped (layout : Layout) (body : Text) :
    body.length ≤ (body.flatMap layout.escape).length := by
  induction body with
  | nil => simp
  | cons first rest induction =>
      have visible := List.length_pos_of_ne_nil (layout.escape_ne_nil first)
      simp only [List.length_cons, List.flatMap_cons, List.length_append]
      omega

theorem parseString_escaped (layout : Layout) (body rest : Text) {fuel : Nat}
    (enough : body.length < fuel) :
    parseString fuel (body.flatMap layout.escape ++ '"' :: rest) = some (body, rest) := by
  induction body generalizing fuel with
  | nil =>
      cases fuel with
      | zero => simp at enough
      | succ fuel => simp [parseString]
  | cons first body induction =>
      cases fuel with
      | zero => simp at enough
      | succ fuel =>
          rw [List.flatMap_cons, List.append_assoc, layout.readsEscape,
            induction (by simpa using enough)]
          rfl

theorem parseString_quote (layout : Layout) (body rest : Text) :
    let text := body.flatMap layout.escape ++ '"' :: rest
    parseString (text.length + 1) text = some (body, rest) := by
  apply parseString_escaped
  have length := layout.length_le_escaped body
  simp only [List.length_append, List.length_cons]
  omega

end Layout

/-! ## Values -/

mutual
def Json.render (layout : Layout) (depth : Nat) : Json → Text
  | .null => "null".toList
  | .bool true => "true".toList
  | .bool false => "false".toList
  | .num value => value.render
  | .str value => layout.quote value
  | .arr .nil => ['[', ']']
  | .arr (.cons head tail) =>
      '[' :: (layout.opening depth ++
        (head.render layout (depth + 1) ++ tail.render layout depth))
  | .obj .nil => ['{', '}']
  | .obj (.cons key value tail) =>
      '{' :: (layout.opening depth ++ (layout.quote key ++ ':' :: (layout.afterColon ++
        (value.render layout (depth + 1) ++ tail.render layout depth))))

def Items.render (layout : Layout) (depth : Nat) : Items → Text
  | .nil => layout.closing depth ++ [']']
  | .cons head tail =>
      ',' :: (layout.between depth ++
        (head.render layout (depth + 1) ++ tail.render layout depth))

def Members.render (layout : Layout) (depth : Nat) : Members → Text
  | .nil => layout.closing depth ++ ['}']
  | .cons key value tail =>
      ',' :: (layout.between depth ++ (layout.quote key ++ ':' :: (layout.afterColon ++
        (value.render layout (depth + 1) ++ tail.render layout depth))))
end

/-! ## Blanks -/

theorem isBlank_nil : ([] : Text).all isBlank = true := rfl

theorem skipBlank_append {blanks : Text} (blank : blanks.all isBlank = true)
    (text : Text) : skipBlank (blanks ++ text) = skipBlank text :=
  List.dropWhile_append_of_pos (List.all_eq_true.mp blank)

theorem skipBlank_cons {first : Char} (visible : isBlank first = false) (rest : Text) :
    skipBlank (first :: rest) = first :: rest := by
  simp [skipBlank, visible]

theorem parseValue_blank {blanks : Text} (blank : blanks.all isBlank = true)
    (fuel : Nat) (text : Text) : parseValue fuel (blanks ++ text) = parseValue fuel text := by
  cases fuel with
  | zero => simp [parseValue]
  | succ fuel =>
      unfold parseValue
      rw [skipBlank_append blank]

theorem parseItems_blank {blanks : Text} (blank : blanks.all isBlank = true)
    (fuel : Nat) (text : Text) : parseItems fuel (blanks ++ text) = parseItems fuel text := by
  cases fuel with
  | zero => simp [parseItems]
  | succ fuel =>
      unfold parseItems
      rw [parseValue_blank blank]

theorem parseMembers_blank {blanks : Text} (blank : blanks.all isBlank = true)
    (fuel : Nat) (text : Text) :
    parseMembers fuel (blanks ++ text) = parseMembers fuel text := by
  cases fuel with
  | zero => simp [parseMembers]
  | succ fuel =>
      unfold parseMembers
      rw [skipBlank_append blank]

/-! ## The first character of a rendering -/

def OpensValue (first : Char) : Prop := isBlank first = false ∧ first ≠ ']'

theorem opensValue_of_isDigit {first : Char} (digit : first.isDigit = true) :
    OpensValue first := by
  have distinct : ∀ other : Char, other.isDigit = false → first ≠ other := by
    intro other notDigit equal
    cases equal
    simp [digit] at notDigit
  refine ⟨?_, distinct ']' rfl⟩
  simp [isBlank, distinct ' ' rfl, distinct '\t' rfl, distinct '\n' rfl, distinct '\r' rfl]

theorem signed_head (negative : Bool) (value : Nat) (rest : Text) :
    ∃ first tail, (if negative then ['-'] else []) ++ (decimal value ++ rest) =
      first :: tail ∧ (first.isDigit = true ∨ first = '-') := by
  cases negative with
  | true => exact ⟨'-', _, rfl, .inr rfl⟩
  | false =>
      cases digits : decimal value with
      | nil => exact absurd digits (decimal_ne_nil value)
      | cons first tail =>
          have member : first ∈ decimal value := by simp [digits]
          exact ⟨first, tail ++ rest, rfl, .inl (isDigit_of_mem_decimal member)⟩

theorem Number.render_head (number : Number) :
    ∃ first tail, number.render = first :: tail ∧
      (first.isDigit = true ∨ first = '-') := by
  cases number with
  | int value =>
      rw [Number.render_sign]
      exact signed_head _ _ _
  | decimal mantissa places =>
      rw [Number.render_sign]
      exact signed_head _ _ _

theorem Json.render_head (layout : Layout) (depth : Nat) (value : Json) :
    ∃ first tail, value.render layout depth = first :: tail ∧ OpensValue first := by
  cases value with
  | null => exact ⟨'n', _, rfl, rfl, by decide⟩
  | bool value => cases value <;> exact ⟨_, _, rfl, rfl, by decide⟩
  | num value =>
      rcases value.render_head with ⟨first, tail, shape, digit | sign⟩
      · exact ⟨first, tail, by simpa [Json.render] using shape, opensValue_of_isDigit digit⟩
      · subst sign
        exact ⟨'-', tail, by simpa [Json.render] using shape, rfl, by decide⟩
  | str value => exact ⟨'"', _, by rw [Json.render, Layout.quote], rfl, by decide⟩
  | arr items => cases items <;> exact ⟨'[', _, by rw [Json.render], rfl, by decide⟩
  | obj members => cases members <;> exact ⟨'{', _, by rw [Json.render], rfl, by decide⟩

theorem stopsNumber_of_isBlank {first : Char} (blank : isBlank first = true) (rest : Text) :
    StopsNumber (first :: rest) := by
  simp only [isBlank, Bool.or_eq_true, decide_eq_true_eq] at blank
  rcases blank with ((rfl | rfl) | rfl) | rfl <;> simp

theorem stopsNumber_blank {blanks : Text} (blank : blanks.all isBlank = true) {rest : Text}
    (stops : StopsNumber rest) : StopsNumber (blanks ++ rest) := by
  cases blanks with
  | nil => exact stops
  | cons first others =>
      simp only [List.all_cons, Bool.and_eq_true] at blank
      exact stopsNumber_of_isBlank blank.1 _

theorem Items.stopsNumber_render (layout : Layout) (depth : Nat) (items : Items)
    (rest : Text) : StopsNumber (items.render layout depth ++ rest) := by
  cases items with
  | nil =>
      rw [Items.render, List.append_assoc]
      exact stopsNumber_blank (layout.closingBlank depth) (by simp)
  | cons head tail => simp [Items.render]

theorem Members.stopsNumber_render (layout : Layout) (depth : Nat) (members : Members)
    (rest : Text) : StopsNumber (members.render layout depth ++ rest) := by
  cases members with
  | nil =>
      rw [Members.render, List.append_assoc]
      exact stopsNumber_blank (layout.closingBlank depth) (by simp)
  | cons key value tail => simp [Members.render]

/-! ## Reading a rendering back -/

mutual
def Json.weight : Json → Nat
  | .arr items => items.weight + 1
  | .obj members => members.weight + 1
  | _ => 1

def Items.weight : Items → Nat
  | .nil => 0
  | .cons head tail => head.weight + tail.weight + 1

def Members.weight : Members → Nat
  | .nil => 0
  | .cons _ value tail => value.weight + tail.weight + 1
end

theorem parseValue_number {text : Text} (fuel : Nat)
    (opens : ∃ first tail, text = first :: tail ∧ (first.isDigit = true ∨ first = '-')) :
    parseValue (fuel + 1) text =
      (parseNumber text).map fun (number, rest) => (.num number, rest) := by
  rcases opens with ⟨first, tail, rfl, opens⟩
  have visible : isBlank first = false := by
    rcases opens with digit | rfl
    · exact (opensValue_of_isDigit digit).1
    · rfl
  have notOther : ∀ other : Char, other.isDigit = false → other ≠ '-' → first ≠ other := by
    intro other notDigit notSign equal
    cases equal
    rcases opens with digit | sign
    · simp [digit] at notDigit
    · exact notSign sign
  rw [parseValue]
  rw [skipBlank_cons visible]
  split <;> first
    | rfl
    | (rename_i shape
       exact absurd (List.cons.inj shape).1 (notOther _ (by decide) (by decide)))

section

variable (layout : Layout) (fuel : Nat)

def ReadsValues : Prop :=
  ∀ depth (value : Json) rest, value.weight ≤ fuel → StopsNumber rest →
    parseValue fuel (value.render layout depth ++ rest) = some (value, rest)

def ReadsItems : Prop :=
  ∀ depth (head : Json) (tail : Items) rest, (Items.cons head tail).weight ≤ fuel →
    parseItems fuel
      (head.render layout (depth + 1) ++ (tail.render layout depth ++ rest)) =
      some (.cons head tail, rest)

def ReadsMembers : Prop :=
  ∀ depth key (value : Json) (tail : Members) rest,
    (Members.cons key value tail).weight ≤ fuel →
    parseMembers fuel
      (layout.quote key ++ ':' :: (layout.afterColon ++
        (value.render layout (depth + 1) ++ (tail.render layout depth ++ rest)))) =
      some (.cons key value tail, rest)

variable {layout fuel}

theorem readsValues_succ (items : ReadsItems layout fuel)
    (members : ReadsMembers layout fuel) : ReadsValues layout (fuel + 1) := by
  intro depth value rest enough stops
  cases value with
  | null => simp [Json.render, parseValue, skipBlank, isBlank]
  | bool value => cases value <;> simp [Json.render, parseValue, skipBlank, isBlank]
  | num value =>
      rcases value.render_head with ⟨first, tail, shape, opens⟩
      rw [Json.render, parseValue_number fuel ⟨first, tail ++ rest, by simp [shape], opens⟩,
        parseNumber_render value stops]
      rfl
  | str value =>
      have body := layout.parseString_quote value rest
      rw [Json.render, Layout.quote, List.cons_append, List.append_assoc,
        List.singleton_append]
      rw [parseValue]
      rw [skipBlank_cons rfl]
      simp only [body, Option.map_some]
  | arr items =>
      cases items with
      | nil => simp [Json.render, parseValue, skipBlank, isBlank]
      | cons head tail =>
          rcases head.render_head layout (depth + 1) with ⟨first, others, shape, opens⟩
          have notClosed : skipBlank (layout.opening depth ++
              (head.render layout (depth + 1) ++ (tail.render layout depth ++ rest))) =
              first :: (others ++ (tail.render layout depth ++ rest)) := by
            rw [skipBlank_append (layout.openingBlank depth), shape, List.cons_append,
              skipBlank_cons opens.1]
          have body := items depth head tail rest (by
            simpa [Json.weight, Items.weight] using enough)
          simp only [Json.render, List.cons_append, List.append_assoc]
          rw [parseValue]
          rw [skipBlank_cons rfl]
          simp only [notClosed, parseItems_blank (layout.openingBlank depth), body]
          split
          · rename_i closed
            exact absurd (List.cons.inj closed).1 opens.2
          · rfl
  | obj members' =>
      cases members' with
      | nil => simp [Json.render, parseValue, skipBlank, isBlank]
      | cons key value tail =>
          have body := members depth key value tail rest (by
            simpa [Json.weight, Members.weight] using enough)
          simp only [Json.render, List.cons_append, List.append_assoc]
          rw [parseValue]
          rw [skipBlank_cons rfl]
          simp only [parseMembers_blank (layout.openingBlank depth), body]
          rw [skipBlank_append (layout.openingBlank depth), Layout.quote, List.cons_append,
            skipBlank_cons rfl]
          rfl

theorem readsItems_succ (values : ReadsValues layout fuel)
    (items : ReadsItems layout fuel) : ReadsItems layout (fuel + 1) := by
  intro depth head tail rest enough
  simp only [Items.weight] at enough
  have readsHead := values (depth + 1) head (tail.render layout depth ++ rest) (by omega)
    (tail.stopsNumber_render layout depth rest)
  cases tail with
  | nil =>
      have closes : skipBlank (Items.nil.render layout depth ++ rest) = ']' :: rest := by
        rw [Items.render, List.append_assoc, skipBlank_append (layout.closingBlank depth)]
        exact skipBlank_cons rfl rest
      rw [parseItems]
      rw [readsHead]
      simp [closes]
  | cons next others =>
      have continues : skipBlank ((Items.cons next others).render layout depth ++ rest) =
          ',' :: (layout.between depth ++ (next.render layout (depth + 1) ++
            (others.render layout depth ++ rest))) := by
        simp only [Items.render, List.cons_append, List.append_assoc]
        exact skipBlank_cons rfl _
      have readsTail := items depth next others rest (by
        simp only [Items.weight] at enough ⊢
        omega)
      rw [parseItems]
      rw [readsHead]
      simp [continues, parseItems_blank (layout.betweenBlank depth), readsTail]

theorem readsMembers_succ (values : ReadsValues layout fuel)
    (members : ReadsMembers layout fuel) : ReadsMembers layout (fuel + 1) := by
  intro depth key value tail rest enough
  simp only [Members.weight] at enough
  have readsValue := values (depth + 1) value (tail.render layout depth ++ rest) (by omega)
    (tail.stopsNumber_render layout depth rest)
  have readsKey := layout.parseString_quote key (':' :: (layout.afterColon ++
    (value.render layout (depth + 1) ++ (tail.render layout depth ++ rest))))
  cases tail with
  | nil =>
      have closes : skipBlank (Members.nil.render layout depth ++ rest) = '}' :: rest := by
        rw [Members.render, List.append_assoc, skipBlank_append (layout.closingBlank depth)]
        exact skipBlank_cons rfl rest
      rw [Layout.quote, List.cons_append, List.append_assoc, List.singleton_append]
      rw [parseMembers]
      rw [skipBlank_cons rfl]
      simp only [readsKey]
      simp [skipBlank_cons, isBlank, parseValue_blank layout.colonBlank, readsValue, closes]
  | cons nextKey nextValue others =>
      have continues : skipBlank ((Members.cons nextKey nextValue others).render layout depth ++
          rest) = ',' :: (layout.between depth ++ (layout.quote nextKey ++ ':' ::
            (layout.afterColon ++ (nextValue.render layout (depth + 1) ++
              (others.render layout depth ++ rest))))) := by
        simp only [Members.render, List.cons_append, List.append_assoc]
        exact skipBlank_cons rfl _
      have readsTail := members depth nextKey nextValue others rest (by
        simp only [Members.weight] at enough ⊢
        omega)
      rw [Layout.quote, List.cons_append, List.append_assoc, List.singleton_append]
      rw [parseMembers]
      rw [skipBlank_cons rfl]
      simp only [readsKey]
      simp [skipBlank_cons, isBlank, parseValue_blank layout.colonBlank, readsValue,
        continues, parseMembers_blank (layout.betweenBlank depth), readsTail]

end

theorem reads_rendering (layout : Layout) (fuel : Nat) :
    ReadsValues layout fuel ∧ ReadsItems layout fuel ∧ ReadsMembers layout fuel := by
  induction fuel with
  | zero =>
      refine ⟨?_, ?_, ?_⟩
      · intro depth value rest enough
        cases value <;> simp [Json.weight] at enough
      · intro depth head tail rest enough
        simp [Items.weight] at enough
      · intro depth key value tail rest enough
        simp [Members.weight] at enough
  | succ fuel induction =>
      rcases induction with ⟨values, items, members⟩
      exact ⟨readsValues_succ items members, readsItems_succ values items,
        readsMembers_succ values members⟩

/-! ## Whole texts -/

mutual
theorem Json.weight_le_length (layout : Layout) (depth : Nat) :
    (value : Json) → value.weight ≤ (value.render layout depth).length
  | .null => by simp [Json.weight, Json.render]
  | .bool value => by cases value <;> simp [Json.weight, Json.render]
  | .num value => by
      rcases value.render_head with ⟨first, tail, shape, -⟩
      simp [Json.weight, Json.render, shape]
  | .str value => by simp [Json.weight, Json.render, Layout.quote]
  | .arr .nil => by simp [Json.weight, Items.weight, Json.render]
  | .arr (.cons head tail) => by
      have head := Json.weight_le_length layout (depth + 1) head
      have tail := Items.weight_le_length layout depth tail
      simp only [Json.weight, Items.weight, Json.render, List.length_cons,
        List.length_append]
      omega
  | .obj .nil => by simp [Json.weight, Members.weight, Json.render]
  | .obj (.cons key value tail) => by
      have value := Json.weight_le_length layout (depth + 1) value
      have tail := Members.weight_le_length layout depth tail
      simp only [Json.weight, Members.weight, Json.render, List.length_cons,
        List.length_append]
      omega

theorem Items.weight_le_length (layout : Layout) (depth : Nat) :
    (items : Items) → items.weight + 1 ≤ (items.render layout depth).length
  | .nil => by simp [Items.weight, Items.render]
  | .cons head tail => by
      have head := Json.weight_le_length layout (depth + 1) head
      have tail := Items.weight_le_length layout depth tail
      simp only [Items.weight, Items.render, List.length_cons, List.length_append]
      omega

theorem Members.weight_le_length (layout : Layout) (depth : Nat) :
    (members : Members) → members.weight + 1 ≤ (members.render layout depth).length
  | .nil => by simp [Members.weight, Members.render]
  | .cons key value tail => by
      have value := Json.weight_le_length layout (depth + 1) value
      have tail := Members.weight_le_length layout depth tail
      simp only [Members.weight, Members.render, List.length_cons, List.length_append]
      omega
end

theorem loads_render (layout : Layout) (depth : Nat) (value : Json)
    {leading trailing : Text} (leadingBlank : leading.all isBlank = true)
    (trailingBlank : trailing.all isBlank = true) :
    loads (leading ++ (value.render layout depth ++ trailing)) = some value := by
  have weight := value.weight_le_length layout depth
  have stops : StopsNumber trailing := by
    simpa using stopsNumber_blank trailingBlank stopsNumber_nil
  have enough : value.weight ≤
      (leading ++ (value.render layout depth ++ trailing)).length + 1 := by
    simp only [List.length_append]
    omega
  have read := (reads_rendering layout _).1 depth value trailing enough stops
  have blankEnd : skipBlank trailing = [] := by
    rw [← List.append_nil trailing, skipBlank_append trailingBlank]
    rfl
  rw [loads, parseValue_blank leadingBlank, read]
  simp [blankEnd]

theorem loads_render_alone (layout : Layout) (depth : Nat) (value : Json) :
    loads (value.render layout depth) = some value := by
  have read := loads_render layout depth value isBlank_nil isBlank_nil
  rwa [List.nil_append, List.append_nil] at read

/-! ## The layout of `serde_json` -/

def hexDigit (value : Nat) : Char :=
  if value < 10 then Char.ofNat ('0'.toNat + value) else Char.ofNat ('a'.toNat + (value - 10))

/-- The escapes of `serde_json`: quotes, backslashes and control characters only. -/
def serdeEscape (character : Char) : Text :=
  if character = '"' then ['\\', '"']
  else if character = '\\' then ['\\', '\\']
  else if character = '\x08' then ['\\', 'b']
  else if character = '\x0c' then ['\\', 'f']
  else if character = '\n' then ['\\', 'n']
  else if character = '\r' then ['\\', 'r']
  else if character = '\t' then ['\\', 't']
  else if character.toNat < 0x20 then
    ['\\', 'u', '0', '0', hexDigit (character.toNat / 16), hexDigit (character.toNat % 16)]
  else [character]

theorem parseEscape_control : ∀ code < 0x20, ∀ rest,
    parseEscape ('u' :: '0' :: '0' :: hexDigit (code / 16) :: hexDigit (code % 16) :: rest) =
      some (Char.ofNat code, rest) := by
  intro code below rest
  have unit : codeUnit '0' '0' (hexDigit (code / 16)) (hexDigit (code % 16)) = some code := by
    revert code
    decide
  have plain : ¬ (0xDC00 ≤ code ∧ code ≤ 0xDFFF) ∧ ¬ (0xD800 ≤ code ∧ code ≤ 0xDBFF) := by
    omega
  simp [parseEscape, unit, plain]

theorem parseString_escape {escaped rest after : Text} {character : Char}
    (reads : parseEscape escaped = some (character, after)) (fuel : Nat)
    (split : rest = '\\' :: escaped) :
    parseString (fuel + 1) rest =
      (parseString fuel after).map fun read => (character :: read.1, read.2) := by
  rw [split, parseString, if_neg (by decide), if_pos rfl, reads]
  cases body : parseString fuel after <;> simp [body]

theorem parseString_serdeEscape (character : Char) (fuel : Nat) (rest : Text) :
    parseString (fuel + 1) (serdeEscape character ++ rest) =
      (parseString fuel rest).map fun read => (character :: read.1, read.2) := by
  rw [serdeEscape]
  split_ifs with quote backslash backspace formFeed newline carriage tab control
  · exact parseString_escape (by rw [quote]; rfl) fuel rfl
  · exact parseString_escape (by rw [backslash]; rfl) fuel rfl
  · exact parseString_escape (by rw [backspace]; rfl) fuel rfl
  · exact parseString_escape (by rw [formFeed]; rfl) fuel rfl
  · exact parseString_escape (by rw [newline]; rfl) fuel rfl
  · exact parseString_escape (by rw [carriage]; rfl) fuel rfl
  · exact parseString_escape (by rw [tab]; rfl) fuel rfl
  · have reads := parseEscape_control character.toNat control rest
    rw [Char.ofNat_toNat] at reads
    exact parseString_escape reads fuel rfl
  · rw [List.singleton_append, parseString, if_neg quote, if_neg backslash, if_neg control]
    cases parseString fuel rest <;> rfl

def indentation (depth : Nat) : Text := '\n' :: List.replicate (2 * depth) ' '

theorem indentation_blank (depth : Nat) : (indentation depth).all isBlank = true := by
  simp [indentation, isBlank]

/-- `serde_json::to_string_pretty`. -/
def Layout.serdePretty : Layout where
  escape := serdeEscape
  opening depth := indentation (depth + 1)
  between depth := indentation (depth + 1)
  closing := indentation
  afterColon := [' ']
  readsEscape := parseString_serdeEscape
  openingBlank depth := indentation_blank (depth + 1)
  betweenBlank depth := indentation_blank (depth + 1)
  closingBlank := indentation_blank
  colonBlank := rfl

/-- `serde_json::to_string`. -/
def Layout.serdeCompact : Layout where
  escape := serdeEscape
  opening _ := []
  between _ := []
  closing _ := []
  afterColon := []
  readsEscape := parseString_serdeEscape
  openingBlank _ := isBlank_nil
  betweenBlank _ := isBlank_nil
  closingBlank _ := isBlank_nil
  colonBlank := isBlank_nil

end DsBench
