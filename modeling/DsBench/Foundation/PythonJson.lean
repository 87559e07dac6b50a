import DsBench.Foundation.JsonRendering

/-! # JSON as Python writes it

`json.dump(data, f, indent=2)` escapes whatever is not printable ASCII, above the basic plane
as a pair of surrogates. Assigning to a key of a dictionary keeps its place or adds it at the
end.
-/

namespace DsBench

/-! ## Escapes -/

def hexUnit (unit : Nat) : Text :=
  [hexDigit (unit / 4096), hexDigit (unit / 256 % 16), hexDigit (unit / 16 % 16),
    hexDigit (unit % 16)]

/-- The escapes of `json.dumps` with `ensure_ascii`. -/
def pyEscape (character : Char) : Text :=
  if character = '"' then ['\\', '"']
  else if character = '\\' then ['\\', '\\']
  else if character = '\n' then ['\\', 'n']
  else if character = '\r' then ['\\', 'r']
  else if character = '\t' then ['\\', 't']
  else if character = '\x0c' then ['\\', 'f']
  else if character = '\x08' then ['\\', 'b']
  else if 0x20 ≤ character.toNat ∧ character.toNat ≤ 0x7e then [character]
  else if character.toNat < 0x10000 then '\\' :: 'u' :: hexUnit character.toNat
  else
    '\\' :: 'u' :: (hexUnit (0xD800 + (character.toNat - 0x10000) / 0x400) ++
      '\\' :: 'u' :: hexUnit (0xDC00 + (character.toNat - 0x10000) % 0x400))

theorem hexValue_hexDigit : ∀ value < 16, hexValue (hexDigit value) = some value := by
  decide

theorem codeUnit_hexUnit {unit : Nat} (small : unit < 0x10000) :
    codeUnit (hexDigit (unit / 4096)) (hexDigit (unit / 256 % 16))
      (hexDigit (unit / 16 % 16)) (hexDigit (unit % 16)) = some unit := by
  have first := hexValue_hexDigit (unit / 4096) (by omega)
  have second := hexValue_hexDigit (unit / 256 % 16) (by omega)
  have third := hexValue_hexDigit (unit / 16 % 16) (by omega)
  have fourth := hexValue_hexDigit (unit % 16) (by omega)
  have value : ((unit / 4096 * 16 + unit / 256 % 16) * 16 + unit / 16 % 16) * 16 +
      unit % 16 = unit := by omega
  rw [codeUnit, first, second, third, fourth]
  exact congrArg some value

theorem parseEscape_basic {character : Char} (basic : character.toNat < 0x10000)
    (rest : Text) :
    parseEscape ('u' :: (hexUnit character.toNat ++ rest)) = some (character, rest) := by
  have plain : ¬ (0xDC00 ≤ character.toNat ∧ character.toNat ≤ 0xDFFF) ∧
      ¬ (0xD800 ≤ character.toNat ∧ character.toNat ≤ 0xDBFF) := by
    have valid := character.valid
    rw [UInt32.isValidChar, Nat.isValidChar] at valid
    rw [Char.toNat]
    omega
  rw [hexUnit]
  simp only [List.cons_append, List.nil_append, parseEscape, codeUnit_hexUnit basic]
  simp [plain.1, plain.2]

theorem parseEscape_pair {a b c d e f g h : Char} {lead trail : Nat}
    (leadUnit : codeUnit a b c d = some lead) (trailUnit : codeUnit e f g h = some trail)
    (isLead : 0xD800 ≤ lead ∧ lead ≤ 0xDBFF) (isTrail : 0xDC00 ≤ trail ∧ trail ≤ 0xDFFF)
    (rest : Text) :
    parseEscape ('u' :: a :: b :: c :: d :: '\\' :: 'u' :: e :: f :: g :: h :: rest) =
      some (Char.ofNat ((lead - 0xD800) * 0x400 + (trail - 0xDC00) + 0x10000), rest) := by
  have notTrail : ¬ (0xDC00 ≤ lead ∧ lead ≤ 0xDFFF) := by omega
  simp only [parseEscape, leadUnit, trailUnit, Option.bind_eq_bind, Option.bind_some]
  rw [if_neg notTrail, if_pos isLead, if_pos isTrail]

theorem surrogates_value {code : Nat} (high : 0x10000 ≤ code) (bound : code < 0x110000) :
    (0xD800 ≤ 0xD800 + (code - 0x10000) / 0x400 ∧
        0xD800 + (code - 0x10000) / 0x400 ≤ 0xDBFF) ∧
      (0xDC00 ≤ 0xDC00 + (code - 0x10000) % 0x400 ∧
        0xDC00 + (code - 0x10000) % 0x400 ≤ 0xDFFF) ∧
      (0xD800 + (code - 0x10000) / 0x400 - 0xD800) * 0x400 +
        (0xDC00 + (code - 0x10000) % 0x400 - 0xDC00) + 0x10000 = code := by
  omega

theorem parseEscape_surrogates {character : Char} (high : 0x10000 ≤ character.toNat)
    (rest : Text) :
    parseEscape ('u' :: (hexUnit (0xD800 + (character.toNat - 0x10000) / 0x400) ++
        '\\' :: 'u' :: (hexUnit (0xDC00 + (character.toNat - 0x10000) % 0x400) ++ rest))) =
      some (character, rest) := by
  have bound : character.toNat < 0x110000 := by
    have valid := character.valid
    rw [UInt32.isValidChar, Nat.isValidChar] at valid
    rw [Char.toNat]
    omega
  rcases surrogates_value high bound with ⟨isLead, isTrail, value⟩
  have leadUnit := codeUnit_hexUnit (isLead.2.trans_lt (by decide))
  have trailUnit := codeUnit_hexUnit (isTrail.2.trans_lt (by decide))
  have read := parseEscape_pair leadUnit trailUnit isLead isTrail rest
  rw [value, Char.ofNat_toNat] at read
  exact read

theorem parseString_pyEscape (character : Char) (fuel : Nat) (rest : Text) :
    parseString (fuel + 1) (pyEscape character ++ rest) =
      (parseString fuel rest).map fun read => (character :: read.1, read.2) := by
  rw [pyEscape]
  split_ifs with quote backslash newline carriage tab formFeed backspace printable basic
  · exact parseString_escape (by rw [quote]; rfl) fuel rfl
  · exact parseString_escape (by rw [backslash]; rfl) fuel rfl
  · exact parseString_escape (by rw [newline]; rfl) fuel rfl
  · exact parseString_escape (by rw [carriage]; rfl) fuel rfl
  · exact parseString_escape (by rw [tab]; rfl) fuel rfl
  · exact parseString_escape (by rw [formFeed]; rfl) fuel rfl
  · exact parseString_escape (by rw [backspace]; rfl) fuel rfl
  · have visible : ¬ character.toNat < 0x20 := by omega
    rw [List.singleton_append, parseString, if_neg quote, if_neg backslash, if_neg visible]
    cases parseString fuel rest <;> rfl
  · exact parseString_escape (parseEscape_basic basic rest) fuel rfl
  · apply parseString_escape (parseEscape_surrogates (not_lt.mp basic) rest) fuel
    simp only [List.cons_append, List.append_assoc]

theorem inner_indentation_blank (depth : Nat) :
    (indentation (depth + 1)).all isBlank = true := indentation_blank (depth + 1)

theorem space_blank : [' '].all isBlank = true := rfl

/-- `json.dump(data, f, indent=2)`. -/
def Layout.python : Layout where
  escape := pyEscape
  opening depth := indentation (depth + 1)
  between depth := indentation (depth + 1)
  closing := indentation
  afterColon := [' ']
  readsEscape := parseString_pyEscape
  openingBlank := inner_indentation_blank
  betweenBlank := inner_indentation_blank
  closingBlank := indentation_blank
  colonBlank := space_blank

/-- What `json.dump` writes, `json.load` reads. -/
theorem loads_python (value : Json) : loads (value.render .python 0) = some value :=
  loads_render_alone .python 0 value

example : Json.render .python 0 (.obj (.cons "é".toList (.str "\n".toList) .nil)) =
    "\x7b\n  \"\\u00e9\": \"\\n\"\n\x7d".toList := by decide

/-! ## Dictionaries -/

namespace Members

def keys : Members → List Text
  | .nil => []
  | .cons key _ tail => key :: tail.keys

def values : Members → List Json
  | .nil => []
  | .cons _ value tail => value :: tail.values

/-- `members[key] = value`. -/
def set (key : Text) (value : Json) : Members → Members
  | .nil => .cons key value .nil
  | .cons other old tail =>
      if other = key then .cons other value tail else .cons other old (tail.set key value)

theorem induct {Property : Members → Prop} (empty : Property .nil)
    (next : ∀ key value tail, Property tail → Property (.cons key value tail))
    (members : Members) : Property members :=
  @Members.rec (fun _ => True) (fun _ => True) Property trivial (fun _ => trivial)
    (fun _ => trivial) (fun _ => trivial) (fun _ _ => trivial) (fun _ _ => trivial) trivial
    (fun _ _ _ _ => trivial) empty (fun key value tail _ holds => next key value tail holds)
    members

theorem get_of_notMem {key : Text} {members : Members} (absent : key ∉ members.keys) :
    members.get key = none := by
  induction members using induct with
  | empty => rfl
  | next other value tail induction =>
      rw [keys, List.mem_cons, not_or] at absent
      rw [get, induction absent.2, if_neg (Ne.symm absent.1)]

def IsDict (members : Members) : Prop := members.keys.Nodup

theorem mem_keys_set {key other : Text} {value : Json} {members : Members} :
    other ∈ (members.set key value).keys ↔ other = key ∨ other ∈ members.keys := by
  induction members using induct with
  | empty => simp [set, keys]
  | next first old tail induction =>
      by_cases same : first = key
      · rw [set, if_pos same, keys, keys, List.mem_cons, ← same]
        simp
      · rw [set, if_neg same, keys, keys, List.mem_cons, List.mem_cons, induction]
        exact or_left_comm

theorem IsDict.set {members : Members} (dict : members.IsDict) (key : Text) (value : Json) :
    (members.set key value).IsDict := by
  induction members using induct with
  | empty => simp [Members.set, IsDict, keys]
  | next first old tail induction =>
      rw [IsDict, keys, List.nodup_cons] at dict
      by_cases same : first = key
      · rw [Members.set, if_pos same, IsDict, keys, List.nodup_cons]
        exact dict
      · rw [Members.set, if_neg same, IsDict, keys, List.nodup_cons]
        refine ⟨?_, induction dict.2⟩
        rw [mem_keys_set, not_or]
        exact ⟨same, dict.1⟩

theorem get_cons_of_dict {key : Text} {value : Json} {tail : Members}
    (dict : (cons key value tail).IsDict) (wanted : Text) :
    (cons key value tail).get wanted = if wanted = key then some value else tail.get wanted := by
  rw [IsDict, keys, List.nodup_cons] at dict
  by_cases same : wanted = key
  · subst same
    simp [get, get_of_notMem dict.1]
  · rw [get, if_neg same]
    cases tail.get wanted with
    | none => exact if_neg (Ne.symm same)
    | some found => rfl

theorem IsDict.get_set {members : Members} (dict : members.IsDict) (key : Text) (value : Json)
    (wanted : Text) : (members.set key value).get wanted =
      if wanted = key then some value else members.get wanted := by
  induction members using induct with
  | empty =>
      rw [Members.set, get_cons_of_dict (dict.set key value)]
  | next first old tail induction =>
      have tailDict : tail.IsDict := (List.nodup_cons.mp dict).2
      have grown := dict.set key value
      rw [Members.set] at grown ⊢
      by_cases same : first = key
      · rw [if_pos same] at grown ⊢
        rw [get_cons_of_dict grown, get_cons_of_dict dict, same]
        by_cases here : wanted = key
        · rw [if_pos here, if_pos here]
        · rw [if_neg here, if_neg here, if_neg here]
      · rw [if_neg same] at grown ⊢
        rw [get_cons_of_dict grown, get_cons_of_dict dict, induction tailDict]
        by_cases here : wanted = first
        · rw [if_pos here, if_pos here, if_neg (by rw [here]; exact same)]
        · rw [if_neg here, if_neg here]

theorem IsDict.mem_values_iff {members : Members} (dict : members.IsDict) (value : Json) :
    value ∈ members.values ↔ ∃ key, members.get key = some value := by
  induction members using induct with
  | empty => simp [values, get]
  | next first old tail induction =>
      have tailDict : tail.IsDict := (List.nodup_cons.mp dict).2
      have fresh : first ∉ tail.keys := (List.nodup_cons.mp dict).1
      rw [values, List.mem_cons, induction tailDict]
      constructor
      · intro member
        rcases member with here | ⟨key, found⟩
        · refine ⟨first, ?_⟩
          rw [get_cons_of_dict dict, if_pos rfl, here]
        · refine ⟨key, ?_⟩
          have other : key ≠ first := by
            intro same
            rw [same, get_of_notMem fresh] at found
            cases found
          rw [get_cons_of_dict dict, if_neg other, found]
      · intro found
        rcases found with ⟨key, found⟩
        rw [get_cons_of_dict dict] at found
        by_cases here : key = first
        · rw [if_pos here] at found
          exact .inl (Option.some.inj found).symm
        · rw [if_neg here] at found
          exact .inr ⟨key, found⟩

theorem keys_ofList (fields : List (Text × Json)) :
    (ofList fields).keys = fields.map Prod.fst := by
  induction fields with
  | nil => rfl
  | cons field fields induction => rw [ofList, keys, induction, List.map_cons]

theorem get_ofList {fields : List (Text × Json)} (distinct : (fields.map Prod.fst).Nodup)
    {key : Text} {value : Json} (member : (key, value) ∈ fields) :
    (ofList fields).get key = some value := by
  induction fields with
  | nil => cases member
  | cons field fields induction =>
      have dict : (ofList (field :: fields)).IsDict := by
        rw [IsDict, keys_ofList]
        exact distinct
      rw [List.map_cons, List.nodup_cons] at distinct
      rw [ofList, get_cons_of_dict dict]
      rcases List.mem_cons.mp member with here | later
      · rw [← here, if_pos rfl]
      · have other : key ≠ field.1 := by
          intro same
          apply distinct.1
          rw [← same]
          exact List.mem_map_of_mem later
        rw [if_neg other]
        exact induction distinct.2 later

end Members

end DsBench
