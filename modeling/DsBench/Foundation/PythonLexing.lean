import DsBench.Foundation.PythonReader

/-! # The strings and the braces of what Python reads

What `json.loads` takes in passes the scanner of strings and braces, and has the strings of
the value as written.
-/

namespace DsBench

/-! ## Leaves -/

theorem joinUnits_quotes {unit code : Nat} {text rest : Text}
    (joins : joinUnits unit text = some (code, rest)) :
    ∃ used, text = used ++ rest ∧ Quotes used := by
  rw [joinUnits.eq_def] at joins
  split at joins
  · split at joins
    · rename_i e f g h after
      rcases Option.map_eq_some_iff.mp joins with ⟨low, digits, same⟩
      split at same
      · have remains := (Prod.mk.inj same).2
        exact ⟨['\\', 'u', e, f, g, h], by rw [← remains]; rfl,
          (quotes_escape 'u').append (quotes_codeUnit digits)⟩
      · have remains := (Prod.mk.inj same).2
        exact ⟨[], by rw [← remains]; rfl, quotes_nil⟩
    · cases joins
      exact ⟨[], rfl, quotes_nil⟩
  · cases joins
    exact ⟨[], rfl, quotes_nil⟩

theorem scanEscape_quotes {text rest : Text} {code : Nat}
    (reads : scanEscape text = some (code, rest)) :
    ∃ used, text = used ++ rest ∧ Quotes ('\\' :: used) := by
  rw [scanEscape.eq_def] at reads
  split at reads
  · rename_i a b c d after
    rcases Option.bind_eq_some_iff.mp reads with ⟨unit, digits, joins⟩
    rcases joinUnits_quotes joins with ⟨used, shape, quotes⟩
    refine ⟨['u', a, b, c, d] ++ used, by rw [shape]; rfl, ?_⟩
    have first : Quotes ['\\', 'u', a, b, c, d] :=
      (quotes_escape 'u').append (quotes_codeUnit digits)
    exact first.append quotes
  case h_10 => cases reads
  all_goals
    have same := (Prod.mk.inj (Option.some.inj reads)).2
    exact ⟨[_], by rw [same]; rfl, quotes_escape _⟩

theorem scanString_quotes {fuel : Nat} {text rest : Text} {body : PyStr}
    (reads : scanString fuel text = some (body, rest)) :
    ∃ used, text = used ++ '"' :: rest ∧ Quotes used := by
  induction fuel generalizing text body rest with
  | zero => cases reads
  | succ fuel induction =>
      cases text with
      | nil => cases reads
      | cons character text =>
          rw [scanString] at reads
          split at reads
          · rename_i quote
            cases reads
            exact ⟨[], by rw [quote]; rfl, quotes_nil⟩
          · rename_i notQuote
            split at reads
            · rename_i backslash
              simp only [Option.bind_eq_bind, Option.bind_eq_some_iff] at reads
              rcases reads with ⟨⟨escaped, after⟩, escape, ⟨tail, further⟩, onwards, same⟩
              cases same
              rcases scanEscape_quotes escape with ⟨sequence, split, quotes⟩
              rcases induction onwards with ⟨used, shape, more⟩
              refine ⟨character :: sequence ++ used, ?_, ?_⟩
              · simp only at shape
                rw [split, shape]
                simp
              · rw [backslash]
                exact quotes.append more
            · rename_i notBackslash
              split at reads
              · cases reads
              · simp only [Option.bind_eq_bind, Option.bind_eq_some_iff] at reads
                rcases reads with ⟨⟨tail, further⟩, onwards, same⟩
                cases same
                rcases induction onwards with ⟨used, shape, more⟩
                refine ⟨character :: used, by rw [shape]; rfl, ?_⟩
                exact (quotes_other notQuote notBackslash).append more

theorem constants_mute : ∀ constant ∈ constants,
    (∀ mark ∈ constant.1, IsMute mark) ∧ constant.2.strings = 0 := by
  intro constant member
  simp only [constants, List.mem_cons, List.not_mem_nil, or_false] at member
  have spelled : ∀ {word : Text}, (word.all fun mark => decide (IsMute mark)) = true →
      ∀ mark ∈ word, IsMute mark :=
    fun all mark inside => of_decide_eq_true (List.all_eq_true.mp all mark inside)
  rcases member with rfl | rfl | rfl | rfl | rfl | rfl <;> exact ⟨spelled (by decide), rfl⟩

theorem scanConstant_takesMute {text rest : Text} {value : PyValue}
    (reads : scanConstant text = some (value, rest)) :
    TakesMute text rest ∧ value.strings = 0 := by
  rcases Option.map_eq_some_iff.mp reads with ⟨constant, found, same⟩
  rcases constants_mute constant (List.mem_of_find?_eq_some found) with ⟨mute, none⟩
  have begins : constant.1.isPrefixOf text = true := by
    have kept := List.find?_some found
    exact kept
  rcases List.isPrefixOf_iff_prefix.mp begins with ⟨after, shape⟩
  cases same
  refine ⟨⟨constant.1, ?_, mute⟩, none⟩
  rw [← shape, List.drop_left]

theorem scanConstant_ne_dict {text rest : Text} {members : PyDict} :
    scanConstant text ≠ some (.dict members, rest) := by
  intro reads
  rcases Option.map_eq_some_iff.mp reads with ⟨constant, found, same⟩
  have member := List.mem_of_find?_eq_some found
  have value := (Prod.mk.inj same).1
  simp only [constants, List.mem_cons, List.not_mem_nil, or_false] at member
  rcases member with rfl | rfl | rfl | rfl | rfl | rfl <;> cases value

theorem Number.strings_toPython (number : Number) : number.toPython.strings = 0 := by
  cases number with
  | int value => rfl
  | decimal mantissa places => rfl

/-! ## Values -/

section

variable (fuel : Nat)

def ValuesScan : Prop :=
  ∀ text value rest, scanOnce fuel text = some (value, rest) →
    ∃ used, text = used ++ rest ∧ Spells used value.strings

def ItemsScan : Prop :=
  ∀ text items rest, scanArray fuel text = some (items, rest) →
    ∃ used, text = used ++ rest ∧ Spells used items.strings

def MembersScan : Prop :=
  ∀ text members rest, scanObject fuel text = some (members, rest) →
    ∃ body, text = body ++ '}' :: rest ∧ Spells body members.strings

variable {fuel}

theorem itemsScan_succ (values : ValuesScan fuel) (items : ItemsScan fuel) :
    ItemsScan (fuel + 1) := by
  intro text list rest reads
  rw [scanArray] at reads
  simp only [Option.bind_eq_bind, Option.bind_eq_some_iff] at reads
  rcases reads with ⟨⟨head, after⟩, readsHead, reads⟩
  rcases values text head after readsHead with ⟨used, shape, spells⟩
  simp only at reads
  split at reads
  · rename_i further comma
    simp only [Option.bind_eq_some_iff] at reads
    rcases reads with ⟨⟨tail, last⟩, readsTail, same⟩
    cases same
    rcases items further tail last readsTail with ⟨others, split, more⟩
    rcases spells_mark comma (by decide) split more with ⟨between, joined, onwards⟩
    exact ⟨used ++ between, by rw [shape, joined, List.append_assoc], spells.append onwards⟩
  · rename_i further bracket
    cases reads
    rcases spells_mark bracket (by decide) (List.nil_append rest).symm spells_nil with
      ⟨between, joined, onwards⟩
    exact ⟨used ++ between, by rw [shape, joined, List.append_assoc], spells.append onwards⟩
  · cases reads

theorem membersScan_succ (values : ValuesScan fuel) (members : MembersScan fuel) :
    MembersScan (fuel + 1) := by
  intro text list rest reads
  rw [scanObject] at reads
  split at reads
  · rename_i inside quote
    simp only [Option.bind_eq_bind, Option.bind_eq_some_iff] at reads
    rcases reads with ⟨⟨key, afterKey⟩, readsKey, reads⟩
    rcases scanString_quotes readsKey with ⟨characters, closes, quotes⟩
    simp only at reads
    split at reads
    · rename_i afterColon colon
      simp only [Option.bind_eq_some_iff] at reads
      rcases reads with ⟨⟨value, after⟩, readsValue, reads⟩
      rcases values afterColon value after readsValue with ⟨used, shape, spells⟩
      rcases spells_mark colon (by decide) shape spells with ⟨valued, joined, valueSpells⟩
      -- The key and what follows it up to the end of the value.
      have through : skipBlank text = '"' :: (characters ++ ['"']) ++ valued ++ after := by
        rw [quote, closes, joined]
        simp
      rcases spells_skipBlank through (quotes.string.append valueSpells) with
        ⟨member, whole, memberSpells⟩
      simp only at reads
      split at reads
      · rename_i further comma
        simp only [Option.bind_eq_some_iff] at reads
        rcases reads with ⟨⟨tail, last⟩, readsTail, same⟩
        cases same
        rcases members further tail last readsTail with ⟨others, split, more⟩
        rcases spells_mark comma (by decide) split more with ⟨between, onwards, tailSpells⟩
        exact ⟨member ++ between, by rw [whole, onwards, List.append_assoc],
          memberSpells.append tailSpells⟩
      · rename_i further brace
        cases reads
        rcases spells_skipBlank brace spells_nil with ⟨blanks, onwards, mute⟩
        exact ⟨member ++ blanks, by rw [whole, onwards, List.append_assoc],
          memberSpells.append mute⟩
      · cases reads
    · cases reads
  · cases reads

def DictSpells (text : Text) (members : PyDict) (rest : Text) : Prop :=
  ∃ blanks body, blanks.all isBlank = true ∧ text = blanks ++ '{' :: (body ++ '}' :: rest) ∧
    Spells body members.strings

theorem DictSpells.spells {text rest : Text} {members : PyDict}
    (dict : DictSpells text members rest) :
    ∃ used, text = used ++ rest ∧ Spells used members.strings := by
  rcases dict with ⟨blanks, body, blank, shape, spells⟩
  have mute : Spells blanks 0 := by
    apply spells_mute
    intro character member
    exact isMute_of_isBlank (List.all_eq_true.mp blank character member)
  refine ⟨blanks ++ '{' :: (body ++ ['}']), by rw [shape]; simp, ?_⟩
  have whole := mute.append spells.braces
  rwa [Nat.zero_add] at whole

theorem scanOnce_dict (members : MembersScan fuel) {text rest : Text} {found : PyDict}
    (reads : scanOnce (fuel + 1) text = some (.dict found, rest)) :
    DictSpells text found rest := by
  rcases skipBlank_split text with ⟨blanks, blank, split⟩
  rw [scanOnce] at reads
  split at reads
  · rename_i word constant
    cases reads
    exact (scanConstant_ne_dict constant).elim
  · split at reads
    case h_3 inside brace =>
      rw [brace] at split
      split at reads
      · rename_i after closing
        cases reads
        rcases takesMute_skipBlank inside with ⟨body, shape, mute⟩
        rw [closing] at shape
        refine ⟨blanks, body, blank, ?_, spells_mute mute⟩
        rw [split, shape]
      · rcases Option.map_eq_some_iff.mp reads with ⟨⟨list, after⟩, readsMembers, same⟩
        cases same
        rcases members inside _ _ readsMembers with ⟨body, shape, spells⟩
        refine ⟨blanks, body, blank, ?_, spells⟩
        rw [split, shape]
    case h_2 =>
      split at reads
      · cases reads
      · rcases Option.map_eq_some_iff.mp reads with ⟨_, _, same⟩
        cases same
    case h_1 =>
      rcases Option.map_eq_some_iff.mp reads with ⟨_, _, same⟩
      cases same
    case h_4 =>
      rcases Option.map_eq_some_iff.mp reads with ⟨⟨number, after⟩, _, same⟩
      cases number with
      | int value => cases same
      | decimal mantissa places => cases same

theorem valuesScan_succ (items : ItemsScan fuel) (members : MembersScan fuel) :
    ValuesScan (fuel + 1) := by
  intro text value rest reads
  have whole := reads
  rw [scanOnce] at reads
  split at reads
  · rename_i word constant
    cases reads
    rcases scanConstant_takesMute constant with ⟨takes, none⟩
    rw [none]
    exact ((takesMute_skipBlank text).trans takes).spells
  · split at reads
    case h_1 inside quote =>
      rcases Option.map_eq_some_iff.mp reads with ⟨⟨body, after⟩, readsBody, same⟩
      cases same
      rcases scanString_quotes readsBody with ⟨characters, closes, quotes⟩
      apply spells_skipBlank _ quotes.string
      rw [quote, closes]
      simp
    case h_2 inside bracket =>
      split at reads
      · rename_i after closing
        cases reads
        rcases spells_mark closing (by decide) (List.nil_append rest).symm spells_nil with
          ⟨used, shape, spells⟩
        exact spells_mark bracket (by decide) shape spells
      · rcases Option.map_eq_some_iff.mp reads with ⟨⟨list, after⟩, readsItems, same⟩
        cases same
        rcases items inside list rest readsItems with ⟨used, shape, spells⟩
        exact spells_mark bracket (by decide) shape spells
    case h_3 inside brace =>
      split at reads
      · cases reads
        exact (scanOnce_dict members whole).spells
      · rcases Option.map_eq_some_iff.mp reads with ⟨⟨list, after⟩, readsMembers, same⟩
        cases same
        exact (scanOnce_dict members whole).spells
    case h_4 =>
      rcases Option.map_eq_some_iff.mp reads with ⟨⟨number, after⟩, readsNumber, same⟩
      cases same
      rw [number.strings_toPython]
      exact ((takesMute_skipBlank text).trans (takesMute_parseNumber readsNumber)).spells

end

theorem readers_scan (fuel : Nat) : ValuesScan fuel ∧ ItemsScan fuel ∧ MembersScan fuel := by
  induction fuel with
  | zero =>
      refine ⟨?_, ?_, ?_⟩
      · intro text value rest reads
        rw [scanOnce] at reads
        cases reads
      · intro text items rest reads
        rw [scanArray] at reads
        cases reads
      · intro text members rest reads
        rw [scanObject] at reads
        cases reads
  | succ fuel induction =>
      rcases induction with ⟨values, items, members⟩
      exact ⟨valuesScan_succ items members, itemsScan_succ values items,
        membersScan_succ values members⟩

theorem scanText_dict {text : Text} {members : PyDict}
    (reads : scanText text = some (.dict members)) :
    ∃ before body after, before.all isBlank = true ∧ after.all isBlank = true ∧
      text = before ++ '{' :: (body ++ '}' :: after) ∧ Spells body members.strings := by
  rw [scanText] at reads
  split at reads
  · rename_i value rest parsed
    split at reads
    · rename_i blankRest
      cases reads
      rcases scanOnce_dict (readers_scan _).2.2 parsed with ⟨before, body, blank, shape, spells⟩
      refine ⟨before, body, rest, blank, ?_, shape, spells⟩
      rcases skipBlank_split rest with ⟨blanks, allBlank, split⟩
      rw [split, blankRest, List.append_nil]
      exact allBlank
    · cases reads
  · cases reads

/-- What `json.loads` returns is what is written, within the limits. -/
theorem pyLoads_dict {limits : Limits} {text : Text} {members : PyDict}
    (reads : pyLoads limits text = some (.dict members)) :
    ∃ written, scanText text = some (.dict written) ∧ written.dedupe = members ∧
      (PyValue.dict written).within limits.digits limits.levels = true := by
  rcases Option.bind_eq_some_iff.mp reads with ⟨value, scanned, kept⟩
  split at kept
  · rename_i fits
    cases value with
    | dict written =>
        rw [PyValue.dedupe] at kept
        cases kept
        exact ⟨written, scanned, rfl, fits⟩
    | null | bool | int | float | str | list => cases kept
  · cases kept

end DsBench
