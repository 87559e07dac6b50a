import DsBench.Foundation.PythonLexing
import DsBench.Harness.MergedReading

/-! # The last object of a printed output

What `_last_json_object` returns of objects that are printed one after another behind a
log, with `json.loads` as Python has it. A lazy match of braces takes an object whole if it
closes no brace before its end; else it cuts it up, and finds a part of it where one is an
object by itself.
-/

namespace DsBench.Harness

/-! ## The search -/

/-- `json.loads`, kept when it returns a `dict`. -/
def pyLoadsObject (limits : Limits) (text : Text) : Option PyDict :=
  match pyLoads limits text with
  | some (.dict members) => some members
  | _ => none

/-- `_last_json_object`. Whatever `json.loads` raises is swallowed. -/
def pyLastJsonObject (limits : Limits) (text : Text) : Option PyDict :=
  match pyLoadsObject limits text with
  | some members => some members
  | none =>
      match (braceSpans none text).reverse.findSome? (pyLoadsObject limits) with
      | some members => some members
      | none => pyLoadsObject limits (text.dropWhile fun character => character ≠ '{')

/-! ## The text of an object -/

/-- A rendering of an object, compact, pretty-printed or other: a text in braces that reads as
the object, with any blanks around it. -/
structure IsObjectText (text : Text) (members : PyDict) : Prop where
  reads : ∀ before after, before.all isBlank = true → after.all isBlank = true →
    scanText (before ++ (text ++ after)) = some (.dict members)
  braces : ∃ body, text = '{' :: (body ++ ['}'])

theorem Members.render_closes (layout : Layout) (depth : Nat) (members : Members) :
    ∃ inside, members.render layout depth = inside ++ ['}'] := by
  cases members with
  | nil => exact ⟨layout.closing depth, rfl⟩
  | cons key value tail =>
      rcases Members.render_closes layout depth tail with ⟨inside, shape⟩
      refine ⟨',' :: (layout.between depth ++ (layout.quote key ++ ':' ::
        (layout.afterColon ++ (value.render layout (depth + 1) ++ inside)))), ?_⟩
      rw [Members.render, shape]
      simp

theorem isObjectText_render (layout : Layout) (members : Members) :
    IsObjectText ((Json.obj members).render layout 0) members.toPython := by
  constructor
  · intro before after blank blankAfter
    exact scanText_of_loads (loads_render layout 0 (.obj members) blank blankAfter)
  · cases members with
    | nil => exact ⟨[], rfl⟩
    | cons key value tail =>
        rcases Members.render_closes layout 0 tail with ⟨inside, closes⟩
        refine ⟨layout.opening 0 ++ (layout.quote key ++ ':' :: (layout.afterColon ++
          (value.render layout 1 ++ inside))), ?_⟩
        rw [Json.render, closes]
        simp

theorem body_of_braces {body before other after : Text} (blank : before.all isBlank = true)
    (blankAfter : after.all isBlank = true)
    (shape : '{' :: (body ++ ['}']) = before ++ '{' :: (other ++ '}' :: after)) :
    body = other := by
  have nothingBefore : before = [] := by
    cases before with
    | nil => rfl
    | cons first before =>
        have same := (List.cons.inj shape).1
        rw [← same] at blank
        cases blank
  rw [nothingBefore, List.nil_append] at shape
  have inside := (List.cons.inj shape).2
  have nothingAfter : after = [] := by
    rcases List.eq_nil_or_concat after with empty | ⟨others, last, split⟩
    · exact empty
    · rw [List.concat_eq_append] at split
      rw [split, ← List.cons_append, ← List.append_assoc] at inside
      have same := (List.append_inj' inside rfl).2
      rw [split, ← List.singleton_inj.mp same] at blankAfter
      simp [isBlank] at blankAfter
  rw [nothingAfter] at inside
  exact List.append_cancel_right inside

theorem spells_of_scanText {body : Text} {members : PyDict}
    (reads : scanText ('{' :: (body ++ ['}'])) = some (.dict members)) :
    Spells body members.strings := by
  rcases scanText_dict reads with ⟨before, other, after, blank, blankAfter, shape, spells⟩
  rw [body_of_braces blank blankAfter shape]
  exact spells

theorem IsObjectText.alone {text : Text} {members : PyDict}
    (object : IsObjectText text members) : scanText text = some (.dict members) := by
  have reads := object.reads [] [] rfl rfl
  rwa [List.nil_append, List.append_nil] at reads

theorem IsObjectText.spells {body : Text} {members : PyDict}
    (object : IsObjectText ('{' :: (body ++ ['}'])) members) : Spells body members.strings :=
  spells_of_scanText object.alone

theorem IsObjectText.begins {body : Text} {members : PyDict}
    (object : IsObjectText ('{' :: (body ++ ['}'])) members) :
    body.all isBlank = true ∨
      ∃ blanks more, blanks.all isBlank = true ∧ body = blanks ++ '"' :: more := by
  have reads := object.alone
  rcases skipBlank_split (body ++ ['}']) with ⟨blanks, blank, split⟩
  have opens : skipBlank ('{' :: (body ++ ['}'])) = '{' :: (body ++ ['}']) := rfl
  have notWord : scanConstant ('{' :: (body ++ ['}'])) = none := rfl
  rw [scanText] at reads
  split at reads
  · rename_i value rest parsed
    split at reads
    · rename_i blankRest
      rw [Option.some.inj reads, scanOnce, opens, notWord] at parsed
      simp only at parsed
      split at parsed
      · rename_i after closing
        left
        cases parsed
        rw [closing] at split
        rcases skipBlank_split rest with ⟨trailing, allBlank, ends⟩
        rw [blankRest, List.append_nil] at ends
        rw [← ends] at allBlank
        have whole : '{' :: (body ++ ['}']) = [] ++ '{' :: (blanks ++ '}' :: rest) := by
          rw [split]
          rfl
        rw [body_of_braces rfl allBlank whole]
        exact blank
      · right
        rcases Option.map_eq_some_iff.mp parsed with ⟨found, readsMembers, -⟩
        rw [List.length_cons, scanObject] at readsMembers
        split at readsMembers
        · rename_i after quote
          rw [quote] at split
          rcases List.eq_nil_or_concat after with empty | ⟨more, last, ends⟩
          · rw [empty] at split
            cases List.singleton_inj.mp (List.append_inj' split rfl).2
          · refine ⟨blanks, more, blank, ?_⟩
            rw [ends, List.concat_eq_append, ← List.cons_append, ← List.append_assoc] at split
            exact (List.append_inj' split rfl).1
        · cases readsMembers
    · cases reads
  · cases reads

theorem written_of_loads {limits : Limits} {text : Text} {members : PyDict}
    (reads : pyLoadsObject limits text = some members) :
    ∃ written, scanText text = some (.dict written) ∧ written.dedupe = members ∧
      (PyValue.dict written).within limits.digits limits.levels = true := by
  rw [pyLoadsObject] at reads
  split at reads
  · rename_i found read
    rw [Option.some.inj reads] at read
    exact pyLoads_dict read
  · cases reads

theorem spells_of_loads {limits : Limits} {body : Text} {members : PyDict}
    (reads : pyLoadsObject limits ('{' :: (body ++ ['}'])) = some members) :
    ∃ spelled, Spells body spelled ∧ members.strings ≤ spelled := by
  rcases written_of_loads reads with ⟨written, scanned, same, -⟩
  refine ⟨written.strings, spells_of_scanText scanned, ?_⟩
  rw [← same]
  exact written.strings_dedupe

/-! ## The pieces of an object -/

def parsing (limits : Limits) (text : Text) : List PyDict :=
  (braceSpans none text).filterMap (pyLoadsObject limits)

def InnerFree (limits : Limits) (text : Text) : Prop :=
  ∀ piece ∈ braceSpans none text, piece ≠ text → pyLoadsObject limits piece = none

/-- A piece goes from an opening brace to the next closing one. The brace may have come before
the text. -/
theorem mem_braceSpans_cases {opened : Option Text} {text piece : Text}
    (member : piece ∈ braceSpans opened text) :
    (∃ front body rest, text = front ++ '{' :: (body ++ '}' :: rest) ∧
      piece = '{' :: (body ++ ['}'])) ∨
    ∃ span body rest, opened = some span ∧ text = body ++ '}' :: rest ∧
      piece = span ++ (body ++ ['}']) := by
  induction text generalizing opened with
  | nil =>
      rw [braceSpans] at member
      cases member
  | cons character text induction =>
      cases opened with
      | none =>
          rw [braceSpans] at member
          left
          split at member
          · rename_i brace
            rcases induction member with ⟨front, body, rest, shape, same⟩ |
              ⟨span, body, rest, opened, shape, same⟩
            · exact ⟨character :: front, body, rest, by rw [shape]; rfl, same⟩
            · cases opened
              exact ⟨[], body, rest, by rw [shape, brace]; rfl, by rw [same, brace]; rfl⟩
          · rcases induction member with ⟨front, body, rest, shape, same⟩ |
              ⟨span, body, rest, opened, shape, same⟩
            · exact ⟨character :: front, body, rest, by rw [shape]; rfl, same⟩
            · cases opened
      | some span =>
          rw [braceSpans] at member
          split at member
          · rename_i brace
            rcases List.mem_cons.mp member with here | later
            · right
              exact ⟨span, [], text, rfl, by rw [brace]; rfl, by rw [here, brace]; rfl⟩
            · left
              rcases induction later with ⟨front, body, rest, shape, same⟩ |
                ⟨_, _, _, opened, _⟩
              · exact ⟨character :: front, body, rest, by rw [shape]; rfl, same⟩
              · cases opened
          · rcases induction member with ⟨front, body, rest, shape, same⟩ |
              ⟨longer, body, rest, opened, shape, same⟩
            · left
              exact ⟨character :: front, body, rest, by rw [shape]; rfl, same⟩
            · right
              cases opened
              exact ⟨span, character :: body, rest, rfl, by rw [shape]; rfl,
                by rw [same]; simp⟩

theorem mem_braceSpans {text piece : Text} (member : piece ∈ braceSpans none text) :
    ∃ front body rest, text = front ++ '{' :: (body ++ '}' :: rest) ∧
      piece = '{' :: (body ++ ['}']) := by
  rcases mem_braceSpans_cases member with inside | ⟨_, _, _, opened, _⟩
  · exact inside
  · cases opened

theorem braceSpans_closing (opened : Option Text) (text rest : Text) :
    braceSpans opened (text ++ '}' :: rest) =
      braceSpans opened (text ++ ['}']) ++ braceSpans none rest := by
  induction text generalizing opened with
  | nil => cases opened <;> simp [braceSpans]
  | cons character text induction =>
      rw [List.cons_append, List.cons_append]
      cases opened with
      | none =>
          rw [braceSpans, braceSpans]
          split
          · exact induction _
          · exact induction _
      | some span =>
          rw [braceSpans, braceSpans]
          split
          · rw [induction, List.cons_append]
          · exact induction _

theorem IsObjectText.pieces {text : Text} {members : PyDict}
    (object : IsObjectText text members) :
    (ClosesOnce text ∧ braceSpans none text = [text]) ∨
      ¬ ClosesOnce text ∧ ∃ first rest, rest ≠ [] ∧ '}' ∉ first ∧
        text = '{' :: (first ++ '}' :: rest) ∧
        braceSpans none text = ('{' :: (first ++ ['}'])) :: braceSpans none rest := by
  rcases object.braces with ⟨body, shape⟩
  rcases List.eq_append_cons_of_mem (List.mem_append_right body (List.mem_singleton_self '}'))
    with ⟨first, rest, split, fresh⟩
  have spans : braceSpans none text =
      ('{' :: (first ++ ['}'])) :: braceSpans none rest := by
    rw [shape, split, braceSpans, if_pos rfl, braceSpans_body fresh]
    rfl
  cases rest with
  | nil =>
      left
      rw [split] at shape
      refine ⟨⟨first, shape, fresh⟩, ?_⟩
      rw [spans, ← shape]
      rfl
  | cons character rest =>
      right
      rw [split] at shape
      refine ⟨?_, first, character :: rest, List.cons_ne_nil _ _, fresh, shape, spans⟩
      rintro ⟨whole, once, closed⟩
      rw [once] at shape
      have same := (List.cons.inj shape).2
      have inside : whole = first ++ '}' :: (character :: rest).dropLast := by
        have cut := congrArg List.dropLast same
        simpa using cut
      rw [inside] at closed
      simp at closed

theorem quote_before_closing {blanks more first rest : Text}
    (blank : blanks.all isBlank = true)
    (same : blanks ++ '"' :: more = first ++ '}' :: rest) :
    ∃ later, first = blanks ++ '"' :: later := by
  rcases List.append_eq_append_iff.mp same with ⟨extra, split, tail⟩ | ⟨extra, split, tail⟩
  · cases extra with
    | nil =>
        have brace := (List.cons.inj tail).1
        cases brace
    | cons character extra =>
        refine ⟨extra, ?_⟩
        rw [split, (List.cons.inj tail).1]
  · have closing : '}' ∈ blanks := by
      cases extra with
      | nil =>
          have brace := (List.cons.inj tail).1
          cases brace
      | cons character extra =>
          rw [split, ← (List.cons.inj tail).1]
          simp
    exact (not_mem_of_blank rfl blank closing).elim

/-- A part of an object's text, behind its first closing brace, is not the same object. -/
theorem IsObjectText.part_ne {text : Text} {members : PyDict} {other : PyDict}
    (object : IsObjectText text members) {first front body rest : Text} {spelled : Nat}
    (shape : text = '{' :: (first ++ '}' :: (front ++ '{' :: (body ++ '}' :: rest))))
    (part : Spells body spelled) (enough : other.strings ≤ spelled) :
    other ≠ members := by
  rcases object.braces with ⟨whole, braces⟩
  rw [braces] at object
  have passes : (Scan.mk .plain 0 0).run text = some ⟨.plain, 0, members.strings⟩ := by
    rw [braces, object.spells.braces, Nat.zero_add]
  rw [shape] at braces
  have inside := (List.cons.inj braces).2
  rcases object.begins with blank | ⟨blanks, more, blank, split⟩
  · have opening : '{' ∈ whole ++ ['}'] := by
      rw [← inside]
      simp
    rcases List.mem_append.mp opening with member | member
    · exact (not_mem_of_blank rfl blank member).elim
    · cases List.mem_singleton.mp member
  · rw [split, List.append_assoc, List.cons_append] at inside
    rcases quote_before_closing blank inside.symm with ⟨later, firstEq⟩
    have cut : text = '{' :: (blanks ++ '"' :: (later ++ '}' :: front)) ++
        '{' :: (body ++ '}' :: rest) := by
      rw [shape, firstEq]
      simp
    rw [cut] at passes
    rcases Scan.run_append_some passes with ⟨middle, before, onwards⟩
    have one := Scan.begun_string blank before
    have fewer := part.strings_of_part onwards
    intro same
    rw [same] at enough
    simp only at fewer
    omega

theorem IsObjectText.parsing_ne {limits : Limits} {text : Text} {members : PyDict}
    (object : IsObjectText text members) (several : ¬ ClosesOnce text) :
    ∀ other ∈ parsing limits text, other ≠ members := by
  rcases object.pieces with ⟨once, -⟩ | ⟨-, first, rest, more, fresh, shape, spans⟩
  · exact (several once).elim
  · intro other member
    rcases List.mem_filterMap.mp member with ⟨piece, inside, reads⟩
    rw [spans] at inside
    rcases List.mem_cons.mp inside with here | later
    · -- The object would end before its text does.
      rcases object.braces with ⟨body, braces⟩
      rw [braces] at object
      rw [here] at reads
      rw [shape] at braces
      rcases spells_of_loads reads with ⟨spelled, spells, -⟩
      rcases spells.closes_once object.spells (List.cons.inj braces).2 with ⟨-, rest⟩
      exact (more rest).elim
    · rcases mem_braceSpans later with ⟨front, body, after, split, same⟩
      rw [same] at reads
      rw [split] at shape
      rcases spells_of_loads reads with ⟨spelled, spells, enough⟩
      exact object.part_ne shape spells enough

theorem IsObjectText.innerFree_iff {limits : Limits} {text : Text} {members : PyDict}
    (object : IsObjectText text members) :
    InnerFree limits text ↔ ClosesOnce text ∨ parsing limits text = [] := by
  rcases object.pieces with ⟨once, spans⟩ | ⟨several, first, rest, more, -, shape, spans⟩
  · constructor
    · intro _
      exact .inl once
    · intro _ piece member different
      rw [spans] at member
      exact (different (List.mem_singleton.mp member)).elim
  · constructor
    · intro free
      right
      apply List.filterMap_eq_nil_iff.mpr
      intro piece member
      apply free piece member
      intro whole
      have length := congrArg List.length whole
      have visible := List.length_pos_of_ne_nil more
      rw [shape] at length
      rw [spans] at member
      rcases List.mem_cons.mp member with here | later
      · rw [here] at length
        simp only [List.length_append, List.length_cons, List.length_nil] at length
        omega
      · rcases mem_braceSpans later with ⟨front, body, after, split, same⟩
        rw [same, split] at length
        simp only [List.length_append, List.length_cons, List.length_nil] at length
        omega
    · intro either piece member _
      rcases either with once | nothing
      · exact (several once).elim
      · exact List.filterMap_eq_nil_iff.mp nothing piece member

/-! ## Objects behind a log -/

/-- An object as it is printed, each key once, with the text behind it up to the next one. -/
structure Printed where
  text : Text
  members : PyDict
  isText : IsObjectText text members
  distinct : members.distinct = true
  gap : Text
  noBrace : '{' ∉ gap ∧ '}' ∉ gap

/-- The object nests no deeper than the recursion limit allows, and none of its integers is
longer than the interpreter converts. -/
def Printed.Fits (limits : Limits) (object : Printed) : Prop :=
  (PyValue.dict object.members).within limits.digits limits.levels = true

instance (limits : Limits) (object : Printed) : Decidable (object.Fits limits) :=
  inferInstanceAs (Decidable (_ = true))

def Printed.rendered (layout : Layout) (members : Members)
    (distinct : members.toPython.distinct = true) (gap : Text)
    (noBrace : '{' ∉ gap ∧ '}' ∉ gap) : Printed where
  text := (Json.obj members).render layout 0
  members := members.toPython
  isText := isObjectText_render layout members
  distinct := distinct
  gap := gap
  noBrace := noBrace

def printed (objects : List Printed) : Text :=
  objects.flatMap fun object => object.text ++ object.gap

theorem printed_append (objects more : List Printed) :
    printed (objects ++ more) = printed objects ++ printed more := List.flatMap_append

theorem printed_singleton (object : Printed) :
    printed [object] = object.text ++ object.gap := List.append_nil _

theorem Printed.pyLoadsObject_around {limits : Limits} (object : Printed)
    (fits : object.Fits limits) {before after : Text} (blank : before.all isBlank = true)
    (blankAfter : after.all isBlank = true) :
    pyLoadsObject limits (before ++ (object.text ++ after)) = some object.members := by
  have scanned := object.isText.reads before after blank blankAfter
  rw [Printed.Fits] at fits
  have read : pyLoads limits (before ++ (object.text ++ after)) =
      some (PyValue.dict object.members).dedupe := by
    rw [pyLoads, scanned, Option.bind_some, if_pos fits]
  rw [pyLoadsObject, read, PyValue.dedupe, object.members.dedupe_of_distinct object.distinct]

theorem Printed.parsing_once {limits : Limits} (object : Printed) (fits : object.Fits limits)
    (once : ClosesOnce object.text) : parsing limits object.text = [object.members] := by
  have reads := object.pyLoadsObject_around fits isBlank_nil isBlank_nil
  rw [List.nil_append, List.append_nil] at reads
  rcases object.isText.pieces with ⟨-, spans⟩ | ⟨several, -⟩
  · rw [parsing, spans, List.filterMap_cons_some reads, List.filterMap_nil]
  · exact (several once).elim

theorem parsing_object {limits : Limits} {log text rest : Text} {members : PyDict}
    (noBrace : '{' ∉ log) (object : IsObjectText text members) :
    parsing limits (log ++ (text ++ rest)) = parsing limits text ++ parsing limits rest := by
  rcases object.braces with ⟨body, shape⟩
  have closes : text ++ rest = '{' :: body ++ '}' :: rest := by
    rw [shape]
    simp
  rw [parsing, braceSpans_log noBrace, closes, braceSpans_closing, List.filterMap_append,
    List.cons_append, ← shape]
  rfl

theorem parsing_printed (limits : Limits) (objects : List Printed) (rest : Text) :
    parsing limits (printed objects ++ rest) =
      (objects.flatMap fun object => parsing limits object.text) ++ parsing limits rest := by
  induction objects with
  | nil => rfl
  | cons object objects induction =>
      have first : printed (object :: objects) ++ rest =
          [] ++ (object.text ++ (object.gap ++ (printed objects ++ rest))) := by
        rw [printed, List.flatMap_cons, printed]
        simp
      have gap : parsing limits (object.gap ++ (printed objects ++ rest)) =
          parsing limits (printed objects ++ rest) := by
        rw [parsing, braceSpans_log object.noBrace.1]
        rfl
      rw [first, parsing_object List.not_mem_nil object.isText, gap, induction,
        List.flatMap_cons, List.append_assoc]

theorem first_brace {log before rest after : Text} (noBrace : '{' ∉ log)
    (unbraced : '{' ∉ before) (same : log ++ '{' :: rest = before ++ '{' :: after) :
    log = before ∧ rest = after := by
  rcases List.append_eq_append_iff.mp same with ⟨extra, split, tail⟩ | ⟨extra, split, tail⟩
  · cases extra with
    | nil => exact ⟨by rw [split, List.append_nil], (List.cons.inj tail).2⟩
    | cons character extra =>
        rw [split, ← (List.cons.inj tail).1] at unbraced
        simp at unbraced
  · cases extra with
    | nil => exact ⟨by rw [split, List.append_nil], (List.cons.inj tail).2.symm⟩
    | cons character extra =>
        rw [split, ← (List.cons.inj tail).1] at noBrace
        simp at noBrace

theorem Printed.pyLoadsObject_visible {limits : Limits} (object : Printed) {log rest : Text}
    (noBrace : '{' ∉ log) (visible : ¬ (log.all isBlank = true ∧ rest.all isBlank = true)) :
    pyLoadsObject limits (log ++ (object.text ++ rest)) = none := by
  cases found : pyLoadsObject limits (log ++ (object.text ++ rest)) with
  | none => rfl
  | some members =>
      rcases object.isText.braces with ⟨body, shape⟩
      have isText := object.isText
      rw [shape] at found isText
      rcases written_of_loads found with ⟨written, scanned, -, -⟩
      rcases scanText_dict scanned with
        ⟨before, other, after, blank, blankAfter, split, otherSpells⟩
      have whole : log ++ '{' :: (body ++ '}' :: rest) =
          before ++ '{' :: (other ++ '}' :: after) := by
        rw [← split]
        simp
      have unbraced : '{' ∉ before := not_mem_of_blank rfl blank
      rcases first_brace noBrace unbraced whole with ⟨sameLog, inside⟩
      rcases isText.spells.closes_once otherSpells inside with ⟨-, sameRest⟩
      rw [sameLog, sameRest] at visible
      exact (visible ⟨blank, blankAfter⟩).elim

theorem Printed.text_head (object : Printed) : ∃ rest, object.text = '{' :: rest := by
  rcases object.isText.braces with ⟨body, shape⟩
  exact ⟨body ++ ['}'], shape⟩

theorem printed_head (objects : List Printed) (last : Printed) :
    ∃ rest, printed (objects ++ [last]) = '{' :: rest := by
  cases objects with
  | nil =>
      rcases last.text_head with ⟨rest, shape⟩
      exact ⟨rest ++ last.gap, by rw [List.nil_append, printed_singleton, shape]; rfl⟩
  | cons object objects =>
      rcases object.text_head with ⟨rest, shape⟩
      refine ⟨rest ++ (object.gap ++ printed (objects ++ [last])), ?_⟩
      rw [List.cons_append, printed, List.flatMap_cons, shape, ← printed]
      simp

theorem pyLoadsObject_printed {limits : Limits} {log : Text} (noBrace : '{' ∉ log)
    (earlier : List Printed) {last : Printed} (fits : last.Fits limits) :
    pyLoadsObject limits (log ++ printed (earlier ++ [last])) =
      if earlier = [] ∧ log.all isBlank = true ∧ last.gap.all isBlank = true then
        some last.members
      else none := by
  cases earlier with
  | nil =>
      rw [List.nil_append, printed_singleton]
      split
      · rename_i blank
        exact last.pyLoadsObject_around fits blank.2.1 blank.2.2
      · rename_i visible
        apply last.pyLoadsObject_visible noBrace
        intro blank
        exact visible ⟨rfl, blank⟩
  | cons object objects =>
      have first : printed (object :: objects ++ [last]) =
          object.text ++ (object.gap ++ printed (objects ++ [last])) := by
        rw [List.cons_append, printed, List.flatMap_cons, ← printed, List.append_assoc]
      rcases printed_head objects last with ⟨rest, shape⟩
      have brace : '{' ∈ object.gap ++ printed (objects ++ [last]) := by
        rw [shape]
        simp
      rw [first, object.pyLoadsObject_visible noBrace, if_neg]
      · intro nothing
        cases nothing.1
      · intro blank
        exact not_mem_of_blank rfl blank.2 brace

theorem parsing_output {limits : Limits} {log : Text} (noBrace : '{' ∉ log)
    (earlier : List Printed) (last : Printed) :
    parsing limits (log ++ printed (earlier ++ [last])) =
      parsing limits (printed earlier) ++ parsing limits last.text := by
  have blank : parsing limits [] = [] := rfl
  have alone := parsing_printed limits earlier []
  have gap : parsing limits last.gap = [] := by
    have same := braceSpans_log last.noBrace.1 []
    rw [List.append_nil] at same
    rw [parsing, same]
    rfl
  have behind : parsing limits ([] ++ (last.text ++ last.gap)) =
      parsing limits last.text ++ parsing limits last.gap :=
    parsing_object List.not_mem_nil last.isText
  rw [blank, List.append_nil, List.append_nil] at alone
  rw [List.nil_append, gap, List.append_nil] at behind
  rw [parsing, braceSpans_log noBrace, ← parsing, printed_append, printed_singleton,
    parsing_printed, behind, alone]

/-- The texts after which the last object is returned: it is all there is, or no piece of it is
a dictionary, and either it is a piece itself, or there is nothing else, or what is read of the
objects before it happens to end with the same. -/
def ReadsBack (limits : Limits) (log : Text) (earlier : List Printed) (last : Printed) : Prop :=
  (earlier = [] ∧ log.all isBlank = true ∧ last.gap.all isBlank = true) ∨
    InnerFree limits last.text ∧
      (ClosesOnce last.text ∨ (earlier = [] ∧ last.gap.all isBlank = true) ∨
        (parsing limits (printed earlier)).getLast? = some last.members)

theorem pyLastJsonObject_eq (limits : Limits) (text : Text) :
    pyLastJsonObject limits text =
      (pyLoadsObject limits text).or ((parsing limits text).getLast?.or
        (pyLoadsObject limits (text.dropWhile fun character => character ≠ '{'))) := by
  rw [pyLastJsonObject, parsing, List.getLast?_filterMap]
  cases pyLoadsObject limits text with
  | some members => rfl
  | none =>
      cases (braceSpans none text).reverse.findSome? (pyLoadsObject limits) with
      | some members => rfl
      | none => rfl

theorem dropWhile_log {log : Text} (noBrace : '{' ∉ log) (earlier : List Printed)
    (last : Printed) :
    (log ++ printed (earlier ++ [last])).dropWhile (fun character => character ≠ '{') =
      printed (earlier ++ [last]) := by
  rcases printed_head earlier last with ⟨rest, opens⟩
  have before : ∀ character ∈ log, decide (character ≠ '{') = true := by
    intro character member
    apply decide_eq_true
    intro brace
    exact noBrace (brace ▸ member)
  rw [List.dropWhile_append_of_pos before, opens]
  rfl

theorem within_of_loads {limits : Limits} {text : Text} {members : PyDict}
    (reads : pyLoadsObject limits text = some members) :
    (PyValue.dict members).within limits.digits limits.levels = true := by
  rcases written_of_loads reads with ⟨written, -, same, fits⟩
  rw [← same]
  exact (PyValue.dict written).within_dedupe limits.digits limits.levels fits

theorem within_of_pyLastJsonObject {limits : Limits} {text : Text} {members : PyDict}
    (found : pyLastJsonObject limits text = some members) :
    (PyValue.dict members).within limits.digits limits.levels = true := by
  rw [pyLastJsonObject_eq] at found
  rcases Option.or_eq_some_iff.mp found with whole | ⟨-, others⟩
  · exact within_of_loads whole
  · rcases Option.or_eq_some_iff.mp others with piece | ⟨-, first⟩
    · rcases List.mem_filterMap.mp (List.mem_of_getLast? piece) with ⟨text, -, reads⟩
      exact within_of_loads reads
    · exact within_of_loads first

theorem pyLastJsonObject_of_fits {limits : Limits} {log : Text} (noBrace : '{' ∉ log)
    (earlier : List Printed) {last : Printed} (fits : last.Fits limits) :
    pyLastJsonObject limits (log ++ printed (earlier ++ [last])) = some last.members ↔
      ReadsBack limits log earlier last := by
  have whole := pyLoadsObject_printed List.not_mem_nil earlier fits
  rw [List.nil_append] at whole
  rw [pyLastJsonObject_eq, dropWhile_log noBrace, pyLoadsObject_printed noBrace earlier fits,
    whole, parsing_output noBrace, ReadsBack, last.isText.innerFree_iff]
  by_cases alone : earlier = [] ∧ log.all isBlank = true ∧ last.gap.all isBlank = true
  · rw [if_pos alone]
    exact iff_of_true rfl (.inl alone)
  · rw [if_neg alone, Option.none_or]
    by_cases once : ClosesOnce last.text
    · rw [last.parsing_once fits once, List.getLast?_concat]
      exact iff_of_true rfl (.inr ⟨.inl once, .inl once⟩)
    · have others : ∀ other ∈ parsing limits last.text, other ≠ last.members :=
        last.isText.parsing_ne once
      cases pieces : parsing limits last.text with
      | nil =>
          rw [List.append_nil]
          cases found : (parsing limits (printed earlier)).getLast? with
          | none =>
              rw [Option.none_or]
              by_cases only : earlier = [] ∧ last.gap.all isBlank = true
              · rw [if_pos ⟨only.1, rfl, only.2⟩]
                exact iff_of_true rfl (.inr ⟨.inr rfl, .inr (.inl only)⟩)
              · rw [if_neg fun all => only ⟨all.1, all.2.2⟩]
                apply iff_of_false (nomatch ·)
                rintro (whole | ⟨-, closes | whole | absent⟩)
                · exact alone whole
                · exact once closes
                · exact only whole
                · cases absent
          | some members =>
              have some_before : earlier ≠ [] := by
                intro nothing
                rw [nothing] at found
                cases found
              rw [Option.some_or]
              simp [once, some_before]
      | cons first found =>
          rw [pieces] at others
          have member := List.getLast_mem (List.cons_ne_nil first found)
          have last? : (parsing limits (printed earlier) ++ first :: found).getLast? =
              some ((first :: found).getLast (List.cons_ne_nil first found)) := by
            rw [List.getLast?_append, List.getLast?_eq_some_getLast (List.cons_ne_nil _ _),
              Option.some_or]
          rw [last?, Option.some_or]
          apply iff_of_false
          · intro same
            exact others _ member (Option.some.inj same)
          · rintro (whole | ⟨free, -⟩)
            · exact alone whole
            · rcases free with closes | nothing
              · exact once closes
              · cases nothing

/-- On a flat summary behind a log the reader that all sides share finds the same. -/
theorem pyLastJsonObject_after_log {limits : Limits} {layout : Layout} {members : Members}
    {log trailing : Text} (noBrace : '{' ∉ log)
    (once : ClosesOnce ((Json.obj members).render layout 0))
    (blank : trailing.all isBlank = true) (distinct : members.toPython.distinct = true)
    (fits : (PyValue.dict members.toPython).within limits.digits limits.levels = true) :
    pyLastJsonObject limits (log ++ ((Json.obj members).render layout 0 ++ trailing)) =
      (lastJsonObject (log ++ ((Json.obj members).render layout 0 ++ trailing))).map
        Members.toPython := by
  let object : Printed := .rendered layout members distinct trailing
    ⟨not_mem_of_blank rfl blank, not_mem_of_blank rfl blank⟩
  have objectFits : object.Fits limits := fits
  have found : pyLastJsonObject limits (log ++ printed ([] ++ [object])) =
      some members.toPython :=
    (pyLastJsonObject_of_fits noBrace [] objectFits).mpr
      (.inr ⟨object.isText.innerFree_iff.mpr (.inl once), .inl once⟩)
  rw [List.nil_append, printed_singleton] at found
  rw [lastJsonObject_after_log noBrace once blank]
  exact found

/-- The last object of an output comes back exactly then. -/
theorem lastJsonObject_iff (limits : Limits) {log : Text} (noBrace : '{' ∉ log ∧ '}' ∉ log)
    (earlier : List Printed) (last : Printed) :
    pyLastJsonObject limits (log ++ printed (earlier ++ [last])) = some last.members ↔
      last.Fits limits ∧ ReadsBack limits log earlier last := by
  constructor
  · intro returned
    have fits := within_of_pyLastJsonObject returned
    exact ⟨fits, (pyLastJsonObject_of_fits noBrace.1 earlier fits).mp returned⟩
  · rintro ⟨fits, back⟩
    exact (pyLastJsonObject_of_fits noBrace.1 earlier fits).mpr back

def throughputs (ops : Int) : Members :=
  .ofFields [("aggregate_ops_per_sec".toList, some (.num (.int ops)))]

def throughputLines (layout : Layout) (ops : Int) : Printed :=
  .rendered layout (throughputs ops) rfl ['\n'] (by decide)

theorem last_throughput_read :
    pyLastJsonObject ⟨900, 4300⟩ ("coordinator log\n".toList ++
        printed ([throughputLines .serdePretty 100] ++ [throughputLines .serdeCompact 999])) =
      some (throughputs 999).toPython := by
  have once : ClosesOnce (throughputLines .serdeCompact 999).text := by
    apply closesOnce_of_flat
    · intro field member
      rw [List.mem_singleton.mp member]
      decide
    · intro field member value present
      rw [List.mem_singleton.mp member] at present
      rw [← Option.some.inj present]
      exact braceFree_num _ _
  apply (lastJsonObject_iff ⟨900, 4300⟩ (by decide) _ _).mpr
  refine ⟨by decide, .inr ⟨?_, .inl once⟩⟩
  exact (throughputLines .serdeCompact 999).isText.innerFree_iff.mpr (.inl once)

def classDocument : Printed :=
  .rendered .serdeCompact (.ofFields [
      ("write".toList, some (.obj (.ofFields [("p50_ms".toList, some (.num (.int 1)))]))),
      ("read".toList, some (.obj (.ofFields [("p50_ms".toList, some (.num (.int 2)))])))])
    rfl [] (by decide)

/-- The object of its last class is returned for it. -/
theorem last_class_read_for_document :
    pyLastJsonObject ⟨900, 4300⟩ ("merging\n".toList ++ printed ([] ++ [classDocument])) =
        some (.cons ("p50_ms".toList.map Char.toNat) (.int 2) .nil) ∧
      pyLastJsonObject ⟨900, 4300⟩ ("merging\n".toList ++ printed ([] ++ [classDocument])) ≠
        some classDocument.members := by
  decide +kernel

/-- A piece that only Python takes for an object. -/
example :
    pyLastJsonObject ⟨900, 4300⟩
        "merging\n\x7b\"x\":\x7b\x7d,\"a\":\"\x7b\",\":NaN\x7d\":1\x7d".toList =
      some (.cons [0x2c] (.float .nan) .nil) := by
  decide +kernel

end DsBench.Harness
