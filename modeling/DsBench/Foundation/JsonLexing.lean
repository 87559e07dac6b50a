import DsBench.Foundation.JsonRendering

/-! # The strings and the braces of a JSON text

A scanner that knows no more of JSON than strings, escapes and braces. A text that it
passes with all braces closed ends at one brace only, and a part of it that it passes too
has fewer strings.
-/

namespace DsBench

/-! ## The scanner -/

inductive ScanMode where
  | plain
  | quoted
  | escaped
deriving DecidableEq, Repr

structure Scan where
  mode : ScanMode
  depth : Nat
  strings : Nat
deriving DecidableEq, Repr

namespace Scan

/-- One character. Outside of strings there is no backslash, and no closing brace when none
is open. -/
def step (scan : Scan) (character : Char) : Option Scan :=
  match scan.mode with
  | .escaped => some { scan with mode := .quoted }
  | .quoted =>
      if character = '"' then some { scan with mode := .plain }
      else if character = '\\' then some { scan with mode := .escaped }
      else some scan
  | .plain =>
      if character = '"' then some { scan with mode := .quoted, strings := scan.strings + 1 }
      else if character = '\\' then none
      else if character = '{' then some { scan with depth := scan.depth + 1 }
      else if character = '}' then
        if 0 < scan.depth then some { scan with depth := scan.depth - 1 } else none
      else some scan

def run : Scan → Text → Option Scan
  | scan, [] => some scan
  | scan, character :: rest => (scan.step character).bind fun next => next.run rest

theorem run_append (scan : Scan) (text more : Text) :
    scan.run (text ++ more) = (scan.run text).bind fun next => next.run more := by
  induction text generalizing scan with
  | nil => rfl
  | cons character rest induction =>
      rw [List.cons_append, run, run]
      cases scan.step character with
      | none => rfl
      | some next => exact induction next

theorem run_append_some {scan last : Scan} {text more : Text}
    (passes : scan.run (text ++ more) = some last) :
    ∃ next, scan.run text = some next ∧ next.run more = some last := by
  rw [run_append] at passes
  exact Option.bind_eq_some_iff.mp passes

theorem step_strings_le {scan next : Scan} {character : Char}
    (steps : scan.step character = some next) : scan.strings ≤ next.strings := by
  rw [step] at steps
  split at steps
  · cases steps
    exact Nat.le_refl _
  · split_ifs at steps <;> cases steps <;> exact Nat.le_refl _
  · split_ifs at steps <;> cases steps
    · exact Nat.le_succ _
    · exact Nat.le_refl _
    · exact Nat.le_refl _
    · exact Nat.le_refl _

theorem strings_le {scan last : Scan} {text : Text} (passes : scan.run text = some last) :
    scan.strings ≤ last.strings := by
  induction text generalizing scan with
  | nil =>
      cases passes
      exact Nat.le_refl _
  | cons character rest induction =>
      rcases Option.bind_eq_some_iff.mp passes with ⟨next, steps, onwards⟩
      exact (step_strings_le steps).trans (induction onwards)

end Scan

/-- A text that begins and ends outside of strings, leaves no brace open and closes none that
it has not opened, and has so many strings. -/
def Spells (text : Text) (strings : Nat) : Prop :=
  ∀ depth begun, (Scan.mk .plain depth begun).run text =
    some ⟨.plain, depth, begun + strings⟩

def Quotes (text : Text) : Prop :=
  ∀ depth begun, (Scan.mk .quoted depth begun).run text = some ⟨.quoted, depth, begun⟩

def IsMute (character : Char) : Prop :=
  character ≠ '"' ∧ character ≠ '\\' ∧ character ≠ '{' ∧ character ≠ '}'

instance (character : Char) : Decidable (IsMute character) :=
  inferInstanceAs (Decidable (_ ∧ _ ∧ _ ∧ _))

theorem spells_nil : Spells [] 0 := fun _ _ => rfl

theorem Spells.append {text more : Text} {strings others : Nat} (first : Spells text strings)
    (second : Spells more others) : Spells (text ++ more) (strings + others) := by
  intro depth begun
  rw [Scan.run_append, first, Option.bind_some, second, Nat.add_assoc]

theorem spells_mute {text : Text} (mute : ∀ character ∈ text, IsMute character) :
    Spells text 0 := by
  induction text with
  | nil => exact spells_nil
  | cons character rest induction =>
      intro depth begun
      rcases mute character List.mem_cons_self with ⟨quote, backslash, opening, closing⟩
      rw [Scan.run, Scan.step]
      simp only [if_neg quote, if_neg backslash, if_neg opening, if_neg closing,
        Option.bind_some]
      exact induction (fun other member => mute other (List.mem_cons_of_mem _ member))
        depth begun

theorem Quotes.string {body : Text} (quotes : Quotes body) :
    Spells ('"' :: (body ++ ['"'])) 1 := by
  intro depth begun
  have opens : (Scan.mk .plain depth begun).step '"' =
      some ⟨.quoted, depth, begun + 1⟩ := rfl
  have closes : (Scan.mk .quoted depth (begun + 1)).run ['"'] =
      some ⟨.plain, depth, begun + 1⟩ := rfl
  rw [Scan.run, opens, Option.bind_some, Scan.run_append, quotes, Option.bind_some, closes]

theorem Spells.braces {body : Text} {strings : Nat} (spells : Spells body strings) :
    Spells ('{' :: (body ++ ['}'])) strings := by
  intro depth begun
  have opens : (Scan.mk .plain depth begun).step '{' =
      some ⟨.plain, depth + 1, begun⟩ := rfl
  have closes : (Scan.mk .plain (depth + 1) (begun + strings)).run ['}'] =
      some ⟨.plain, depth, begun + strings⟩ := by
    simp [Scan.run, Scan.step]
  rw [Scan.run, opens, Option.bind_some, Scan.run_append, spells, Option.bind_some, closes]

theorem Spells.closes_once {body other rest after : Text} {strings others : Nat}
    (first : Spells body strings) (second : Spells other others)
    (same : body ++ '}' :: rest = other ++ '}' :: after) : body = other ∧ rest = after := by
  -- A body that goes on past the end of the other closes a brace that it has not opened.
  have notLonger : ∀ {body other rest after : Text} {strings others : Nat},
      Spells body strings → Spells other others →
        body ++ '}' :: rest = other ++ '}' :: after → ¬ body.length < other.length := by
    intro body other rest after strings others first second same longer
    rcases List.append_eq_append_iff.mp same with ⟨extra, split, tail⟩ | ⟨extra, split, tail⟩
    · cases extra with
      | nil =>
          rw [List.append_nil] at split
          rw [split] at longer
          exact Nat.lt_irrefl _ longer
      | cons character extra =>
          have closing : character = '}' := (List.cons.inj tail).1.symm
          have passes := second 0 0
          rw [split, closing, Scan.run_append, first] at passes
          cases passes
    · rw [split, List.length_append] at longer
      omega
  have lengths : body.length = other.length := by
    have notFirst := notLonger first second same
    have notSecond := notLonger second first same.symm
    omega
  rcases List.append_inj same lengths with ⟨bodies, tails⟩
  exact ⟨bodies, (List.cons.inj tails).2⟩

/-! ## Parts of a text -/

/-- Two scans of a text of which one begins outside and one inside of a string. They stay
apart, and begin as many strings but for one that is still open. -/
theorem Scan.run_apart {text : Text} {outside inside outsideEnd insideEnd : Scan}
    (plain : outside.mode = .plain) (quoted : inside.mode = .quoted)
    (first : outside.run text = some outsideEnd) (second : inside.run text = some insideEnd) :
    (outsideEnd.mode = .plain ∧ insideEnd.mode = .quoted ∧
      outsideEnd.strings + inside.strings = insideEnd.strings + outside.strings) ∨
    (outsideEnd.mode = .quoted ∧ insideEnd.mode = .plain ∧
      outsideEnd.strings + inside.strings = insideEnd.strings + outside.strings + 1) := by
  induction text generalizing outside inside outsideEnd insideEnd with
  | nil =>
      cases first
      cases second
      exact .inl ⟨plain, quoted, Nat.add_comm _ _⟩
  | cons character rest induction =>
      rcases Option.bind_eq_some_iff.mp first with ⟨outsideNext, steps, onwards⟩
      rcases Option.bind_eq_some_iff.mp second with ⟨insideNext, moves, further⟩
      rw [Scan.step, plain] at steps
      rw [Scan.step, quoted] at moves
      by_cases quote : character = '"'
      · -- The two change places.
        simp only [if_pos quote, Option.some.injEq] at steps moves
        subst steps moves
        rcases induction rfl rfl further onwards with
          ⟨insidePlain, outsideQuoted, count⟩ | ⟨insideQuoted, outsidePlain, count⟩
        · right
          exact ⟨outsideQuoted, insidePlain, by simp only at count; omega⟩
        · left
          exact ⟨outsidePlain, insideQuoted, by simp only at count; omega⟩
      · by_cases backslash : character = '\\'
        · simp [if_neg quote, if_pos backslash] at steps
        · simp only [if_neg quote, if_neg backslash, Option.some.injEq] at moves
          simp only [if_neg quote, if_neg backslash] at steps
          subst moves
          have kept : outsideNext.mode = .plain ∧ outsideNext.strings = outside.strings := by
            split_ifs at steps
            · cases steps
              exact ⟨rfl, rfl⟩
            · cases steps
              exact ⟨rfl, rfl⟩
            · cases steps
              exact ⟨plain, rfl⟩
          rcases induction kept.1 quoted onwards further with
            ⟨stays, remains, count⟩ | ⟨stays, remains, count⟩
          · left
            exact ⟨stays, remains, by rw [kept.2] at count; exact count⟩
          · right
            exact ⟨stays, remains, by rw [kept.2] at count; exact count⟩

theorem Spells.strings_of_part {body rest : Text} {strings : Nat} (part : Spells body strings)
    {scan last : Scan} (passes : scan.run ('{' :: (body ++ '}' :: rest)) = some last) :
    scan.strings + strings ≤ last.strings := by
  have shape : '{' :: (body ++ '}' :: rest) = '{' :: (body ++ ['}']) ++ rest := by simp
  rw [shape] at passes
  rcases Scan.run_append_some passes with ⟨middle, here, later⟩
  have onwards := Scan.strings_le later
  have counted : middle.strings = scan.strings + strings := by
    rcases scan with ⟨mode, depth, begun⟩
    cases mode with
    | plain =>
        rw [part.braces, Option.some.injEq] at here
        rw [← here]
    | quoted | escaped =>
        -- Past the opening brace the scan is inside of a string.
        have quoted : (Scan.mk .quoted depth begun).run (body ++ ['}']) = some middle := here
        have plain : (Scan.mk .plain 1 0).run (body ++ ['}']) =
            some ⟨.plain, 0, strings⟩ := by
          have whole := part.braces 0 0
          rwa [Nat.zero_add] at whole
        rcases Scan.run_apart rfl rfl plain quoted with
          ⟨-, -, count⟩ | ⟨open_, -, -⟩
        · simp only at count ⊢
          omega
        · cases open_
  omega

/-! ## Strings -/

theorem Quotes.append {text more : Text} (first : Quotes text) (second : Quotes more) :
    Quotes (text ++ more) := by
  intro depth begun
  rw [Scan.run_append, first, Option.bind_some, second]

theorem quotes_nil : Quotes [] := fun _ _ => rfl

theorem quotes_other {character : Char} (quote : character ≠ '"')
    (backslash : character ≠ '\\') : Quotes [character] := by
  intro depth begun
  rw [Scan.run, Scan.step]
  simp only [if_neg quote, if_neg backslash, Option.bind_some]
  rfl

theorem quotes_escape (character : Char) : Quotes ['\\', character] := fun _ _ => rfl

theorem quotes_hex {character : Char} {value : Nat} (hex : hexValue character = some value) :
    Quotes [character] := by
  apply quotes_other
  · intro quote
    rw [quote] at hex
    cases hex
  · intro backslash
    rw [backslash] at hex
    cases hex

theorem quotes_codeUnit {first second third fourth : Char} {unit : Nat}
    (reads : codeUnit first second third fourth = some unit) :
    Quotes [first, second, third, fourth] := by
  simp only [codeUnit, Option.bind_eq_bind, Option.bind_eq_some_iff] at reads
  rcases reads with ⟨a, one, b, two, c, three, d, four, -⟩
  exact (quotes_hex one).append ((quotes_hex two).append
    ((quotes_hex three).append (quotes_hex four)))

/-! ## Numbers -/

theorem isMute_of_isDigit {character : Char} (digit : character.isDigit = true) :
    IsMute character := by
  refine ⟨?_, ?_, ?_, ?_⟩ <;> rintro rfl <;> cases digit

theorem isMute_of_isBlank {character : Char} (blank : isBlank character = true) :
    IsMute character := by
  refine ⟨?_, ?_, ?_, ?_⟩ <;> rintro rfl <;> cases blank

def TakesMute (text rest : Text) : Prop :=
  ∃ used, text = used ++ rest ∧ ∀ character ∈ used, IsMute character

namespace TakesMute

variable {text middle rest : Text}

theorem refl (text : Text) : TakesMute text text := ⟨[], rfl, List.forall_mem_nil _⟩

theorem trans (first : TakesMute text middle) (second : TakesMute middle rest) :
    TakesMute text rest := by
  rcases first with ⟨used, shape, mute⟩
  rcases second with ⟨more, split, quiet⟩
  refine ⟨used ++ more, by rw [shape, split, List.append_assoc], ?_⟩
  intro character member
  rcases List.mem_append.mp member with here | there
  · exact mute character here
  · exact quiet character there

theorem cons {character : Char} (mute : IsMute character) (onwards : TakesMute text rest) :
    TakesMute (character :: text) rest := by
  rcases onwards with ⟨used, shape, quiet⟩
  exact ⟨character :: used, by rw [shape]; rfl, List.forall_mem_cons.mpr ⟨mute, quiet⟩⟩

theorem dropWhile {kind : Char → Bool}
    (mute : ∀ character, kind character = true → IsMute character) (text : Text) :
    TakesMute text (text.dropWhile kind) := by
  refine ⟨text.takeWhile kind, List.takeWhile_append_dropWhile.symm, ?_⟩
  intro character member
  exact mute character (List.all_eq_true.mp List.all_takeWhile character member)

theorem spells (takes : TakesMute text rest) : ∃ used, text = used ++ rest ∧ Spells used 0 := by
  rcases takes with ⟨used, shape, mute⟩
  exact ⟨used, shape, spells_mute mute⟩

end TakesMute

theorem takesMute_skipBlank (text : Text) : TakesMute text (skipBlank text) :=
  TakesMute.dropWhile (fun _ => isMute_of_isBlank) text

theorem takesMute_digits (text : Text) : TakesMute text (text.dropWhile Char.isDigit) :=
  TakesMute.dropWhile (fun _ => isMute_of_isDigit) text

theorem takesMute_takeSign (text : Text) : TakesMute text (takeSign text).2 := by
  rw [takeSign.eq_def]
  split
  · exact .cons (by decide) (.refl _)
  · exact .refl _

theorem takesMute_parseFraction (text : Text) : TakesMute text (parseFraction text).2 := by
  rw [parseFraction.eq_def]
  split
  · split
    · exact .refl _
    · exact .cons (by decide) (takesMute_digits _)
  · exact .refl _

theorem takesMute_parseExponent (text : Text) : TakesMute text (parseExponent text).2 := by
  rw [parseExponent.eq_def]
  split
  · exact .refl _
  · rename_i mark rest
    split
    · rename_i exponent
      have mute : IsMute mark := by
        rcases exponent with lower | upper
        · rw [lower]
          decide
        · rw [upper]
          decide
      split
      rename_i negative unsigned signed
      have afterSign : TakesMute rest unsigned := by
        split at signed
        · cases signed
          exact .cons (by decide) (.refl _)
        · cases signed
          exact .cons (by decide) (.refl _)
        · cases signed
          exact .refl _
      simp only
      split
      · exact .refl _
      · exact .cons mute (afterSign.trans (takesMute_digits unsigned))
    · exact .refl _

theorem takesMute_parseNumber {text rest : Text} {number : Number}
    (reads : parseNumber text = some (number, rest)) : TakesMute text rest := by
  rw [parseNumber] at reads
  simp only at reads
  split at reads
  · cases reads
  · cases reads
    exact (takesMute_takeSign text).trans ((takesMute_digits _).trans
      ((takesMute_parseFraction _).trans (takesMute_parseExponent _)))

/-! ## Blanks and marks -/

theorem spells_skipBlank {text used rest : Text} {strings : Nat}
    (shape : skipBlank text = used ++ rest) (spells : Spells used strings) :
    ∃ more, text = more ++ rest ∧ Spells more strings := by
  rcases (takesMute_skipBlank text).spells with ⟨blanks, split, mute⟩
  refine ⟨blanks ++ used, by rw [split, shape, List.append_assoc], ?_⟩
  have whole := mute.append spells
  rwa [Nat.zero_add] at whole

theorem spells_mark {text further used rest : Text} {mark : Char} {strings : Nat}
    (found : skipBlank text = mark :: further) (mute : IsMute mark)
    (shape : further = used ++ rest) (spells : Spells used strings) :
    ∃ more, text = more ++ rest ∧ Spells more strings := by
  have marked : Spells (mark :: used) strings := by
    have whole := (spells_mute (List.forall_mem_singleton.mpr mute)).append spells
    rwa [Nat.zero_add] at whole
  apply spells_skipBlank _ marked
  rw [found, shape]
  rfl

theorem skipBlank_split (text : Text) :
    ∃ blanks, blanks.all isBlank = true ∧ text = blanks ++ skipBlank text :=
  ⟨text.takeWhile isBlank, List.all_takeWhile, List.takeWhile_append_dropWhile.symm⟩

theorem Scan.begun_string {blanks more : Text} (blank : blanks.all isBlank = true) {last : Scan}
    (passes : (Scan.mk .plain 0 0).run ('{' :: (blanks ++ '"' :: more)) = some last) :
    1 ≤ last.strings := by
  have mute : Spells blanks 0 := by
    apply spells_mute
    intro character member
    exact isMute_of_isBlank (List.all_eq_true.mp blank character member)
  have opens : (Scan.mk .plain 0 0).run ('{' :: (blanks ++ ['"'])) =
      some ⟨.quoted, 1, 1⟩ := by
    have brace : (Scan.mk .plain 0 0).step '{' = some ⟨.plain, 1, 0⟩ := rfl
    rw [Scan.run, brace, Option.bind_some, Scan.run_append, mute, Option.bind_some]
    rfl
  have shape : '{' :: (blanks ++ '"' :: more) = '{' :: (blanks ++ ['"']) ++ more := by simp
  rw [shape, Scan.run_append, opens, Option.bind_some] at passes
  exact Scan.strings_le passes

end DsBench
