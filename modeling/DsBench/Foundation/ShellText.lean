import DsBench.Foundation.PythonValue
import Mathlib.Data.Int.Log
import Mathlib.Data.List.DropRight
import Mathlib.Data.List.Sort

/-! # Text as the shell tools take it apart

Words, parameter expansions, `grep` for a numeric field, and numbers as `awk` reads
and prints them. A word here is what `read` and `awk` split a line into.
-/

namespace DsBench

/-! ## Words -/

def isSeparator (character : Char) : Bool :=
  character = ' ' || character = '\t' || character = '\n'

/-- The words of a text, the first of them begun with `current`. -/
def wordsFrom : (current : Text) → Text → List Text
  | current, [] => if current = [] then [] else [current]
  | current, character :: rest =>
      if isSeparator character then
        if current = [] then wordsFrom [] rest else current :: wordsFrom [] rest
      else wordsFrom (current ++ [character]) rest

def words (text : Text) : List Text := wordsFrom [] text

def firstLine (text : Text) : Text := text.takeWhile fun character => character ≠ '\n'

/-- `${value:-fallback}`. -/
def orDefault (value fallback : Text) : Text := if value = [] then fallback else value

/-- `${text%%mark*}`: what stands before the first mark. -/
def beforeFirst (mark : Char) (text : Text) : Text :=
  text.takeWhile fun character => character ≠ mark

/-- `${text##*mark}` and `rsplit(mark).next()`: what stands after the last mark. -/
def afterLast (mark : Char) (text : Text) : Text :=
  (text.reverse.takeWhile fun character => character ≠ mark).reverse

example : words "7 1500".toList = ["7".toList, "1500".toList] := by decide

example : afterLast ' ' "7 1500".toList = "1500".toList := by decide

/-- `read -r first second`: the second takes what follows the first word. -/
def readPair (line : Text) : Text × Text :=
  let begun := line.dropWhile isSeparator
  let left := begun.dropWhile fun character => !isSeparator character
  (begun.takeWhile fun character => !isSeparator character,
    (left.dropWhile isSeparator).rdropWhile isSeparator)

structure IsWord (text : Text) : Prop where
  nonempty : text ≠ []
  unbroken : ∀ character ∈ text, isSeparator character = false

theorem isWord_of_visible {text : Text} (nonempty : text.isEmpty = false)
    (visible : text.any isSeparator = false) : IsWord text where
  nonempty := List.isEmpty_eq_false_iff.mp nonempty
  unbroken := by simpa using visible

theorem wordsFrom_word {word : Text}
    (unbroken : ∀ character ∈ word, isSeparator character = false) (current rest : Text) :
    wordsFrom current (word ++ rest) = wordsFrom (current ++ word) rest := by
  induction word generalizing current with
  | nil => simp
  | cons first word induction =>
      rw [List.cons_append, wordsFrom, unbroken first (by simp), if_neg Bool.false_ne_true,
        induction (fun character member => unbroken character (by simp [member]))]
      simp

theorem words_cons {word : Text} (isWord : IsWord word) (rest : Text) :
    words (word ++ ' ' :: rest) = word :: words rest := by
  have separator : isSeparator ' ' = true := rfl
  rw [words, wordsFrom_word isWord.unbroken, List.nil_append, wordsFrom, if_pos separator,
    if_neg isWord.nonempty]
  rfl

theorem words_single {word : Text} (isWord : IsWord word) : words word = [word] := by
  have whole := wordsFrom_word isWord.unbroken [] []
  rw [List.append_nil, List.nil_append] at whole
  rw [words, whole, wordsFrom, if_neg isWord.nonempty]

theorem isWord_of_mem_wordsFrom {text current word : Text}
    (begun : ∀ character ∈ current, isSeparator character = false)
    (member : word ∈ wordsFrom current text) : IsWord word := by
  induction text generalizing current with
  | nil =>
      rw [wordsFrom] at member
      split at member
      · cases member
      · rename_i nonempty
        rw [List.mem_singleton.mp member]
        exact ⟨nonempty, begun⟩
  | cons first text induction =>
      rw [wordsFrom] at member
      split at member
      · split at member
        · exact induction (by simp) member
        · rename_i nonempty
          rcases List.mem_cons.mp member with rfl | later
          · exact ⟨nonempty, begun⟩
          · exact induction (by simp) later
      · rename_i visible
        refine induction (fun character inside => ?_) member
        rcases List.mem_append.mp inside with before | last
        · exact begun character before
        · rw [List.mem_singleton.mp last]
          exact Bool.not_eq_true _ |>.mp visible

theorem isWord_of_mem_words {text word : Text} (member : word ∈ words text) : IsWord word :=
  isWord_of_mem_wordsFrom (by simp) member

theorem isWord_orDefault {value fallback : Text} (isWord : value ≠ [] → IsWord value)
    (isFallback : IsWord fallback) : IsWord (orDefault value fallback) := by
  rw [orDefault]
  split
  · exact isFallback
  · rename_i nonempty
    exact isWord nonempty

theorem IsWord.dropWhile_append {word : Text} (isWord : IsWord word) (rest : Text) :
    (word ++ rest).dropWhile isSeparator = word ++ rest := by
  cases word with
  | nil => exact absurd rfl isWord.nonempty
  | cons first others =>
      rw [List.cons_append, List.dropWhile_cons_of_neg]
      rw [isWord.unbroken first List.mem_cons_self]
      exact Bool.false_ne_true

theorem IsWord.visible {word : Text} (isWord : IsWord word) :
    ∀ character ∈ word, (!isSeparator character) = true := by
  intro character member
  rw [isWord.unbroken character member]
  rfl

/-- `read` takes two words with a separator between them apart again. -/
theorem readPair_join {first second : Text} (isFirst : IsWord first)
    (isSecond : IsWord second) {separator : Char} (separates : isSeparator separator = true) :
    readPair (first ++ separator :: second) = (first, second) := by
  have stops : (separator :: second).takeWhile (fun character => !isSeparator character) =
      [] := by
    simp [separates]
  have left : (separator :: second).dropWhile (fun character => !isSeparator character) =
      separator :: second := by
    simp [separates]
  have tail : second.rdropWhile isSeparator = second := by
    rw [List.rdropWhile_eq_self_iff]
    intro nonempty
    rw [isSecond.unbroken _ (List.getLast_mem nonempty)]
    exact Bool.false_ne_true
  rw [readPair, isFirst.dropWhile_append, List.takeWhile_append_of_pos isFirst.visible,
    List.dropWhile_append_of_pos isFirst.visible]
  rw [stops, List.append_nil, left, List.dropWhile_cons_of_pos separates]
  have kept := isSecond.dropWhile_append []
  rw [List.append_nil] at kept
  rw [kept, tail]

theorem IsWord.orDefault {value : Text} (isWord : IsWord value) (fallback : Text) :
    orDefault value fallback = value :=
  if_neg isWord.nonempty

theorem not_mark_reverse {mark : Char} {text : Text} (absent : mark ∉ text) :
    ∀ character ∈ text.reverse, decide (character ≠ mark) = true := by
  intro character member
  rw [decide_eq_true_eq]
  intro equal
  cases equal
  exact absent (List.mem_reverse.mp member)

theorem afterLast_append {mark : Char} {text : Text} (absent : mark ∉ text) (before : Text) :
    afterLast mark (before ++ mark :: text) = text := by
  rw [afterLast, List.reverse_append, List.reverse_cons, List.append_assoc,
    List.takeWhile_append_of_pos (not_mark_reverse absent)]
  simp

theorem afterLast_of_notMem {mark : Char} {text : Text} (absent : mark ∉ text) :
    afterLast mark text = text := by
  rw [afterLast, List.takeWhile_eq_self_iff.mpr (not_mark_reverse absent),
    List.reverse_reverse]

theorem beforeFirst_append {mark : Char} {text : Text} (absent : mark ∉ text)
    (after : Text) : beforeFirst mark (text ++ mark :: after) = text := by
  have others : ∀ character ∈ text, decide (character ≠ mark) = true := by
    intro character member
    rw [decide_eq_true_eq]
    intro equal
    cases equal
    exact absent member
  rw [beforeFirst, List.takeWhile_append_of_pos others]
  simp

theorem firstLine_append {text : Text} (oneLine : '\n' ∉ text) (rest : Text) :
    firstLine (text ++ rest) = text ++ firstLine rest := by
  apply List.takeWhile_append_of_pos
  intro character member
  rw [decide_eq_true_eq]
  intro equal
  cases equal
  exact oneLine member

theorem IsWord.notMem {text : Text} (isWord : IsWord text) {character : Char}
    (separator : isSeparator character = true) : character ∉ text := by
  intro member
  rw [isWord.unbroken character member] at separator
  cases separator

theorem firstLine_word {word : Text} (isWord : IsWord word) (rest : Text) :
    firstLine (word ++ ' ' :: rest) = word ++ ' ' :: firstLine rest := by
  rw [firstLine_append (isWord.notMem rfl)]
  rfl

theorem firstLine_single {word : Text} (isWord : IsWord word) : firstLine word = word := by
  simpa [firstLine] using firstLine_append (isWord.notMem rfl) []

theorem isWord_render (number : Number) : IsWord number.render where
  nonempty := by
    rcases number.render_head with ⟨first, tail, shape, -⟩
    simp [shape]
  unbroken character member := by
    have visible := not_isWhitespace_of_mem_render member
    simp only [Char.isWhitespace, Bool.or_eq_false_iff] at visible
    simp only [isSeparator, Bool.or_eq_false_iff]
    exact ⟨⟨visible.1.1.1, visible.1.1.2⟩, visible.2⟩

theorem isWord_printFloat (value : ℚ) : IsWord (printFloat value) := by
  rw [printFloat]
  exact isWord_render _

theorem isWord_printNumber (number : Number) : IsWord (printNumber number) := by
  cases number with
  | int value => exact isWord_render (.int value)
  | decimal mantissa places => exact isWord_printFloat _

/-! ## Searching a numeric field -/

def isNumberChar (character : Char) : Bool := character.isDigit || character = '.'

def matchField (key : String) (text : Text) : Option Text :=
  let quoted := '"' :: (key.toList ++ ['"'])
  let number := ((text.drop quoted.length).dropWhile fun character =>
    character = ':' || character = ' ').takeWhile isNumberChar
  if quoted.isPrefixOf text ∧ number ≠ [] then some number else none

/-- The number at the first match, as `grep -oE | grep -oE | head -1` prints it. -/
def grepField (key : String) : Text → Option Text
  | [] => none
  | character :: rest =>
      match matchField key (character :: rest) with
      | some number => some number
      | none => grepField key rest

example : grepField "p99_ms" "\"p50_ms\": 1.5, \"p99_ms\": 8.25".toList =
    some "8.25".toList := by decide

/-! ## Numbers in `awk` -/

def awkNumber (text : Text) : ℚ :=
  let whole := text.takeWhile Char.isDigit
  let (fraction, afterFraction) := takeFraction (text.dropWhile Char.isDigit)
  if whole = [] ∧ fraction = [] then 0
  else (assembleNumber false whole fraction (parseExponent afterFraction).1).toRat

/-- The value of a number printed with `%.6g`. -/
def sixSignificant (value : ℚ) : ℚ :=
  let scale : ℚ := 10 ^ (5 - Int.log 10 |value|)
  roundHalfEven (value * scale) / scale

/-- The value of a printed number: integers in full, others to six digits. -/
def awkPrinted (value : ℚ) : ℚ := if value.den = 1 then value else sixSignificant value

example : awkPrinted (1234567 / 2) = 617284 := by decide +kernel

/-- The mean of a column as `awk` prints it. -/
def awkMean (numbers : List Text) : Option ℚ :=
  if numbers = [] then none
  else some (awkPrinted ((numbers.map awkNumber).sum / numbers.length))

/-- The order of `sort -n`, equal numbers by their text. -/
def SortedBefore (left right : Text) : Prop :=
  awkNumber left < awkNumber right ∨ awkNumber left = awkNumber right ∧
    right.lex left (fun first second => decide (first.toNat < second.toNat)) = false

instance : DecidableRel SortedBefore := fun _ _ => inferInstanceAs (Decidable (_ ∨ _))

/-- The median of a column: the middle line of an odd count, read as a float, and the
average of the two middle ones of an even count, as `awk` prints it. -/
def awkMedian (numbers : List Text) : Option ℚ :=
  let sorted := numbers.insertionSort SortedBefore
  let middle := sorted.length / 2
  if sorted = [] then none
  else if sorted.length % 2 = 1 then readFloat (sorted.getD middle [])
  else some (awkPrinted
    ((awkNumber (sorted.getD (middle - 1) []) + awkNumber (sorted.getD middle [])) / 2))

example : awkMedian ["12".toList, "3.5".toList, "7".toList] = some 7 := by decide +kernel

end DsBench
