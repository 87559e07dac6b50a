import DsBench.Foundation.ShellText

/-! # Searching printed fields

What `grep` finds of a quoted key and its number in a printed document: the text before
the document and the fields before the one looked for are passed over.
-/

namespace DsBench

def firstMatch (matchAt : Text → Option Text) : Text → Option Text
  | [] => none
  | character :: rest =>
      match matchAt (character :: rest) with
      | some found => some found
      | none => firstMatch matchAt rest

/-- A quoted key, colons and blanks, and a number as `number` takes it off a text. -/
def fieldMatch (number : Text → Text) (key : String) (text : Text) : Option Text :=
  let quoted := '"' :: (key.toList ++ ['"'])
  let found := number ((text.drop quoted.length).dropWhile fun character =>
    character = ':' || character = ' ')
  if quoted.isPrefixOf text ∧ found ≠ [] then some found else none

def signedNumber : Text → Text
  | '-' :: rest =>
      if rest.takeWhile isNumberChar = [] then [] else '-' :: rest.takeWhile isNumberChar
  | text => text.takeWhile isNumberChar

/-- The number of a field, as `grep -oE | grep -oE | head -1` prints it, minus and all. -/
def grepSignedField (key : String) : Text → Option Text :=
  firstMatch (fieldMatch signedNumber key)

example : grepSignedField "p99_ms" "\"p50_ms\": 1.5, \"p99_ms\": -8.25".toList =
    some "-8.25".toList := by decide

theorem grepField_eq (key : String) :
    grepField key = firstMatch (fieldMatch (List.takeWhile isNumberChar) key) := by
  funext text
  induction text with
  | nil => rfl
  | cons character rest induction =>
      rw [grepField, firstMatch, induction]
      rfl

/-! ## Passing over what comes before -/

section

variable {number : Text → Text} {key : String}

theorem fieldMatch_of_ne {character : Char} (notQuote : character ≠ '"') (rest : Text) :
    fieldMatch number key (character :: rest) = none := by
  rw [fieldMatch, if_neg]
  intro found
  have same := List.isPrefixOf_iff_prefix.mp found.1
  rw [List.cons_prefix_cons] at same
  exact notQuote same.1.symm

theorem firstMatch_skip {front : Text} (noQuote : '"' ∉ front) (rest : Text) :
    firstMatch (fieldMatch number key) (front ++ rest) =
      firstMatch (fieldMatch number key) rest := by
  induction front with
  | nil => rfl
  | cons character front induction =>
      rw [List.mem_cons, not_or] at noQuote
      rw [List.cons_append, firstMatch, fieldMatch_of_ne (Ne.symm noQuote.1)]
      exact induction noQuote.2

theorem eq_of_quoted_prefix {name rest : Text} (noQuote : '"' ∉ key.toList)
    (nameNoQuote : '"' ∉ name)
    (begins : (key.toList ++ ['"']).isPrefixOf (name ++ '"' :: rest) = true) :
    key.toList = name := by
  rcases List.isPrefixOf_iff_prefix.mp begins with ⟨tail, same⟩
  have upToQuote : ∀ {body : Text} (after : Text), '"' ∉ body →
      (body ++ '"' :: after).takeWhile (fun character => character ≠ '"') = body := by
    intro body after free
    rw [List.takeWhile_append_of_pos]
    · simp
    · intro character member
      have differs : character ≠ '"' := by
        intro same
        exact free (same ▸ member)
      simpa using differs
  have left := upToQuote tail noQuote
  rw [← List.append_cons] at same
  rw [← upToQuote rest nameNoQuote, ← same]
  exact left.symm

theorem fieldMatch_other {name : Text} (noQuote : '"' ∉ key.toList)
    (nameNoQuote : '"' ∉ name) (other : name ≠ key.toList) (rest : Text) :
    fieldMatch number key ('"' :: (name ++ '"' :: rest)) = none := by
  rw [fieldMatch, if_neg]
  intro found
  apply other
  apply Eq.symm
  apply eq_of_quoted_prefix noQuote nameNoQuote
  simpa using found.1

theorem fieldMatch_colon (noColon : key.toList.head? ≠ some ':') (nonempty : key ≠ "")
    (rest : Text) : fieldMatch number key ('"' :: ':' :: rest) = none := by
  rw [fieldMatch, if_neg]
  intro found
  have begins := found.1
  cases letters : key.toList with
  | nil => exact nonempty (String.toList_eq_nil_iff.mp letters)
  | cons first others =>
      rw [letters] at begins noColon
      have same : first = ':' := by
        simp at begins
        exact begins.1
      exact noColon (by simp [same])

theorem firstMatch_other_field {name value : Text} (noQuote : '"' ∉ key.toList)
    (noColon : key.toList.head? ≠ some ':') (nonempty : key ≠ "")
    (nameNoQuote : '"' ∉ name) (other : name ≠ key.toList) (valueNoQuote : '"' ∉ value)
    (rest : Text) :
    firstMatch (fieldMatch number key) ('"' :: (name ++ '"' :: ':' :: (value ++ rest))) =
      firstMatch (fieldMatch number key) rest := by
  rw [firstMatch, fieldMatch_other noQuote nameNoQuote other]
  simp only
  rw [firstMatch_skip nameNoQuote, firstMatch, fieldMatch_colon noColon nonempty]
  simp only
  rw [← List.cons_append]
  apply firstMatch_skip
  simpa using valueNoQuote

theorem firstMatch_field {value rest : Text} (found : number (value ++ rest) = value)
    (nonempty : value ≠ [])
    (visible : ∀ first, value.head? = some first → first ≠ ':' ∧ first ≠ ' ') :
    firstMatch (fieldMatch number key)
      ('"' :: (key.toList ++ '"' :: ':' :: ' ' :: (value ++ rest))) = some value := by
  cases value with
  | nil => exact (nonempty rfl).elim
  | cons first others =>
      rcases visible first rfl with ⟨noColon, noBlank⟩
      have begins : ('"' :: (key.toList ++ ['"'])).isPrefixOf
          ('"' :: (key.toList ++ '"' :: ':' :: ' ' :: (first :: others ++ rest))) = true := by
        rw [List.isPrefixOf_iff_prefix]
        exact ⟨':' :: ' ' :: (first :: others ++ rest), by simp⟩
      have left : ('"' :: (key.toList ++ '"' :: ':' :: ' ' :: (first :: others ++ rest))).drop
          ('"' :: (key.toList ++ ['"'])).length = ':' :: ' ' :: (first :: others ++ rest) := by
        rw [show '"' :: (key.toList ++ '"' :: ':' :: ' ' :: (first :: others ++ rest)) =
          '"' :: (key.toList ++ ['"']) ++ ':' :: ' ' :: (first :: others ++ rest) by simp]
        exact List.drop_left
      rw [firstMatch, fieldMatch]
      have blanks : (':' :: ' ' :: (first :: others ++ rest)).dropWhile
          (fun character => character = ':' || character = ' ') = first :: others ++ rest := by
        simp [noColon, noBlank]
      simp only [left, begins, blanks, found, true_and]
      rw [if_pos nonempty]

end

end DsBench
