import Mathlib.Data.List.AList

/-! # Keyed files of tagged results

A file holds one result per key, and every result knows its own key. A result is
tagged with what it was made for, and counts for nothing else.
-/

namespace DsBench

/-- Results by key. The key a result is filed under is the result's own. -/
structure KeyedFile {Value : Type u} (keyOf : Value → Nat) where
  entries : AList fun _ : Nat => Value
  keyed : ∀ key value, entries.lookup key = some value → keyOf value = key

namespace KeyedFile

variable {Value : Type u} {keyOf : Value → Nat}

def empty : KeyedFile keyOf := ⟨∅, by simp⟩

def get (file : KeyedFile keyOf) (key : Nat) : Option Value := file.entries.lookup key

/-- File a result under its own key, in the place of any earlier one. -/
def put (file : KeyedFile keyOf) (value : Value) : KeyedFile keyOf where
  entries := file.entries.insert (keyOf value) value
  keyed := by
    intro key other present
    by_cases same : key = keyOf value
    · subst same
      rw [AList.lookup_insert] at present
      cases present
      rfl
    · rw [AList.lookup_insert_ne same] at present
      exact file.keyed key other present

@[simp] theorem get_empty (key : Nat) : (empty : KeyedFile keyOf).get key = none := rfl

@[simp] theorem get_put_self (file : KeyedFile keyOf) (value : Value) :
    (file.put value).get (keyOf value) = some value :=
  AList.lookup_insert file.entries

theorem get_put_of_ne (file : KeyedFile keyOf) (value : Value) {key : Nat}
    (different : key ≠ keyOf value) : (file.put value).get key = file.get key :=
  AList.lookup_insert_ne different

theorem get_put (file : KeyedFile keyOf) (value : Value) (key : Nat) :
    (file.put value).get key = if key = keyOf value then some value else file.get key := by
  split
  · rename_i same
    rw [same, get_put_self]
  · rename_i different
    exact file.get_put_of_ne value different

theorem isSome_get_put {file : KeyedFile keyOf} {key : Nat}
    (present : (file.get key).isSome = true) (value : Value) :
    ((file.put value).get key).isSome = true := by
  rw [get_put]
  split
  · rfl
  · exact present

theorem keyOf_of_get {file : KeyedFile keyOf} {key : Nat} {value : Value}
    (present : file.get key = some value) : keyOf value = key :=
  file.keyed key value present

def values (file : KeyedFile keyOf) : List Value := file.entries.entries.map Sigma.snd

theorem mem_values_iff (file : KeyedFile keyOf) (value : Value) :
    value ∈ file.values ↔ file.get (keyOf value) = some value := by
  rw [values, List.mem_map]
  constructor
  · intro present
    rcases present with ⟨⟨key, own⟩, member, same⟩
    cases same
    have found := AList.mem_lookup_iff.mpr member
    rw [file.keyed key own found]
    exact found
  · intro found
    exact ⟨⟨keyOf value, value⟩, AList.mem_lookup_iff.mp found, rfl⟩

/-- Looking a key up among the values, the last one wins. -/
def lastWith (keyOf : Value → Nat) (key : Nat) (values : List Value) : Option Value :=
  values.reverse.find? fun value => keyOf value = key

theorem lastWith_values (file : KeyedFile keyOf) (key : Nat) :
    lastWith keyOf key file.values = file.get key := by
  rw [lastWith]
  cases found : file.values.reverse.find? fun value => keyOf value = key with
  | none =>
      cases present : file.get key with
      | none => rfl
      | some value =>
          have own := keyOf_of_get present
          have member : value ∈ file.values := by
            rw [mem_values_iff, own]
            exact present
          have missed := List.find?_eq_none.mp found value (List.mem_reverse.mpr member)
          simp [own] at missed
  | some value =>
      have own : keyOf value = key := by simpa using List.find?_some found
      have member := List.mem_reverse.mp (List.mem_of_find?_eq_some found)
      rw [mem_values_iff, own] at member
      exact member.symm

/-! ## Tagged lookup -/

section

variable {Tag : Type v} {Answer : Type w} [DecidableEq Tag]

/-- What the file answers about a key under a tag: a result counts only under the tag
it was made for. -/
def answer (tagOf : Value → Tag) (verdict : Value → Answer) (absent : Answer)
    (file : KeyedFile keyOf) (key : Nat) (tag : Tag) : Answer :=
  match file.get key with
  | none => absent
  | some value => if tagOf value ≠ tag then absent else verdict value

variable {tagOf : Value → Tag} {verdict : Value → Answer} {absent : Answer}
  {file : KeyedFile keyOf} {key : Nat} {tag : Tag}

theorem answer_of_tag {value : Value} (present : file.get key = some value)
    (same : tagOf value = tag) :
    file.answer tagOf verdict absent key tag = verdict value := by
  simp [answer, present, same]

theorem answer_of_tag_ne {value : Value} (present : file.get key = some value)
    (different : tagOf value ≠ tag) :
    file.answer tagOf verdict absent key tag = absent := by
  simp [answer, present, different]

theorem exists_of_answer (answers : file.answer tagOf verdict absent key tag ≠ absent) :
    ∃ value, file.get key = some value ∧ tagOf value = tag ∧
      file.answer tagOf verdict absent key tag = verdict value := by
  cases present : file.get key with
  | none => simp [answer, present] at answers
  | some value =>
      by_cases same : tagOf value = tag
      · exact ⟨value, rfl, same, answer_of_tag present same⟩
      · exact (answers (answer_of_tag_ne present same)).elim

/-- Nothing is filed under the key for another tag. -/
def TaggedAt (tagOf : Value → Tag) (tag : Tag) (key : Nat) (file : KeyedFile keyOf) :
    Prop :=
  ∀ value, file.get key = some value → tagOf value = tag

omit [DecidableEq Tag] in
theorem TaggedAt.put (tagged : file.TaggedAt tagOf tag key) {value : Value}
    (same : tagOf value = tag) : (file.put value).TaggedAt tagOf tag key := by
  intro other present
  rw [get_put] at present
  split at present
  · cases present
    exact same
  · exact tagged other present

omit [DecidableEq Tag] in
theorem taggedAt_put_self {value : Value} (same : tagOf value = tag) :
    (file.put value).TaggedAt tagOf tag (keyOf value) := by
  intro other present
  rw [get_put_self] at present
  cases present
  exact same

theorem taggedAt_of_answer (answers : file.answer tagOf verdict absent key tag ≠ absent) :
    file.TaggedAt tagOf tag key := by
  intro value present
  rcases exists_of_answer answers with ⟨other, found, same, -⟩
  rw [present] at found
  cases found
  exact same

end

end KeyedFile

end DsBench
