import Mathlib.Data.List.Basic

/-! # Histories of tagged events

Some events of a history set a tag, which stands until another one is set. What was
done since the tag that stands now was taken is the end of the history that begins
with the event that set it anew.
-/

namespace DsBench

variable {Event : Type u} {Value : Type v} {Tag : Type w}

def lastOf (carried : Event → Option Value) (events : List Event) : Option Value :=
  events.reverse.findSome? carried

@[simp] theorem lastOf_nil (carried : Event → Option Value) :
    lastOf carried [] = none := rfl

@[simp] theorem lastOf_append (carried : Event → Option Value) (before after : List Event) :
    lastOf carried (before ++ after) =
      (lastOf carried after).or (lastOf carried before) := by
  simp [lastOf, List.findSome?_append]

@[simp] theorem lastOf_singleton (carried : Event → Option Value) (event : Event) :
    lastOf carried [event] = carried event := by
  simp [lastOf]

theorem exists_of_lastOf {carried : Event → Option Value} {events : List Event}
    {value : Value} (last : lastOf carried events = some value) :
    ∃ event ∈ events, carried event = some value := by
  rcases List.exists_of_findSome?_eq_some last with ⟨event, member, own⟩
  exact ⟨event, List.mem_reverse.mp member, own⟩

theorem lastOf_eq_none_iff {carried : Event → Option Value} {events : List Event} :
    lastOf carried events = none ↔ ∀ event ∈ events, carried event = none := by
  rw [lastOf, List.findSome?_eq_none_iff]
  simp only [List.mem_reverse]

theorem lastOf_eq_some_of_all {carried : Event → Option Value} {events : List Event}
    {value : Value} {event : Event} (member : event ∈ events)
    (own : carried event = some value)
    (all : ∀ event ∈ events, ∀ other, carried event = some other → other = value) :
    lastOf carried events = some value := by
  cases last : lastOf carried events with
  | none =>
      rw [lastOf_eq_none_iff] at last
      rw [last event member] at own
      cases own
  | some other =>
      rcases exists_of_lastOf last with ⟨source, among, carries⟩
      rw [all source among other carries]

/-- `since` is what happened since a tag was taken: it begins with an event that set
the tag where another or none stood before, and sets no other one. -/
structure Took (setTag : Event → Option Tag) (events : List Event) (tag : Tag)
    (since : List Event) : Prop where
  taken : ∃ before, events = before ++ since ∧ lastOf setTag before ≠ some tag
  first : ∃ event rest, since = event :: rest ∧ setTag event = some tag
  kept : ∀ event ∈ since, ∀ other, setTag event = some other → other = tag

namespace Took

variable {setTag : Event → Option Tag} {events since : List Event} {tag : Tag}

theorem restart {event : Event} (sets : setTag event = some tag)
    (other : lastOf setTag events ≠ some tag) :
    Took setTag (events ++ [event]) tag [event] where
  taken := ⟨events, rfl, other⟩
  first := ⟨event, [], rfl, sets⟩
  kept := by
    intro later member value carries
    rw [List.mem_singleton] at member
    subst member
    rw [sets] at carries
    cases carries
    rfl

theorem append (took : Took setTag events tag since) {event : Event}
    (same : ∀ other, setTag event = some other → other = tag) :
    Took setTag (events ++ [event]) tag (since ++ [event]) where
  taken := by
    rcases took.taken with ⟨before, split, other⟩
    refine ⟨before, ?_, other⟩
    rw [split, List.append_assoc]
  first := by
    rcases took.first with ⟨start, rest, shape, sets⟩
    refine ⟨start, rest ++ [event], ?_, sets⟩
    rw [shape, List.cons_append]
  kept := by
    intro later member other carries
    rcases List.mem_append.mp member with earlier | last
    · exact took.kept later earlier other carries
    · rw [List.mem_singleton] at last
      subst last
      exact same other carries

theorem lastOf_eq (took : Took setTag events tag since) :
    lastOf setTag events = some tag := by
  rcases took.taken with ⟨before, split, -⟩
  rcases took.first with ⟨start, rest, shape, sets⟩
  have stands : lastOf setTag since = some tag := by
    apply lastOf_eq_some_of_all _ sets took.kept
    rw [shape]
    exact List.mem_cons_self
  rw [split, lastOf_append, stands, Option.some_or]

private theorem not_longer {before between : List Event} {start : Event}
    (other : lastOf setTag (before ++ start :: between) ≠ some tag)
    (sets : setTag start = some tag)
    (kept : ∀ event ∈ start :: between, ∀ other, setTag event = some other → other = tag) :
    False := by
  apply other
  rw [lastOf_append, lastOf_eq_some_of_all List.mem_cons_self sets kept, Option.some_or]

theorem unique {other : List Event} (left : Took setTag events tag since)
    (right : Took setTag events tag other) : since = other := by
  rcases left.taken with ⟨beforeLeft, splitLeft, otherLeft⟩
  rcases right.taken with ⟨beforeRight, splitRight, otherRight⟩
  rcases left.first with ⟨startLeft, restLeft, shapeLeft, setsLeft⟩
  rcases right.first with ⟨startRight, restRight, shapeRight, setsRight⟩
  rcases List.append_eq_append_iff.mp (splitLeft.symm.trans splitRight) with
    ⟨between, beforeEq, sinceEq⟩ | ⟨between, beforeEq, sinceEq⟩
  · cases between with
    | nil => simpa using sinceEq
    | cons start between =>
        rw [sinceEq, List.cons_append, List.cons.injEq] at shapeLeft
        rw [← shapeLeft.1] at setsLeft
        rw [beforeEq] at otherRight
        apply (not_longer otherRight setsLeft _).elim
        intro event member
        apply left.kept event
        rw [sinceEq]
        exact List.mem_append_left _ member
  · cases between with
    | nil => simpa using sinceEq.symm
    | cons start between =>
        rw [sinceEq, List.cons_append, List.cons.injEq] at shapeRight
        rw [← shapeRight.1] at setsRight
        rw [beforeEq] at otherLeft
        apply (not_longer otherLeft setsRight _).elim
        intro event member
        apply right.kept event
        rw [sinceEq]
        exact List.mem_append_left _ member

end Took

end DsBench
