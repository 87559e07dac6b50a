import Mathlib.Data.List.Basic

/-! # Scans that stop at the first verdict

A scan observes items one after another and consults a rule on everything seen so
far. It ends at the first prefix on which the rule has a verdict, or with the items.
-/

namespace DsBench

variable {Item Observation Verdict : Type*}

/-- Observe items until the observations so far settle the matter. An observation
may depend on how many came before it. -/
def scanUntil (observe : Nat → Item → Observation)
    (rule : List Observation → Option Verdict) :
    List Observation → List Item → List Observation × Option Verdict
  | seen, [] => (seen, none)
  | seen, item :: rest =>
      let seen := seen ++ [observe seen.length item]
      match rule seen with
      | some verdict => (seen, some verdict)
      | none => scanUntil observe rule seen rest

def observeAll (observe : Nat → Item → Observation) (start : Nat) :
    List Item → List Observation
  | [] => []
  | item :: rest => observe start item :: observeAll observe (start + 1) rest

@[simp] theorem length_observeAll (observe : Nat → Item → Observation)
    (start : Nat) (items : List Item) :
    (observeAll observe start items).length = items.length := by
  induction items generalizing start with
  | nil => rfl
  | cons item rest induction => simp [observeAll, induction]

theorem getElem?_observeAll (observe : Nat → Item → Observation) (start : Nat)
    (items : List Item) (index : Nat) :
    (observeAll observe start items)[index]? =
      items[index]?.map (observe (start + index)) := by
  induction items generalizing start index with
  | nil => simp [observeAll]
  | cons item rest induction =>
      cases index with
      | zero => simp [observeAll]
      | succ index =>
          rw [observeAll, List.getElem?_cons_succ, List.getElem?_cons_succ, induction]
          congr 2
          omega

/-- What a scan saw and how it ended: a prefix of the possible observations, the
rule silent on every shorter prefix past the starting one, and either its verdict on
this one or the items used up. -/
structure ScanOutcome (rule : List Observation → Option Verdict)
    (seen possible : List Observation) (outcome : List Observation × Option Verdict) :
    Prop where
  observed : ∃ taken ≤ possible.length, outcome.1 = seen ++ possible.take taken
  silent_before : ∀ count, seen.length < count → count < outcome.1.length →
    rule (outcome.1.take count) = none
  verdict : ∀ verdict, outcome.2 = some verdict →
    seen.length < outcome.1.length ∧ rule outcome.1 = some verdict
  exhausted : outcome.2 = none → outcome.1 = seen ++ possible ∧
    (possible ≠ [] → rule outcome.1 = none)

theorem scanUntil_outcome (observe : Nat → Item → Observation)
    (rule : List Observation → Option Verdict) (seen : List Observation)
    (items : List Item) :
    ScanOutcome rule seen (observeAll observe seen.length items)
      (scanUntil observe rule seen items) := by
  induction items generalizing seen with
  | nil =>
      exact {
        observed := ⟨0, by simp, by simp [scanUntil]⟩
        silent_before := by
          intro count above below
          simp only [scanUntil] at below
          omega
        verdict := by simp [scanUntil]
        exhausted := by simp [scanUntil, observeAll]
      }
  | cons item rest induction =>
      have longer : (seen ++ [observe seen.length item]).length = seen.length + 1 := by
        simp
      simp only [scanUntil]
      cases spoken : rule (seen ++ [observe seen.length item]) with
      | some verdict =>
          exact {
            observed := ⟨1, by simp, by simp [observeAll]⟩
            silent_before := by
              intro count above below
              simp only [longer] at below
              omega
            verdict := by
              intro other equal
              cases equal
              exact ⟨by simp, spoken⟩
            exhausted := by simp
          }
      | none =>
          dsimp only
          have later := induction (seen ++ [observe seen.length item])
          rw [longer] at later
          rcases later.observed with ⟨taken, bound, equal⟩
          exact {
            observed := by
              refine ⟨taken + 1, by simpa [observeAll] using bound, ?_⟩
              rw [equal]
              simp [observeAll]
            silent_before := by
              intro count above below
              by_cases here : count = seen.length + 1
              · rw [equal, here, ← longer, List.take_left]
                exact spoken
              · exact later.silent_before count (by omega) below
            verdict := by
              intro verdict spoken
              rcases later.verdict verdict spoken with ⟨grew, decided⟩
              exact ⟨by omega, decided⟩
            exhausted := by
              intro ended
              rcases later.exhausted ended with ⟨all, atEnd⟩
              refine ⟨by rw [all]; simp [observeAll], fun _ => ?_⟩
              by_cases more : observeAll observe (seen.length + 1) rest = []
              · rw [all, more, List.append_nil]
                exact spoken
              · exact atEnd more
          }

/-! ## Where two scans stop -/

/-- A scan of so many items that goes on as long as it is told to ends at this one. -/
structure StopsAt (goesOn : Nat → Prop) (length stop : Nat) : Prop where
  within : stop < length
  before : ∀ index < stop, goesOn index
  atEnd : goesOn stop → stop + 1 = length

theorem StopsAt.le_of_weaker {goesOn longer : Nat → Prop} {length stop later : Nat}
    (short : StopsAt goesOn length stop) (long : StopsAt longer length later)
    (weaker : ∀ index, goesOn index → longer index) : stop ≤ later := by
  by_contra before
  have goes := short.before later (by omega)
  have ended := long.atEnd (weaker later goes)
  have bound := short.within
  omega

end DsBench
