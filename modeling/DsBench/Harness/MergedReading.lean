import DsBench.Foundation.PythonValue

/-! # Reading merged output

`saturation.py`: the object found in what the coordinator printed, the gates that
decide whether its throughput counts, and the line printed for the harness. A result
is `none` where the script raises.
-/

namespace DsBench.Harness

/-! ## The last object of a text -/

/-- `json.loads`, kept when it returns a `dict`: the reader that all sides share, which takes
what the tools print. Python's own is in `LastObject`. -/
def loadsObject (text : Text) : Option Members :=
  match loads text with
  | some (.obj members) => some members
  | _ => none

def braceSpans : (opened : Option Text) → Text → List Text
  | _, [] => []
  | none, character :: rest =>
      if character = '{' then braceSpans (some [character]) rest else braceSpans none rest
  | some span, character :: rest =>
      if character = '}' then (span ++ [character]) :: braceSpans none rest
      else braceSpans (some (span ++ [character])) rest

def lastJsonObject (text : Text) : Option Members :=
  match loadsObject text with
  | some members => some members
  | none =>
      match (braceSpans none text).reverse.findSome? loadsObject with
      | some members => some members
      | none => loadsObject (text.dropWhile fun character => character ≠ '{')

def extractMerged (merged : Option Text) : Option Members := merged.bind lastJsonObject

/-! ## The gates -/

/-- A verdict that is absent counts as aligned. -/
def windowsAligned (obj : Members) : Bool :=
  ((obj.get "windows_aligned".toList).getD (.bool true)).truthy

/-- Without an expectation or a count the fleet passes as complete. -/
def fleetComplete (obj : Members) (expectPods : Option Nat) : Option Bool :=
  match expectPods with
  | none => some true
  | some 0 => some true
  | some expected =>
      match obj.get "pods_reported".toList with
      | none => some true
      | some .null => some true
      | some reported => reported.asPyNumber.map fun count => decide ((expected : ℚ) ≤ count)

def throughputField (obj : Members) : Option ℚ :=
  match obj.get "aggregate_ops_per_sec".toList with
  | some value => value.pyFloat
  | none =>
      match obj.get "aggregate_events_per_sec".toList with
      | some value => value.pyFloat
      | none => some 0

def extractThroughput (merged : Option Text) (expectPods : Option Nat) : Option ℚ :=
  match extractMerged merged with
  | none => some 0
  | some obj =>
      if windowsAligned obj = false then some 0
      else
        match fleetComplete obj expectPods with
        | none => none
        | some false => some 0
        | some true => throughputField obj

/-- What `extractThroughput` accepts as a measurement of so many pods. -/
def Accepts (merged : Option Text) (expectPods : Option Nat) : Prop :=
  ∃ obj, extractMerged merged = some obj ∧ windowsAligned obj = true ∧
    fleetComplete obj expectPods = some true

theorem accepts_iff {merged : Option Text} {expectPods : Option Nat} :
    Accepts merged expectPods ↔ (extractMerged merged).any fun obj =>
      windowsAligned obj && fleetComplete obj expectPods == some true := by
  rw [Accepts]
  cases extractMerged merged with
  | none => simp
  | some obj => simp

instance (merged : Option Text) (expectPods : Option Nat) :
    Decidable (Accepts merged expectPods) :=
  decidable_of_iff _ accepts_iff.symm

theorem extractThroughput_of_accepts {merged : Option Text} {expectPods : Option Nat}
    {obj : Members} (found : extractMerged merged = some obj)
    (aligned : windowsAligned obj = true)
    (complete : fleetComplete obj expectPods = some true) :
    extractThroughput merged expectPods = throughputField obj := by
  simp [extractThroughput, found, aligned, complete]

theorem accepts_of_throughput_pos {merged : Option Text} {expectPods : Option Nat}
    {thr : ℚ} (read : extractThroughput merged expectPods = some thr)
    (positive : 0 < thr) : Accepts merged expectPods := by
  rw [extractThroughput] at read
  cases found : extractMerged merged with
  | none =>
      simp only [found, Option.some.injEq] at read
      exact absurd positive (by simp [← read])
  | some obj =>
      simp only [found] at read
      split at read
      · rw [← Option.some.inj read] at positive
        exact absurd positive (lt_irrefl 0)
      · rename_i aligned
        split at read
        · cases read
        · rw [← Option.some.inj read] at positive
          exact absurd positive (lt_irrefl 0)
        · rename_i complete
          exact ⟨obj, found, by simpa using aligned, complete⟩

/-! ## The printed line -/

inductive Classification where
  | cpu
  | plateau
  | headroom
deriving DecidableEq, Repr

def Classification.print : Classification → Text
  | .cpu => "cpu".toList
  | .plateau => "plateau".toList
  | .headroom => "headroom".toList

def classify (prevThr thr cpuPct cores : ℚ) : Classification :=
  if 9 / 10 * cores * 100 ≤ cpuPct then .cpu
  else if prevThr > 0 ∧ (thr - prevThr) / prevThr < 1 / 10 then .plateau
  else .headroom

/-- A latency of the object as it is printed; absent prints as `None`. -/
def printLatency (obj : Option Members) (key : String) : Text :=
  ((obj.bind fun members => members.get key.toList).getD .null).pyStr

/-- The line `saturation.py` prints, without its newline. -/
def saturationLine (merged : Option Text) (prevThr cpu cores : ℚ)
    (expectPods : Option Nat) : Option Text :=
  (extractThroughput merged expectPods).map fun thr =>
    let obj := extractMerged merged
    let aligned := (obj.map windowsAligned).getD true
    (classify prevThr thr cpu cores).print ++ ' ' :: (printFloat thr ++
      ' ' :: ((if aligned then ['1'] else ['0']) ++
        ' ' :: (printLatency obj "p50_ms" ++ ' ' :: printLatency obj "p99_ms")))

/-! ## A flat object after a log -/

def ClosesOnce (text : Text) : Prop :=
  ∃ body, text = '{' :: (body ++ ['}']) ∧ '}' ∉ body

theorem braceSpans_log {log : Text} (noBrace : '{' ∉ log) (rest : Text) :
    braceSpans none (log ++ rest) = braceSpans none rest := by
  induction log with
  | nil => rfl
  | cons first log induction =>
      simp only [List.mem_cons, not_or] at noBrace
      have other : first ≠ '{' := fun equal => noBrace.1 equal.symm
      rw [List.cons_append, braceSpans, if_neg other, induction noBrace.2]

theorem braceSpans_body {body : Text} (closed : '}' ∉ body) (span rest : Text) :
    braceSpans (some span) (body ++ '}' :: rest) =
      (span ++ (body ++ ['}'])) :: braceSpans none rest := by
  induction body generalizing span with
  | nil => simp [braceSpans]
  | cons first body induction =>
      simp only [List.mem_cons, not_or] at closed
      have other : first ≠ '}' := fun equal => closed.1 equal.symm
      rw [List.cons_append, braceSpans, if_neg other, induction closed.2]
      simp

theorem not_mem_of_blank {blanks : Text} {mark : Char} (visible : isBlank mark = false)
    (blank : blanks.all isBlank = true) : mark ∉ blanks := by
  intro member
  have spoken := List.all_eq_true.mp blank mark member
  rw [visible] at spoken
  cases spoken

theorem braceSpans_eq {log text trailing : Text} (noBrace : '{' ∉ log)
    (once : ClosesOnce text) (blank : trailing.all isBlank = true) :
    braceSpans none (log ++ (text ++ trailing)) = [text] := by
  rcases once with ⟨body, rfl, closed⟩
  have after : braceSpans none trailing = [] := by
    have noBrace : '{' ∉ trailing := not_mem_of_blank rfl blank
    simpa [braceSpans] using braceSpans_log noBrace []
  rw [braceSpans_log noBrace, List.cons_append, braceSpans, if_pos rfl, List.append_assoc,
    List.singleton_append, braceSpans_body closed, after]
  rfl

theorem parseValue_obj {fuel : Nat} {text rest : Text} {members : Members}
    (read : parseValue fuel text = some (.obj members, rest)) :
    (skipBlank text).head? = some '{' := by
  cases fuel with
  | zero => simp [parseValue] at read
  | succ fuel =>
      rw [parseValue] at read
      split at read
      case h_5 =>
        split at read <;> simp at read
      all_goals simp_all

theorem loads_obj {text : Text} {members : Members}
    (read : loads text = some (.obj members)) : (skipBlank text).head? = some '{' := by
  rw [loads] at read
  split at read
  · rename_i value rest parsed
    split at read
    · rw [Option.some.inj read] at parsed
      exact parseValue_obj parsed
    · cases read
  · cases read

theorem skipBlank_log {log : Text} (visible : log.all isBlank = false) (rest : Text) :
    ∃ first ∈ log, (skipBlank (log ++ rest)).head? = some first := by
  induction log with
  | nil => cases visible
  | cons first log induction =>
      cases blank : isBlank first with
      | false => exact ⟨first, by simp, by rw [List.cons_append, skipBlank_cons blank]; rfl⟩
      | true =>
          rw [List.all_cons, blank, Bool.true_and] at visible
          rcases induction visible with ⟨other, member, head⟩
          refine ⟨other, by simp [member], ?_⟩
          rw [← List.singleton_append, List.append_assoc,
            skipBlank_append (by simp [blank]), head]

/-- The object printed after a log without braces is the one found, when no brace
inside it closes before its end. -/
theorem lastJsonObject_after_log {layout : Layout} {members : Members} {log trailing : Text}
    (noBrace : '{' ∉ log) (once : ClosesOnce ((Json.obj members).render layout 0))
    (blank : trailing.all isBlank = true) :
    lastJsonObject (log ++ ((Json.obj members).render layout 0 ++ trailing)) =
      some members := by
  have alone : loadsObject ((Json.obj members).render layout 0) = some members := by
    rw [loadsObject, loads_render_alone]
  cases logBlank : log.all isBlank with
  | true =>
      have read := loads_render layout 0 (.obj members) logBlank blank
      rw [lastJsonObject, loadsObject, read]
  | false =>
      have notWhole : loadsObject (log ++ ((Json.obj members).render layout 0 ++ trailing)) =
          none := by
        rw [loadsObject]
        split
        · rename_i found read
          rcases skipBlank_log logBlank _ with ⟨first, member, head⟩
          rw [loads_obj read, Option.some.injEq] at head
          exact absurd (head ▸ member) noBrace
        · rfl
      rw [lastJsonObject, notWhole]
      simp [braceSpans_eq noBrace once blank, alone]

/-! ## Objects without braces inside -/

def BraceFree (layout : Layout) (value : Json) : Prop :=
  ∀ depth, '}' ∉ value.render layout depth

theorem braceFree_num (layout : Layout) (number : Number) :
    BraceFree layout (.num number) := by
  intro depth member
  rw [Json.render] at member
  rcases mem_render_number member with digit | minus | point
  · cases digit
  · cases minus
  · cases point

theorem braceFree_bool (layout : Layout) (value : Bool) : BraceFree layout (.bool value) := by
  intro depth
  cases value <;> simp [Json.render]

theorem Members.render_flat {layout : Layout} {fields : List (Text × Option Json)}
    (keys : ∀ field ∈ fields, '}' ∉ layout.quote field.1)
    (values : ∀ field ∈ fields, ∀ value, field.2 = some value → BraceFree layout value)
    (depth : Nat) : ∃ body, (Members.ofFields fields).render layout depth = body ++ ['}'] ∧
      '}' ∉ body := by
  induction fields with
  | nil =>
      exact ⟨layout.closing depth, rfl, not_mem_of_blank rfl (layout.closingBlank depth)⟩
  | cons field fields induction =>
      rcases field with ⟨key, value⟩
      have rest := induction (fun other member => keys other (by simp [member]))
        (fun other member => values other (by simp [member]))
      cases value with
      | none => exact rest
      | some value =>
          rcases rest with ⟨body, shape, closed⟩
          have keyFree := keys (key, some value) (by simp)
          have valueFree := values (key, some value) (by simp) value rfl (depth + 1)
          have between : '}' ∉ layout.between depth :=
            not_mem_of_blank rfl (layout.betweenBlank depth)
          have colon : '}' ∉ layout.afterColon := not_mem_of_blank rfl layout.colonBlank
          refine ⟨',' :: (layout.between depth ++ (layout.quote key ++ ':' ::
            (layout.afterColon ++ (value.render layout (depth + 1) ++ body)))), ?_, ?_⟩
          · rw [Members.ofFields_cons_some, Members.render, shape]
            simp
          · simp [between, keyFree, colon, valueFree, closed]

theorem closesOnce_of_flat {layout : Layout} {fields : List (Text × Option Json)}
    (keys : ∀ field ∈ fields, '}' ∉ layout.quote field.1)
    (values : ∀ field ∈ fields, ∀ value, field.2 = some value → BraceFree layout value) :
    ClosesOnce ((Json.obj (.ofFields fields)).render layout 0) := by
  induction fields with
  | nil => exact ⟨[], rfl, by simp⟩
  | cons field fields induction =>
      rcases field with ⟨key, value⟩
      have laterKeys := fun other member =>
        keys other (List.mem_cons_of_mem (key, value) member)
      have laterValues := fun other member =>
        values other (List.mem_cons_of_mem (key, value) member)
      cases value with
      | none => exact induction laterKeys laterValues
      | some value =>
          rcases Members.render_flat laterKeys laterValues 0 with ⟨body, shape, closed⟩
          have keyFree := keys (key, some value) (by simp)
          have valueFree := values (key, some value) (by simp) value rfl 1
          have opening : '}' ∉ layout.opening 0 := not_mem_of_blank rfl (layout.openingBlank 0)
          have colon : '}' ∉ layout.afterColon := not_mem_of_blank rfl layout.colonBlank
          refine ⟨layout.opening 0 ++ (layout.quote key ++ ':' :: (layout.afterColon ++
            (value.render layout 1 ++ body))), ?_, ?_⟩
          · rw [Members.ofFields_cons_some, Json.render, shape]
            simp
          · simp [opening, keyFree, colon, valueFree, closed]

end DsBench.Harness
