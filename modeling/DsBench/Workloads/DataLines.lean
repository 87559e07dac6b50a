import DsBench.Workloads.TimestampCodec

/-! # The data lines of an event

What `parse_sse_data` makes of the data lines: it joins them with line feeds, but those at
the front that carry nothing leave no trace.
-/

namespace DsBench.Workloads

theorem intercalate_append_cons (front content : Bytes) (contents : List Bytes) :
    [lineFeed].intercalate ((front ++ content) :: contents) =
      front ++ [lineFeed].intercalate (content :: contents) := by
  cases contents with
  | nil => simp
  | cons next contents => simp [List.intercalate_cons_cons]

theorem foldl_joinData_of_ne_nil (contents : List Bytes) {payload : Bytes}
    (nonempty : payload ≠ []) :
    contents.foldl joinData payload = [lineFeed].intercalate (payload :: contents) := by
  induction contents generalizing payload with
  | nil => rw [List.foldl_nil, List.intercalate_singleton]
  | cons content contents induction =>
      have longer : payload ++ lineFeed :: content ≠ [] := by simp
      have joined := intercalate_append_cons (payload ++ [lineFeed]) content contents
      rw [List.append_assoc, List.singleton_append] at joined
      rw [List.foldl_cons, joinData, if_neg nonempty, induction longer, joined,
        List.intercalate_cons_cons]

theorem foldl_joinData (contents : List Bytes) :
    contents.foldl joinData [] = [lineFeed].intercalate (contents.dropWhile List.isEmpty) := by
  induction contents with
  | nil => rfl
  | cons content contents induction =>
      rw [List.foldl_cons, joinData, if_pos rfl, List.dropWhile_cons]
      cases content with
      | nil => exact induction
      | cons byte content => exact foldl_joinData_of_ne_nil contents (List.cons_ne_nil _ _)

theorem length_intercalate_dropWhile_le (contents : List Bytes) :
    ([lineFeed].intercalate (contents.dropWhile List.isEmpty)).length ≤
      ([lineFeed].intercalate contents).length := by
  induction contents with
  | nil => exact le_refl _
  | cons content contents induction =>
      rw [List.dropWhile_cons]
      cases content with
      | nil =>
          apply induction.trans
          by_cases last : contents = []
          · rw [last]
            exact Nat.zero_le _
          · rw [List.intercalate_cons_of_ne_nil last, List.length_append]
            exact Nat.le_add_left _ _
      | cons byte content => exact le_refl _

theorem intercalate_dropWhile_eq_iff {contents : List Bytes}
    (carries : ∃ content ∈ contents, content ≠ []) :
    [lineFeed].intercalate (contents.dropWhile List.isEmpty) =
        [lineFeed].intercalate contents ↔ contents.head? ≠ some [] := by
  cases contents with
  | nil =>
      rcases carries with ⟨content, member, -⟩
      cases member
  | cons first rest =>
      rw [List.dropWhile_cons, List.head?_cons, Ne, Option.some.injEq]
      cases first with
      | cons byte first => simp
      | nil =>
          -- A line with content follows, so joining puts a line feed in front of it.
          have follows : rest ≠ [] := by
            intro none_follow
            rcases carries with ⟨content, member, nonempty⟩
            rw [none_follow, List.mem_singleton] at member
            exact nonempty member
          have shorter := length_intercalate_dropWhile_le rest
          constructor
          · intro equal
            have lengths := congrArg List.length equal
            rw [List.intercalate_cons_of_ne_nil follows] at lengths
            simp only [List.isEmpty_nil, if_true, List.length_append, List.length_nil,
              List.length_singleton] at lengths
            omega
          · intro different
            exact (different rfl).elim

/-- No data line without a blank after the colon begins with one. -/
def EventFrame.Unspaced (frame : EventFrame) : Prop :=
  ∀ content, EventLine.data false content ∈ frame.lines → content.head? ≠ some 32

theorem taken_of_unspaced {frame : EventFrame} (unspaced : frame.Unspaced) :
    frame.lines.filterMap EventLine.taken = frame.contents := by
  apply List.filterMap_congr
  intro line member
  cases line with
  | other text noData => rfl
  | data blank content =>
      cases blank with
      | true => rfl
      | false =>
          have noBlank := unspaced content member
          have notPrefixed : (ascii " ").isPrefixOf content = false := by
            cases content with
            | nil => rfl
            | cons byte content =>
                rw [Bool.eq_false_iff]
                intro prefixed
                have same :=
                  (List.cons_prefix_cons.mp (List.isPrefixOf_iff_prefix.mp prefixed)).1
                apply noBlank
                rw [← same]
                rfl
          rw [EventLine.taken, notPrefixed]
          rfl

theorem parseSseData_contents {frame : EventFrame} (unspaced : frame.Unspaced)
    (carries : ∃ content ∈ frame.contents, content ≠ []) :
    parseSseData frame.text =
      some ([lineFeed].intercalate (frame.contents.dropWhile List.isEmpty)) := by
  rw [parseSseData_text, taken_of_unspaced unspaced, foldl_joinData]
  apply if_neg
  cases kept : frame.contents.dropWhile List.isEmpty with
  | nil =>
      rw [List.dropWhile_eq_nil_iff] at kept
      rcases carries with ⟨content, member, nonempty⟩
      exact absurd (List.isEmpty_iff.mp (kept content member)) nonempty
  | cons first rest =>
      have stops := List.head?_dropWhile_not List.isEmpty frame.contents
      rw [kept] at stops
      cases first with
      | nil => cases stops
      | cons byte first =>
          have joined := intercalate_append_cons [byte] first rest
          rw [List.singleton_append] at joined
          rw [joined]
          exact List.cons_ne_nil byte _

/-- The parser gives back the lines joined by line feeds exactly where the first of them is
not empty; otherwise the empty lines at the front are lost. -/
theorem data_lines_joined_iff (frame : EventFrame) (unspaced : frame.Unspaced)
    (carries : ∃ content ∈ frame.contents, content ≠ []) :
    parseSseData frame.text = some ([lineFeed].intercalate frame.contents) ↔
      frame.contents.head? ≠ some [] := by
  rw [parseSseData_contents unspaced carries, Option.some.injEq]
  exact intercalate_dropWhile_eq_iff carries

def gapFrame : EventFrame where
  lines :=
    [.data true (ascii "a"), .other (ascii "id: 7") rfl, .data false [],
      .data false (ascii "b")]
  oneLine := by decide +kernel

theorem data_lines_joined_gap :
    parseSseData gapFrame.text = some ([lineFeed].intercalate gapFrame.contents) := by
  have unspaced : gapFrame.Unspaced := by
    intro content member
    simp only [gapFrame, List.mem_cons, EventLine.data.injEq, reduceCtorEq,
      List.not_mem_nil, false_or, or_false, Bool.false_eq_true, false_and, true_and] at member
    rcases member with empty | letter
    · rw [empty]
      decide
    · rw [letter]
      decide
  apply (data_lines_joined_iff gapFrame unspaced ⟨ascii "a", List.mem_cons_self, ?_⟩).mpr
  · decide
  · decide

def leadingGapFrame : EventFrame where
  lines := [.data false [], .data true (ascii "a")]
  oneLine := by decide +kernel

/-- The line feed behind the first line is lost. -/
theorem leading_line_lost :
    leadingGapFrame.Unspaced ∧ leadingGapFrame.contents = [[], ascii "a"] ∧
      leadingGapFrame.text = ascii "data:\ndata: a\n\n" ∧
      parseSseData leadingGapFrame.text = some (ascii "a") ∧
      some ([lineFeed].intercalate leadingGapFrame.contents) = some (ascii "\na") ∧
      parseSseData leadingGapFrame.text ≠
        some ([lineFeed].intercalate leadingGapFrame.contents) := by
  have unspaced : leadingGapFrame.Unspaced := by
    intro content member
    simp only [leadingGapFrame, List.mem_cons, EventLine.data.injEq, List.not_mem_nil,
      or_false, Bool.false_eq_true, false_and, true_and] at member
    rw [member]
    decide
  have read : parseSseData leadingGapFrame.text = some (ascii "a") := by
    rw [parseSseData_contents unspaced ⟨ascii "a", by decide, by decide⟩]
    rfl
  have joined : [lineFeed].intercalate leadingGapFrame.contents = ascii "\na" := rfl
  refine ⟨unspaced, rfl, rfl, read, congrArg some joined, ?_⟩
  rw [read, joined]
  decide

end DsBench.Workloads
