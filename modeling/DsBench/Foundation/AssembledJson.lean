import DsBench.Foundation.JsonRendering

/-! # JSON assembled from printed pieces

A shell script writes brackets, keys and commas itself and leaves the values to the
programs it calls. Each of them has its own layout and may end in a line feed.
-/

namespace DsBench

structure Piece where
  body : Text
  trailing : Text
  value : Json
  opens : ∃ first tail, body = first :: tail ∧ OpensValue first
  reads : ∀ fuel rest, body.length ≤ fuel → StopsNumber rest →
    parseValue fuel (body ++ rest) = some (value, rest)
  blank : trailing.all isBlank = true

namespace Piece

def text (piece : Piece) : Text := piece.body ++ piece.trailing

def rendered (layout : Layout) (value : Json) (trailing : Text)
    (blank : trailing.all isBlank = true) : Piece where
  body := value.render layout 0
  trailing := trailing
  value := value
  opens := value.render_head layout 0
  reads fuel rest enough stops :=
    (reads_rendering layout fuel).1 0 value rest
      ((value.weight_le_length layout 0).trans enough) stops
  blank := blank

/-! ## The assembled text -/

def itemsAfter : List Piece → Text
  | [] => [']']
  | piece :: rest => ',' :: (piece.text ++ itemsAfter rest)

def arrayText : List Piece → Text
  | [] => ['[', ']']
  | piece :: rest => '[' :: (piece.text ++ itemsAfter rest)

variable (layout : Layout)

def membersAfter : List (Text × Piece) → Text
  | [] => ['}']
  | (key, piece) :: rest =>
      ',' :: (layout.quote key ++ ':' :: (piece.text ++ membersAfter rest))

def objectText : List (Text × Piece) → Text
  | [] => ['{', '}']
  | (key, piece) :: rest =>
      '{' :: (layout.quote key ++ ':' :: (piece.text ++ membersAfter layout rest))

def itemsValue (pieces : List Piece) : Items := .ofList (pieces.map value)

def membersValue (fields : List (Text × Piece)) : Members :=
  .ofList (fields.map fun field => (field.1, field.2.value))

/-! ## Reading it back -/

variable {layout}

theorem reads_text (piece : Piece) {fuel : Nat} {rest : Text}
    (enough : piece.text.length ≤ fuel) (stops : StopsNumber rest) :
    ∃ left, skipBlank left = skipBlank rest ∧
      parseValue fuel (piece.text ++ rest) = some (piece.value, left) := by
  refine ⟨piece.trailing ++ rest, skipBlank_append piece.blank rest, ?_⟩
  rw [text, List.append_assoc]
  apply piece.reads
  · rw [text, List.length_append] at enough
    omega
  · exact stopsNumber_blank piece.blank stops

theorem stopsNumber_itemsAfter (pieces : List Piece) (rest : Text) :
    StopsNumber (itemsAfter pieces ++ rest) := by
  cases pieces with
  | nil => simp [itemsAfter]
  | cons piece pieces => simp [itemsAfter]

theorem stopsNumber_membersAfter (layout : Layout) (fields : List (Text × Piece))
    (rest : Text) : StopsNumber (membersAfter layout fields ++ rest) := by
  cases fields with
  | nil => simp [membersAfter]
  | cons field fields => simp [membersAfter]

theorem parseItems_assembled (piece : Piece) (pieces : List Piece) {fuel : Nat} (rest : Text)
    (enough : (piece.text ++ itemsAfter pieces).length ≤ fuel) :
    parseItems fuel (piece.text ++ (itemsAfter pieces ++ rest)) =
      some (itemsValue (piece :: pieces), rest) := by
  induction pieces generalizing piece fuel with
  | nil =>
      cases fuel with
      | zero => simp [itemsAfter] at enough
      | succ fuel =>
          have short : piece.text.length ≤ fuel := by
            simp only [itemsAfter, List.length_append, List.length_singleton] at enough
            omega
          rcases piece.reads_text short (stopsNumber_itemsAfter [] rest) with
            ⟨left, same, read⟩
          have closes : skipBlank left = ']' :: rest := by
            rw [same]
            exact skipBlank_cons rfl rest
          rw [parseItems, read]
          simp [closes, itemsValue, Items.ofList]
  | cons next pieces induction =>
      cases fuel with
      | zero => simp [itemsAfter] at enough
      | succ fuel =>
          simp only [itemsAfter, List.length_append, List.length_cons] at enough
          have short : piece.text.length ≤ fuel := by omega
          have shortTail : (next.text ++ itemsAfter pieces).length ≤ fuel := by
            rw [List.length_append]
            omega
          rcases piece.reads_text short (stopsNumber_itemsAfter (next :: pieces) rest) with
            ⟨left, same, read⟩
          have continues : skipBlank left =
              ',' :: (next.text ++ (itemsAfter pieces ++ rest)) := by
            rw [same, itemsAfter, List.cons_append, List.append_assoc]
            exact skipBlank_cons rfl _
          rw [parseItems, read]
          simp [continues, induction next shortTail, itemsValue, Items.ofList]

theorem parseMembers_assembled (key : Text) (piece : Piece) (fields : List (Text × Piece))
    {fuel : Nat} (rest : Text)
    (enough : (piece.text ++ membersAfter layout fields).length < fuel) :
    parseMembers fuel
        (layout.quote key ++ ':' :: (piece.text ++ (membersAfter layout fields ++ rest))) =
      some (membersValue ((key, piece) :: fields), rest) := by
  induction fields generalizing key piece fuel with
  | nil =>
      cases fuel with
      | zero => simp at enough
      | succ fuel =>
          rw [List.length_append] at enough
          have short : piece.text.length ≤ fuel := by omega
          have readsKey := layout.parseString_quote key
            (':' :: (piece.text ++ (membersAfter layout [] ++ rest)))
          rcases piece.reads_text short (stopsNumber_membersAfter layout [] rest) with
            ⟨left, same, read⟩
          have closes : skipBlank left = '}' :: rest := by
            rw [same]
            exact skipBlank_cons rfl rest
          rw [Layout.quote, List.cons_append, List.append_assoc, List.singleton_append]
          rw [parseMembers]
          rw [skipBlank_cons rfl]
          simp only [readsKey]
          simp [skipBlank_cons, isBlank, read, closes, membersValue, Members.ofList]
  | cons field fields induction =>
      rcases field with ⟨nextKey, next⟩
      cases fuel with
      | zero => simp at enough
      | succ fuel =>
          simp only [membersAfter, List.length_append, List.length_cons] at enough
          have readsKey := layout.parseString_quote key
            (':' :: (piece.text ++ (membersAfter layout ((nextKey, next) :: fields) ++ rest)))
          have short : piece.text.length ≤ fuel := by omega
          have shortTail : (next.text ++ membersAfter layout fields).length < fuel := by
            rw [List.length_append]
            omega
          rcases piece.reads_text short
            (stopsNumber_membersAfter layout ((nextKey, next) :: fields) rest) with
            ⟨left, same, read⟩
          have continues : skipBlank left = ',' :: (layout.quote nextKey ++
              ':' :: (next.text ++ (membersAfter layout fields ++ rest))) := by
            rw [same]
            simp only [membersAfter, List.cons_append, List.append_assoc]
            exact skipBlank_cons rfl _
          rw [Layout.quote, List.cons_append, List.append_assoc, List.singleton_append]
          rw [parseMembers]
          rw [skipBlank_cons rfl]
          simp only [readsKey]
          simp [skipBlank_cons, isBlank, read, continues, induction nextKey next shortTail,
            membersValue, Members.ofList]

/-- An array of pieces between brackets. -/
def array (pieces : List Piece) : Piece where
  body := arrayText pieces
  trailing := []
  value := .arr (itemsValue pieces)
  opens := by
    cases pieces with
    | nil => exact ⟨'[', _, rfl, rfl, by decide⟩
    | cons piece pieces => exact ⟨'[', _, rfl, rfl, by decide⟩
  reads := by
    intro fuel rest enough stops
    cases fuel with
    | zero => cases pieces <;> simp [arrayText] at enough
    | succ fuel =>
        cases pieces with
        | nil =>
            simp [arrayText, parseValue, skipBlank, isBlank, itemsValue, Items.ofList]
        | cons piece pieces =>
            rw [arrayText, List.length_cons] at enough
            have items :=
              parseItems_assembled piece pieces rest (Nat.le_of_succ_le_succ enough)
            rcases piece.opens with ⟨first, others, shape, opens⟩
            have notClosed : skipBlank (piece.text ++ (itemsAfter pieces ++ rest)) =
                first :: (others ++ piece.trailing ++ (itemsAfter pieces ++ rest)) := by
              rw [text, shape, List.cons_append, List.cons_append, skipBlank_cons opens.1]
            simp only [arrayText, List.cons_append, List.append_assoc]
            rw [parseValue]
            rw [skipBlank_cons rfl]
            simp only [notClosed, items]
            split
            · rename_i closed
              exact absurd (List.cons.inj closed).1 opens.2
            · rfl
  blank := rfl

/-- An object of pieces under keys. -/
def object (layout : Layout) (fields : List (Text × Piece)) : Piece where
  body := objectText layout fields
  trailing := []
  value := .obj (membersValue fields)
  opens := by
    cases fields with
    | nil => exact ⟨'{', _, rfl, rfl, by decide⟩
    | cons field fields => exact ⟨'{', _, rfl, rfl, by decide⟩
  reads := by
    intro fuel rest enough stops
    cases fuel with
    | zero => cases fields <;> simp [objectText] at enough
    | succ fuel =>
        cases fields with
        | nil =>
            simp [objectText, parseValue, skipBlank, isBlank, membersValue, Members.ofList]
        | cons field fields =>
            rcases field with ⟨key, piece⟩
            simp only [objectText, List.length_cons, List.length_append] at enough
            have short : (piece.text ++ membersAfter layout fields).length < fuel := by
              rw [List.length_append]
              omega
            have members := parseMembers_assembled key piece fields rest short
            simp only [objectText, List.cons_append, List.append_assoc]
            rw [parseValue]
            rw [skipBlank_cons rfl]
            simp only [members]
            rw [Layout.quote, List.cons_append, skipBlank_cons rfl]
            rfl
  blank := rfl

@[simp] theorem text_object (layout : Layout) (fields : List (Text × Piece)) :
    (object layout fields).text = objectText layout fields := List.append_nil _

theorem loads_text (piece : Piece) {blanks : Text} (blank : blanks.all isBlank = true) :
    loads (piece.text ++ blanks) = some piece.value := by
  have stops : StopsNumber blanks := by
    simpa using stopsNumber_blank blank stopsNumber_nil
  have enough : piece.text.length ≤ (piece.text ++ blanks).length + 1 := by
    rw [List.length_append]
    omega
  rcases piece.reads_text enough stops with ⟨left, same, read⟩
  have ends : skipBlank blanks = [] := by
    rw [← List.append_nil blanks, skipBlank_append blank]
    rfl
  rw [loads, read]
  simp [same, ends]

/-! ## A value that is missing -/

def Unreadable (text : Text) : Prop :=
  ∀ fuel, text.length ≤ fuel → parseMembers fuel text = none

theorem parseValue_mark {mark : Char} (marks : mark = ',' ∨ mark = ']') (fuel : Nat)
    (rest : Text) : parseValue fuel (mark :: rest) = none := by
  cases fuel with
  | zero => rfl
  | succ fuel =>
      rcases marks with comma | bracket
      · rw [comma, parseValue, skipBlank_cons rfl]
        simp [parseNumber, takeSign]
      · rw [bracket, parseValue, skipBlank_cons rfl]
        simp [parseNumber, takeSign]

theorem unreadable_comma (layout : Layout) (key rest : Text) :
    Unreadable (layout.quote key ++ ':' :: ',' :: rest) := by
  intro fuel _
  cases fuel with
  | zero => rfl
  | succ fuel =>
      have readsKey := layout.parseString_quote key (':' :: ',' :: rest)
      have noValue := parseValue_mark (.inl rfl : ',' = ',' ∨ ',' = ']') fuel rest
      rw [Layout.quote, List.cons_append, List.append_assoc, List.singleton_append]
      rw [parseMembers]
      rw [skipBlank_cons rfl]
      simp only [readsKey]
      simp [skipBlank_cons, isBlank, noValue]

theorem Unreadable.after (layout : Layout) (key : Text) (piece : Piece) {rest : Text}
    (broken : Unreadable rest) :
    Unreadable (layout.quote key ++ ':' :: (piece.text ++ ',' :: rest)) := by
  intro fuel enough
  cases fuel with
  | zero => rfl
  | succ fuel =>
      simp only [List.length_append, List.length_cons] at enough
      have readsKey := layout.parseString_quote key (':' :: (piece.text ++ ',' :: rest))
      have short : piece.text.length ≤ fuel := by omega
      rcases piece.reads_text short
        (by simp : StopsNumber (',' :: rest)) with ⟨left, same, read⟩
      have continues : skipBlank left = ',' :: rest := by
        rw [same]
        exact skipBlank_cons rfl rest
      have noTail : parseMembers fuel rest = none := broken fuel (by omega)
      rw [Layout.quote, List.cons_append, List.append_assoc, List.singleton_append]
      rw [parseMembers]
      rw [skipBlank_cons rfl]
      simp only [readsKey]
      simp [skipBlank_cons, isBlank, read, continues, noTail]

def UnreadableItems (text : Text) : Prop :=
  ∀ fuel, text.length ≤ fuel → parseItems fuel text = none

theorem unreadableItems_mark {mark : Char} (marks : mark = ',' ∨ mark = ']') (rest : Text) :
    UnreadableItems (mark :: rest) := by
  intro fuel _
  cases fuel with
  | zero => rfl
  | succ fuel =>
      rw [parseItems, parseValue_mark marks]
      rfl

theorem UnreadableItems.after (piece : Piece) {rest : Text} (broken : UnreadableItems rest) :
    UnreadableItems (piece.text ++ ',' :: rest) := by
  intro fuel enough
  cases fuel with
  | zero => rfl
  | succ fuel =>
      simp only [List.length_append, List.length_cons] at enough
      have short : piece.text.length ≤ fuel := by omega
      rcases piece.reads_text short (by simp : StopsNumber (',' :: rest)) with
        ⟨left, same, read⟩
      have continues : skipBlank left = ',' :: rest := by
        rw [same]
        exact skipBlank_cons rfl rest
      have noTail : parseItems fuel rest = none := broken fuel (by omega)
      rw [parseItems, read]
      simp [continues, noTail]

def joined (printed : List (Option Piece)) : Text :=
  List.intercalate [','] (printed.map fun piece => (piece.map text).getD [])

theorem joined_cons (piece next : Option Piece) (printed : List (Option Piece)) :
    joined (piece :: next :: printed) =
      (piece.map text).getD [] ++ ',' :: joined (next :: printed) := by
  rw [joined, List.map_cons, List.map_cons, List.intercalate_cons_cons, joined, List.map_cons]
  simp

theorem unreadableItems_joined {printed : List (Option Piece)} (gap : none ∈ printed)
    (rest : Text) : UnreadableItems (joined printed ++ ']' :: rest) := by
  induction printed with
  | nil => cases gap
  | cons piece printed induction =>
      cases printed with
      | nil =>
          rw [← List.mem_singleton.mp gap]
          exact unreadableItems_mark (.inr rfl) rest
      | cons next printed =>
          rw [joined_cons, List.append_assoc, List.cons_append]
          cases piece with
          | none => exact unreadableItems_mark (.inl rfl) _
          | some piece =>
              apply UnreadableItems.after
              apply induction
              rcases List.mem_cons.mp gap with here | later
              · cases here
              · exact later

theorem joined_opens (piece next : Option Piece) (printed : List (Option Piece)) (rest : Text) :
    ∃ first others, joined (piece :: next :: printed) ++ rest = first :: others ∧
      isBlank first = false ∧ first ≠ ']' := by
  rw [joined_cons]
  cases piece with
  | none => exact ⟨',', joined (next :: printed) ++ rest, rfl, rfl, by decide⟩
  | some piece =>
      rcases piece.opens with ⟨first, others, shape, opens⟩
      refine ⟨first, others ++ piece.trailing ++ ',' :: joined (next :: printed) ++ rest, ?_,
        opens⟩
      rw [Option.map_some, Option.getD_some, text, shape]
      simp

theorem unreadable_array (layout : Layout) (key : Text) {first : Char} {others : Text}
    (visible : isBlank first = false) (open_ : first ≠ ']')
    (broken : UnreadableItems (first :: others)) :
    Unreadable (layout.quote key ++ ':' :: '[' :: first :: others) := by
  intro fuel enough
  cases fuel with
  | zero => rfl
  | succ fuel =>
      have readsKey := layout.parseString_quote key (':' :: '[' :: first :: others)
      have noValue : parseValue fuel ('[' :: first :: others) = none := by
        cases fuel with
        | zero => rfl
        | succ fuel =>
            simp only [List.length_append, List.length_cons] at enough
            have noItems : parseItems fuel (first :: others) = none := by
              apply broken
              simp only [List.length_cons]
              omega
            rw [parseValue]
            rw [skipBlank_cons rfl]
            simp only
            rw [skipBlank_cons visible]
            split
            · rename_i closed
              exact (open_ (List.cons.inj closed).1).elim
            · rw [noItems]
              rfl
      rw [Layout.quote, List.cons_append, List.append_assoc, List.singleton_append]
      rw [parseMembers]
      rw [skipBlank_cons rfl]
      simp only [readsKey]
      simp [skipBlank_cons, isBlank, noValue]

theorem loads_unreadable {text : Text} (broken : Unreadable ('"' :: text)) :
    loads ('{' :: '"' :: text) = none := by
  have noMembers := broken (text.length + 2) (by simp)
  have noValue : parseValue (('{' :: '"' :: text).length + 1) ('{' :: '"' :: text) = none := by
    rw [parseValue]
    rw [skipBlank_cons rfl]
    simp only
    rw [skipBlank_cons rfl]
    simpa using noMembers
  rw [loads, noValue]

end Piece

end DsBench
