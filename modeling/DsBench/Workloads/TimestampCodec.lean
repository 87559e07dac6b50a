import DsBench.Foundation.Base64
import DsBench.Foundation.BoundedRuns
import DsBench.Workloads.SseUtil

/-! # The send time through an event

What a writer puts into a payload a subscriber gets out of the event that carries it, as
raw text or in base64.
-/

namespace DsBench.Workloads

/-! ## The scan for a run of digits -/

/-- Where the scan has seen the current run begin, after `seen`. -/
def runStart (seen : Bytes) : Option Nat :=
  let run := seen.rtakeWhile isHexDigit
  if run = [] then none else some (seen.length - run.length)

theorem getD_runStart (seen : Bytes) :
    (runStart seen).getD seen.length =
      seen.length - (seen.rtakeWhile isHexDigit).length := by
  rw [runStart]
  split
  · rename_i noRun
    rw [noRun]
    rfl
  · rfl

theorem rtakeWhile_concat_digit {seen : Bytes} {byte : UInt8}
    (digit : isHexDigit byte = true) :
    (seen ++ [byte]).rtakeWhile isHexDigit = seen.rtakeWhile isHexDigit ++ [byte] :=
  List.rtakeWhile_concat_pos isHexDigit seen byte digit

theorem runStart_concat_digit {seen : Bytes} {byte : UInt8} (digit : isHexDigit byte = true) :
    runStart (seen ++ [byte]) = some (seen.length - (seen.rtakeWhile isHexDigit).length) := by
  have run : (seen ++ [byte]).rtakeWhile isHexDigit =
      seen.rtakeWhile isHexDigit ++ [byte] := rtakeWhile_concat_digit digit
  rw [runStart]
  simp only [run, List.length_append, List.length_singleton]
  rw [if_neg (by simp)]
  congr 1
  omega

theorem runStart_concat_other {seen : Bytes} {byte : UInt8}
    (other : isHexDigit byte = false) : runStart (seen ++ [byte]) = none := by
  have run : (seen ++ [byte]).rtakeWhile isHexDigit = [] :=
    List.rtakeWhile_concat_neg isHexDigit seen byte (by simp [other])
  rw [runStart]
  simp only [run, if_true]

theorem length_rtakeWhile_le (seen : Bytes) :
    (seen.rtakeWhile isHexDigit).length ≤ seen.length :=
  (List.rtakeWhile_suffix isHexDigit seen).length_le

theorem extractFrom_free (payload seen front rest : Bytes)
    (free : RunFree isHexDigit 48 (seen ++ front)) :
    extractFrom payload (runStart seen) seen.length (front ++ rest) =
      extractFrom payload (runStart (seen ++ front)) (seen ++ front).length rest := by
  induction front generalizing seen with
  | nil => rw [List.append_nil, List.nil_append]
  | cons byte front induction =>
      have next : seen ++ byte :: front = (seen ++ [byte]) ++ front := by simp
      rw [next] at free ⊢
      rw [← induction (seen ++ [byte]) free, List.length_append, List.length_singleton]
      rw [List.cons_append, extractFrom]
      by_cases digit : isHexDigit byte = true
      · have short := (free.of_part (List.infix_append' [] (seen ++ [byte]) front)
          ).length_rtakeWhile
        rw [rtakeWhile_concat_digit digit, List.length_append, List.length_singleton] at short
        have bound := length_rtakeWhile_le seen
        rw [if_pos digit, getD_runStart, if_neg (by omega), runStart_concat_digit digit]
      · rw [Bool.not_eq_true] at digit
        rw [if_neg (by simp [digit]), runStart_concat_other digit]

theorem extractFrom_digits (payload seen digits rest : Bytes)
    (allDigits : ∀ byte ∈ digits, isHexDigit byte = true)
    (completes : (seen.rtakeWhile isHexDigit).length + digits.length = 48)
    (some_left : digits ≠ []) :
    extractFrom payload (runStart seen) seen.length (digits ++ rest) =
      u128FromHex ((payload.drop
        (seen.length - (seen.rtakeWhile isHexDigit).length + 16)).take 32) := by
  induction digits generalizing seen with
  | nil => exact (some_left rfl).elim
  | cons byte digits induction =>
      have digit := allDigits byte List.mem_cons_self
      have bound := length_rtakeWhile_le seen
      rw [List.length_cons] at completes
      rw [List.cons_append, extractFrom, if_pos digit, getD_runStart]
      simp only
      cases digits with
      | nil =>
          rw [List.length_nil] at completes
          rw [if_pos (by omega)]
      | cons next digits =>
          have longer : (seen ++ [byte]).rtakeWhile isHexDigit =
              seen.rtakeWhile isHexDigit ++ [byte] := rtakeWhile_concat_digit digit
          have onwards := induction (seen ++ [byte])
            (fun other member => allDigits other (List.mem_cons_of_mem _ member))
            (by
              rw [longer, List.length_append, List.length_singleton]
              omega)
            (List.cons_ne_nil _ _)
          rw [longer, runStart_concat_digit digit] at onwards
          simp only [List.length_append, List.length_singleton] at onwards
          rw [List.length_cons] at completes
          rw [if_neg (by omega), onwards]
          congr 4
          omega

/-- Before which the scan sees nothing: no long run, and no digit at the end. -/
def PassedOver (front : Bytes) : Prop :=
  RunFree isHexDigit 48 front ∧ ∀ last ∈ front.getLast?, isHexDigit last = false

theorem rtakeWhile_of_passedOver {front : Bytes} (passed : PassedOver front) :
    front.rtakeWhile isHexDigit = [] := by
  rw [List.rtakeWhile_eq_nil_iff]
  intro nonempty digit
  have other := passed.2 (front.getLast nonempty) (List.getLast_mem_getLast? nonempty)
  rw [digit] at other
  cases other

theorem extractSendNs_digits {front digits back : Bytes} (passed : PassedOver front)
    (allDigits : ∀ byte ∈ digits, isHexDigit byte = true) (length : digits.length = 48) :
    extractSendNs (front ++ (digits ++ back)) = u128FromHex (digits.drop 16) := by
  have noRun := rtakeWhile_of_passedOver passed
  have start : extractSendNs (front ++ (digits ++ back)) =
      extractFrom (front ++ (digits ++ back)) (runStart []) ([] : Bytes).length
        (front ++ (digits ++ back)) := rfl
  rw [start, extractFrom_free _ [] front _ (by simpa using passed.1), List.nil_append,
    extractFrom_digits _ front digits back allDigits (by rw [noRun, length]; rfl)
      (by
        intro none_left
        rw [none_left] at length
        cases length),
    noRun, List.length_nil, Nat.sub_zero]
  congr 1
  rw [← List.drop_drop, List.drop_left, List.drop_append_of_le_length (by omega),
    List.take_append_of_le_length (by rw [List.length_drop]; omega), List.take_of_length_le]
  rw [List.length_drop]
  omega

theorem extractSendNs_none {text : Bytes} (free : RunFree isHexDigit 48 text) :
    extractSendNs text = none := by
  have passes := extractFrom_free text [] text [] (by simpa using free)
  rw [List.append_nil] at passes
  exact passes

/-! ## The payload -/

theorem u128FromHex_hexFixed (ns : BitVec 128) :
    u128FromHex (hexFixed 32 ns.toNat) = some ns.toNat := by
  have fits : ns.toNat < 2 ^ 128 := ns.isLt
  have number : hexNumber (hexFixed 32 ns.toNat) = ns.toNat :=
    hexNumber_hexFixed (by norm_num at fits ⊢; exact fits)
  have nonempty : hexFixed 32 ns.toNat ≠ [] := by
    intro empty
    have length := length_hexFixed 32 ns.toNat
    rw [empty] at length
    cases length
  have digits : (hexFixed 32 ns.toNat).all isHexDigit = true :=
    List.all_eq_true.mpr isHexDigit_hexFixed
  rw [u128FromHex, number, if_pos ⟨nonempty, digits, fits⟩]

theorem buildPayload_eq (seq : UInt64) (ns : BitVec 128) {size : Nat} (large : 48 ≤ size) :
    ∃ filler, buildPayload seq ns size =
        hexFixed 16 seq.toNat ++ hexFixed 32 ns.toNat ++ filler ∧
      ∀ byte ∈ filler, byte = 32 ∨ byte = 46 := by
  have head : (payloadHead seq ns).length = 49 := by
    rw [payloadHead, List.length_append, List.length_append, length_hexFixed, length_hexFixed]
    rfl
  have digits : (hexFixed 16 seq.toNat ++ hexFixed 32 ns.toNat).length = 48 := by
    rw [List.length_append, length_hexFixed, length_hexFixed]
  refine ⟨(ascii " ").take (min 49 size - 48) ++ List.replicate (size - min 49 size) 46,
    ?_, ?_⟩
  · rw [buildPayload]
    simp only [head]
    rw [payloadHead, List.take_append, digits, List.take_of_length_le (by omega),
      List.append_assoc]
  · intro byte member
    rcases List.mem_append.mp member with blank | dots
    · left
      have inside := List.mem_of_mem_take blank
      simpa [ascii] using inside
    · exact .inr (List.eq_of_mem_replicate dots)

theorem passedOver_nil : PassedOver [] := by
  refine ⟨RunFree.nil (by decide), ?_⟩
  intro last member
  cases member

theorem extractSendNs_payload (seq : UInt64) (ns : BitVec 128) {size : Nat}
    (large : 48 ≤ size) {front : Bytes} (passed : PassedOver front) (back : Bytes) :
    extractSendNs (front ++ (buildPayload seq ns size ++ back)) = some ns.toNat := by
  rcases buildPayload_eq seq ns large with ⟨filler, shape, -⟩
  have digits : ∀ byte ∈ hexFixed 16 seq.toNat ++ hexFixed 32 ns.toNat,
      isHexDigit byte = true := by
    intro byte member
    rcases List.mem_append.mp member with upper | lower
    · exact isHexDigit_hexFixed byte upper
    · exact isHexDigit_hexFixed byte lower
  have length : (hexFixed 16 seq.toNat ++ hexFixed 32 ns.toNat).length = 48 := by
    rw [List.length_append, length_hexFixed, length_hexFixed]
  have stamp : (hexFixed 16 seq.toNat ++ hexFixed 32 ns.toNat).drop 16 =
      hexFixed 32 ns.toNat := by
    apply List.drop_left'
    rw [length_hexFixed]
  rw [shape, List.append_assoc _ filler back, extractSendNs_digits passed digits length, stamp,
    u128FromHex_hexFixed]

/-! ## The base64 text of a payload -/

theorem mem_buildPayload {seq : UInt64} {ns : BitVec 128} {size : Nat} (large : 48 ≤ size)
    {byte : UInt8} (member : byte ∈ buildPayload seq ns size) :
    (∃ digit < 16, byte = hexByte digit) ∨ byte = 32 ∨ byte = 46 := by
  rcases buildPayload_eq seq ns large with ⟨filler, shape, fillers⟩
  rw [shape] at member
  rcases List.mem_append.mp member with head | filled
  · rcases List.mem_append.mp head with upper | lower
    · exact .inl (exists_of_mem_hexFixed upper)
    · exact .inl (exists_of_mem_hexFixed lower)
  · exact .inr (fillers byte filled)

theorem sextet_upper {byte : UInt8}
    (plain : (∃ digit < 16, byte = hexByte digit) ∨ byte = 32 ∨ byte = 46) :
    isHexDigit (Base64.sextet (byte.toNat / 4)) = false := by
  have letters : ∀ digit < 16,
      isHexDigit (Base64.sextet ((hexByte digit).toNat / 4)) = false := by
    decide
  rcases plain with ⟨digit, small, same⟩ | blank | dot
  · rw [same]
    exact letters digit small
  · rw [blank]
    decide
  · rw [dot]
    decide

/-- In base64 every fourth character breaks a run of digits. -/
theorem runFree_encode {bytes : Bytes}
    (plain : ∀ byte ∈ bytes, (∃ digit < 16, byte = hexByte digit) ∨ byte = 32 ∨ byte = 46) :
    RunFree isHexDigit 48 (Base64.encode bytes) := by
  have aligned : RunFree isHexDigit 4 (Base64.encode bytes) := by
    apply RunFree.of_aligned (by decide)
    intro index character found
    rcases Base64.getElem?_encode found with ⟨byte, member, same⟩
    rw [same]
    exact sextet_upper (plain byte member)
  exact aligned.mono (by decide)

theorem not_isAsciiWhitespace_of_digit (byte : UInt8) (digit : isHexDigit byte = true) :
    (!isAsciiWhitespace byte) = true := by
  rw [Bool.not_eq_true']
  by_contra blank
  rw [Bool.not_eq_false] at blank
  simp only [isAsciiWhitespace, Bool.or_eq_true, decide_eq_true_eq] at blank
  rcases blank with (((rfl | rfl) | rfl) | rfl) | rfl <;> cases digit

theorem not_isAsciiWhitespace_of_mem_encode {bytes : Bytes} {character : UInt8}
    (member : character ∈ Base64.encode bytes) : isAsciiWhitespace character = false := by
  have letters : ∀ value < 64, isAsciiWhitespace (Base64.sextet value) = false := by decide
  rcases Base64.mem_encode member with pad | ⟨value, small, same⟩
  · rw [pad]
    decide
  · rw [same]
    exact letters value small

/-! ## Events and their data -/

inductive EventLine where
  | data (blank : Bool) (content : Bytes)
  | other (text : Bytes) (noData : (ascii "data:").isPrefixOf text = false)

namespace EventLine

def text : EventLine → Bytes
  | .data true content => ascii "data: " ++ content
  | .data false content => ascii "data:" ++ content
  | .other text _ => text

def content : EventLine → Option Bytes
  | .data _ content => some content
  | .other _ _ => none

/-- What the parser takes from the line: one blank after the colon is dropped. -/
def taken : EventLine → Option Bytes
  | .data true content => some content
  | .data false content =>
      some (if (ascii " ").isPrefixOf content then content.drop 1 else content)
  | .other _ _ => none

end EventLine

/-- An event: its lines, and the blank line that ends it. -/
structure EventFrame where
  lines : List EventLine
  oneLine : ∀ line ∈ lines, lineFeed ∉ line.text

namespace EventFrame

def text (frame : EventFrame) : Bytes :=
  [lineFeed].intercalate (frame.lines.map EventLine.text ++ [[], []])

def contents (frame : EventFrame) : List Bytes := frame.lines.filterMap EventLine.content

end EventFrame

def joinData (payload content : Bytes) : Bytes :=
  if payload = [] then content else payload ++ lineFeed :: content

theorem addDataLine_text (payload : Bytes) (line : EventLine) :
    addDataLine payload line.text = (line.taken.map (joinData payload)).getD payload := by
  cases line with
  | other text noData => simp [EventLine.text, addDataLine, noData, EventLine.taken]
  | data blank content =>
      have prefixed : ∀ rest, (ascii "data:").isPrefixOf (ascii "data:" ++ rest) = true :=
        fun rest => List.isPrefixOf_iff_prefix.mpr (List.prefix_append _ rest)
      have dropped : ∀ rest, (ascii "data:" ++ rest).drop 5 = rest := fun _ => rfl
      cases blank with
      | true =>
          have shape : ascii "data: " ++ content =
              ascii "data:" ++ (ascii " " ++ content) := rfl
          have blankFirst : (ascii " ").isPrefixOf (ascii " " ++ content) = true :=
            List.isPrefixOf_iff_prefix.mpr (List.prefix_append _ content)
          have blankDropped : (ascii " " ++ content).drop 1 = content := rfl
          rw [EventLine.text, addDataLine, shape, if_pos (prefixed _)]
          simp only [dropped, blankFirst, blankDropped, if_true]
          rfl
      | false =>
          rw [EventLine.text, addDataLine, if_pos (prefixed _)]
          simp only [dropped]
          rfl

theorem foldl_addDataLine (lines : List EventLine) (payload : Bytes) :
    (lines.map EventLine.text).foldl addDataLine payload =
      (lines.filterMap EventLine.taken).foldl joinData payload := by
  induction lines generalizing payload with
  | nil => rfl
  | cons line lines induction =>
      rw [List.map_cons, List.foldl_cons, addDataLine_text, List.filterMap_cons]
      cases line.taken with
      | none => exact induction payload
      | some taken => exact induction _

theorem parseSseData_text (frame : EventFrame) :
    parseSseData frame.text =
      if (frame.lines.filterMap EventLine.taken).foldl joinData [] = [] then none
      else some ((frame.lines.filterMap EventLine.taken).foldl joinData []) := by
  have lines : frame.text.splitOn lineFeed = frame.lines.map EventLine.text ++ [[], []] := by
    apply List.splitOn_intercalate
    · intro line member
      rcases List.mem_append.mp member with own | ending
      · rcases List.mem_map.mp own with ⟨source, inFrame, same⟩
        rw [← same]
        exact frame.oneLine source inFrame
      · simp at ending
        simp [ending]
    · simp
  have empty : ∀ payload, addDataLine payload [] = payload := fun _ => rfl
  have data : (frame.text.splitOn lineFeed).foldl addDataLine [] =
      (frame.lines.filterMap EventLine.taken).foldl joinData [] := by
    rw [lines, List.foldl_append, foldl_addDataLine]
    simp only [List.foldl_cons, List.foldl_nil, empty]
  rw [parseSseData, data]

theorem filter_foldl_joinData (contents : List Bytes) (payload : Bytes) :
    (contents.foldl joinData payload).filter (fun byte => !isAsciiWhitespace byte) =
      (payload ++ contents.flatten).filter fun byte => !isAsciiWhitespace byte := by
  have feed : isAsciiWhitespace lineFeed = true := rfl
  induction contents generalizing payload with
  | nil => rw [List.foldl_nil, List.flatten_nil, List.append_nil]
  | cons content contents induction =>
      rw [List.foldl_cons, induction, List.flatten_cons, joinData]
      split
      · rename_i empty
        rw [empty, List.nil_append]
      · simp [feed]

/-! ## The round trip -/

theorem forall₂_taken (lines : List EventLine) :
    List.Forall₂ (fun content taken => taken = content ∨ content = 32 :: taken)
      (lines.filterMap EventLine.content) (lines.filterMap EventLine.taken) := by
  induction lines with
  | nil => exact .nil
  | cons line lines induction =>
      cases line with
      | other text noData => exact induction
      | data blank content =>
          cases blank with
          | true => exact .cons (.inl rfl) induction
          | false =>
              refine List.Forall₂.cons ?_ induction
              cases content with
              | nil => exact .inl rfl
              | cons first rest =>
                  by_cases blankFirst : first = 32
                  · right
                    rw [blankFirst]
                    rfl
                  · left
                    apply if_neg
                    intro prefixed
                    have same :=
                      (List.cons_prefix_cons.mp (List.isPrefixOf_iff_prefix.mp prefixed)).1
                    exact blankFirst same.symm

theorem taken_eq_contents {contents taken : List Bytes}
    (related : List.Forall₂ (fun content taken => taken = content ∨ content = 32 :: taken)
      contents taken)
    (noBlank : ∀ byte ∈ contents.flatten, byte ≠ 32) : taken = contents := by
  induction related with
  | nil => rfl
  | cons head _ induction =>
      rw [induction fun byte member => noBlank byte (List.mem_append_right _ member)]
      rcases head with same | shorter
      · rw [same]
      · exact (noBlank 32 (by simp [shorter]) rfl).elim

theorem parseSseData_single {frame : EventFrame} {content : Bytes}
    (one : frame.contents = [content]) :
    ∃ taken, (taken = content ∨ content = 32 :: taken) ∧
      parseSseData frame.text = if taken = [] then none else some taken := by
  have related := forall₂_taken frame.lines
  rw [← EventFrame.contents, one] at related
  rw [parseSseData_text]
  generalize frame.lines.filterMap EventLine.taken = all at related ⊢
  cases related with
  | cons head tail =>
      cases tail
      exact ⟨_, head, rfl⟩

theorem passedOver_of_cons {front : Bytes} (passed : PassedOver (32 :: front)) :
    PassedOver front := by
  refine ⟨passed.1.of_part (List.suffix_cons 32 front).isInfix, ?_⟩
  intro last member
  apply passed.2 last
  rw [List.getLast?_cons]
  rw [Option.mem_def] at member ⊢
  rw [member]
  rfl

theorem buildPayload_head (seq : UInt64) (ns : BitVec 128) {size : Nat} (large : 48 ≤ size) :
    ∃ first rest, buildPayload seq ns size = first :: rest ∧ isHexDigit first = true := by
  rcases buildPayload_eq seq ns large with ⟨filler, shape, -⟩
  have length := length_hexFixed 16 seq.toNat
  have digits : ∀ byte ∈ hexFixed 16 seq.toNat, isHexDigit byte = true :=
    isHexDigit_hexFixed
  cases written : hexFixed 16 seq.toNat with
  | nil =>
      rw [written] at length
      cases length
  | cons first rest =>
      rw [written] at shape digits
      exact ⟨first, _, shape, digits first List.mem_cons_self⟩

theorem timestamp_raw (decode : Bytes → Option Bytes) (seq : UInt64) (ns : BitVec 128)
    {size : Nat} (large : 48 ≤ size) {frame : EventFrame} {front back : Bytes}
    (passed : PassedOver front)
    (one : frame.contents = [front ++ (buildPayload seq ns size ++ back)]) :
    (parseSseData frame.text).bind (extractSendNsMaybeB64 decode) = some ns.toNat := by
  have read : ∀ front, PassedOver front →
      (if front ++ (buildPayload seq ns size ++ back) = [] then none
        else some (front ++ (buildPayload seq ns size ++ back))).bind
          (extractSendNsMaybeB64 decode) = some ns.toNat := by
    intro front passed
    rcases buildPayload_head seq ns large with ⟨first, rest, shape, -⟩
    rw [if_neg (by simp [shape]), Option.bind_some, extractSendNsMaybeB64,
      extractSendNs_payload seq ns large passed back]
  rcases parseSseData_single one with ⟨taken, same | shorter, parsed⟩
  · rw [parsed, same]
    exact read front passed
  · rw [parsed]
    cases front with
    | nil =>
        -- The blank that is dropped is not of the payload.
        rcases buildPayload_head seq ns large with ⟨first, rest, shape, digit⟩
        rw [shape, List.nil_append, List.cons_append, List.cons.injEq] at shorter
        rw [shorter.1] at digit
        cases digit
    | cons first front =>
        rw [List.cons_append, List.cons.injEq] at shorter
        rw [shorter.1] at passed
        rw [← shorter.2]
        exact read front (passedOver_of_cons passed)

theorem parseSseData_base64 {frame : EventFrame} {bytes : Bytes} (nonempty : bytes ≠ [])
    (carries : frame.contents.flatten = Base64.encode bytes) :
    ∃ data, parseSseData frame.text = some data ∧
      data.filter (fun byte => !isAsciiWhitespace byte) = Base64.encode bytes := by
  have taken : frame.lines.filterMap EventLine.taken = frame.contents := by
    apply taken_eq_contents (forall₂_taken frame.lines)
    intro byte member blank
    rw [← EventFrame.contents, carries, blank] at member
    exact absurd (not_isAsciiWhitespace_of_mem_encode member) (by decide)
  have stripped : (frame.contents.foldl joinData []).filter
      (fun byte => !isAsciiWhitespace byte) = Base64.encode bytes := by
    rw [filter_foldl_joinData, List.nil_append, carries, List.filter_eq_self]
    intro byte member
    rw [not_isAsciiWhitespace_of_mem_encode member]
    rfl
  have some_data : frame.contents.foldl joinData [] ≠ [] := by
    intro empty
    rw [empty, List.filter_nil] at stripped
    exact Base64.encode_ne_nil nonempty stripped.symm
  rw [parseSseData_text, taken, if_neg some_data]
  exact ⟨_, rfl, stripped⟩

theorem extract_base64 {decode : Bytes → Option Bytes}
    (inverts : ∀ bytes, decode (Base64.encode bytes) = some bytes) {bytes : Bytes}
    (nonempty : bytes ≠ [])
    (plain : ∀ byte ∈ bytes, (∃ digit < 16, byte = hexByte digit) ∨ byte = 32 ∨ byte = 46)
    {frame : EventFrame} (carries : frame.contents.flatten = Base64.encode bytes) :
    (parseSseData frame.text).bind (extractSendNsMaybeB64 decode) = extractSendNs bytes := by
  rcases parseSseData_base64 nonempty carries with ⟨data, parsed, stripped⟩
  -- The undecoded text has no long run of digits, so the first scan finds nothing.
  have noScan : extractSendNs data = none := by
    apply extractSendNs_none
    apply RunFree.of_filter not_isAsciiWhitespace_of_digit
    rw [stripped]
    exact runFree_encode plain
  rw [parsed, Option.bind_some, extractSendNsMaybeB64, noScan]
  simp only
  rw [stripped, inverts, Option.bind_some]

theorem timestamp_base64 {decode : Bytes → Option Bytes}
    (inverts : ∀ bytes, decode (Base64.encode bytes) = some bytes)
    (seq : UInt64) (ns : BitVec 128) {size : Nat} (large : 48 ≤ size) {frame : EventFrame}
    (carries : frame.contents.flatten = Base64.encode (buildPayload seq ns size)) :
    (parseSseData frame.text).bind (extractSendNsMaybeB64 decode) = some ns.toNat := by
  rcases buildPayload_head seq ns large with ⟨first, rest, shape, -⟩
  have nonempty : buildPayload seq ns size ≠ [] := by
    rw [shape]
    exact List.cons_ne_nil first rest
  have decoded := extractSendNs_payload seq ns large passedOver_nil []
  rw [List.nil_append, List.append_nil] at decoded
  rw [extract_base64 inverts nonempty (fun byte => mem_buildPayload large) carries, decoded]

/-- The send time of a payload comes out of every event that carries it: as raw text on one
data line, with text around it that is passed over, or in base64 over any data lines. -/
theorem timestamp_round_trip (decode : Bytes → Option Bytes)
    (inverts : ∀ bytes, decode (Base64.encode bytes) = some bytes)
    (seq : UInt64) (ns : BitVec 128) (size : Nat) (large : 48 ≤ size) (frame : EventFrame) :
    (∀ front back, PassedOver front →
      frame.contents = [front ++ (buildPayload seq ns size ++ back)] →
      (parseSseData frame.text).bind (extractSendNsMaybeB64 decode) = some ns.toNat) ∧
    (frame.contents.flatten = Base64.encode (buildPayload seq ns size) →
      (parseSseData frame.text).bind (extractSendNsMaybeB64 decode) = some ns.toNat) := by
  constructor
  · intro front back passed one
    exact timestamp_raw decode seq ns large passed one
  · intro carries
    exact timestamp_base64 inverts seq ns large carries

def bodyFrame : EventFrame where
  lines :=
    [.other (ascii "event: data") rfl,
      .data true (ascii "\"body\":\"" ++
        (buildPayload 7 1700000000000000000 64 ++ ascii "\""))]
  oneLine := by decide +kernel

def splitFrame : EventFrame where
  lines :=
    [.data true ((Base64.encode (buildPayload 7 1700000000000000000 64)).take 40),
      .data false ((Base64.encode (buildPayload 7 1700000000000000000 64)).drop 40)]
  oneLine := by decide +kernel

theorem timestamp_round_trip_split :
    (parseSseData bodyFrame.text).bind (extractSendNsMaybeB64 Base64.decode) =
        some 1700000000000000000 ∧
      (parseSseData splitFrame.text).bind (extractSendNsMaybeB64 Base64.decode) =
        some 1700000000000000000 := by
  have passed : PassedOver (ascii "\"body\":\"") := by
    constructor
    · intro run inside _
      exact lt_of_le_of_lt inside.length_le (by decide)
    · intro last member
      have quote : (ascii "\"body\":\"").getLast? = some 34 := rfl
      rw [quote] at member
      cases member
      rfl
  constructor
  · exact (timestamp_round_trip Base64.decode Base64.decode_encode 7 1700000000000000000 64
      (by decide) bodyFrame).1 _ _ passed rfl
  · apply (timestamp_round_trip Base64.decode Base64.decode_encode 7 1700000000000000000 64
      (by decide) splitFrame).2
    have joined : splitFrame.contents.flatten =
        (Base64.encode (buildPayload 7 1700000000000000000 64)).take 40 ++
          ((Base64.encode (buildPayload 7 1700000000000000000 64)).drop 40 ++ []) := rfl
    rw [joined, List.append_nil, List.take_append_drop]

end DsBench.Workloads
