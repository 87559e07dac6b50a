import DsBench.Workloads.TimestampCodec

/-! # The scan for a send time, with everything that could go wrong in it

`extract_send_ns` takes a slice, checks that it is UTF-8 and parses it. Here each of the
three is the fallible operation of the source, and none of them ever fails.
-/

namespace DsBench.Workloads

/-! ## The scan -/

/-- `&payload[start..stop]`, which panics where the range is not within the payload. -/
def slice (payload : Bytes) (start stop : Nat) : Option Bytes :=
  if start ≤ stop ∧ stop ≤ payload.length then
    some ((payload.drop start).take (stop - start))
  else none

/-- The digits of a number in base 16, each put behind `value` with checks for a character
that is no digit and for a number that does not fit. -/
def pushHexDigits (value : Nat) (digits : Bytes) : Option Nat :=
  digits.foldlM
    (fun value byte =>
      if isHexDigit byte ∧ value * 16 + hexByteValue byte < 2 ^ 128 then
        some (value * 16 + hexByteValue byte)
      else none) value

/-- `u128::from_str_radix(_, 16)`: a text of one sign only is an error, a plus before digits
is skipped, and a minus is no digit of an unsigned number. -/
def u128FromStrRadix16 : Bytes → Option Nat
  | [] => none
  | first :: rest =>
      if first = 43 ∨ first = 45 then
        if rest = [] then none
        else if first = 43 then pushHexDigits 0 rest
        else pushHexDigits 0 (first :: rest)
      else pushHexDigits 0 (first :: rest)

inductive ScanEnd
  | noRun
  | sent (ns : Nat)
  | outOfBounds
  | notUtf8
  | notNumber
  deriving DecidableEq, Repr

def readStamp (payload : Bytes) (start : Nat) : ScanEnd :=
  match slice payload (start + 16) (start + 48) with
  | none => .outOfBounds
  | some digits =>
      if digits.toByteArray.IsValidUTF8 then
        match u128FromStrRadix16 digits with
        | none => .notNumber
        | some ns => .sent ns
      else .notUtf8

/-- The loop of `extract_send_ns` at position `i`. -/
def scanFrom (payload : Bytes) : (runStart : Option Nat) → (i : Nat) → Bytes → ScanEnd
  | _, _, [] => .noRun
  | runStart, i, byte :: rest =>
      if isHexDigit byte then
        let start := runStart.getD i
        if 48 ≤ i + 1 - start then readStamp payload start
        else scanFrom payload (some start) (i + 1) rest
      else scanFrom payload none (i + 1) rest

def scanSendNs (payload : Bytes) : ScanEnd := scanFrom payload none 0 payload

def ScanEnd.returned : ScanEnd → Option (Option Nat)
  | .noRun => some none
  | .sent ns => some (some ns)
  | .outOfBounds => none
  | .notUtf8 => some none
  | .notNumber => some none

/-! ## The three steps succeed -/

theorem lt_of_isHexDigit {byte : UInt8} (digit : isHexDigit byte = true) :
    byte.toNat < 128 := by
  have bounds := (isHexDigit_iff byte).mp digit
  omega

theorem isValidUTF8_ascii {bytes : Bytes} (small : ∀ byte ∈ bytes, byte.toNat < 128) :
    bytes.toByteArray.IsValidUTF8 := by
  induction bytes with
  | nil => exact ByteArray.isValidUTF8_empty
  | cons byte bytes induction =>
      have rest := induction fun other member => small other (List.mem_cons_of_mem _ member)
      have bound := small byte List.mem_cons_self
      have oneByte : (Char.ofUInt8 byte).utf8Size = 1 := by
        rw [Char.utf8Size_eq_one_iff, UInt32.le_iff_toNat_le]
        exact Nat.le_of_lt_succ bound
      have encoded : String.utf8EncodeChar (Char.ofUInt8 byte) = [byte] := by
        rw [String.utf8EncodeChar_eq_singleton oneByte]
        exact congrArg (fun only => [only]) (UInt8.toUInt8_toUInt32 byte)
      have first : [byte].toByteArray.IsValidUTF8 := by
        rw [← encoded]
        exact Char.isValidUTF8_toByteArray_utf8EncodeChar
      rw [← List.singleton_append, List.toByteArray_append]
      exact first.append rest

theorem pushHexDigits_digits {width value : Nat} (fits : value < 16 ^ width) {digits : Bytes}
    (allDigits : ∀ byte ∈ digits, isHexDigit byte = true)
    (room : width + digits.length ≤ 32) :
    pushHexDigits value digits =
      some (digits.foldl (fun value byte => value * 16 + hexByteValue byte) value) := by
  induction digits generalizing width value with
  | nil => rfl
  | cons byte digits induction =>
      have digit := allDigits byte List.mem_cons_self
      have small := hexByteValue_lt digit
      rw [List.length_cons] at room
      have next : value * 16 + hexByteValue byte < 16 ^ (width + 1) := by
        rw [Nat.pow_succ]
        omega
      have inside : 16 ^ (width + 1) ≤ 2 ^ 128 := by
        have upper : 16 ^ (width + 1) ≤ 16 ^ 32 :=
          Nat.pow_le_pow_right (by decide) (by omega)
        exact upper
      have rest := induction next
        (fun other member => allDigits other (List.mem_cons_of_mem _ member)) (by omega)
      rw [pushHexDigits, List.foldlM_cons, if_pos ⟨digit, lt_of_lt_of_le next inside⟩,
        List.foldl_cons, ← rest]
      rfl

theorem u128FromStrRadix16_digits {digits : Bytes} (nonempty : digits ≠ [])
    (allDigits : ∀ byte ∈ digits, isHexDigit byte = true) (short : digits.length ≤ 32) :
    u128FromStrRadix16 digits = some (hexNumber digits) := by
  cases digits with
  | nil => exact (nonempty rfl).elim
  | cons first rest =>
      have bounds := (isHexDigit_iff first).mp (allDigits first List.mem_cons_self)
      have noSign : ¬ (first = 43 ∨ first = 45) := by
        intro sign
        rcases sign with plus | minus
        · rw [plus] at bounds
          exact absurd bounds (by decide)
        · rw [minus] at bounds
          exact absurd bounds (by decide)
      have room : 0 + (first :: rest).length ≤ 32 := by omega
      rw [u128FromStrRadix16, if_neg noSign,
        pushHexDigits_digits (by decide) allDigits room]
      rfl

theorem hexNumber_lt_u128 {digits : Bytes}
    (allDigits : ∀ byte ∈ digits, isHexDigit byte = true) (short : digits.length ≤ 32) :
    hexNumber digits < 2 ^ 128 := by
  have upper : 16 ^ digits.length ≤ 16 ^ 32 := Nat.pow_le_pow_right (by decide) short
  exact lt_of_lt_of_le (hexNumber_lt allDigits) upper

theorem u128FromHex_digits {digits : Bytes} (nonempty : digits ≠ [])
    (allDigits : ∀ byte ∈ digits, isHexDigit byte = true) (short : digits.length ≤ 32) :
    u128FromHex digits = some (hexNumber digits) := by
  have fits := hexNumber_lt_u128 allDigits short
  rw [u128FromHex, if_pos ⟨nonempty, List.all_eq_true.mpr allDigits, fits⟩]

theorem readStamp_digits {payload : Bytes} {start : Nat}
    (inside : start + 48 ≤ payload.length)
    (allDigits : ∀ byte ∈ (payload.drop start).take 48, isHexDigit byte = true) :
    readStamp payload start =
        .sent (hexNumber ((payload.drop (start + 16)).take 32)) ∧
      u128FromHex ((payload.drop (start + 16)).take 32) =
        some (hexNumber ((payload.drop (start + 16)).take 32)) := by
  let digits := (payload.drop (start + 16)).take 32
  have part : digits = ((payload.drop start).take 48).drop 16 := by
    rw [List.drop_take, List.drop_drop]
  have digitsAll : ∀ byte ∈ digits, isHexDigit byte = true := by
    intro byte member
    rw [part] at member
    exact allDigits byte (List.mem_of_mem_drop member)
  have length : digits.length = 32 := by
    rw [List.length_take, List.length_drop]
    omega
  have nonempty : digits ≠ [] := by
    intro empty
    rw [empty] at length
    cases length
  have sliced : slice payload (start + 16) (start + 48) = some digits := by
    have width : start + 48 - (start + 16) = 32 := by omega
    rw [slice, if_pos ⟨by omega, inside⟩, width]
  have valid : digits.toByteArray.IsValidUTF8 :=
    isValidUTF8_ascii fun byte member => lt_of_isHexDigit (digitsAll byte member)
  constructor
  · rw [readStamp, sliced]
    simp only [if_pos valid, u128FromStrRadix16_digits nonempty digitsAll length.le]
    rfl
  · exact u128FromHex_digits nonempty digitsAll length.le

/-! ## The loop -/

theorem drop_run (seen rest : Bytes) :
    (seen ++ rest).drop (seen.length - (seen.rtakeWhile isHexDigit).length) =
      seen.rtakeWhile isHexDigit ++ rest := by
  rcases List.rtakeWhile_suffix isHexDigit seen with ⟨front, shape⟩
  have start : seen.length - (seen.rtakeWhile isHexDigit).length = front.length := by
    have lengths := congrArg List.length shape
    rw [List.length_append] at lengths
    omega
  have whole : seen ++ rest = front ++ (seen.rtakeWhile isHexDigit ++ rest) := by
    rw [← List.append_assoc, shape]
  rw [start, whole, List.drop_left]

theorem readStamp_run (seen rest : Bytes) {byte : UInt8} (digit : isHexDigit byte = true)
    (long : 48 ≤ (seen.rtakeWhile isHexDigit).length + 1) :
    ∃ ns, readStamp (seen ++ byte :: rest)
          (seen.length - (seen.rtakeWhile isHexDigit).length) = .sent ns ∧
      u128FromHex (((seen ++ byte :: rest).drop
          (seen.length - (seen.rtakeWhile isHexDigit).length + 16)).take 32) = some ns := by
  have bound := length_rtakeWhile_le seen
  have inside : seen.length - (seen.rtakeWhile isHexDigit).length + 48 ≤
      (seen ++ byte :: rest).length := by
    rw [List.length_append, List.length_cons]
    omega
  have allDigits : ∀ other ∈ ((seen ++ byte :: rest).drop
      (seen.length - (seen.rtakeWhile isHexDigit).length)).take 48,
      isHexDigit other = true := by
    intro other member
    have run : seen.rtakeWhile isHexDigit ++ byte :: rest =
        (seen.rtakeWhile isHexDigit ++ [byte]) ++ rest := by simp
    rw [drop_run, run, List.take_append_of_le_length (by simpa using long)] at member
    rcases List.mem_append.mp (List.mem_of_mem_take member) with earlier | last
    · exact List.mem_rtakeWhile_imp earlier
    · rw [List.mem_singleton.mp last]
      exact digit
  exact ⟨_, readStamp_digits inside allDigits⟩

/-- No step of the loop fails, and it ends as the plain scan does. -/
theorem scanFrom_eq (seen rest : Bytes) :
    scanFrom (seen ++ rest) (runStart seen) seen.length rest =
      (extractFrom (seen ++ rest) (runStart seen) seen.length rest).elim .noRun .sent := by
  induction rest generalizing seen with
  | nil => rfl
  | cons byte rest induction =>
      have next : seen ++ byte :: rest = (seen ++ [byte]) ++ rest := by simp
      have onwards := induction (seen ++ [byte])
      rw [← next, List.length_append, List.length_singleton] at onwards
      rw [scanFrom, extractFrom]
      by_cases digit : isHexDigit byte = true
      · rw [if_pos digit, if_pos digit, getD_runStart]
        rw [runStart_concat_digit digit] at onwards
        have bound := length_rtakeWhile_le seen
        by_cases long : 48 ≤ (seen.rtakeWhile isHexDigit).length + 1
        · rcases readStamp_run seen rest digit long with ⟨ns, read, number⟩
          rw [if_pos (by omega), if_pos (by omega), read, number]
          rfl
        · rw [if_neg (by omega), if_neg (by omega)]
          exact onwards
      · rw [if_neg digit, if_neg digit]
        rw [Bool.not_eq_true] at digit
        rw [runStart_concat_other digit] at onwards
        exact onwards

theorem scanSendNs_eq (payload : Bytes) :
    scanSendNs payload = (extractSendNs payload).elim .noRun .sent :=
  scanFrom_eq [] payload

/-! ## What is found -/

theorem stamp_digits {payload front run back : Bytes}
    (first : FirstRun isHexDigit 48 payload front run back) :
    ∀ byte ∈ (run.drop 16).take 32, isHexDigit byte = true := by
  intro byte member
  exact first.same byte (List.mem_of_mem_drop (List.mem_of_mem_take member))

/-- The first run of forty-eight digits or more decides. -/
theorem extractSendNs_firstRun {payload front run back : Bytes}
    (first : FirstRun isHexDigit 48 payload front run back) :
    extractSendNs payload = some (hexNumber ((run.drop 16).take 32)) := by
  have shape : payload = front ++ (run.take 48 ++ (run.drop 48 ++ back)) := by
    rw [first.text_eq, ← List.append_assoc (run.take 48), List.take_append_drop]
  have stamp : (run.take 48).drop 16 = (run.drop 16).take 32 := List.drop_take
  have length : ((run.drop 16).take 32).length = 32 := by
    have long := first.long
    rw [List.length_take, List.length_drop]
    omega
  have nonempty : (run.drop 16).take 32 ≠ [] := by
    intro empty
    rw [empty] at length
    cases length
  have runDigits : ∀ byte ∈ run.take 48, isHexDigit byte = true :=
    fun byte member => first.same byte (List.mem_of_mem_take member)
  rw [shape, extractSendNs_digits ⟨first.free, first.before⟩ runDigits
      (List.length_take_of_le first.long),
    stamp, u128FromHex_digits nonempty (stamp_digits first) length.le]

theorem extractSendNs_eq_some_iff (payload : Bytes) (ns : Nat) :
    extractSendNs payload = some ns ↔
      ∃ front run back, FirstRun isHexDigit 48 payload front run back ∧
        ns = hexNumber ((run.drop 16).take 32) := by
  constructor
  · intro found
    rcases runFree_or_firstRun (Nat.succ_pos 47) payload with free | ⟨front, run, back, first⟩
    · rw [extractSendNs_none free] at found
      cases found
    · rw [extractSendNs_firstRun first] at found
      exact ⟨front, run, back, first, (Option.some.inj found).symm⟩
  · intro found
    rcases found with ⟨front, run, back, first, number⟩
    rw [number]
    exact extractSendNs_firstRun first

theorem extractSendNs_isSome_iff (payload : Bytes) :
    (extractSendNs payload).isSome ↔
      ∃ run, run <:+: payload ∧ (∀ byte ∈ run, isHexDigit byte = true) ∧
        48 ≤ run.length := by
  constructor
  · intro found
    rcases Option.isSome_iff_exists.mp found with ⟨ns, sent⟩
    rcases (extractSendNs_eq_some_iff payload ns).mp sent with ⟨front, run, back, first, -⟩
    exact ⟨run, first.isInfix, first.same, first.long⟩
  · intro found
    rcases found with ⟨run, inside, digits, long⟩
    rcases runFree_or_firstRun (Nat.succ_pos 47) payload with free | ⟨front, other, back, first⟩
    · exact absurd (free run inside digits) (not_lt.mpr long)
    · rw [extractSendNs_firstRun first]
      rfl

theorem lt_of_extractSendNs {payload : Bytes} {ns : Nat}
    (found : extractSendNs payload = some ns) : ns < 2 ^ 128 := by
  rcases (extractSendNs_eq_some_iff payload ns).mp found with ⟨front, run, back, first, number⟩
  rw [number]
  exact hexNumber_lt_u128 (stamp_digits first) (List.length_take_le 32 _)

/-- The scan gives a number exactly for a text with a run of forty-eight digits; it is what
the seventeenth to the forty-eighth digit of the first such run denote. The slice is always
within the text, the text of the slice is UTF-8, and its number is parsed. -/
theorem timestamp_scanner (payload : Bytes) :
    (scanSendNs payload).returned = some (extractSendNs payload) ∧
      ((extractSendNs payload).isSome ↔
        ∃ run, run <:+: payload ∧ (∀ byte ∈ run, isHexDigit byte = true) ∧
          48 ≤ run.length) ∧
      (∀ ns, extractSendNs payload = some ns ↔
        ∃ front run back, FirstRun isHexDigit 48 payload front run back ∧
          ns = hexNumber ((run.drop 16).take 32)) ∧
      (scanSendNs payload = .noRun ∨
        ∃ ns < 2 ^ 128, scanSendNs payload = .sent ns) := by
  refine ⟨?_, extractSendNs_isSome_iff payload, extractSendNs_eq_some_iff payload, ?_⟩
  · rw [scanSendNs_eq]
    cases extractSendNs payload with
    | none => rfl
    | some ns => rfl
  · rw [scanSendNs_eq]
    cases found : extractSendNs payload with
    | none => exact .inl rfl
    | some ns => exact .inr ⟨ns, lt_of_extractSendNs found, rfl⟩

end DsBench.Workloads
