import DsBench.Foundation.HexBytes
import DsBench.Foundation.StreamFraming

/-! # Server-sent events and timestamped payloads

The helpers that the subscribers share: splitting a byte stream into events, taking the
data out of an event and the send time out of the data.
-/

namespace DsBench.Workloads

def lineFeed : UInt8 := 10

/-! ## Payloads -/

/-- The sequence number in sixteen digits, the send time in thirty-two, and a blank. -/
def payloadHead (seq : UInt64) (nowNs : BitVec 128) : Bytes :=
  hexFixed 16 seq.toNat ++ hexFixed 32 nowNs.toNat ++ ascii " "

/-- `build_payload` at the time `nowNs`: the head cut to the size, or filled up to it. -/
def buildPayload (seq : UInt64) (nowNs : BitVec 128) (size : Nat) : Bytes :=
  let head := payloadHead seq nowNs
  let take := min head.length size
  head.take take ++ List.replicate (size - take) 46

/-- `u128::from_str_radix(_, 16)` on digits. -/
def u128FromHex (digits : Bytes) : Option Nat :=
  if digits ≠ [] ∧ digits.all isHexDigit ∧ hexNumber digits < 2 ^ 128 then
    some (hexNumber digits)
  else none

/-- The scan of `extract_send_ns` from position `i` on: `runStart` is where the current
run of digits began. -/
def extractFrom (payload : Bytes) : (runStart : Option Nat) → (i : Nat) → Bytes → Option Nat
  | _, _, [] => none
  | runStart, i, byte :: rest =>
      if isHexDigit byte then
        let start := runStart.getD i
        if 48 ≤ i + 1 - start then u128FromHex ((payload.drop (start + 16)).take 32)
        else extractFrom payload (some start) (i + 1) rest
      else extractFrom payload none (i + 1) rest

def extractSendNs (payload : Bytes) : Option Nat := extractFrom payload none 0 payload

def isAsciiWhitespace (byte : UInt8) : Bool :=
  byte = 32 || byte = 9 || byte = 10 || byte = 12 || byte = 13

/-- `extract_send_ns_maybe_b64` with the standard engine's `decode`. -/
def extractSendNsMaybeB64 (decode : Bytes → Option Bytes) (payload : Bytes) : Option Nat :=
  match extractSendNs payload with
  | some ns => some ns
  | none => (decode (payload.filter fun byte => !isAsciiWhitespace byte)).bind extractSendNs

/-! ## Events -/

/-- The loop of `find_event_end` at position `i`, after the byte `prev`. -/
def findEventEndFrom (prev : UInt8) (i : Nat) : Bytes → Option Nat
  | [] => none
  | byte :: rest =>
      if prev = lineFeed ∧ byte = lineFeed then some (i - 1)
      else findEventEndFrom byte (i + 1) rest

def findEventEnd (buf : Bytes) : Option Nat := findEventEndFrom 0 0 buf

/-- What `parse_sse_data` adds of one line to the payload. -/
def addDataLine (payload line : Bytes) : Bytes :=
  if (ascii "data:").isPrefixOf line then
    let rest := line.drop 5
    let rest := if (ascii " ").isPrefixOf rest then rest.drop 1 else rest
    if payload = [] then rest else payload ++ lineFeed :: rest
  else payload

def parseSseData (raw : Bytes) : Option Bytes :=
  let payload := (raw.splitOn lineFeed).foldl addDataLine []
  if payload = [] then none else some payload

/-! ## Where an event ends -/

def blankLine : Bytes := [lineFeed, lineFeed]

theorem findEventEndFrom_stable {prev : UInt8} {i k : Nat} {buf : Bytes} (more : Bytes)
    (found : findEventEndFrom prev i buf = some k) :
    findEventEndFrom prev i (buf ++ more) = some k := by
  induction buf generalizing prev i with
  | nil => cases found
  | cons byte rest induction =>
      rw [List.cons_append, findEventEndFrom]
      rw [findEventEndFrom] at found
      split
      · rename_i ends
        rwa [if_pos ends] at found
      · rename_i goesOn
        rw [if_neg goesOn] at found
        exact induction found

theorem blankLine_prefix_iff (prev byte : UInt8) (rest : Bytes) :
    blankLine <+: prev :: byte :: rest ↔ prev = lineFeed ∧ byte = lineFeed := by
  rw [blankLine, List.cons_prefix_cons, List.cons_prefix_cons]
  simp [eq_comm]

theorem findEventEndFrom_none_iff {prev : UInt8} {i : Nat} {buf : Bytes} :
    findEventEndFrom prev i buf = none ↔ ¬ blankLine <:+: prev :: buf := by
  induction buf generalizing prev i with
  | nil =>
      have tooShort : ¬ blankLine <:+: [prev] := by
        intro inside
        have length := inside.length_le
        simp [blankLine] at length
      simp [findEventEndFrom, tooShort]
  | cons byte rest induction =>
      rw [findEventEndFrom, List.infix_cons_iff, blankLine_prefix_iff]
      split
      · rename_i ends
        simp [ends]
      · rename_i goesOn
        rw [induction]
        simp [goesOn]

theorem findEventEndFrom_some {prev : UInt8} {i k : Nat} {buf : Bytes}
    (found : findEventEndFrom prev i buf = some k) :
    ∃ body rest, prev :: buf = body ++ (blankLine ++ rest) ∧ k = i + body.length - 1 ∧
      ¬ blankLine <:+: body ++ [lineFeed] := by
  induction buf generalizing prev i with
  | nil => cases found
  | cons byte rest induction =>
      rw [findEventEndFrom] at found
      split at found
      · rename_i ends
        cases found
        refine ⟨[], rest, ?_, by simp, ?_⟩
        · rw [ends.1, ends.2]
          rfl
        · intro inside
          have length := inside.length_le
          simp [blankLine] at length
      · rename_i goesOn
        rcases induction found with ⟨body, after, shape, position, first⟩
        refine ⟨prev :: body, after, by rw [shape]; rfl, ?_, ?_⟩
        · rw [List.length_cons, position]
          omega
        · have opens : ∃ tail, body ++ [lineFeed] = byte :: tail := by
            cases body with
            | nil =>
                have same := (List.cons.inj shape).1
                exact ⟨[], by rw [same]; rfl⟩
            | cons head body =>
                have same := (List.cons.inj shape).1
                exact ⟨body ++ [lineFeed], by rw [same]; rfl⟩
          rcases opens with ⟨tail, opens⟩
          rw [List.cons_append, List.infix_cons_iff, not_or]
          refine ⟨?_, first⟩
          rw [opens, blankLine_prefix_iff]
          exact goesOn

theorem findEventEnd_none_iff (buf : Bytes) :
    findEventEnd buf = none ↔ ¬ blankLine <:+: buf := by
  rw [findEventEnd, findEventEndFrom_none_iff, List.infix_cons_iff]
  have notFirst : ¬ blankLine <+: 0 :: buf := by
    intro begins
    have same := (List.cons_prefix_cons.mp begins).1
    cases same
  simp [notFirst]

theorem findEventEnd_some {buf : Bytes} {idx : Nat} (found : findEventEnd buf = some idx) :
    ∃ body rest, buf = body ++ (blankLine ++ rest) ∧ idx = body.length ∧
      ¬ blankLine <:+: body ++ [lineFeed] := by
  rcases findEventEndFrom_some found with ⟨body, rest, shape, position, first⟩
  cases body with
  | nil =>
      have same := (List.cons.inj shape).1
      cases same
  | cons head body =>
      refine ⟨body, rest, (List.cons.inj shape).2, ?_, ?_⟩
      · rw [position, List.length_cons]
        omega
      · intro inside
        apply first
        rw [List.cons_append]
        exact List.infix_cons inside

/-! ## The receive loop -/

/-- `while let Some(idx) = find_event_end(&buf)`, splitting off `idx + 2` bytes. -/
def eventFraming : Framing UInt8 where
  frameEnd buf := (findEventEnd buf).map fun idx => idx + 2
  positive found := by
    rcases Option.map_eq_some_iff.mp found with ⟨idx, -, same⟩
    omega
  within found := by
    rcases Option.map_eq_some_iff.mp found with ⟨idx, ends, same⟩
    rcases findEventEnd_some ends with ⟨body, rest, shape, position, -⟩
    rw [shape, ← same, position]
    simp [blankLine]
  stable more found := by
    rcases Option.map_eq_some_iff.mp found with ⟨idx, ends, same⟩
    rw [findEventEnd, findEventEndFrom_stable more ends]
    exact congrArg some same

/-- The frames a subscriber gets from a body that arrives in chunks, and what is left in
its buffer. -/
def receiveLoop (chunks : List Bytes) : List Bytes × Bytes := eventFraming.receive chunks

/-- A whole event: it ends in a blank line, and has none before. -/
def IsEvent (frame : Bytes) : Prop :=
  ∃ body, frame = body ++ blankLine ∧ ¬ blankLine <:+: body ++ [lineFeed]

def payloads (frames : List Bytes) : List Bytes := frames.filterMap parseSseData

def sendTimes (decode : Bytes → Option Bytes) (frames : List Bytes) : List Nat :=
  (payloads frames).filterMap (extractSendNsMaybeB64 decode)

theorem isEvent_take {buf : Bytes} {length : Nat}
    (found : eventFraming.frameEnd buf = some length) : IsEvent (buf.take length) := by
  rcases Option.map_eq_some_iff.mp found with ⟨idx, ends, same⟩
  rcases findEventEnd_some ends with ⟨body, rest, shape, position, first⟩
  refine ⟨body, ?_, first⟩
  have whole : (body ++ blankLine).length = length := by
    rw [List.length_append, ← position, ← same]
    rfl
  rw [shape, ← List.append_assoc, ← whole, List.take_left]

/-- However a body is cut into chunks, its frames and the leftover are those of the body in
one piece; nothing is lost, every frame is a whole event, and no event is left over. -/
theorem framing_chunk_invariant (decode : Bytes → Option Bytes) (chunks : List Bytes) :
    receiveLoop chunks = receiveLoop [chunks.flatten] ∧
      (receiveLoop chunks).1.flatten ++ (receiveLoop chunks).2 = chunks.flatten ∧
      (∀ frame ∈ (receiveLoop chunks).1, IsEvent frame) ∧
      ¬ blankLine <:+: (receiveLoop chunks).2 ∧
      payloads (receiveLoop chunks).1 = payloads (receiveLoop [chunks.flatten]).1 ∧
      sendTimes decode (receiveLoop chunks).1 =
        sendTimes decode (receiveLoop [chunks.flatten]).1 := by
  have whole : receiveLoop chunks = receiveLoop [chunks.flatten] := by
    rw [receiveLoop, receiveLoop, Framing.receive_eq_drain, Framing.receive_eq_drain,
      List.flatten_singleton]
  have drained : receiveLoop chunks = eventFraming.drain chunks.flatten :=
    Framing.receive_eq_drain chunks
  refine ⟨whole, ?_, ?_, ?_, ?_, ?_⟩
  · rw [drained]
    exact Framing.flatten_drain _
  · rw [drained]
    exact Framing.forall_mem_drain (fun _ _ => isEvent_take) _
  · rw [drained, ← findEventEnd_none_iff]
    have leftover : eventFraming.frameEnd (eventFraming.drain chunks.flatten).2 = none :=
      Framing.frameEnd_leftover chunks.flatten
    exact Option.map_eq_none_iff.mp leftover
  · rw [whole]
  · rw [whole]

end DsBench.Workloads
