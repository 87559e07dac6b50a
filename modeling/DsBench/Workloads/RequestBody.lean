import DsBench.Foundation.AssembledJson
import DsBench.Foundation.Base64
import DsBench.Foundation.LittleEndian
import DsBench.Workloads.MultiStreamResult

/-! # Request bodies

The payload generators and the bodies that the append loops post. Batched bodies are put
together by hand from generated text, so what they hold is what a JSON reader finds in
them.
-/

namespace DsBench.Workloads.RequestBody

/-! ## Generators -/

def startState (seed : UInt64) : UInt64 := seed * 0x9E3779B97F4A7C15 + 1

def nextState (state : UInt64) : UInt64 :=
  state * 6364136223846793005 + 1442695040888963407

/-- The chunks of `fill_payload`: eight bytes of each state, the last cut to the size. -/
def fillChunks (size : Nat) (state : UInt64) : Bytes :=
  if size = 0 then []
  else
    (leBytes 8 (nextState state).toNat).take size ++ fillChunks (size - 8) (nextState state)

def fillPayload (size : Nat) (seed : UInt64) : Bytes := fillChunks size (startState seed)

structure Body where
  contentType : Text
  bytes : Bytes
deriving DecidableEq, Repr

/-- The loop over the records of an array: a comma before each but the first. -/
def joinRecords (count : Nat) (record : Nat → Bytes) : Bytes :=
  (List.range count).flatMap fun i => (if 0 < i then ascii "," else []) ++ record i

inductive BodyMode where
  | binary
  | jsonSingle
  | jsonArray
deriving DecidableEq, Repr

/-- The raw bytes whose base64 fills `fillerChars` characters. The product is a machine
word. -/
def rawBytes (fillerChars : Nat) : Nat := max ((fillerChars * 3 % 2 ^ 64 + 3) % 2 ^ 64 / 4) 1

def filler (fillerChars : Nat) (seed : UInt64) : Bytes :=
  let b64 := Base64.encode (fillPayload (rawBytes fillerChars) seed)
  b64.take (min b64.length fillerChars)

/-- One object with the filler under the key `d`. -/
def fillerRecord (fillerChars : Nat) (seed : UInt64) : Bytes :=
  ascii "\x7b\"d\":\"" ++ filler fillerChars seed ++ ascii "\"\x7d"

def buildBody (mode : BodyMode) (payloadBytes arrayRecords : Nat) : Body :=
  match mode with
  | .binary => ⟨"application/octet-stream".toList, fillPayload payloadBytes 0xDEADBEEF⟩
  | .jsonSingle => ⟨"application/json".toList, fillerRecord (payloadBytes - 7) 0xFEEDCAFE⟩
  | .jsonArray =>
      let n := max arrayRecords 1
      let fillerChars := payloadBytes / n - 7
      let record := fun i => fillerRecord fillerChars (0xBEEFCAFE + UInt64.ofNat i)
      ⟨"application/json".toList, ascii "[" ++ joinRecords n record ++ ascii "]"⟩

/-! ## What the generators give -/

theorem length_fillChunks (size : Nat) (state : UInt64) :
    (fillChunks size state).length = size := by
  induction size using Nat.strong_induction_on generalizing state with
  | _ size induction =>
      rw [fillChunks]
      split
      · rename_i done
        rw [done]
        rfl
      · rename_i more
        rw [List.length_append, List.length_take, length_leBytes,
          induction (size - 8) (by omega)]
        omega

@[simp] theorem length_fillPayload (size : Nat) (seed : UInt64) :
    (fillPayload size seed).length = size := length_fillChunks size _

/-! ## Reading ASCII -/

def asciiText (bytes : Bytes) : Text := bytes.map fun byte => Char.ofNat byte.toNat

@[simp] theorem asciiText_append (left right : Bytes) :
    asciiText (left ++ right) = asciiText left ++ asciiText right := List.map_append

def PlainByte (byte : UInt8) : Prop :=
  byte < 128 ∧ serdeEscape (Char.ofNat byte.toNat) = [Char.ofNat byte.toNat]

instance (byte : UInt8) : Decidable (PlainByte byte) := inferInstanceAs (Decidable (_ ∧ _))

theorem base64_plain {bytes : Bytes} {byte : UInt8} (member : byte ∈ Base64.encode bytes) :
    PlainByte byte := by
  have sextets : ∀ value < 64, PlainByte (Base64.sextet value) := by decide +kernel
  rcases Base64.mem_encode member with pad | ⟨value, small, same⟩
  · rw [pad]
    decide
  · rw [same]
    exact sextets value small

def stringPiece (bytes : Bytes) : Piece :=
  .rendered .serdePretty (.str (asciiText bytes)) [] isBlank_nil

theorem stringPiece_text {bytes : Bytes} (plain : ∀ byte ∈ bytes, PlainByte byte) :
    (stringPiece bytes).text = asciiText (ascii "\"" ++ bytes ++ ascii "\"") := by
  have kept : (asciiText bytes).flatMap serdeEscape = asciiText bytes := by
    induction bytes with
    | nil => rfl
    | cons byte bytes induction =>
        have first := (plain byte List.mem_cons_self).2
        have rest := induction fun other member =>
          plain other (List.mem_cons_of_mem byte member)
        rw [asciiText, List.map_cons, List.flatMap_cons, first, ← asciiText, rest]
        rfl
  have quoted : (stringPiece bytes).text =
      '"' :: ((asciiText bytes).flatMap serdeEscape ++ ['"']) := List.append_nil _
  rw [quoted, kept, asciiText_append, asciiText_append]
  rfl

/-! ## Arrays put together by hand -/

section

variable {record : Nat → Bytes} {piece : Nat → Piece}

end

def fillerPiece (fillerChars : Nat) (seed : UInt64) : Piece :=
  .object .serdePretty [("d".toList, stringPiece (filler fillerChars seed))]

theorem filler_plain (fillerChars : Nat) (seed : UInt64) :
    ∀ byte ∈ filler fillerChars seed, PlainByte byte :=
  fun _ member => base64_plain (List.mem_of_mem_take member)

theorem fillerPiece_text (fillerChars : Nat) (seed : UInt64) :
    asciiText (fillerRecord fillerChars seed) = (fillerPiece fillerChars seed).text := by
  have string := stringPiece_text (filler_plain fillerChars seed)
  rw [fillerPiece, Piece.text_object, Piece.objectText, Piece.membersAfter, string,
    fillerRecord]
  simp only [asciiText_append, List.append_assoc]
  rfl

theorem loads_fillerRecord (fillerChars : Nat) (seed : UInt64) :
    loads (asciiText (fillerRecord fillerChars seed)) =
      some (.obj (.cons "d".toList (.str (asciiText (filler fillerChars seed))) .nil)) := by
  have read := Piece.loads_text (fillerPiece fillerChars seed) isBlank_nil
  rw [List.append_nil, ← fillerPiece_text] at read
  exact read

/-! ## The bodies -/

/-- All bytes are ASCII, so that a reader of UTF-8 reads `asciiText` of them. -/
def IsAscii (bytes : Bytes) : Prop := ∀ byte ∈ bytes, byte < 128

theorem IsAscii.append {left right : Bytes} (leftAscii : IsAscii left)
    (rightAscii : IsAscii right) : IsAscii (left ++ right) := by
  intro byte member
  rcases List.mem_append.mp member with before | after
  · exact leftAscii byte before
  · exact rightAscii byte after

theorem fillerRecord_ascii (fillerChars : Nat) (seed : UInt64) :
    IsAscii (fillerRecord fillerChars seed) := by
  have key : IsAscii (ascii "\x7b\"d\":\"") ∧ IsAscii (ascii "\"\x7d") := by
    unfold IsAscii
    decide +kernel
  apply (key.1.append _).append key.2
  intro byte member
  exact (filler_plain _ _ byte member).1

theorem length_fillerRecord (fillerChars : Nat) (seed : UInt64) :
    (fillerRecord fillerChars seed).length = 8 + (filler fillerChars seed).length := by
  have envelope : (ascii "\x7b\"d\":\"").length = 6 ∧ (ascii "\"\x7d").length = 2 := by
    decide
  rw [fillerRecord, List.length_append, List.length_append, envelope.1, envelope.2]
  omega

theorem length_filler {fillerChars : Nat} (fits : fillerChars * 3 + 3 < 2 ^ 64)
    (seed : UInt64) : (filler fillerChars seed).length = fillerChars := by
  have raw : rawBytes fillerChars = max ((fillerChars * 3 + 3) / 4) 1 := by
    have product : fillerChars * 3 < 2 ^ 64 := by omega
    rw [rawBytes, Nat.mod_eq_of_lt product, Nat.mod_eq_of_lt fits]
  have enough : fillerChars ≤ 4 * ((rawBytes fillerChars + 2) / 3) := by
    rw [raw]
    omega
  have encoded : (Base64.encode (fillPayload (rawBytes fillerChars) seed)).length =
      4 * ((rawBytes fillerChars + 2) / 3) := by
    rw [Base64.length_encode, length_fillPayload]
  rw [filler, List.length_take, encoded]
  omega

theorem length_filler_wrapped {fillerChars : Nat} (wraps : 2 ^ 64 ≤ fillerChars * 3 + 3)
    (seed : UInt64) : (filler fillerChars seed).length + 1 ≠ fillerChars := by
  have raw : rawBytes fillerChars ≤ (fillerChars * 3 + 3 - 2 ^ 64) / 4 + 1 := by
    rw [rawBytes]
    omega
  have encoded : (Base64.encode (fillPayload (rawBytes fillerChars) seed)).length =
      4 * ((rawBytes fillerChars + 2) / 3) := by
    rw [Base64.length_encode, length_fillPayload]
  rw [filler, List.length_take, encoded]
  omega

/-- A single object is valid, but it never has the size asked for: it is one byte longer. -/
theorem json_single_off_by_one (payloadBytes arrayRecords : Nat) (room : 8 ≤ payloadBytes) :
    (buildBody .jsonSingle payloadBytes arrayRecords).bytes.length ≠ payloadBytes ∧
      ((payloadBytes - 7) * 3 + 3 < 2 ^ 64 →
        (buildBody .jsonSingle payloadBytes arrayRecords).bytes.length =
          payloadBytes + 1) ∧
      IsAscii (buildBody .jsonSingle payloadBytes arrayRecords).bytes ∧
      ∃ field, loads (asciiText (buildBody .jsonSingle payloadBytes arrayRecords).bytes) =
        some (.obj (.cons "d".toList (.str field) .nil)) := by
  have bytes : (buildBody .jsonSingle payloadBytes arrayRecords).bytes =
      fillerRecord (payloadBytes - 7) 0xFEEDCAFE := rfl
  rw [bytes, length_fillerRecord]
  refine ⟨?_, ?_, fillerRecord_ascii _ _, _, loads_fillerRecord _ _⟩
  · by_cases fits : (payloadBytes - 7) * 3 + 3 < 2 ^ 64
    · rw [length_filler fits]
      omega
    · have short := length_filler_wrapped (not_lt.mp fits) 0xFEEDCAFE
      omega
  · intro fits
    rw [length_filler fits]
    omega

theorem json_single_off_by_one_kilobyte :
    (buildBody .jsonSingle 1024 1).bytes.length = 1025 :=
  (json_single_off_by_one 1024 1 (by decide)).2.1 (by decide)

/-- For eight bytes the object has nine. -/
theorem json_single_eight :
    (buildBody .jsonSingle 8 1).bytes.length = 9 ∧
      (buildBody .jsonSingle 8 1).bytes.length ≠ 8 := by
  have length : (buildBody .jsonSingle 8 1).bytes.length = 9 := by
    have bytes : (buildBody .jsonSingle 8 1).bytes = fillerRecord 1 0xFEEDCAFE := rfl
    rw [bytes, length_fillerRecord, length_filler (by decide)]
  rw [length]
  decide

end DsBench.Workloads.RequestBody
