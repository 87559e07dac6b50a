import DsBench.Foundation.HexBytes

/-! # Base64

The standard alphabet with padding: three bytes in four characters.
-/

namespace DsBench.Base64

def sextet (value : Nat) : UInt8 :=
  if value < 26 then (65 + value).toUInt8
  else if value < 52 then (71 + value).toUInt8
  else if value < 62 then (value - 4).toUInt8
  else if value = 62 then 43
  else 47

def padding : UInt8 := 61

def group (first second third : Nat) : Nat := first * 65536 + second * 256 + third

def encode : Bytes → Bytes
  | [] => []
  | [first] =>
      let bits := group first.toNat 0 0
      [sextet (bits / 262144), sextet (bits / 4096 % 64), padding, padding]
  | [first, second] =>
      let bits := group first.toNat second.toNat 0
      [sextet (bits / 262144), sextet (bits / 4096 % 64), sextet (bits / 64 % 64), padding]
  | first :: second :: third :: rest =>
      let bits := group first.toNat second.toNat third.toNat
      sextet (bits / 262144) :: sextet (bits / 4096 % 64) :: sextet (bits / 64 % 64) ::
        sextet (bits % 64) :: encode rest

example : encode (ascii "Send") = ascii "U2VuZA==" := by decide

def sextetValue (character : UInt8) : Option Nat :=
  if 65 ≤ character ∧ character ≤ 90 then some (character.toNat - 65)
  else if 97 ≤ character ∧ character ≤ 122 then some (character.toNat - 71)
  else if 48 ≤ character ∧ character ≤ 57 then some (character.toNat + 4)
  else if character = 43 then some 62
  else if character = 47 then some 63
  else none

/-- Decoding as strict engines do it: whole groups, padding at the end only, and no bits
under the padding. -/
def decode : Bytes → Option Bytes
  | [] => some []
  | one :: two :: three :: four :: rest =>
      if rest = [] ∧ three = padding ∧ four = padding then do
        let p ← sextetValue one
        let q ← sextetValue two
        if q % 16 = 0 then some [(p * 4 + q / 16).toUInt8] else none
      else if rest = [] ∧ four = padding then do
        let p ← sextetValue one
        let q ← sextetValue two
        let r ← sextetValue three
        if r % 4 = 0 then
          some [(p * 4 + q / 16).toUInt8, (q % 16 * 16 + r / 4).toUInt8]
        else none
      else do
        let p ← sextetValue one
        let q ← sextetValue two
        let r ← sextetValue three
        let s ← sextetValue four
        let tail ← decode rest
        some ((p * 4 + q / 16).toUInt8 :: (q % 16 * 16 + r / 4).toUInt8 ::
          (r % 4 * 64 + s).toUInt8 :: tail)
  | _ => none

/-! ## The alphabet -/

theorem sextet_spec {value : Nat} (small : value < 64) :
    sextetValue (sextet value) = some value ∧ sextet value ≠ padding := by
  have all : ∀ value < 64,
      sextetValue (sextet value) = some value ∧ sextet value ≠ padding := by
    decide
  exact all value small

theorem toUInt8_of_toNat {byte : UInt8} {value : Nat} (same : value = byte.toNat) :
    value.toUInt8 = byte := by
  rw [same]
  exact UInt8.ofNat_toNat

theorem group_split {first second third : Nat} (one : first < 256) (two : second < 256)
    (three : third < 256) :
    (group first second third / 262144 < 64 ∧ group first second third / 4096 % 64 < 64 ∧
      group first second third / 64 % 64 < 64 ∧ group first second third % 64 < 64) ∧
      group first second third / 262144 * 4 + group first second third / 4096 % 64 / 16 =
        first ∧
      group first second third / 4096 % 64 % 16 * 16 +
        group first second third / 64 % 64 / 4 = second ∧
      group first second third / 64 % 64 % 4 * 64 + group first second third % 64 = third := by
  rw [group]
  omega

theorem decode_encode (bytes : Bytes) : decode (encode bytes) = some bytes := by
  induction bytes using encode.induct with
  | case1 => rfl
  | case2 first =>
      rcases group_split first.toNat_lt (by decide : 0 < 256) (by decide : 0 < 256) with
        ⟨⟨p, q, -, -⟩, one, two, -⟩
      have clear : group first.toNat 0 0 / 4096 % 64 % 16 = 0 := by omega
      rw [encode, decode, if_pos ⟨rfl, rfl, rfl⟩, (sextet_spec p).1, (sextet_spec q).1,
        Option.bind_eq_bind, Option.bind_some, Option.bind_some, if_pos clear,
        toUInt8_of_toNat one]
  | case3 first second =>
      rcases group_split first.toNat_lt second.toNat_lt (by decide : 0 < 256) with
        ⟨⟨p, q, r, -⟩, one, two, three⟩
      have clear : group first.toNat second.toNat 0 / 64 % 64 % 4 = 0 := by omega
      have notTwo : ¬ (([] : Bytes) = [] ∧
          sextet (group first.toNat second.toNat 0 / 64 % 64) = padding ∧
            padding = padding) := fun padded => (sextet_spec r).2 padded.2.1
      rw [encode, decode, if_neg notTwo, if_pos ⟨rfl, rfl⟩, (sextet_spec p).1,
        (sextet_spec q).1, (sextet_spec r).1, Option.bind_eq_bind, Option.bind_some,
        Option.bind_some, Option.bind_some, if_pos clear, toUInt8_of_toNat one,
        toUInt8_of_toNat two]
  | case4 first second third rest induction =>
      rcases group_split first.toNat_lt second.toNat_lt third.toNat_lt with
        ⟨⟨p, q, r, s⟩, one, two, three⟩
      have notPadded := (sextet_spec s).2
      rw [encode, decode, if_neg fun padded => notPadded padded.2.2,
        if_neg fun padded => notPadded padded.2, (sextet_spec p).1, (sextet_spec q).1,
        (sextet_spec r).1, (sextet_spec s).1, induction, Option.bind_eq_bind,
        Option.bind_some, Option.bind_some, Option.bind_some, Option.bind_some,
        toUInt8_of_toNat one, toUInt8_of_toNat two, toUInt8_of_toNat three,
        Option.bind_eq_bind, Option.bind_some]

/-! ## The text of an encoding -/

theorem length_encode (bytes : Bytes) :
    (encode bytes).length = 4 * ((bytes.length + 2) / 3) := by
  induction bytes using encode.induct with
  | case1 => rfl
  | case2 first =>
      rw [encode]
      simp only [List.length_cons, List.length_nil]
  | case3 first second =>
      rw [encode]
      simp only [List.length_cons, List.length_nil]
  | case4 first second third rest induction =>
      rw [encode]
      simp only [List.length_cons]
      rw [induction]
      omega

theorem encode_ne_nil {bytes : Bytes} (nonempty : bytes ≠ []) : encode bytes ≠ [] := by
  intro empty
  have decoded := decode_encode bytes
  rw [empty, decode, Option.some.injEq] at decoded
  exact nonempty decoded.symm

theorem mem_encode {bytes : Bytes} {character : UInt8} (member : character ∈ encode bytes) :
    character = padding ∨ ∃ value < 64, character = sextet value := by
  induction bytes using encode.induct with
  | case1 => cases member
  | case2 first =>
      rcases group_split first.toNat_lt (by decide : 0 < 256) (by decide : 0 < 256) with
        ⟨⟨p, q, -, -⟩, -⟩
      simp only [encode, List.mem_cons, List.not_mem_nil, or_false] at member
      rcases member with one | two | pad | pad
      · exact .inr ⟨_, p, one⟩
      · exact .inr ⟨_, q, two⟩
      · exact .inl pad
      · exact .inl pad
  | case3 first second =>
      rcases group_split first.toNat_lt second.toNat_lt (by decide : 0 < 256) with
        ⟨⟨p, q, r, -⟩, -⟩
      simp only [encode, List.mem_cons, List.not_mem_nil, or_false] at member
      rcases member with one | two | three | pad
      · exact .inr ⟨_, p, one⟩
      · exact .inr ⟨_, q, two⟩
      · exact .inr ⟨_, r, three⟩
      · exact .inl pad
  | case4 first second third rest induction =>
      rcases group_split first.toNat_lt second.toNat_lt third.toNat_lt with
        ⟨⟨p, q, r, s⟩, -⟩
      simp only [encode, List.mem_cons] at member
      rcases member with one | two | three | four | later
      · exact .inr ⟨_, p, one⟩
      · exact .inr ⟨_, q, two⟩
      · exact .inr ⟨_, r, three⟩
      · exact .inr ⟨_, s, four⟩
      · exact induction later

theorem getElem?_encode {bytes : Bytes} {index : Nat} {character : UInt8}
    (found : (encode bytes)[4 * index]? = some character) :
    ∃ byte ∈ bytes, character = sextet (byte.toNat / 4) := by
  have upper : ∀ {first second third : Nat}, second < 256 → third < 256 →
      group first second third / 262144 = first / 4 := by
    intro first second third two three
    rw [group]
    omega
  induction bytes using encode.induct generalizing index with
  | case1 => simp [encode] at found
  | case2 first =>
      cases index with
      | zero =>
          rw [encode, upper (by decide) (by decide)] at found
          simp only [Nat.mul_zero, List.getElem?_cons_zero, Option.some.injEq] at found
          exact ⟨first, List.mem_cons_self, found.symm⟩
      | succ index => simp [encode, Nat.mul_succ] at found
  | case3 first second =>
      cases index with
      | zero =>
          rw [encode, upper second.toNat_lt (by decide)] at found
          simp only [Nat.mul_zero, List.getElem?_cons_zero, Option.some.injEq] at found
          exact ⟨first, List.mem_cons_self, found.symm⟩
      | succ index => simp [encode, Nat.mul_succ] at found
  | case4 first second third rest induction =>
      cases index with
      | zero =>
          rw [encode, upper second.toNat_lt third.toNat_lt] at found
          simp only [Nat.mul_zero, List.getElem?_cons_zero, Option.some.injEq] at found
          exact ⟨first, List.mem_cons_self, found.symm⟩
      | succ index =>
          simp only [encode, Nat.mul_succ, List.getElem?_cons_succ] at found
          rcases induction found with ⟨byte, member, same⟩
          exact ⟨byte, by simp [member], same⟩

end DsBench.Base64
