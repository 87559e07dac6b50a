import Mathlib.Data.Nat.Basic
import Mathlib.Tactic.IntervalCases

/-! # Hexadecimal digits as bytes

Numbers written with a fixed number of hexadecimal digits, and read back.
-/

namespace DsBench

abbrev Bytes := List UInt8

def ascii (text : String) : Bytes := text.toList.map fun character => character.toNat.toUInt8

def hexByte (digit : Nat) : UInt8 :=
  if digit < 10 then (48 + digit).toUInt8 else (87 + digit).toUInt8

/-- The last `width` digits of a number. -/
def hexFixed : (width : Nat) → Nat → Bytes
  | 0, _ => []
  | width + 1, value => hexFixed width (value / 16) ++ [hexByte (value % 16)]

example : hexFixed 4 0x2af = ascii "02af" := by decide

def isHexDigit (byte : UInt8) : Bool :=
  decide (48 ≤ byte ∧ byte ≤ 57) || decide (97 ≤ byte ∧ byte ≤ 102) ||
    decide (65 ≤ byte ∧ byte ≤ 70)

def hexByteValue (byte : UInt8) : Nat :=
  if byte ≤ 57 then byte.toNat - 48
  else if byte ≤ 70 then byte.toNat - 55
  else byte.toNat - 87

def hexNumber (digits : Bytes) : Nat :=
  digits.foldl (fun value byte => value * 16 + hexByteValue byte) 0

@[simp] theorem length_hexFixed (width value : Nat) :
    (hexFixed width value).length = width := by
  induction width generalizing value with
  | zero => rfl
  | succ width induction => rw [hexFixed, List.length_append, induction, List.length_singleton]

theorem hexByte_digit {digit : Nat} (small : digit < 16) :
    isHexDigit (hexByte digit) = true ∧ hexByteValue (hexByte digit) = digit := by
  have all : ∀ digit < 16,
      isHexDigit (hexByte digit) = true ∧ hexByteValue (hexByte digit) = digit := by
    decide
  exact all digit small

theorem exists_of_mem_hexFixed {width value : Nat} {byte : UInt8}
    (member : byte ∈ hexFixed width value) : ∃ digit < 16, byte = hexByte digit := by
  induction width generalizing value with
  | zero => cases member
  | succ width induction =>
      rw [hexFixed, List.mem_append, List.mem_singleton] at member
      rcases member with upper | last
      · exact induction upper
      · exact ⟨value % 16, Nat.mod_lt _ (by decide), last⟩

theorem isHexDigit_hexFixed {width value : Nat} :
    ∀ byte ∈ hexFixed width value, isHexDigit byte = true := by
  intro byte member
  rcases exists_of_mem_hexFixed member with ⟨digit, small, same⟩
  rw [same]
  exact (hexByte_digit small).1

theorem isHexDigit_iff (byte : UInt8) :
    isHexDigit byte = true ↔
      (48 ≤ byte.toNat ∧ byte.toNat ≤ 57) ∨ (97 ≤ byte.toNat ∧ byte.toNat ≤ 102) ∨
        (65 ≤ byte.toNat ∧ byte.toNat ≤ 70) := by
  simp only [isHexDigit, UInt8.le_iff_toNat_le, Bool.or_eq_true, decide_eq_true_eq, or_assoc]
  rfl

theorem hexByteValue_lt {byte : UInt8} (digit : isHexDigit byte = true) :
    hexByteValue byte < 16 := by
  rcases (isHexDigit_iff byte).mp digit with decimal | lower | upper
  · rw [hexByteValue, if_pos (UInt8.le_iff_toNat_le.mpr decimal.2)]
    omega
  · rw [hexByteValue, if_neg, if_neg]
    · omega
    · rw [UInt8.le_iff_toNat_le, not_le]
      exact lt_of_lt_of_le (by decide) lower.1
    · rw [UInt8.le_iff_toNat_le, not_le]
      exact lt_of_lt_of_le (by decide) lower.1
  · rw [hexByteValue, if_neg, if_pos (UInt8.le_iff_toNat_le.mpr upper.2)]
    · omega
    · rw [UInt8.le_iff_toNat_le, not_le]
      exact lt_of_lt_of_le (by decide) upper.1

/-- Digits behind a number of `width` digits make a number of as many more. -/
theorem foldl_hexByteValue_lt {width value : Nat} (fits : value < 16 ^ width) {digits : Bytes}
    (allDigits : ∀ byte ∈ digits, isHexDigit byte = true) :
    digits.foldl (fun value byte => value * 16 + hexByteValue byte) value <
      16 ^ (width + digits.length) := by
  induction digits generalizing width value with
  | nil => exact fits
  | cons byte digits induction =>
      have digit := hexByteValue_lt (allDigits byte List.mem_cons_self)
      have next : value * 16 + hexByteValue byte < 16 ^ (width + 1) := by
        rw [Nat.pow_succ]
        omega
      have rest := induction next fun other member =>
        allDigits other (List.mem_cons_of_mem _ member)
      rw [List.foldl_cons, List.length_cons, Nat.add_comm digits.length 1, ← Nat.add_assoc]
      exact rest

theorem hexNumber_lt {digits : Bytes}
    (allDigits : ∀ byte ∈ digits, isHexDigit byte = true) :
    hexNumber digits < 16 ^ digits.length := by
  have bound : (0 : Nat) < 16 ^ 0 := by decide
  have number := foldl_hexByteValue_lt bound allDigits
  rwa [Nat.zero_add] at number

theorem hexNumber_hexFixed {width value : Nat} (fits : value < 16 ^ width) :
    hexNumber (hexFixed width value) = value := by
  induction width generalizing value with
  | zero =>
      rw [Nat.pow_zero] at fits
      rw [Nat.lt_one_iff.mp fits]
      rfl
  | succ width induction =>
      have upper : value / 16 < 16 ^ width := by
        rw [Nat.pow_succ] at fits
        exact Nat.div_lt_of_lt_mul (by omega)
      have last := (hexByte_digit (Nat.mod_lt value (by decide : 0 < 16))).2
      have digits := induction upper
      rw [hexNumber] at digits ⊢
      rw [hexFixed, List.foldl_append, digits, List.foldl_cons, List.foldl_nil, last]
      omega

end DsBench
