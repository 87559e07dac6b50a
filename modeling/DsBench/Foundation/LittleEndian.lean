import DsBench.Foundation.HexBytes

/-! # Numbers as little-endian bytes -/

namespace DsBench

/-- The last `width` bytes of a number, lowest first. -/
def leBytes : (width : Nat) → Nat → Bytes
  | 0, _ => []
  | width + 1, value => value.toUInt8 :: leBytes width (value / 256)

def leNumber : Bytes → Nat
  | [] => 0
  | byte :: bytes => byte.toNat + 256 * leNumber bytes

example : leBytes 4 0x01020304 = [4, 3, 2, 1] := by decide

@[simp] theorem length_leBytes (width value : Nat) : (leBytes width value).length = width := by
  induction width generalizing value with
  | zero => rfl
  | succ width induction => rw [leBytes, List.length_cons, induction]

@[simp] theorem leNumber_leBytes (width value : Nat) :
    leNumber (leBytes width value) = value % 256 ^ width := by
  induction width generalizing value with
  | zero => rw [leBytes, leNumber, Nat.pow_zero, Nat.mod_one]
  | succ width induction =>
      rw [leBytes, leNumber, induction, Nat.pow_succ', Nat.mod_mul]
      simp

end DsBench
