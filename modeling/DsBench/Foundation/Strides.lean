import Mathlib.Data.List.Basic

/-! # Records at a stride

A body holds records of one size, each of which begins with a field of one width. What a
reader takes for the fields are the windows at the multiples of the record size.
-/

namespace DsBench

structure RecordLayout where
  stride : Nat
  width : Nat
  positive : 0 < width
  fits : width ≤ stride

namespace RecordLayout

section

variable {Symbol : Type u} (layout : RecordLayout)

def windows (body : List Symbol) : List (List Symbol) :=
  if layout.width ≤ body.length then
    body.take layout.width :: windows (body.drop layout.stride)
  else []
termination_by body.length
decreasing_by
  have positive := layout.positive
  have fits := layout.fits
  rw [List.length_drop]
  omega

theorem windows_short {body : List Symbol} (short : body.length < layout.width) :
    layout.windows body = [] := by
  rw [windows, if_neg (Nat.not_le_of_lt short)]

theorem windows_long {body : List Symbol} (long : layout.width ≤ body.length) :
    layout.windows body =
      body.take layout.width :: layout.windows (body.drop layout.stride) := by
  rw [windows, if_pos long]

theorem windows_records (records : List (List Symbol)) (tail : List Symbol)
    (full : ∀ record ∈ records, record.length = layout.stride) :
    layout.windows (records.flatten ++ tail) =
      records.map (List.take layout.width) ++ layout.windows tail := by
  have fits := layout.fits
  induction records with
  | nil => rfl
  | cons record records induction =>
      have size : record.length = layout.stride := full record List.mem_cons_self
      have long : layout.width ≤ (record ++ (records.flatten ++ tail)).length := by
        rw [List.length_append]
        omega
      have field : (record ++ (records.flatten ++ tail)).take layout.width =
          record.take layout.width := List.take_append_of_le_length (by omega)
      rw [List.flatten_cons, List.append_assoc, layout.windows_long long, field,
        ← size, List.drop_left, induction fun other member =>
          full other (List.mem_cons_of_mem record member)]
      rfl

end

end RecordLayout

end DsBench
