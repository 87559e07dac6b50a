import DsBench.Workloads.HttpReply
import Mathlib.Data.Rat.Defs

/-! # Catch-up reads

One full replay of a stream: page after page from the start offset until the server
says the reader is up to date.
-/

namespace DsBench.Workloads.CatchUp

/-- The answer to one page request. `refused` carries the status with its reason
phrase, `page` the drained length and the two headers that steer the loop. -/
inductive PageAnswer where
  | unreachable
  | refused (status : Nat) (reason : Text)
  | broken
  | page (length : Nat) (upToDate : Bool) (next : Option Text)
deriving DecidableEq, Repr

structure Page where
  delay : ℚ
  answer : PageAnswer
deriving DecidableEq, Repr

def guardLimit : Nat := 100000

/-- `catch_up_read_all`: the bytes read or the error text, and the time it took.
`left` counts the pages still allowed. -/
def catchUpReadAll (pages : Nat → Page) :
    (left : Nat) → (offset : Text) → (total : Nat) → (elapsed : ℚ) → Except Text Nat × ℚ
  | 0, _, total, elapsed => (.ok total, elapsed)
  | left + 1, offset, total, elapsed =>
      let page := pages (guardLimit - (left + 1))
      let elapsed := elapsed + page.delay
      match page.answer with
      | .unreachable => (.error "catch-up GET".toList, elapsed)
      | .refused status reason =>
          (.error ("catch-up status ".toList ++ decimal status ++ ' ' :: reason), elapsed)
      | .broken => (.error "catch-up body".toList, elapsed)
      | .page length upToDate next =>
          let total := total + length
          match next with
          | some next =>
              if upToDate = false ∧ next ≠ offset ∧ 0 < left then
                catchUpReadAll pages left next total elapsed
              else (.ok total, elapsed)
          | none => (.ok total, elapsed)

/-- `catch_up_start`: both supported styles begin at offset minus one. -/
def catchUpStart : Text := "-1".toList

def replay (pages : Nat → Page) : Except Text Nat × ℚ :=
  catchUpReadAll pages guardLimit catchUpStart 0 0

def isBusyMessage (message : Text) : Bool :=
  contains "503".toList message || contains "429".toList message

end DsBench.Workloads.CatchUp
