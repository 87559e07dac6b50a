import DsBench.Foundation.Decimal

/-! # HTTP replies as the client sorts them

Every append loop and the catch-up reader tell three kinds of status apart: success,
backpressure, and everything else.
-/

namespace DsBench.Workloads

def isSuccess (status : Nat) : Prop := 200 ≤ status ∧ status < 300

instance (status : Nat) : Decidable (isSuccess status) :=
  inferInstanceAs (Decidable (_ ∧ _))

def isBackpressure (status : Nat) : Prop := status = 503 ∨ status = 429

instance (status : Nat) : Decidable (isBackpressure status) :=
  inferInstanceAs (Decidable (_ ∨ _))

/-- `str::contains`. -/
def contains (needle text : Text) : Bool := text.tails.any fun tail => needle.isPrefixOf tail

/-! ## Headers -/

abbrev HeaderValue := List UInt8

/-- `HeaderValue::to_str`: only visible characters, blanks and tabs are text. -/
def toStr (value : HeaderValue) : Option Text :=
  if value.all fun byte => (32 ≤ byte && byte < 127) || byte == 9 then
    some (value.map fun byte => Char.ofNat byte.toNat)
  else none

/-- `str::eq_ignore_ascii_case`, `Char.toLower` being the lower case of ASCII. -/
def eqIgnoreAsciiCase (left right : Text) : Bool :=
  left.map Char.toLower == right.map Char.toLower

end DsBench.Workloads
