import AttachGate.Number.Shortest

/-!
# Numbers

A number is an unbounded integer or a double-precision number.  Which of the
two it is shows in its text, so settings keep the number they were given.
-/

namespace AttachGate

inductive Number
  | int (n : Int)
  | float (x : Binary64)
  deriving DecidableEq

namespace Number

/-- The text of a number: an integer's numeral, or the shortest decimal. -/
def render : Number → Text
  | .int n => Text.ofInt n
  | .float x => x.render "nan" "inf"

def isZero : Number → Bool
  | .int n => n = 0
  | .float x => x.isZero

/-- The double-precision number nearest to a number; integers beyond the range
count as infinite. -/
def toBinary64 : Number → Binary64
  | .int n => (Binary64.ofInt? n).getD (Binary64.infinity (n < 0))
  | .float x => x

end Number

end AttachGate
