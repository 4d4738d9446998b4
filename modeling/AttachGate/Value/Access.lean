import AttachGate.Value.Basic
import AttachGate.Failure

/-!
# Parts of values

Taking a value apart, with a failure where it has another shape.
-/

namespace AttachGate.Value

def members : Value → Except Failure Members
  | .object members => .ok members
  | _ => .error .notARecord

/-- The value under a key of an object, or a default. -/
def field (v : Value) (key : Text) (default : Value) : Except Failure Value := do
  let members ← v.members
  pure ((members.get? key).getD default)

/-- The items of a value: of an array its items, of a text its code points, of
an object its keys. -/
def items : Value → Except Failure (List Value)
  | .array items => .ok items
  | .text t => .ok (t.map fun c => .text [c])
  | .object members => .ok (members.map fun (k, _) => .text k)
  | _ => .error .wrongType

/-- The items of a value, none if it is blank. -/
def itemsOrNone (v : Value) : Except Failure (List Value) :=
  if v.isBlank then .ok [] else v.items

/-- The integer that a value stands for: a number's integer part, a truth value
as zero or one, or the integer that a text writes. -/
def toInteger : Value → Except Failure Int
  | .bool b => .ok (if b then 1 else 0)
  | .int n => .ok n
  | .float x =>
    if x.isNaN then .error .notANumber
    else if x.isInfinite then .error .infiniteNumber
    else .ok x.truncate
  | .text t => (Numeral.readInteger t).mapError .badNumeral
  | _ => .error .wrongType

end AttachGate.Value
