import AttachGate.Json.Source
import AttachGate.Json.Writer
import AttachGate.Failure

/-!
# Documents

Reading and writing whole documents.  Integers of too many digits are refused
both ways.  How deep brackets may be nested depends on who reads.
-/

namespace AttachGate

namespace Value

/-- Whether an integer is short enough to be written. -/
def integerFits (n : Int) : Bool := n.natAbs < Nat.pow 10 maxIntegerDigits

mutual

/-- Whether all integers in a value are short enough to be written. -/
def fits : Value → Bool
  | .int n => integerFits n
  | .array items => itemsFit items
  | .object members => membersFit members
  | _ => true

def itemsFit : List Value → Bool
  | [] => true
  | v :: rest => fits v && itemsFit rest

def membersFit : List (Text × Value) → Bool
  | [] => true
  | (_, v) :: rest => fits v && membersFit rest

end

end Value

namespace Document

def ofBytes (room : Nat) (bytes : Bytes) : Except Failure Value :=
  (Json.readBytes room bytes).mapError Failure.ofReadError

def ofText (room : Nat) (t : Text) : Except Failure Value :=
  (Json.readText room t).mapError Failure.ofReadError

def toText (v : Value) : Except Failure Text :=
  if v.fits then .ok (Json.write v) else .error .integerTooLong

end Document

end AttachGate
