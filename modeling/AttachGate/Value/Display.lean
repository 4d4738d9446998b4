import AttachGate.Value.Basic
import AttachGate.Text.Quoted

/-!
# Values in messages

How a value is shown to a person: a text as it is, anything else in a notation
of its own, with texts inside quoted.
-/

namespace AttachGate.Value

mutual

/-- A value as part of another, or standing for itself where it is no text. -/
def shown : Value → Text
  | .null => "None"
  | .bool true => "True"
  | .bool false => "False"
  | .int n => Text.ofInt n
  | .float x => x.render "nan" "inf"
  | .text t => t.quoted
  | .array items => "[" ++ shownItems items ++ "]"
  | .object members => "\x7b" ++ shownMembers members ++ "\x7d"

def shownItems : List Value → Text
  | [] => []
  | [v] => shown v
  | v :: rest => shown v ++ ", " ++ shownItems rest

def shownMembers : List (Text × Value) → Text
  | [] => []
  | [(k, v)] => k.quoted ++ ": " ++ shown v
  | (k, v) :: rest => k.quoted ++ ": " ++ shown v ++ ", " ++ shownMembers rest

end

/-- The text of a value in a message. -/
def display : Value → Text
  | .text t => t
  | v => shown v

end AttachGate.Value
