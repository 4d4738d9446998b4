import AttachGate.Number.Basic

/-!
# Values

The values of a JSON document: scalars, arrays, and objects whose members keep
the order in which they were first named.
-/

namespace AttachGate

inductive Value
  | null
  | bool (b : Bool)
  | int (n : Int)
  | float (x : Binary64)
  | text (t : Text)
  | array (items : List Value)
  | object (members : List (Text × Value))

/-- The members of an object, in order. -/
abbrev Members := List (Text × Value)

namespace Members

def get? (key : Text) : Members → Option Value
  | [] => none
  | (k, v) :: rest => if k = key then some v else get? key rest

/-- Sets the value under a key: in its place if the key is there, at the end
otherwise. -/
def set (key : Text) (value : Value) : Members → Members
  | [] => [(key, value)]
  | (k, v) :: rest => if k = key then (k, value) :: rest else (k, v) :: set key value rest

/-- Collects members given one after another; a repeated key keeps its first
place and takes its last value. -/
def ofPairs (pairs : List (Text × Value)) : Members :=
  pairs.foldl (fun members (k, v) => set k v members) []

end Members

namespace Value

/-- A value that conditions take as false: null, `false`, zero, or empty. -/
def isBlank : Value → Bool
  | .null => true
  | .bool b => !b
  | .int n => n = 0
  | .float x => x.isZero
  | .text t => t.isEmpty
  | .array items => items.isEmpty
  | .object members => members.isEmpty

/-- The value, unless it is blank. -/
def orElse (v other : Value) : Value := if v.isBlank then other else v

def isNull : Value → Bool
  | .null => true
  | _ => false

def isText (v : Value) (t : Text) : Bool :=
  match v with
  | .text s => s = t
  | _ => false

def ofNumber : Number → Value
  | .int n => .int n
  | .float x => .float x

end Value

end AttachGate
