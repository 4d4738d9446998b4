import AttachGate.Value.Basic

/-!
# Equality of values

Two numbers are equal if they denote the same number, whether an integer, a
double-precision number or a truth value (which counts as zero or one).  Two
objects are equal if they have equal members in any order.  NaN differs from
itself when compared directly, but one part of a value is always equal to
itself, NaN included.
-/

namespace AttachGate.Value

/-- The number that a scalar counts as. -/
def number? : Value → Option Number
  | .bool b => some (.int (if b then 1 else 0))
  | .int n => some (.int n)
  | .float x => some (.float x)
  | _ => none

def numbersEqual : Number → Number → Bool
  | .int m, .int n => m = n
  | .int m, .float y => y.eqInt m
  | .float x, .int n => x.eqInt n
  | .float x, .float y => x.eq y

def isNaN : Value → Bool
  | .float x => x.isNaN
  | _ => false

mutual

/-- Equality of parts of values. -/
def same : Value → Value → Bool
  | .null, .null => true
  | .text s, .text t => s = t
  | .array xs, .array ys => sameItems xs ys
  | .object xs, .object ys => xs.length == ys.length && sameMembers xs ys
  | .array _, _ => false
  | .object _, _ => false
  | v, w =>
    (v.isNaN && w.isNaN) ||
      match v.number?, w.number? with
      | some m, some n => numbersEqual m n
      | _, _ => false

def sameItems : List Value → List Value → Bool
  | [], [] => true
  | x :: xs, y :: ys => same x y && sameItems xs ys
  | _, _ => false

/-- Whether every member has an equal one under its key. -/
def sameMembers : List (Text × Value) → List (Text × Value) → Bool
  | [], _ => true
  | (k, x) :: xs, ys =>
    (match Members.get? k ys with
      | some y => same x y
      | none => false) && sameMembers xs ys

end

/-- Equality of two values that were obtained apart from each other. -/
def equal (v w : Value) : Bool := !v.isNaN && same v w

/-- Whether a value may identify something: arrays and objects may not. -/
def isKey : Value → Bool
  | .array _ => false
  | .object _ => false
  | _ => true

end AttachGate.Value
