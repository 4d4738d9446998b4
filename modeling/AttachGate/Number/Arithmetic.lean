import AttachGate.Number.Basic
import AttachGate.Failure

/-!
# Arithmetic on numbers

Integers stay exact among themselves; with a double-precision operand an
integer is rounded first, and fails if it is beyond the range.
-/

namespace AttachGate.Number

/-- The double-precision operand for a number. -/
def operand : Number → Except Failure Binary64
  | .float x => .ok x
  | .int n =>
    match Binary64.ofInt? n with
    | some x => .ok x
    | none => .error .integerTooLarge

def add : Number → Number → Except Failure Number
  | .int m, .int n => .ok (.int (m + n))
  | a, b => do pure (.float ((← a.operand).add (← b.operand)))

def sub : Number → Number → Except Failure Number
  | .int m, .int n => .ok (.int (m - n))
  | a, b => do pure (.float ((← a.operand).sub (← b.operand)))

def mul : Number → Number → Except Failure Number
  | .int m, .int n => .ok (.int (m * n))
  | a, b => do pure (.float ((← a.operand).mul (← b.operand)))

/-- Whether `a ≤ b`; integers compare exactly with each other, otherwise by
their double-precision values. -/
def le : Number → Number → Bool
  | .int m, .int n => m ≤ n
  | a, b => a.toBinary64.le b.toBinary64

end AttachGate.Number
