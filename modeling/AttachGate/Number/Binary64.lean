import AttachGate.Text.Basic

/-!
# Double-precision numbers

A number of IEEE 754's binary64 format, kept as its bits.  Every operation is
computed on exact integers and rounded once, to nearest and ties to even, so
nothing here depends on a machine's arithmetic.
-/

namespace AttachGate

/-- A binary64 number by its bits: a sign, eleven bits of exponent and
fifty-two of fraction. -/
structure Binary64 where
  bits : UInt64
  deriving DecidableEq

namespace Binary64

def signBit : Nat := Nat.pow 2 63

/-- The bits of positive infinity, the first pattern that is not finite. -/
def infinityBits : Nat := 2047 * Nat.pow 2 52

def isNegative (x : Binary64) : Bool := signBit ≤ x.bits.toNat

/-- The bits without the sign. -/
def magnitudeBits (x : Binary64) : Nat := x.bits.toNat % signBit

def isNaN (x : Binary64) : Bool := infinityBits < x.magnitudeBits

def isInfinite (x : Binary64) : Bool := x.magnitudeBits = infinityBits

def isFinite (x : Binary64) : Bool := x.magnitudeBits < infinityBits

def isZero (x : Binary64) : Bool := x.magnitudeBits = 0

/-- The number with the given sign and the given bits below it. -/
def ofMagnitudeBits (negative : Bool) (magnitude : Nat) : Binary64 :=
  ⟨UInt64.ofNat ((if negative then signBit else 0) + magnitude)⟩

def nan : Binary64 := ofMagnitudeBits false (2047 * Nat.pow 2 52 + Nat.pow 2 51)

def infinity (negative : Bool) : Binary64 := ofMagnitudeBits negative infinityBits

/-- The least exponent of a last place. -/
def minExponent : Int := -1074

/-- The significand `m` and exponent `q` of a finite number of size `m · 2^q`. -/
def significand (x : Binary64) : Nat × Int :=
  let exponent : Nat := x.magnitudeBits / Nat.pow 2 52
  let fraction : Nat := x.magnitudeBits % Nat.pow 2 52
  if exponent = 0 then (fraction, minExponent)
  else (fraction + Nat.pow 2 52, (exponent : Int) - 1075)

/-! ## Rounding -/

/-- `numerator / denominator` to the nearest integer, a half to the even one. -/
def roundQuotient (numerator denominator : Nat) : Nat :=
  let quotient := numerator / denominator
  let rest := numerator % denominator
  if 2 * rest < denominator then quotient
  else if denominator < 2 * rest then quotient + 1
  else quotient + quotient % 2

/-- `numerator / (denominator · 2^exponent)` to the nearest integer. -/
def roundScaled (numerator denominator : Nat) (exponent : Int) : Nat :=
  roundQuotient (numerator * Nat.pow 2 (-exponent).toNat)
    (denominator * Nat.pow 2 exponent.toNat)

/-- The number nearest to a ratio, infinity if it is too large.  The last place
is chosen so that the significand has fifty-three bits; a carry out of the
significand falls into the exponent of its own accord. -/
def ofRatio (negative : Bool) (numerator denominator : Nat) : Binary64 :=
  if numerator = 0 ∨ denominator = 0 then ofMagnitudeBits negative 0 else
    let estimate : Int := (Nat.log2 numerator : Int) - (Nat.log2 denominator : Int) - 53
    let lift (e : Int) : Int := max e minExponent
    let first := lift estimate
    let exponent :=
      if roundScaled numerator denominator first ≤ Nat.pow 2 53 then first else lift (first + 1)
    let significand := roundScaled numerator denominator exponent
    let magnitude := (exponent - minExponent).toNat * Nat.pow 2 52 + significand
    ofMagnitudeBits negative (min magnitude infinityBits)

/-- The number nearest to `m · 2^q`. -/
def ofScaled (negative : Bool) (m : Nat) (q : Int) : Binary64 :=
  ofRatio negative (m * Nat.pow 2 q.toNat) (Nat.pow 2 (-q).toNat)

/-- The number nearest to the decimal `digits · 10^exponent`.  Exponents far
out of range are settled without forming the power. -/
def ofDecimal (negative : Bool) (digits : Nat) (exponent : Int) : Binary64 :=
  if digits = 0 then ofMagnitudeBits negative 0
  else
    let size : Int := ((Nat.log2 digits : Nat) : Int) * 3 / 10 + exponent
    if 400 < size then infinity negative
    else if size < -800 then ofMagnitudeBits negative 0
    else ofRatio negative (digits * Nat.pow 10 exponent.toNat) (Nat.pow 10 (-exponent).toNat)

/-! ## Integers -/

/-- The nearest number to an integer, if it is in range. -/
def ofInt? (n : Int) : Option Binary64 :=
  let x := ofRatio (n < 0) n.natAbs 1
  if x.isFinite then some x else none

/-- The integer part of a finite number. -/
def truncate (x : Binary64) : Int :=
  let (m, q) := x.significand
  let size := (m * Nat.pow 2 q.toNat / Nat.pow 2 (-q).toNat : Nat)
  if x.isNegative then -(size : Int) else size

/-! ## Order -/

/-- A finite number as an integer count of last places of the least kind. -/
def toPlaces (x : Binary64) : Int :=
  let (m, q) := x.significand
  let size := m * Nat.pow 2 (q - minExponent).toNat
  if x.isNegative then -(size : Int) else size

/-- A rank that orders all numbers but NaN: a finite number by its value, the
infinities outside. -/
def rank (x : Binary64) : Int :=
  if x.isFinite then x.toPlaces
  else if x.isNegative then -(Nat.pow 2 2200) else Nat.pow 2 2200

/-- Whether `x < y`; NaN is less than nothing. -/
def lt (x y : Binary64) : Bool := !x.isNaN && !y.isNaN && x.rank < y.rank

/-- Whether `x ≤ y`; NaN is not. -/
def le (x y : Binary64) : Bool := !x.isNaN && !y.isNaN && x.rank ≤ y.rank

/-- Equality of values: the two zeros are equal, and NaN equals nothing. -/
def eq (x y : Binary64) : Bool := !x.isNaN && !y.isNaN && x.rank == y.rank

def eqInt (x : Binary64) (n : Int) : Bool :=
  x.isFinite && x.toPlaces == n * Nat.pow 2 (-minExponent).toNat

/-! ## Arithmetic -/

/-- The finite number of so many last places, rounded; a sum of zero takes the
sign given. -/
def ofPlaces (negativeZero : Bool) (n : Int) : Binary64 :=
  if n = 0 then ofMagnitudeBits negativeZero 0
  else ofScaled (n < 0) n.natAbs minExponent

def add (x y : Binary64) : Binary64 :=
  if x.isNaN || y.isNaN then nan
  else if x.isInfinite then
    if y.isInfinite && x.isNegative != y.isNegative then nan else x
  else if y.isInfinite then y
  else ofPlaces (x.isNegative && y.isNegative) (x.toPlaces + y.toPlaces)

def neg (x : Binary64) : Binary64 := ofMagnitudeBits (!x.isNegative) x.magnitudeBits

def sub (x y : Binary64) : Binary64 := add x (neg y)

def mul (x y : Binary64) : Binary64 :=
  let negative := x.isNegative != y.isNegative
  if x.isNaN || y.isNaN then nan
  else if x.isInfinite || y.isInfinite then
    if x.isZero || y.isZero then nan else infinity negative
  else
    let (m, p) := x.significand
    let (n, q) := y.significand
    ofScaled negative (m * n) (p + q)

end Binary64

end AttachGate
