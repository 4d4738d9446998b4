import AttachGate.Number.Binary64

/-!
# Shortest decimal numerals

A double-precision number is written with the fewest digits that read back as
the same number, and of those with the digits nearest to it.
-/

namespace AttachGate

/-- A decimal `0.d₁d₂… · 10^point`, its digits most significant first. -/
structure Decimal where
  digits : Nat
  point : Int

namespace Binary64

/-- The reals that round to a positive finite number, as the numerators of its
lower end, itself and its upper end over one denominator, and whether the ends
belong to it.  Below a power of two the lower neighbour is half as far. -/
structure Neighbourhood where
  lower : Nat
  centre : Nat
  upper : Nat
  denominator : Nat
  closed : Bool

def neighbourhood (x : Binary64) : Neighbourhood :=
  let (m, q) := x.significand
  let scale := Nat.pow 2 q.toNat
  let near := m = Nat.pow 2 52 ∧ minExponent < q
  { lower := (if near then 4 * m - 1 else 4 * m - 2) * scale
    centre := 4 * m * scale
    upper := (4 * m + 2) * scale
    denominator := 4 * Nat.pow 2 (-q).toNat
    closed := m % 2 = 0 }

/-- Whether `n / d` rounds to the number of the neighbourhood. -/
def Neighbourhood.holds (h : Neighbourhood) (n d : Nat) : Bool :=
  if h.closed then h.lower * d ≤ n * h.denominator && n * h.denominator ≤ h.upper * d
  else h.lower * d < n * h.denominator && n * h.denominator < h.upper * d

/-- The least `k` with the number below `10^k`, searched from a power that is
known to be too small. -/
def decimalPoint (h : Neighbourhood) : Nat → Int → Int
  | 0, k => k
  | fuel + 1, k =>
    if h.centre * Nat.pow 10 (-k).toNat < h.denominator * Nat.pow 10 k.toNat then k
    else decimalPoint h fuel (k + 1)

/-- The multiple of `10^(point - count)` that rounds to the number and is the
nearest to it, if one of its two neighbours on that grid does. -/
def onGrid? (h : Neighbourhood) (point : Int) (count : Nat) : Option Nat :=
  let e := point - count
  let up := Nat.pow 10 e.toNat
  let down := Nat.pow 10 (-e).toNat
  let scaled := h.centre * down
  let unit := h.denominator * up
  let below := scaled / unit
  let rest := scaled % unit
  let low := h.holds (below * up) down
  let high := h.holds ((below + 1) * up) down
  if low && high then
    if 2 * rest < unit ∨ (2 * rest = unit ∧ below % 2 = 0) then some below else some (below + 1)
  else if low then some below
  else if high then some (below + 1)
  else none

/-- The first grid with a hit, from `count` digits on. -/
def shortestFrom (h : Neighbourhood) (point : Int) : Nat → Nat → Decimal
  | 0, count => ⟨h.centre * Nat.pow 10 (count - point).toNat / h.denominator, point⟩
  | fuel + 1, count =>
    match onGrid? h point count with
    | some digits =>
      if digits = Nat.pow 10 count then ⟨1, point + 1⟩ else ⟨digits, point⟩
    | none => shortestFrom h point fuel (count + 1)

def shortest (x : Binary64) : Decimal :=
  let h := x.neighbourhood
  let start : Int := ((Nat.log2 h.centre : Int) - (Nat.log2 h.denominator : Int) - 2) * 3 / 10 - 2
  shortestFrom h (decimalPoint h 500 start) 17 1

end Binary64

/-! ## Layout -/

def Text.zeros (n : Nat) : Text := List.replicate n (CodePoint.ofChar '0')

/-- How a decimal numeral is laid out: positional for a point within bounds,
otherwise with one digit before the mark and an exponent of two digits or
more. -/
structure NumeralLayout where
  minPoint : Int
  maxPoint : Int

/-- Numbers from a ten-thousandth up to, not including, ten to the sixteenth
are positional. -/
def numeralLayout : NumeralLayout := ⟨-3, 16⟩

def Text.ofExponent (e : Int) : Text :=
  let digits := ofNat e.natAbs
  (if e < 0 then ofString "-" else ofString "+") ++ zeros (2 - digits.length) ++ digits

/-- A positive decimal as text; a whole number keeps `.0`. -/
def Decimal.render (d : Decimal) : Text :=
  let digits := Text.ofNat d.digits
  let point := d.point
  if numeralLayout.minPoint ≤ point ∧ point ≤ numeralLayout.maxPoint then
    if point ≤ 0 then "0." ++ Text.zeros (-point).toNat ++ digits
    else
      let whole := digits.take point.toNat ++ Text.zeros (point.toNat - digits.length)
      let fraction := digits.drop point.toNat
      whole ++ "." ++ (if fraction.isEmpty then ("0" : Text) else fraction)
  else
    let fraction := digits.drop 1
    digits.take 1 ++ (if fraction.isEmpty then ([] : Text) else "." ++ fraction) ++ "e" ++
      Text.ofExponent (point - 1)

/-- The text of a number: the shortest decimal, or a name where there is none. -/
def Binary64.render (x : Binary64) (nan infinity : Text) : Text :=
  if x.isNaN then nan
  else
    (if x.isNegative then ("-" : Text) else []) ++
      (if x.isInfinite then infinity
      else if x.isZero then "0.0"
      else x.shortest.render)

end AttachGate
