import AttachGate.Number.Numeral

/-!
# Amounts on a command line

How many and how long.  Blanks may stand around an amount and single underscores
inside it.  A count may have zeros in front and a fraction that is zero; a time
is any number that is not below zero.  Digits are those of ASCII.
-/

namespace AttachGate.CommandLine

/-- Whether a code point may stand around an amount: white space, the information
separators of ASCII aside. -/
def isAround (c : CodePoint) : Bool := c.isBlank && !(0x1C ≤ c.val && c.val ≤ 0x1F)

/-- An amount without what stands around it. -/
def bare (t : Text) : Text := ((t.dropWhile isAround).reverse.dropWhile isAround).reverse

/-- Whether underscores stand one at a time, and none of them at an end. -/
def underscoresInside : Text → Bool
  | [] => true
  | c :: rest => c ≠ Numeral.underscore && inner rest
where
  /-- The same after something that is no underscore. -/
  inner : Text → Bool
    | [] => true
    | c :: rest =>
      if c = Numeral.underscore then
        match rest with
        | d :: more => d ≠ Numeral.underscore && inner more
        | [] => false
      else inner rest

/-- A text less its underscores, if they stand inside it. -/
def joined? (t : Text) : Option Text :=
  if underscoresInside t then some (t.filter (· ≠ Numeral.underscore)) else none

def zero : CodePoint := CodePoint.ofChar '0'

/-- The part of a whole number that counts: what follows the zeros in front, with
the underscores among them. -/
def withoutLead (t : Text) : Text :=
  if t.head? = some zero then t.dropWhile fun c => c = zero || c = Numeral.underscore else t

/-- A numeral less its fraction, if that is zero. -/
def withoutFraction (t : Text) : Text :=
  let whole := t.takeWhile (· ≠ CodePoint.ofChar '.')
  let fraction := t.drop (whole.length + 1)
  if !fraction.isEmpty && fraction.all (· = zero) then whole else t

/-- Reads a count.  Zero is none, for nothing is left of it without its lead. -/
def readCount (t : Text) : Option Nat := do
  let t := bare t
  let t := if t.head? = some (CodePoint.ofChar '+') then t.drop 1 else t
  let digits ← joined? (withoutFraction (withoutLead t))
  if digits.isEmpty || !digits.all CodePoint.isAsciiDigit || maxIntegerDigits < digits.length then
    none
  else some (Numeral.valueOfDigits digits)

def readSeconds (t : Text) : Option Binary64 := do
  let x ← (Numeral.readPlain? (bare t)).orElse fun _ => (joined? t).bind Numeral.readPlain?
  if (Binary64.ofMagnitudeBits false 0).le x then some x else none

end AttachGate.CommandLine
