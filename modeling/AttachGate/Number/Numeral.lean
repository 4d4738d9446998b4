import AttachGate.Number.Basic
import AttachGate.Text.Blank
import AttachGate.Text.Digit
import AttachGate.Text.Quoted

/-!
# Numerals

Numbers written as text.  Blanks may stand around a numeral, digits may be of
any script, and single underscores may stand between digits.
-/

namespace AttachGate

/-- Integers of more digits than this are neither read nor written. -/
def maxIntegerDigits : Nat := 4300

namespace Numeral

/-- Why a text is not a number, or a number not an integer. -/
inductive Fault
  | notInteger (source : Text)
  | notFloat (source : Text)
  | tooManyDigits (count : Nat)
  deriving DecidableEq

/-- How much of a text is shown that is not an integer. -/
def shownLength : Nat := 200

def Fault.message : Fault → Text
  | .notInteger source =>
    "invalid literal for int() with base 10: " ++ source.quoted.take shownLength
  | .notFloat source => "could not convert string to float: " ++ source.quoted
  | .tooManyDigits count =>
    "Exceeds the limit (" ++ Text.ofNat maxIntegerDigits ++
      " digits) for integer string conversion: value has " ++ Text.ofNat count ++
      " digits; use sys.set_int_max_str_digits() to increase the limit"

def underscore : CodePoint := CodePoint.ofChar '_'

/-- The ASCII form of a code point in a numeral: digits of any script become
ASCII digits and blanks become spaces. -/
def plain (c : CodePoint) : CodePoint :=
  if c.val < 0x7F then c
  else if c.isBlank then CodePoint.ofChar ' '
  else
    match c.digit? with
    | some d => CodePoint.ofDigit d
    | none => CodePoint.ofChar '?'

/-- The blanks that may stand around a numeral once it is in ASCII. -/
def isSpace (c : CodePoint) : Bool := (0x09 ≤ c.val && c.val ≤ 0x0D) || c.val = 0x20

/-- The numeral in ASCII, without the blanks around it. -/
def normalize (t : Text) : Text :=
  (((t.map plain).dropWhile isSpace).reverse.dropWhile isSpace).reverse

/-- A leading sign, and what follows it. -/
def takeSign : Text → Bool × Text
  | c :: rest =>
    if c = CodePoint.ofChar '-' then (true, rest)
    else if c = CodePoint.ofChar '+' then (false, rest)
    else (false, c :: rest)
  | [] => (false, [])

/-- The number that ASCII digits stand for, most significant first. -/
def valueOfDigits (digits : Text) : Nat :=
  digits.foldl (fun n c => 10 * n + (c.asciiDigit?.getD 0)) 0

/-- Whether every underscore stands between two digits. -/
def underscoresSeparate (previousIsDigit : Bool) : Text → Bool
  | [] => true
  | c :: rest =>
    if c = underscore then
      match rest with
      | d :: _ => previousIsDigit && d.isAsciiDigit && underscoresSeparate false rest
      | [] => false
    else underscoresSeparate c.isAsciiDigit rest

/-- The digits and underscores that a text starts with, and the rest. -/
def spanDigits (t : Text) : Text × Text :=
  t.span fun c => c.isAsciiDigit || c = underscore

/-- Reads an integer.  The count of digits is looked at before what follows
them. -/
def readInteger (source : Text) : Except Fault Int :=
  let (negative, body) := takeSign (normalize source)
  let (run, rest) := spanDigits body
  let digits := run.filter (· ≠ underscore)
  if !underscoresSeparate false run then .error (.notInteger source)
  else if maxIntegerDigits < digits.length then .error (.tooManyDigits digits.length)
  else if digits.isEmpty || !rest.isEmpty then .error (.notInteger source)
  else .ok (if negative then -(valueOfDigits digits : Int) else valueOfDigits digits)

/-- The parts of a decimal numeral: all its digits, the exponent they are to be
taken with, and the rest of the text. -/
def readDecimal? (t : Text) : Option (Nat × Int × Text) :=
  let (whole, rest) := t.span CodePoint.isAsciiDigit
  let (fraction, rest) :=
    match rest with
    | c :: more =>
      if c = CodePoint.ofChar '.' then more.span CodePoint.isAsciiDigit else ([], rest)
    | [] => ([], [])
  if whole.isEmpty && fraction.isEmpty then none
  else
    let digits := valueOfDigits (whole ++ fraction)
    let shift : Int := -(fraction.length : Int)
    match rest with
    | c :: more =>
      if c = CodePoint.ofChar 'e' ∨ c = CodePoint.ofChar 'E' then
        let (negative, more) := takeSign more
        let (exponent, after) := more.span CodePoint.isAsciiDigit
        if exponent.isEmpty then some (digits, shift, rest)
        else
          let e : Int := valueOfDigits exponent
          some (digits, shift + (if negative then -e else e), after)
      else some (digits, shift, rest)
    | [] => some (digits, shift, [])

/-- An ASCII letter in lower case. -/
def lowerAscii (c : CodePoint) : CodePoint :=
  if 0x41 ≤ c.val ∧ c.val ≤ 0x5A then CodePoint.ofNat (c.val + 0x20) else c

/-- Reads a double-precision number in ASCII without underscores and blanks;
infinities and NaN go by their names. -/
def readPlain? (t : Text) : Option Binary64 :=
  let (negative, body) := takeSign t
  let name := body.map lowerAscii
  if name = Text.ofString "inf" ∨ name = Text.ofString "infinity" then
    some (Binary64.infinity negative)
  else if name = Text.ofString "nan" then some Binary64.nan
  else
    match readDecimal? body with
    | some (digits, exponent, []) => some (Binary64.ofDecimal negative digits exponent)
    | _ => none

def readFloat (source : Text) : Except Fault Binary64 :=
  let t := normalize source
  if !underscoresSeparate false t then .error (.notFloat source)
  else
    match readPlain? (t.filter (· ≠ underscore)) with
    | some x => .ok x
    | none => .error (.notFloat source)

end Numeral

end AttachGate
