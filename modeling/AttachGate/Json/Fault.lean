import AttachGate.Number.Numeral

/-!
# Faults of a document

Why a text is not a JSON document, and where.  Places are counted in code
points: lines and columns from one, characters from zero.
-/

namespace AttachGate.Json

/-- What is wrong with a text that is no document. -/
inductive Flaw
  | expectingValue
  | expectingName
  | expectingColon
  | expectingComma
  | extraData
  | controlCharacter
  | unterminatedString
  | badEscape
  | badUnicodeEscape
  | byteOrderMark
  deriving DecidableEq

def Flaw.message : Flaw → Text
  | .expectingValue => "Expecting value"
  | .expectingName => "Expecting property name enclosed in double quotes"
  | .expectingColon => "Expecting ':' delimiter"
  | .expectingComma => "Expecting ',' delimiter"
  | .extraData => "Extra data"
  | .controlCharacter => "Invalid control character at"
  | .unterminatedString => "Unterminated string starting at"
  | .badEscape => "Invalid \\escape"
  | .badUnicodeEscape => "Invalid \\uXXXX escape"
  | .byteOrderMark => "Unexpected UTF-8 BOM (decode using utf-8-sig)"

/-- A flaw and its place. -/
structure Fault where
  flaw : Flaw
  line : Nat
  column : Nat
  offset : Nat
  deriving DecidableEq

def lineFeed : CodePoint := CodePoint.ofNat 0x0A

/-- The place right after `before`. -/
def Fault.after (flaw : Flaw) (before : Text) : Fault :=
  { flaw
    line := before.count lineFeed + 1
    column := (before.reverse.takeWhile (· ≠ lineFeed)).length + 1
    offset := before.length }

def Fault.message (f : Fault) : Text :=
  f.flaw.message ++ ": line " ++ Text.ofNat f.line ++ " column " ++ Text.ofNat f.column ++
    " (char " ++ Text.ofNat f.offset ++ ")"

/-- How deep the brackets of a document may be nested, unless its reader is given other
room. -/
def maxDepth : Nat := 990

inductive ReadError
  | malformed (fault : Fault)
  | numeral (fault : Numeral.Fault)
  | undecodable
  | tooDeep
  deriving DecidableEq

end AttachGate.Json
