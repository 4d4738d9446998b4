import AttachGate.Value.Basic
import AttachGate.Number.Numeral

/-!
# Writing documents

A document is written in printable ASCII on one line: a space after each comma
and colon, members in their order, all other code points by escapes.
-/

namespace AttachGate.Json

/-- The escape of a UTF-16 code unit. -/
def unitEscape (n : Nat) : Text := Text.ofString "\\u" ++ Text.hexadecimal 4 n

/-- One code point inside a string. -/
def writePoint (c : CodePoint) : Text :=
  if c.val = 0x22 then "\\\""
  else if c.val = 0x5C then "\\\\"
  else if c.val = 0x08 then "\\b"
  else if c.val = 0x09 then "\\t"
  else if c.val = 0x0A then "\\n"
  else if c.val = 0x0C then "\\f"
  else if c.val = 0x0D then "\\r"
  else if 0x20 ≤ c.val ∧ c.val ≤ 0x7E then [c]
  else if c.val < 0x10000 then unitEscape c.val
  else
    unitEscape (0xD800 + (c.val - 0x10000) / 0x400) ++
      unitEscape (0xDC00 + (c.val - 0x10000) % 0x400)

def writeString (t : Text) : Text := "\"" ++ t.flatMap writePoint ++ "\""

mutual

def write : Value → Text
  | .null => "null"
  | .bool true => "true"
  | .bool false => "false"
  | .int n => Text.ofInt n
  | .float x => x.render "NaN" "Infinity"
  | .text t => writeString t
  | .array items => "[" ++ writeItems items ++ "]"
  | .object members => "\x7b" ++ writeMembers members ++ "\x7d"

def writeItems : List Value → Text
  | [] => []
  | [v] => write v
  | v :: rest => write v ++ ", " ++ writeItems rest

def writeMembers : List (Text × Value) → Text
  | [] => []
  | [(k, v)] => writeString k ++ ": " ++ write v
  | (k, v) :: rest => writeString k ++ ": " ++ write v ++ ", " ++ writeMembers rest

end

end AttachGate.Json
