import AttachGate.Text.Printable

/-!
# Quoted text

A text between quotes, with everything that would not print written as an
escape.  Apostrophes are the usual quotes; a text that holds an apostrophe and
no quotation mark stands between quotation marks.
-/

namespace AttachGate

namespace Text

/-- The mark that a quoted text stands between. -/
def quoteMark (t : Text) : CodePoint :=
  let apostrophe := CodePoint.ofChar '\''
  let quotation := CodePoint.ofChar '"'
  if t.contains apostrophe && !t.contains quotation then quotation else apostrophe

/-- One code point inside a quoted text. -/
def quotedPoint (mark c : CodePoint) : Text :=
  if c = mark ∨ c = CodePoint.ofChar '\\' then [CodePoint.ofChar '\\', c]
  else if c.val = 0x09 then ofString "\\t"
  else if c.val = 0x0A then ofString "\\n"
  else if c.val = 0x0D then ofString "\\r"
  else if c.isPrintable then [c]
  else if c.val < 0x100 then ofString "\\x" ++ hexadecimal 2 c.val
  else if c.val < 0x10000 then ofString "\\u" ++ hexadecimal 4 c.val
  else ofString "\\U" ++ hexadecimal 8 c.val

/-- The text in quotes. -/
def quoted (t : Text) : Text :=
  let mark := quoteMark t
  [mark] ++ t.flatMap (quotedPoint mark) ++ [mark]

end Text

end AttachGate
