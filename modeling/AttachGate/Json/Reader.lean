import AttachGate.Json.Fault
import AttachGate.Value.Basic

/-!
# Reading documents

A reader of JSON that also takes the names of infinities and NaN, refuses raw
control characters in strings, and keeps surrogates that stand alone.  Each
function returns the value it has read and the text after it; a flaw is
reported with the text that it starts.
-/

namespace AttachGate.Json

/-- Why reading stopped: a flaw at the start of `rest`, an integer of too many
digits, or a bracket inside too many others. -/
inductive Stop
  | flaw (flaw : Flaw) (rest : Text)
  | longInteger (digits : Nat)
  | tooDeep

/-- A part read from the front of a text, and the text after it. -/
abbrev Reading (α : Type) := Except Stop (α × Text)

def isSpace (c : CodePoint) : Bool := c.val = 0x20 || c.val = 0x09 || c.val = 0x0A || c.val = 0x0D

def skipSpace (t : Text) : Text := t.dropWhile isSpace

/-! ## Strings -/

def quote : CodePoint := CodePoint.ofChar '"'
def backslash : CodePoint := CodePoint.ofChar '\\'
def letterU : CodePoint := CodePoint.ofChar 'u'

/-- The code point that a letter after a backslash stands for. -/
def simpleEscape? (c : CodePoint) : Option CodePoint :=
  if c = quote ∨ c = backslash ∨ c = CodePoint.ofChar '/' then some c
  else if c = CodePoint.ofChar 'b' then some (CodePoint.ofNat 0x08)
  else if c = CodePoint.ofChar 'f' then some (CodePoint.ofNat 0x0C)
  else if c = CodePoint.ofChar 'n' then some (CodePoint.ofNat 0x0A)
  else if c = CodePoint.ofChar 'r' then some (CodePoint.ofNat 0x0D)
  else if c = CodePoint.ofChar 't' then some (CodePoint.ofNat 0x09)
  else none

/-- The code point that four hexadecimal digits name. -/
def hexPoint? (a b c d : CodePoint) : Option CodePoint := do
  let a ← a.hexDigit?
  let b ← b.hexDigit?
  let c ← c.hexDigit?
  let d ← d.hexDigit?
  pure (CodePoint.ofNat (((a * 16 + b) * 16 + c) * 16 + d))

/-- Puts a code point in front of a string that has been read. -/
def Reading.cons (c : CodePoint) (r : Reading Text) : Reading Text :=
  r.map fun (t, rest) => (c :: t, rest)

/-- Reads a string up to its closing quote.  `opening` is the text from its
opening quote on.  Two escapes in a row that name a surrogate pair give one
code point. -/
def readString (opening : Text) : Text → Reading Text
  | [] => .error (.flaw .unterminatedString opening)
  | c :: rest =>
    if c = quote then .ok ([], rest)
    else if c = backslash then
      match rest with
      | [] => .error (.flaw .unterminatedString opening)
      | e :: more =>
        if e = letterU then
          match more with
          | a :: b :: c :: d :: x :: after =>
            match hexPoint? a b c d with
            | none => .error (.flaw .badUnicodeEscape (e :: more))
            | some unit =>
              match after with
              | u :: a' :: b' :: c' :: d' :: y :: further =>
                if unit.isHighSurrogate && x = backslash && u = letterU then
                  match hexPoint? a' b' c' d' with
                  | none => .error (.flaw .badUnicodeEscape after)
                  | some low =>
                    if low.isLowSurrogate then
                      (readString opening (y :: further)).cons (CodePoint.ofPair unit low)
                    else
                      (readString opening
                        (x :: u :: a' :: b' :: c' :: d' :: y :: further)).cons unit
                else
                  (readString opening (x :: u :: a' :: b' :: c' :: d' :: y :: further)).cons unit
              | after => (readString opening (x :: after)).cons unit
          | _ => .error (.flaw .badUnicodeEscape (e :: more))
        else
          match simpleEscape? e with
          | some plain => (readString opening more).cons plain
          | none => .error (.flaw .badEscape (c :: rest))
    else if c.val < 0x20 then .error (.flaw .controlCharacter (c :: rest))
    else (readString opening rest).cons c

/-! ## Scalars -/

/-- The values that are written as words. -/
def words : List (Text × Value) :=
  [(Text.ofString "null", .null), (Text.ofString "true", .bool true),
    (Text.ofString "false", .bool false), (Text.ofString "NaN", .float Binary64.nan),
    (Text.ofString "Infinity", .float (Binary64.infinity false)),
    (Text.ofString "-Infinity", .float (Binary64.infinity true))]

/-- The word that a text starts with, if any. -/
def readWord? (t : Text) : Option (Value × Text) :=
  (words.find? fun (word, _) => word.isPrefixOf t).map fun (word, v) =>
    (v, t.drop word.length)

/-- The fraction of a numeral: a point and digits, if a digit follows the
point. -/
def readFraction (t : Text) : Option Text × Text :=
  match t with
  | c :: rest =>
    let (digits, after) := rest.span CodePoint.isAsciiDigit
    if c = CodePoint.ofChar '.' && !digits.isEmpty then (some digits, after) else (none, t)
  | [] => (none, [])

/-- The exponent of a numeral: the letter E, perhaps a sign, and digits. -/
def readExponent (t : Text) : Option Int × Text :=
  match t with
  | c :: rest =>
    let (negative, rest) := Numeral.takeSign rest
    let (digits, after) := rest.span CodePoint.isAsciiDigit
    if (c = CodePoint.ofChar 'e' || c = CodePoint.ofChar 'E') && !digits.isEmpty then
      let e : Int := Numeral.valueOfDigits digits
      (some (if negative then -e else e), after)
    else (none, t)
  | [] => (none, [])

/-- The digits before the point: a zero alone, or digits that start with
another. -/
def readWhole (t : Text) : Text × Text :=
  match t with
  | c :: rest =>
    if c = CodePoint.ofChar '0' then ([c], rest) else t.span CodePoint.isAsciiDigit
  | [] => ([], [])

/-- Reads a number: an integer unless it has a fraction or an exponent. -/
def readNumber (t : Text) : Reading Value :=
  let (negative, body) :=
    match t with
    | c :: rest => if c = CodePoint.ofChar '-' then (true, rest) else (false, t)
    | [] => (false, [])
  let (whole, rest) := readWhole body
  if whole.isEmpty then .error (.flaw .expectingValue t)
  else
    let (fraction, rest) := readFraction rest
    let (exponent, rest) := readExponent rest
    if fraction.isNone && exponent.isNone then
      if maxIntegerDigits < whole.length then .error (.longInteger whole.length)
      else
        let n : Int := Numeral.valueOfDigits whole
        .ok (.int (if negative then -n else n), rest)
    else
      let places := fraction.getD []
      let digits := Numeral.valueOfDigits (whole ++ places)
      .ok (.float (Binary64.ofDecimal negative digits (exponent.getD 0 - places.length)), rest)

/-! ## Values -/

mutual

/-- Reads a value in which brackets may be nested `room` deep.  Twice the length of
the text is always fuel enough: a value inside another costs two and comes after an
opening bracket, a further item costs one and comes after a comma. -/
def readValue : Nat → Nat → Text → Except Stop (Value × Text)
  | 0, _, t => .error (.flaw .expectingValue t)
  | fuel + 1, room, t =>
    match t with
    | [] => .error (.flaw .expectingValue [])
    | c :: rest =>
      if c = quote then (readString t rest).map fun (s, rest) => (.text s, rest)
      else if c = CodePoint.ofChar '\x7b' then
        if room = 0 then .error .tooDeep
        else match skipSpace rest with
        | d :: after =>
          if d = CodePoint.ofChar '\x7d' then .ok (.object [], after)
          else
            (readMembers fuel (room - 1) (d :: after)).map fun (ms, rest) =>
              (.object (Members.ofPairs ms), rest)
        | [] => .error (.flaw .expectingName [])
      else if c = CodePoint.ofChar '[' then
        if room = 0 then .error .tooDeep
        else match skipSpace rest with
        | d :: after =>
          if d = CodePoint.ofChar ']' then .ok (.array [], after)
          else (readItems fuel (room - 1) (d :: after)).map fun (vs, rest) => (.array vs, rest)
        | [] => .error (.flaw .expectingValue [])
      else
        match readWord? t with
        | some reading => .ok reading
        | none => readNumber t

/-- Reads the items of an array up to its closing bracket. -/
def readItems : Nat → Nat → Text → Except Stop (List Value × Text)
  | 0, _, t => .error (.flaw .expectingValue t)
  | fuel + 1, room, t => do
    let (v, rest) ← readValue fuel room t
    match skipSpace rest with
    | c :: after =>
      if c = CodePoint.ofChar ']' then pure ([v], after)
      else if c = CodePoint.ofChar ',' then
        let (vs, rest) ← readItems fuel room (skipSpace after)
        pure (v :: vs, rest)
      else .error (.flaw .expectingComma (c :: after))
    | [] => .error (.flaw .expectingComma [])

/-- Reads the members of an object up to its closing brace, in the order they
are written. -/
def readMembers : Nat → Nat → Text → Except Stop (List (Text × Value) × Text)
  | 0, _, t => .error (.flaw .expectingName t)
  | fuel + 1, room, t =>
    match t with
    | [] => .error (.flaw .expectingName [])
    | c :: rest =>
      if c ≠ quote then .error (.flaw .expectingName t)
      else do
        let (key, rest) ← readString t rest
        match skipSpace rest with
        | d :: after =>
          if d ≠ CodePoint.ofChar ':' then .error (.flaw .expectingColon (d :: after))
          else
            let (v, rest) ← readValue fuel room (skipSpace after)
            match skipSpace rest with
            | e :: after =>
              if e = CodePoint.ofChar '\x7d' then pure ([(key, v)], after)
              else if e = CodePoint.ofChar ',' then
                let (ms, rest) ← readMembers fuel room (skipSpace after)
                pure ((key, v) :: ms, rest)
              else .error (.flaw .expectingComma (e :: after))
            | [] => .error (.flaw .expectingComma [])
        | [] => .error (.flaw .expectingColon [])

end

/-! ## Documents -/

/-- Reads a text that holds one value and blanks around it. -/
def readAll (room : Nat) (t : Text) : Except Stop Value := do
  let (v, rest) ← readValue (2 * t.length + 1) room (skipSpace t)
  match skipSpace rest with
  | [] => pure v
  | rest => .error (.flaw .extraData rest)

/-- The error for a reader that stopped in `document`. -/
def Stop.toError (document : Text) : Stop → ReadError
  | .flaw f rest =>
    .malformed (Fault.after f (document.take (document.length - rest.length)))
  | .longInteger digits => .numeral (.tooManyDigits digits)
  | .tooDeep => .tooDeep

def read (room : Nat) (t : Text) : Except ReadError Value :=
  (readAll room t).mapError (Stop.toError t)

end AttachGate.Json
