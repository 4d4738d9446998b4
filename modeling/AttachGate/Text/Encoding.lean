import AttachGate.Text.Basic

/-!
# Character encodings

Reading and writing text as octets.  Reading lets encoded surrogates through,
so that a text which holds them can be carried; writing refuses them.
-/

namespace AttachGate

/-! ## UTF-8 -/

namespace Utf8

/-- A continuation octet, less its marker bits. -/
def continuation? (b : UInt8) : Option Nat :=
  if 0x80 ≤ b.toNat ∧ b.toNat < 0xC0 then some (b.toNat - 0x80) else none

/-- The code point that starts an octet sequence, and the octets after it.
The smallest value allowed for each length rules out overlong forms. -/
def decodePoint? : Bytes → Option (CodePoint × Bytes)
  | [] => none
  | a :: rest =>
    if a.toNat < 0x80 then some (CodePoint.ofNat a.toNat, rest)
    else if 0xC2 ≤ a.toNat ∧ a.toNat < 0xE0 then
      match rest with
      | b :: rest => do
        let b ← continuation? b
        pure (CodePoint.ofNat ((a.toNat - 0xC0) * 0x40 + b), rest)
      | _ => none
    else if 0xE0 ≤ a.toNat ∧ a.toNat < 0xF0 then
      match rest with
      | b :: c :: rest => do
        let b ← continuation? b
        let c ← continuation? c
        let n := (a.toNat - 0xE0) * 0x1000 + b * 0x40 + c
        if n < 0x800 then none else pure (CodePoint.ofNat n, rest)
      | _ => none
    else if 0xF0 ≤ a.toNat ∧ a.toNat < 0xF5 then
      match rest with
      | b :: c :: d :: rest => do
        let b ← continuation? b
        let c ← continuation? c
        let d ← continuation? d
        let n := (a.toNat - 0xF0) * 0x40000 + b * 0x1000 + c * 0x40 + d
        if n < 0x10000 ∨ 0x110000 ≤ n then none else pure (CodePoint.ofNat n, rest)
      | _ => none
    else none

/-- Reads at most `fuel` code points; the length of the input always suffices,
since every code point takes an octet or more. -/
def decodeWithin? : Nat → Bytes → Option Text
  | _, [] => some []
  | 0, _ => none
  | fuel + 1, bytes => do
    let (c, rest) ← decodePoint? bytes
    let t ← decodeWithin? fuel rest
    pure (c :: t)

/-- The text that the octets encode, if they are well formed. -/
def decode? (bytes : Bytes) : Option Text := decodeWithin? bytes.length bytes

/-- The octets of one code point. -/
def encodePoint (c : CodePoint) : Bytes :=
  let n := c.val
  if n < 0x80 then [UInt8.ofNat n]
  else if n < 0x800 then [UInt8.ofNat (0xC0 + n / 0x40), UInt8.ofNat (0x80 + n % 0x40)]
  else if n < 0x10000 then
    [UInt8.ofNat (0xE0 + n / 0x1000), UInt8.ofNat (0x80 + n / 0x40 % 0x40),
      UInt8.ofNat (0x80 + n % 0x40)]
  else
    [UInt8.ofNat (0xF0 + n / 0x40000), UInt8.ofNat (0x80 + n / 0x1000 % 0x40),
      UInt8.ofNat (0x80 + n / 0x40 % 0x40), UInt8.ofNat (0x80 + n % 0x40)]

/-- The octets of a text, unless it holds a surrogate. -/
def encode? (t : Text) : Option Bytes :=
  if t.any CodePoint.isSurrogate then none else some (t.flatMap encodePoint)

end Utf8

/-! ## UTF-16 and UTF-32 -/

/-- Which end of a code unit comes first. -/
inductive ByteOrder
  | big
  | little
  deriving DecidableEq

namespace Utf16

/-- The code units of an octet sequence; an odd octet at the end is an error. -/
def units? (order : ByteOrder) : Bytes → Option (List CodePoint)
  | [] => some []
  | [_] => none
  | a :: b :: rest => do
    let unit := match order with
      | .big => a.toNat * 0x100 + b.toNat
      | .little => b.toNat * 0x100 + a.toNat
    let units ← units? order rest
    pure (CodePoint.ofNat unit :: units)

/-- Joins each high surrogate with a low one right after it. -/
def joinPairs : List CodePoint → Text
  | [] => []
  | [c] => [c]
  | a :: b :: rest =>
    if a.isHighSurrogate && b.isLowSurrogate then CodePoint.ofPair a b :: joinPairs rest
    else a :: joinPairs (b :: rest)

def decode? (order : ByteOrder) (bytes : Bytes) : Option Text :=
  (units? order bytes).map joinPairs

end Utf16

namespace Utf32

def decode? (order : ByteOrder) : Bytes → Option Text
  | [] => some []
  | a :: b :: c :: d :: rest => do
    let n := match order with
      | .big => ((a.toNat * 0x100 + b.toNat) * 0x100 + c.toNat) * 0x100 + d.toNat
      | .little => ((d.toNat * 0x100 + c.toNat) * 0x100 + b.toNat) * 0x100 + a.toNat
    if 0x110000 ≤ n then none else
      let t ← decode? order rest
      pure (CodePoint.ofNat n :: t)
  | _ => none

end Utf32

end AttachGate
