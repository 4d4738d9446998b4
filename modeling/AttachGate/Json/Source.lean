import AttachGate.Json.Reader
import AttachGate.Text.Encoding

/-!
# Documents as octets

A document may be encoded in UTF-8, UTF-16 or UTF-32.  A byte order mark or,
without one, the places of the zeros among the first octets tell which: a
document starts with an ASCII character.
-/

namespace AttachGate.Json

inductive Encoding
  | utf8
  | utf16 (order : ByteOrder)
  | utf32 (order : ByteOrder)
  deriving DecidableEq

/-- The byte order marks and what they mark; the longer of two that start alike comes
first. -/
def marks : List (Bytes × Encoding) :=
  [([0x00, 0x00, 0xFE, 0xFF], .utf32 .big), ([0xFF, 0xFE, 0x00, 0x00], .utf32 .little),
    ([0xFE, 0xFF], .utf16 .big), ([0xFF, 0xFE], .utf16 .little), ([0xEF, 0xBB, 0xBF], .utf8)]

/-- The encoding of a document without a byte order mark. -/
def guessEncoding : Bytes → Encoding
  | a :: b :: c :: d :: _ =>
    if a = 0 then (if b = 0 then .utf32 .big else .utf16 .big)
    else if b = 0 then (if c = 0 ∧ d = 0 then .utf32 .little else .utf16 .little)
    else .utf8
  | [a, b] => if a = 0 then .utf16 .big else if b = 0 then .utf16 .little else .utf8
  | _ => .utf8

/-- The encoding of a document, and its octets without a byte order mark. -/
def detectEncoding (bytes : Bytes) : Encoding × Bytes :=
  match marks.find? fun entry => entry.1.isPrefixOf bytes with
  | some (mark, encoding) => (encoding, bytes.drop mark.length)
  | none => (guessEncoding bytes, bytes)

def Encoding.decode? : Encoding → Bytes → Option Text
  | .utf8, bytes => Utf8.decode? bytes
  | .utf16 order, bytes => Utf16.decode? order bytes
  | .utf32 order, bytes => Utf32.decode? order bytes

def readBytes (room : Nat) (bytes : Bytes) : Except ReadError Value :=
  let (encoding, body) := detectEncoding bytes
  match encoding.decode? body with
  | some t => read room t
  | none => .error .undecodable

/-- Reads a document from text, where a byte order mark has no place. -/
def readText (room : Nat) (t : Text) : Except ReadError Value :=
  match t with
  | c :: _ =>
    if c.val = 0xFEFF then .error (.malformed (Fault.after .byteOrderMark [])) else read room t
  | [] => read room t

end AttachGate.Json
