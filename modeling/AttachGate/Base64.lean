import AttachGate.Text.Basic

/-!
# Base64

Octets written in an alphabet of sixty-four characters, three octets to four
characters, the last group filled up with `=`.  Reading is lenient: characters
outside the alphabet are passed over, and the text ends where a group is
filled up.
-/

namespace AttachGate.Base64

inductive Fault
  /-- The last group is neither complete nor filled up. -/
  | incorrectPadding
  /-- The last of `count` characters stands alone in its group. -/
  | loneCharacter (count : Nat)
  deriving DecidableEq

def Fault.message : Fault → Text
  | .incorrectPadding => "Incorrect padding"
  | .loneCharacter count =>
    "Invalid base64-encoded string: number of data characters (" ++ Text.ofNat count ++
      ") cannot be 1 more than a multiple of 4"

/-- The character for six bits. -/
def character (d : Nat) : CodePoint :=
  if d < 26 then CodePoint.ofNat (0x41 + d)
  else if d < 52 then CodePoint.ofNat (0x61 + (d - 26))
  else if d < 62 then CodePoint.ofNat (0x30 + (d - 52))
  else if d = 62 then CodePoint.ofChar '+'
  else CodePoint.ofChar '/'

/-- The six bits of a character of the alphabet. -/
def sextet? (c : CodePoint) : Option Nat :=
  if 0x41 ≤ c.val ∧ c.val ≤ 0x5A then some (c.val - 0x41)
  else if 0x61 ≤ c.val ∧ c.val ≤ 0x7A then some (c.val - 0x61 + 26)
  else if 0x30 ≤ c.val ∧ c.val ≤ 0x39 then some (c.val - 0x30 + 52)
  else if c = CodePoint.ofChar '+' then some 62
  else if c = CodePoint.ofChar '/' then some 63
  else none

def pad : CodePoint := CodePoint.ofChar '='

def encode : Bytes → Text
  | [] => []
  | [a] => [character (a.toNat / 4), character (a.toNat % 4 * 16), pad, pad]
  | [a, b] =>
    [character (a.toNat / 4), character (a.toNat % 4 * 16 + b.toNat / 16),
      character (b.toNat % 16 * 4), pad]
  | a :: b :: c :: rest =>
    character (a.toNat / 4) :: character (a.toNat % 4 * 16 + b.toNat / 16) ::
      character (b.toNat % 16 * 4 + c.toNat / 64) :: character (c.toNat % 64) :: encode rest

/-- A group that is being read: the sextets it has so far. -/
inductive Group
  | none
  | one (a : Nat)
  | two (a b : Nat)
  | three (a b c : Nat)
  deriving DecidableEq

/-- The whole octets in an incomplete group. -/
def Group.octets : Group → Bytes
  | .none => []
  | .one _ => []
  | .two a b => [UInt8.ofNat (a * 4 + b / 16)]
  | .three a b c => [UInt8.ofNat (a * 4 + b / 16), UInt8.ofNat (b % 16 * 16 + c / 4)]

/-- How many more `=` fill the group up; none do before two characters. -/
def Group.missing? : Group → Option Nat
  | .two .. => some 2
  | .three .. => some 1
  | _ => Option.none

/-- Reads on with `pads` filling characters seen in the group and `groups`
groups complete. -/
def decodeFrom (groups pads : Nat) (group : Group) : Text → Except Fault Bytes
  | [] =>
    match group with
    | .none => .ok []
    | .one _ => .error (.loneCharacter (4 * groups + 1))
    | _ => .error .incorrectPadding
  | c :: rest =>
    if c = pad then
      match group.missing? with
      | some missing =>
        if missing ≤ pads + 1 then .ok group.octets else decodeFrom groups (pads + 1) group rest
      | Option.none => decodeFrom groups pads group rest
    else
      match sextet? c with
      | Option.none => decodeFrom groups pads group rest
      | some d =>
        match group with
        | .none => decodeFrom groups 0 (.one d) rest
        | .one a => decodeFrom groups 0 (.two a d) rest
        | .two a b => decodeFrom groups 0 (.three a b d) rest
        | .three a b c => do
          let octets ← decodeFrom (groups + 1) 0 .none rest
          pure ((Group.three a b c).octets ++ UInt8.ofNat (c % 4 * 64 + d) :: octets)

def decode (t : Text) : Except Fault Bytes := decodeFrom 0 0 .none t

end AttachGate.Base64
