import AttachGate.Wire.Request

/-!
# Server messages

What a client receives on its stream: output of its command, one of the two
output streams to a message.
-/

namespace AttachGate

/-- The two output streams of a command. -/
inductive Channel
  | out
  | err
  deriving DecidableEq

structure Response where
  out : Bytes
  err : Bytes
  deriving DecidableEq

namespace Response

/-- The message that carries one write. -/
def ofWrite (channel : Channel) (data : Bytes) : Response :=
  match channel with
  | .out => ⟨data, []⟩
  | .err => ⟨[], data⟩

/-- The channel and the octets of a message that carries one write; an empty
write reads as one of output. -/
def toWrite (r : Response) : Channel × Bytes :=
  if r.err.isEmpty then (.out, r.out) else (.err, r.err)

/-- The document of a message; an empty stream is left out. -/
def toDocument (r : Response) : Value :=
  .object
    ((if r.out.isEmpty then [] else [(Text.ofString "stdout", .text (Base64.encode r.out))]) ++
    (if r.err.isEmpty then [] else [(Text.ofString "stderr", .text (Base64.encode r.err))]))

def encode (r : Response) : Except Failure Text := Document.toText r.toDocument

def decode (room : Nat) (bytes : Bytes) : Except Failure Response := do
  let doc ← Document.ofBytes room bytes
  let out ← Request.readBase64 (← doc.field "stdout" (.text []))
  let err ← Request.readBase64 (← doc.field "stderr" (.text []))
  pure { out, err }

end Response

end AttachGate
