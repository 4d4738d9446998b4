import AttachGate.App.Basic
import AttachGate.Value.Access
import AttachGate.Json.Document

/-!
# Client messages

What a client sends on its stream.  The first message names the app, the
command to run in it and the size of the terminal; later ones carry a new size,
one chunk of input, or both.  On the wire a message is a document with its
chunks in base64.
-/

namespace AttachGate

/-- The size of a terminal in character cells. -/
structure Geometry where
  width : Int
  height : Int
  deriving DecidableEq

structure Request where
  app : Option App.Id
  command : List Value
  size : Option Geometry
  input : List Bytes

namespace Request

/-- A message that carries nothing. -/
def nothing : Request := ⟨none, [], none, []⟩

/-- Whether two messages say the same. -/
def same (a b : Request) : Bool :=
  (match a.app, b.app with
    | some a, some b => a.same b
    | none, none => true
    | _, _ => false) &&
  (Value.array a.command).same (.array b.command) && a.size == b.size && a.input == b.input

def appDocument (app : App.Id) : Value :=
  .object [(Text.ofString "namespace", app.namespaceName), (Text.ofString "name", app.name)]

def sizeDocument (size : Geometry) : Value :=
  .object [(Text.ofString "width", .int size.width), (Text.ofString "height", .int size.height)]

/-- The document of a message; what it does not carry is left out. -/
def toDocument (r : Request) : Value :=
  .object
    ((match r.app with
      | some app => [(Text.ofString "app", appDocument app)]
      | none => []) ++
    (if r.command.isEmpty then [] else [(Text.ofString "command", .array r.command)]) ++
    (match r.size with
      | some size => [(Text.ofString "terminalSize", sizeDocument size)]
      | none => []) ++
    (if r.input.isEmpty then []
      else
        [(Text.ofString "stdin", .array (r.input.map fun chunk => .text (Base64.encode chunk)))]))

def encode (r : Request) : Except Failure Text := Document.toText r.toDocument

def readApp (v : Value) : Except Failure (Option App.Id) :=
  if v.isNull then pure none
  else do
    let namespaceName ← v.field "namespace" (.text [])
    let name ← v.field "name" (.text [])
    pure (some ⟨namespaceName, name⟩)

def readSize (v : Value) : Except Failure (Option Geometry) :=
  if v.isNull then pure none
  else do
    let width ← (← v.field "width" (.int 0)).toInteger
    let height ← (← v.field "height" (.int 0)).toInteger
    pure (some ⟨width, height⟩)

/-- Reads octets from a value that holds them in base64. -/
def readBase64 : Value → Except Failure Bytes
  | .text t =>
    if t.any CodePoint.isSurrogate then .error .unencodableText
    else (Base64.decode t).mapError .malformedBase64
  | _ => .error .notARecord

def ofDocument (doc : Value) : Except Failure Request := do
  let app ← doc.field "app" .null
  let size ← doc.field "terminalSize" .null
  let app ← readApp app
  let command ← (← doc.field "command" .null).itemsOrNone
  let size ← readSize size
  let chunks ← (← doc.field "stdin" .null).itemsOrNone
  let input ← chunks.mapM readBase64
  pure { app, command, size, input }

def decode (room : Nat) (bytes : Bytes) : Except Failure Request := do
  ofDocument (← Document.ofBytes room bytes)

/-! ## The first message of a stream -/

/-- Why a message cannot start a stream. -/
inductive Refusal
  | noName
  | noNamespace
  | noCommand
  | noSize
  deriving DecidableEq

def Refusal.message : Refusal → Text
  | .noName => "App.Name is required in the first request."
  | .noNamespace => "App.Namespace is required in the first request."
  | .noCommand => "Command is required in the first request."
  | .noSize => "TerminalSize is required in the first request."

/-- What a message that starts a stream asks for. -/
structure Opening where
  app : App.Id
  command : List Value
  size : Geometry

/-- Reads the first message of a stream; the app's name is looked at first. -/
def toOpening (r : Request) : Except Refusal Opening :=
  match r.app with
  | none => .error .noName
  | some app =>
    if app.name.isBlank then .error .noName
    else if app.namespaceName.isBlank then .error .noNamespace
    else if r.command.isEmpty then .error .noCommand
    else
      match r.size with
      | none => .error .noSize
      | some size => .ok { app, command := r.command, size }

end Request

end AttachGate
