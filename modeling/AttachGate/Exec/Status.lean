import AttachGate.Json.Document
import AttachGate.Value.Access

/-!
# Exit statuses

How a command in a pod ended is reported as a document: success by a word, and
a failure with the exit code among the causes in its details.
-/

namespace AttachGate.Exec

/-- The value under a key; only objects have keys. -/
def part (v : Value) (key : Text) : Except Failure Value :=
  match v with
  | .object members =>
    match Members.get? key members with
    | some v => .ok v
    | none => .error (.misshapen .missingKey)
  | _ => .error .wrongType

/-- The first part of a value: of an array its first item, of a text its first
code point. -/
def first : Value → Except Failure Value
  | .array (v :: _) => .ok v
  | .array [] => .error (.misshapen .outOfRange)
  | .text (c :: _) => .ok (.text [c])
  | .text [] => .error (.misshapen .outOfRange)
  | .object _ => .error (.misshapen .missingKey)
  | _ => .error .wrongType

/-- The exit code that a status document reports. -/
def codeOfStatus (doc : Value) : Except Failure Int := do
  let status ← part doc "status"
  if status.isText "Success" then pure 0
  else
    let details ← part doc "details"
    let causes ← part details "causes"
    let message ← part (← first causes) "message"
    message.toInteger

def exitCode (room : Nat) (status : Bytes) : Except Failure Int := do
  codeOfStatus (← Document.ofBytes room status)

/-- Whether a failure to read the exit code counts as a missing status. -/
def isStatusFault (f : Failure) : Bool :=
  f.isIn .wrongType || f.isIn .missingKey || f.isIn .outOfRange || f.isIn .badValue ||
    f.isIn .notARecord

/-- What the status of a command amounts to. -/
def judge (room : Nat) (pod : Text) (status : Bytes) : Except Failure Unit :=
  match exitCode room status with
  | .ok code => if code = 0 then .ok () else .error (.exited code)
  | .error e => if isStatusFault e then .error (.noExitStatus pod e) else .error e

end AttachGate.Exec
