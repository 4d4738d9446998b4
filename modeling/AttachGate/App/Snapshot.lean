import AttachGate.App.Basic
import AttachGate.Value.Access

/-!
# Snapshots of apps

What was read of an app object at one time, and the object that a flip of its
wanted phase writes back: the whole object as it was read, with one field
replaced.
-/

namespace AttachGate.App

/-- An app object as it was read.  Fields that it lacks are empty. -/
structure Snapshot where
  id : Id
  targetPhase : Value
  phase : Value
  pod : Value
  command : List Value
  error : Value
  version : Value
  object : Members

namespace Snapshot

/-- An empty text, the default of most fields. -/
def empty : Value := .text []

def ofObject (object : Value) : Except Failure Snapshot := do
  let members ← object.members
  let metadata := (members.get? "metadata").getD (.object [])
  let spec := (members.get? "spec").getD (.object [])
  let status := ((members.get? "status").getD (.object [])).orElse (.object [])
  let namespaceName ← metadata.field "namespace" empty
  let name ← metadata.field "name" empty
  let targetPhase ← spec.field "targetPhase" empty
  let phase ← status.field "phase" empty
  let pod ← status.field "podName" empty
  let command ← (← spec.field "command" .null).itemsOrNone
  let error ← status.field "error" empty
  let version ← metadata.field "resourceVersion" empty
  pure
    { id := ⟨namespaceName, name⟩
      targetPhase, phase, pod, command, error, version
      object := members }

def isWanted (app : Snapshot) (phase : Phase) : Bool := app.targetPhase.isText phase.name

def isLive (app : Snapshot) : Bool := app.phase.isText Phase.live.name

end Snapshot

/-- The specification in an app object, empty if it has none. -/
def specification (object : Members) : Members :=
  match object.get? "spec" with
  | some (.object spec) => spec
  | _ => []

/-- An app object with another wanted phase and all else as it was. -/
def retarget (object : Members) (phase : Phase) : Members :=
  object.set "spec" (.object ((specification object).set "targetPhase" (.text phase.name)))

end AttachGate.App
