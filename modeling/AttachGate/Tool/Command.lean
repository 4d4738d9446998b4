import AttachGate.App.Snapshot
import AttachGate.Json.Document
import AttachGate.Text.Blank

/-!
# Commands of the cluster tool

The cluster is reached through a command-line tool.  A command is a list of
arguments and perhaps some input; it ends with an exit code and what it printed,
runs out of time, finds the tool missing, or is not launched at all.  What a failed
command complains of decides the failure.
-/

namespace AttachGate.Tool

/-- How commands are run. -/
structure Settings where
  /-- The cluster to talk to, by the name of its configuration. -/
  context : Option Text
  /-- Seconds between two polls of a watch. -/
  watchInterval : Number
  /-- Seconds that a command may take; zero for no limit. -/
  timeout : Number
  /-- How deep brackets may be nested in what a command prints. -/
  room : Nat

namespace Settings

def defaultWatchInterval : Number := .float (Binary64.ofDecimal false 2 0)

def defaultTimeout : Number := .int 30

/-- Settings with the defaults filled in. -/
def make (context : Option Text) (watchInterval timeout : Option Number) : Settings :=
  { context
    watchInterval := watchInterval.getD defaultWatchInterval
    timeout := timeout.getD defaultTimeout
    room := Json.maxDepth }

/-- The limit on a command's time, if there is one. -/
def limit? (s : Settings) : Option Number := if s.timeout.isZero then none else some s.timeout

end Settings

structure Invocation where
  arguments : List Text
  input : Option Text
  timeout : Option Number

/-- What a command that ended has left. -/
structure Completed where
  code : Int
  out : Text
  err : Text

/-- Why an argument cannot be handed to a program. -/
inductive LaunchFault
  /-- It holds a null character. -/
  | nullCharacter
  /-- It holds a surrogate that stands for no octet. -/
  | unencodable

def LaunchFault.failure : LaunchFault → Failure
  | .nullCharacter => .reported .badValue "embedded null byte"
  | .unencodable => .unencodableText

inductive Outcome
  | completed (result : Completed)
  | timedOut
  | missing
  | unlaunched (fault : LaunchFault)

/-- The command line for some arguments. -/
def commandLine (s : Settings) (arguments : List Text) : List Text :=
  let options : List Text :=
    match s.context with
    | some context => if context.isEmpty then [] else ["--context", context]
    | none => []
  ("oc" : Text) :: options ++ arguments

def invocation (s : Settings) (arguments : List Text) (input : Option Text) : Invocation :=
  { arguments := commandLine s arguments, input, timeout := s.limit? }

/-- The failure that a command's complaint amounts to; a missing login is looked
for first, a lost race next. -/
def complaint (err : Text) : Failure :=
  if Text.occursIn "error: You must be logged in" err then .notLoggedIn
  else if Text.occursIn "(Conflict)" err || Text.occursIn "the object has been modified" err then
    .reported .conflict err.trim
  else if Text.occursIn "(NotFound)" err then .reported .appNotFound err.trim
  else .toolFailed err.trim

/-- What a run amounts to.  An exit code other than zero is a failure if it is
checked. -/
def judge (i : Invocation) (check : Bool) : Outcome → Except Failure Completed
  | .timedOut => .error (.toolTimeout i.timeout (Text.join " " i.arguments))
  | .missing => .error .toolMissing
  | .unlaunched fault => .error fault.failure
  | .completed result =>
    if check && result.code ≠ 0 then .error (complaint result.err) else .ok result

/-! ## App objects through the tool -/

/-- The resource type of apps. -/
def resource : Text := "cliapps.core.cliapp.warm-metal.tech"

/-- An argument that must be text. -/
def argument : Value → Except Failure Text
  | .text t => .ok t
  | _ => .error .wrongType

/-- The arguments that read an app.  The name stands right after the resource
type. -/
def readArguments (app : App.Id) : Except Failure (List Text) := do
  let name ← argument app.name
  let namespaceName ← argument app.namespaceName
  pure ["get", resource, name, "-n", namespaceName, "-o", "json"]

/-- The arguments that replace an app by the object given as input. -/
def writeArguments : List Text := ["replace", "-o", "json", "-f", "-"]

/-- The snapshot in what a command printed. -/
def parse (room : Nat) (out : Text) : Except Failure App.Snapshot :=
  match Document.ofText room out with
  | .ok object => App.Snapshot.ofObject object
  | .error (.malformedDocument fault) => .error (.unexpectedOutput fault)
  | .error e => .error e

/-- The snapshot that a run of the tool amounts to. -/
def reply (room : Nat) (i : Invocation) (outcome : Outcome) : Except Failure App.Snapshot := do
  parse room (← judge i true outcome).out

end AttachGate.Tool
