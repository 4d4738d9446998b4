import AttachGate.CommandLine.Amount
import AttachGate.CommandLine.Options

/-!
# Commands

What a command line asks for: to serve, to show the status of an app, or to
print the version or a help text.
-/

namespace AttachGate.CommandLine

/-- The settings given on a command line to serve. -/
structure ServeOptions where
  address : Option Text
  namespaceName : Option Text
  context : Option Text
  maxWorkers : Option Nat
  openTimeout : Option Binary64
  logLevel : Option Text

structure StatusOptions where
  name : Text
  namespaceName : Option Text
  context : Option Text

inductive Command
  | version
  | help
  | serve (options : ServeOptions)
  | status (options : StatusOptions)

def helpOption : OptionSpec := ⟨"--help", none, false⟩

/-- The options before the name of a command. -/
def globalSpecs : List OptionSpec :=
  [⟨"--version", some (CodePoint.ofChar 'V'), false⟩, helpOption]

def serveSpecs : List OptionSpec :=
  [⟨"--addr", none, true⟩, ⟨"--namespace", some (CodePoint.ofChar 'n'), true⟩,
    ⟨"--context", none, true⟩, ⟨"--max-workers", none, true⟩, ⟨"--open-timeout", none, true⟩,
    ⟨"--log-level", none, true⟩, helpOption]

def statusSpecs : List OptionSpec :=
  [⟨"--namespace", some (CodePoint.ofChar 'n'), true⟩, ⟨"--context", none, true⟩, helpOption]

/-- Reads a value that is given, by a reader that may refuse it. -/
def readGiven {α : Type} (value : Option Text) (read : Text → Option α) : Option (Option α) :=
  match value with
  | none => some none
  | some t => (read t).map some

/-- Reads the arguments after the word `serve`. -/
def readServe (arguments : List Text) : Option Command := do
  let s ← split? serveSpecs true arguments
  if s.has "--help" then pure .help
  else
    let maxWorkers ← readGiven (s.value? "--max-workers") readCount
    let openTimeout ← readGiven (s.value? "--open-timeout") readSeconds
    if !s.operands.isEmpty then none
    else
      pure
        (.serve
          { address := s.value? "--addr"
            namespaceName := s.value? "--namespace"
            context := s.value? "--context"
            maxWorkers
            openTimeout
            logLevel := s.value? "--log-level" })

/-- Reads the arguments after the word `status`: one name. -/
def readStatus (arguments : List Text) : Option Command := do
  let s ← split? statusSpecs true arguments
  if s.has "--help" then pure .help
  else
    match s.operands with
    | [name] =>
      pure (.status
        { name, namespaceName := s.value? "--namespace", context := s.value? "--context" })
    | _ => none

/-- Reads a command line; none if it is used wrongly.  Of the version and the
help text, what is asked for first is given. -/
def readCommand (arguments : List Text) : Option Command := do
  let s ← split? globalSpecs false arguments
  match s.options with
  | given :: _ => if given.name = Text.ofString "--version" then pure .version else pure .help
  | [] =>
    match s.operands with
    | word :: rest =>
      if word = Text.ofString "serve" then readServe rest
      else if word = Text.ofString "status" then readStatus rest
      else none
    | [] => none

end AttachGate.CommandLine
