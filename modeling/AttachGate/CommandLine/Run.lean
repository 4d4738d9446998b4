import AttachGate.CommandLine.Command
import AttachGate.Settings
import AttachGate.Tool.Exchange

/-!
# Running a command

What a command prints, which settings it serves with, what it asks
of the cluster, and its exit code.
-/

namespace AttachGate.CommandLine

structure World where
  env : Environment
  tool : List Tool.Scripted
  /-- The namespace in the service account's file, if there is one. -/
  account : Option Text
  /-- The failure that serving ends with, if it does not end well. -/
  serveFault : Option Failure

structure Result where
  exitCode : Nat
  served : List Settings
  calls : List Tool.Invocation
  out : Text
  err : Text
  /-- A failure that the command did not put in words. -/
  raised : Option Failure

namespace Result

def empty : Result := ⟨0, [], [], [], [], none⟩

end Result

/-! ## Printing -/

/-- A text less what follows an escape character, an opening bracket and some
digits, up to a letter: the codes that colour a terminal. -/
def withoutColours : Nat → Text → Text
  | 0, t => t
  | fuel + 1, t =>
    match t with
    | a :: b :: rest =>
      if a.val = 0x1B && b = CodePoint.ofChar '[' then
        let after := rest.dropWhile fun c =>
          c = CodePoint.ofChar ';' || c = CodePoint.ofChar '?' || c.isAsciiDigit
        match after with
        | c :: more =>
          if (Numeral.lowerAscii c).val ≥ 0x61 && (Numeral.lowerAscii c).val ≤ 0x7A then
            withoutColours fuel more
          else a :: withoutColours fuel (b :: rest)
        | [] => t
      else a :: withoutColours fuel (b :: rest)
    | t => t

/-- A line as it is printed. -/
def printed (line : Text) : Text := withoutColours line.length line ++ "\n"

/-- A text on the error output, where surrogates are written as escapes. -/
def onErrorOutput (t : Text) : Text :=
  t.flatMap fun c =>
    if c.isSurrogate then Text.ofString "\\u" ++ Text.hexadecimal 4 c.val else [c]

/-- A text as a log of a terminal keeps it: a return right before the end of a line
is no part of the line. -/
def logged : Text → Text
  | a :: b :: rest =>
    if a.val = 0x0D && b.val = 0x0A then b :: logged rest else a :: logged (b :: rest)
  | t => t

/-- Prints lines one by one; a line that holds a surrogate cannot be printed. -/
def printLines (r : Result) : List Text → Result
  | [] => r
  | line :: rest =>
    let text := printed line
    if text.any CodePoint.isSurrogate then
      { r with exitCode := 1, raised := some .unencodableText }
    else printLines { r with out := r.out ++ text } rest

/-- Ends with a failure put in words. -/
def complain (r : Result) (f : Failure) : Result :=
  { r with exitCode := 1, err := r.err ++ onErrorOutput (printed ("Error: " ++ f.message)) }

/-- Ends with a failure as it is. -/
def escape (r : Result) (f : Failure) : Result := { r with exitCode := 1, raised := some f }

/-! ## Serving -/

/-- Settings with the options given put over them. -/
def applyOptions (s : Settings) (o : ServeOptions) : Settings :=
  { s with
    address := o.address.getD s.address
    namespaceName := o.namespaceName.orElse fun _ => s.namespaceName
    context := o.context.orElse fun _ => s.context
    maxWorkers := (o.maxWorkers.map Int.ofNat).getD s.maxWorkers
    openTimeout := (o.openTimeout.map Number.float).getD s.openTimeout
    logLevel := (o.logLevel.map Text.upper).getD s.logLevel }

def runServe (world : World) (o : ServeOptions) : Result :=
  match Settings.ofEnvironment world.env with
  | .error f => complain .empty f
  | .ok s =>
    let s := applyOptions s o
    if !logLevels.contains s.logLevel then escape .empty (.unknownLevel s.logLevel)
    else
      let r := { Result.empty with served := [s] }
      match world.serveFault with
      | none => r
      | some f => if f.isIn .serverStart then complain r f else escape r f

/-! ## Showing a status -/

def versionLine : Text := "sessiongate 0.1.0"

def statusLines (app : App.Snapshot) : List Text :=
  let shown (v : Value) : Text := (v.orElse (.text "-")).display
  [app.id.label,
    "  target phase: " ++ shown app.targetPhase,
    "  phase:        " ++ shown app.phase,
    "  pod:          " ++ shown app.pod] ++
    (if app.error.isBlank then [] else ["  error:        " ++ app.error.display])

/-- Reads the app to show; without a namespace, the one the program runs in is
taken. -/
def findApp (world : World) (o : StatusOptions) : Tool.Query App.Snapshot := do
  let settings := Tool.Settings.make o.context none none
  let given := o.namespaceName.getD []
  let namespaceName ←
    if given.isEmpty then Tool.Query.currentNamespace settings world.account else pure given
  Tool.Query.readApp settings ⟨.text namespaceName, .text o.name⟩

def runStatus (world : World) (o : StatusOptions) : Result :=
  let (found, exchange) := (findApp world o).run.run (.start world.tool)
  let r := { Result.empty with calls := exchange.calls }
  match found with
  | .ok app => printLines r (statusLines app)
  | .error f => if f.isIn .controlPlane then complain r f else escape r f

/-- The exit code of a command line that is used wrongly. -/
def usageExitCode : Nat := 2

/-- Runs a command line, however it is read. -/
def runBy (read : List Text → Option Command) (world : World) (arguments : List Text) : Result :=
  match read arguments with
  | none => { Result.empty with exitCode := usageExitCode }
  | some .version => printLines .empty [versionLine]
  | some .help => .empty
  | some (.serve o) => runServe world o
  | some (.status o) => runStatus world o

def run (world : World) (arguments : List Text) : Result := runBy readCommand world arguments

end AttachGate.CommandLine
