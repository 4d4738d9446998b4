import AttachGate.CommandLine.Run

/-!
# The program

The command line as a program: it reads its arguments and its environment, runs
the command, prints what the command leaves, and exits with its code.  The
program runs nothing itself, so the cluster tool counts as missing.
-/

namespace AttachGate.Program

/-- Where a pod's service account names the namespace of the pod. -/
def accountFile : String := "/var/run/secrets/kubernetes.io/serviceaccount/namespace"

def settingNames : List String :=
  ["SESSIONGATE_ADDR", "SESSIONGATE_NAMESPACE", "SESSIONGATE_CONTEXT", "SESSIONGATE_MAX_WORKERS",
    "SESSIONGATE_OPEN_TIMEOUT", "SESSIONGATE_LOG_LEVEL"]

/-- The variables that are set. -/
def environment : IO Environment :=
  settingNames.filterMapM fun name => do
    pure ((← IO.getEnv name).map fun value => (Text.ofString name, Text.ofString value))

/-- The namespace in the service account's file, if it can be read. -/
def account : IO (Option Text) := do
  match ← (IO.FS.readFile accountFile).toBaseIO with
  | .ok namespaceName => pure (some (Text.ofString namespaceName))
  | .error _ => pure none

/-- Text as it is printed. -/
def toPrint (t : Text) : String := t.toString?.getD ""

def run (arguments : List String) : IO UInt32 := do
  let result := CommandLine.run
    { env := ← environment, tool := [], account := ← account, serveFault := none }
    (arguments.map Text.ofString)
  IO.print (toPrint result.out)
  IO.eprint (toPrint result.err)
  match result.raised with
  | some f => IO.eprintln (toPrint f.message)
  | none => pure ()
  pure (UInt32.ofNat result.exitCode)

end AttachGate.Program

def main (arguments : List String) : IO UInt32 := AttachGate.Program.run arguments
