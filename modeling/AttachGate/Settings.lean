import AttachGate.Failure
import AttachGate.Text.Upper

/-!
# Settings

How the gate is set up: defaults, changed by environment variables.
-/

namespace AttachGate

structure Settings where
  address : Text
  /-- The namespace to create at start-up. -/
  namespaceName : Option Text
  /-- The cluster to talk to, by the name of its configuration. -/
  context : Option Text
  /-- The number of streams served at once. -/
  maxWorkers : Int
  /-- Seconds to wait for an app to be Live; zero for no limit. -/
  openTimeout : Number
  /-- Seconds between two polls of a watch. -/
  watchInterval : Number
  /-- Seconds that a command of the cluster tool may take. -/
  toolTimeout : Number
  logLevel : Text

/-- Environment variables, the first of a name counting. -/
abbrev Environment := List (Text × Text)

namespace Environment

def get? (name : Text) : Environment → Option Text
  | [] => none
  | (n, v) :: rest => if n = name then some v else get? name rest

/-- The value of a variable that is set and not empty. -/
def nonempty? (env : Environment) (name : Text) : Option Text :=
  (env.get? name).filter fun value => !value.isEmpty

end Environment

namespace Settings

def standard : Settings :=
  { address := "[::]:8001"
    namespaceName := none
    context := none
    maxWorkers := 64
    openTimeout := .int 300
    watchInterval := .float (Binary64.ofDecimal false 2 0)
    toolTimeout := .int 30
    logLevel := "INFO" }

/-- A numeric variable read by `read`, or the default where it is not set. -/
def numeric {α : Type} (env : Environment) (name : Text)
    (read : Text → Except Numeral.Fault α) (default : α) : Except Failure α :=
  match env.get? name with
  | none => .ok default
  | some t => (read t).mapError fun fault => .badSetting (.badNumeral fault)

def ofEnvironment (env : Environment) : Except Failure Settings := do
  let maxWorkers ←
    numeric env "SESSIONGATE_MAX_WORKERS" Numeral.readInteger standard.maxWorkers
  let openTimeout ←
    numeric env "SESSIONGATE_OPEN_TIMEOUT" (fun t => (Numeral.readFloat t).map Number.float)
      standard.openTimeout
  if maxWorkers < 1 then .error .tooFewWorkers
  else
    pure
      { standard with
        address := (env.get? "SESSIONGATE_ADDR").getD standard.address
        namespaceName := env.nonempty? "SESSIONGATE_NAMESPACE"
        context := env.nonempty? "SESSIONGATE_CONTEXT"
        maxWorkers
        openTimeout
        logLevel := ((env.get? "SESSIONGATE_LOG_LEVEL").getD standard.logLevel).upper }

end Settings

def logLevels : List Text :=
  ["CRITICAL", "FATAL", "ERROR", "WARN", "WARNING", "INFO", "DEBUG", "NOTSET"]

end AttachGate
