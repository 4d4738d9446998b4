import AttachGate.Value.Display
import AttachGate.Value.Equal
import AttachGate.Failure

/-!
# Apps

An app is an object in a cluster, known by its namespace and name.  Its wanted
phase is in its specification and its observed phase in its status; clients run
commands in the pod that the status names.
-/

namespace AttachGate

/-- The two phases an app can be driven to. -/
inductive Phase
  | live
  | rest
  deriving DecidableEq

namespace Phase

def name : Phase → Text
  | .live => "Live"
  | .rest => "Rest"

def other : Phase → Phase
  | .live => .rest
  | .rest => .live

end Phase

namespace App

/-- What an app is known by.  A first message may give any value for either
part. -/
structure Id where
  namespaceName : Value
  name : Value

namespace Id

/-- The app as it appears in messages. -/
def label (id : Id) : Text := id.namespaceName.display ++ "/" ++ id.name.display

/-- Whether two clients mean the same app. -/
def same (a b : Id) : Bool :=
  a.namespaceName.same b.namespaceName && a.name.same b.name

end Id

/-- A running app that commands can be run in. -/
structure Instance where
  app : Id
  pod : Value
  command : List Value

/-- The command that runs in the root of an app's own file system. -/
def defaultCommand : List Value :=
  [.text (Text.ofString "chroot"), .text (Text.ofString "/app-root")]

/-- The whole command of a client: the app's base command, or the default where
it has none, and after it what the client wants to run. -/
def Instance.commandLine (i : Instance) (attach : List Value) : List Value :=
  (if i.command.isEmpty then defaultCommand else i.command) ++ attach

end App

end AttachGate
