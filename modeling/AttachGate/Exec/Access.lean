import AttachGate.Failure

/-!
# Access to the cluster

The connection for execs is set up on first use, with the credentials of the
pod that the program runs in or else of a user's configuration, and kept.
-/

namespace AttachGate.Exec

/-- A step of setting up access. -/
inductive AccessStep
  | podCredentials
  | userConfiguration (context : Option Text)
  | connect
  deriving DecidableEq

/-- Where credentials may come from. -/
structure Credentials where
  inPod : Bool
  /-- The failure of a user's configuration. -/
  userFault : Option Failure
  context : Option Text

structure Access where
  /-- The number of the connection that is kept; the first is one. -/
  connection : Option Nat
  log : List AccessStep

namespace Access

def start : Access := ⟨none, []⟩

def made (log : List AccessStep) : Nat := log.count .connect

def connect (log : List AccessStep) : Except Failure Nat × Access :=
  let log := log ++ [.connect]
  (.ok (made log), ⟨some (made log), log⟩)

/-- The connection, set up if it is not there yet. -/
def get (c : Credentials) (a : Access) : Except Failure Nat × Access :=
  match a.connection with
  | some n => (.ok n, a)
  | none =>
    if c.inPod then connect (a.log ++ [.podCredentials])
    else
      let log := a.log ++ [.podCredentials, .userConfiguration c.context]
      match c.userFault with
      | some f => (.error f, ⟨none, log⟩)
      | none => connect log

/-- So many uses of the connection. -/
def useTimes (c : Credentials) : Nat → Access → List (Except Failure Nat) × Access
  | 0, a => ([], a)
  | n + 1, a =>
    let (result, a) := get c a
    let (results, a) := useTimes c n a
    (result :: results, a)

end Access

end AttachGate.Exec
