import AttachGate.Exec.Pump
import AttachGate.Exec.Status
import AttachGate.Text.Encoding

/-!
# The exec relay

A command runs in a pod behind a socket.  Each update of the socket may bring a
part of the command's output and a part of its status; output is passed on at
once and the status is put together until the socket closes.  Then the status
tells how the command ended.  The socket is closed on every path.
-/

namespace AttachGate.Exec

/-- Data as a socket delivers it: octets, or text to be encoded. -/
inductive Payload
  | octets (data : Bytes)
  | text (t : Text)

namespace Payload

def isEmpty : Payload → Bool
  | .octets data => data.isEmpty
  | .text t => t.isEmpty

def toBytes : Payload → Except Failure Bytes
  | .octets data => .ok data
  | .text t =>
    match Utf8.encode? t with
    | some data => .ok data
    | none => .error .unencodableText

end Payload

structure Update where
  out : Payload
  status : Payload
  closes : Bool
  cancels : Bool
  failure : Option Failure

/-- The container that commands run in. -/
def defaultContainer : Text := "workspace"

structure Job where
  namespaceName : Text
  pod : Text
  container : Text
  command : List Value
  /-- How deep brackets may be nested in the status. -/
  room : Nat

structure Opening where
  container : Text
  command : List Value
  input : Bool
  output : Bool
  /-- Whether errors come apart from the output. -/
  errors : Bool
  terminal : Bool
  /-- Whether the socket delivers octets. -/
  binary : Bool
  /-- Whether all output is gathered before any of it is seen. -/
  gathered : Bool

/-- A command runs at a terminal, so its errors come with its output, which is
relayed as octets while it runs. -/
def Job.opening (job : Job) : Opening :=
  { container := job.container
    command := job.command
    input := true
    output := true
    errors := false
    terminal := true
    binary := true
    gathered := false }

/-- A relay: whether its socket is open, and what it has gathered. -/
structure Relay where
  isOpen : Bool
  cancelled : Bool
  status : Bytes
  log : List Event
  /-- Why the relay broke off. -/
  broken : Option Failure

namespace Relay

/-- Passes output on to the client, which may fail. -/
def print (outFault : Option Failure) (out : Payload) (r : Relay) : Relay :=
  if out.isEmpty then r
  else
    match out.toBytes, outFault with
    | .error f, _ => { r with broken := some f }
    | .ok _, some f => { r with broken := some f }
    | .ok data, none => { r with log := r.log ++ [Event.printed data] }

/-- Takes in an update; the status is taken before the output. -/
def update (outFault : Option Failure) (u : Update) (r : Relay) : Relay :=
  if r.broken.isSome || !r.isOpen || r.cancelled then r
  else
    let r := { r with isOpen := !u.closes, cancelled := u.cancels }
    match u.failure with
    | some f => { r with broken := some f }
    | none =>
      match u.status.toBytes with
      | .error f => { r with broken := some f }
      | .ok part => { r with status := r.status ++ part }.print outFault u.out

/-- The update of a socket that has nothing more to bring: it closes. -/
def lastUpdate : Update := ⟨.octets [], .octets [], true, false, none⟩

def run (outFault : Option Failure) (updates : List Update) (r : Relay) : Relay :=
  update outFault lastUpdate (updates.foldl (fun r u => update outFault u r) r)

/-- What a relay that has run to its end amounts to. -/
def outcome (job : Job) (r : Relay) : Except Failure Unit :=
  match r.broken with
  | some f => if f.isIn .socket then .error (.execBroken job.pod f) else .error f
  | none => if r.cancelled then .ok () else judge job.room job.pod r.status

end Relay

/-! ## Whole execs -/

structure Surroundings where
  openFault : Option Failure
  isOpen : Bool
  cancelled : Bool
  pumpFaults : PumpFaults
  sizes : List (Option Geometry)
  chunks : List Chunk
  outFault : Option Failure
  updates : List Update

/-- The failure of an exec whose socket cannot be opened: the cluster's refusal
is put in context, anything else is passed on. -/
def refusal (job : Job) (f : Failure) : Failure :=
  match f with
  | .reported .cluster reason => .execRefused job.namespaceName job.pod reason
  | f => f

/-- Runs a command with its input pumped to the end before the first update. -/
def run (job : Job) (env : Surroundings) : Except Failure Unit × List Event :=
  match env.openFault with
  | some f => (.error (refusal job f), [.opened])
  | none =>
    let pump :=
      Pump.run env.pumpFaults env.chunks
        (Pump.start (if env.isOpen then none else some 0) env.cancelled env.sizes)
    let relay :=
      Relay.run env.outFault env.updates
        { isOpen := env.isOpen, cancelled := pump.cancelled, status := []
          log := .opened :: pump.log, broken := none }
    (relay.outcome job, relay.log ++ [.closed])

end AttachGate.Exec
