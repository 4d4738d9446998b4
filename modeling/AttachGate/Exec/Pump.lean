import AttachGate.Wire.Request

/-!
# The input pump

Input for a command is pumped from the client to the command's socket.  Before
each read the size of the client's terminal is polled, and sent on a channel of
its own if it is not the one sent last.  The pump stops for good when there is
no size any more, when the input ends, when the socket is closed or the exec
called off, or when a read or a write fails.
-/

namespace AttachGate.Exec

/-- What the socket of a command sees, and the reads of its input. -/
inductive Event
  | opened
  | resized (size : Geometry)
  | asked
  | sent (data : Bytes)
  | printed (data : Bytes)
  | closed
  deriving DecidableEq

/-- The channel that sizes are sent on. -/
def resizeChannel : Nat := 4

/-- The largest chunk of input that is read at once. -/
def bufferSize : Nat := 32 * 1024

/-- The message that sends a size. -/
def sizeMessage (size : Geometry) : Value :=
  .object [(Text.ofString "Width", .int size.width), (Text.ofString "Height", .int size.height)]

structure Chunk where
  /-- Whether the exec is called off while the read waits. -/
  cancels : Bool
  data : Except Failure Bytes

/-- Writes that fail: all those after the first `after`. -/
structure WriteFault where
  after : Nat
  failure : Failure

structure PumpFaults where
  resize : Option WriteFault
  send : Option WriteFault

/-- The failure of a write after so many. -/
def WriteFault.strike? (f : Option WriteFault) (count : Nat) : Option Failure :=
  match f with
  | some f => if f.after ≤ count then some f.failure else none
  | none => none

inductive Verdict
  | running
  | stopped
  /-- A failure that the pump does not take for the end of its input. -/
  | escaped (failure : Failure)
  deriving DecidableEq

structure Pump where
  verdict : Verdict
  /-- How many more times the socket counts as open; always if not given. -/
  openChecks : Option Nat
  cancelled : Bool
  /-- The sizes still to be polled; the last one repeats. -/
  sizes : List (Option Geometry)
  lastSize : Option Geometry
  resizes : Nat
  sends : Nat
  log : List Event

namespace Pump

def start (openChecks : Option Nat) (cancelled : Bool) (sizes : List (Option Geometry)) : Pump :=
  { verdict := .running, openChecks, cancelled, sizes, lastSize := none
    resizes := 0, sends := 0, log := [] }

/-- Whether a failure only stops the pump: the socket, the system or the buffer
fails. -/
def isAbsorbed (f : Failure) : Bool := f.isIn .socket || f.isIn .system || f.isIn .buffer

def fail (p : Pump) (f : Failure) : Pump :=
  { p with verdict := if isAbsorbed f then .stopped else .escaped f }

/-- Whether the socket is open, which uses up a check. -/
def checkOpen (p : Pump) : Bool × Pump :=
  match p.openChecks with
  | none => (true, p)
  | some 0 => (false, p)
  | some (n + 1) => (true, { p with openChecks := some n })

def pollSize (p : Pump) : Option Geometry × Pump :=
  match p.sizes with
  | [] => (none, p)
  | [size] => (size, p)
  | size :: rest => (size, { p with sizes := rest })

/-- Sends a size unless it is the one sent last. -/
def resize (faults : PumpFaults) (size : Geometry) (p : Pump) : Pump :=
  if p.lastSize = some size then p
  else
    match WriteFault.strike? faults.resize p.resizes with
    | some f => p.fail f
    | none =>
      { p with
        lastSize := some size
        resizes := p.resizes + 1
        log := p.log ++ [Event.resized size] }

/-- Sends a chunk of input; an empty one is the end. -/
def send (faults : PumpFaults) (data : Bytes) (p : Pump) : Pump :=
  if data.isEmpty then { p with verdict := .stopped }
  else
    match WriteFault.strike? faults.send p.sends with
    | some f => p.fail f
    | none => { p with sends := p.sends + 1, log := p.log ++ [Event.sent data] }

/-- Reads a chunk of input and sends it. -/
def relay (faults : PumpFaults) (chunk : Chunk) (p : Pump) : Pump :=
  let p := { p with log := p.log ++ [Event.asked], cancelled := p.cancelled || chunk.cancels }
  match chunk.data with
  | .error f => p.fail f
  | .ok data => p.send faults data

/-- One round: the checks, the size, and a chunk. -/
def round (faults : PumpFaults) (chunk : Chunk) (p : Pump) : Pump :=
  match p.verdict with
  | .running =>
    let (isOpen, p) := p.checkOpen
    if !isOpen || p.cancelled then { p with verdict := .stopped }
    else
      match p.pollSize with
      | (none, p) => { p with verdict := .stopped }
      | (some size, p) =>
        let p := p.resize faults size
        match p.verdict with
        | .running => p.relay faults chunk
        | _ => p
  | _ => p

/-- The answer to reads once the input is used up. -/
def lastChunk : Chunk := ⟨false, .ok []⟩

/-- Runs a pump to its end: after the last chunk the input has ended. -/
def run (faults : PumpFaults) (chunks : List Chunk) (p : Pump) : Pump :=
  round faults lastChunk (chunks.foldl (fun p chunk => round faults chunk p) p)

end Pump

end AttachGate.Exec
