import AttachGate.Wire.Response
import AttachGate.Failure

/-!
# Terminal output

Each write of a command becomes one message to the client.  Messages pass
through a slot that holds one; the writer waits while it is full, and what
serves the client takes them out until the command is over and the slot is
empty.  Both are machines whose transitions may come in any order, with the
closing of the outlet between any two.
-/

namespace AttachGate.Terminal

structure Outlet where
  slot : Option Response
  closed : Bool
  deriving DecidableEq

namespace Outlet

def start : Outlet := ⟨none, false⟩

def close (o : Outlet) : Outlet := { o with closed := true }

/-- Takes the message out of the slot. -/
def take (o : Outlet) : Option Response × Outlet := (o.slot, { o with slot := none })

end Outlet

inductive Writing
  /-- Whether the outlet is closed is looked at next. -/
  | looking (channel : Channel) (data : Bytes)
  /-- The message is placed as soon as the slot is empty. -/
  | placing (channel : Channel) (data : Bytes)
  /-- It is over, with the number of octets written. -/
  | over (outcome : Except Failure Nat)

namespace Writing

/-- The next transition of a write, if it need not wait. -/
def advance (w : Writing) (o : Outlet) : Option (Writing × Outlet) :=
  match w with
  | .looking channel data =>
    some (if o.closed then .over (.error .streamClosed) else .placing channel data, o)
  | .placing channel data =>
    match o.slot with
    | none => some (.over (.ok data.length), { o with slot := some (.ofWrite channel data) })
    | some _ => if o.closed then some (.looking channel data, o) else none
  | .over _ => none

def iterate : Nat → Writing → Outlet → Writing × Outlet
  | 0, w, o => (w, o)
  | n + 1, w, o =>
    match w.advance o with
    | some (w, o) => iterate n w o
    | none => (w, o)

/-- Runs a write until it waits or is over: it looks and places, or gives up
placing and looks again. -/
def run (w : Writing) (o : Outlet) : Writing × Outlet := iterate 2 w o

def outcome? : Writing → Option (Except Failure Nat)
  | .over outcome => some outcome
  | _ => none

end Writing

inductive Serving
  /-- A message is taken as soon as there is one. -/
  | taking
  /-- There was none; whether the command is over is looked at next. -/
  | checking
  /-- The command is over; whether the slot is empty is looked at next. -/
  | emptying
  | over
  deriving DecidableEq

namespace Serving

/-- The next transition of the serving: where it stands then, the message it
passes on, and the outlet.  `done` says whether the command is over. -/
def advance (s : Serving) (done : Bool) (o : Outlet) : Serving × Option Response × Outlet :=
  match s with
  | .taking =>
    match o.slot with
    | some m => (.taking, some m, { o with slot := none })
    | none => (.checking, none, o)
  | .checking => (if done then .emptying else .taking, none, o)
  | .emptying => (if o.slot.isNone then .over else .taking, none, o)
  | .over => (.over, none, o)

end Serving

/-! ## A command's output as a whole -/

/-- A command that writes and is then over, and the serving of its client. -/
structure Transfer where
  outlet : Outlet
  /-- The writes that have not been started. -/
  pending : List (Channel × Bytes)
  writing : Option Writing
  lengths : List (Except Failure Nat)
  serving : Serving
  passed : List Response

namespace Transfer

def start (writes : List (Channel × Bytes)) : Transfer :=
  { outlet := .start, pending := writes, writing := none, lengths := []
    serving := .taking, passed := [] }

def isDone (t : Transfer) : Bool := t.pending.isEmpty && t.writing.isNone

/-- A transition of the command: it starts a write, moves it on, or notes its
end. -/
def write (t : Transfer) : Transfer :=
  match t.writing with
  | none =>
    match t.pending with
    | [] => t
    | (channel, data) :: pending => { t with pending, writing := some (.looking channel data) }
  | some (.over outcome) => { t with writing := none, lengths := t.lengths ++ [outcome] }
  | some w =>
    match w.advance t.outlet with
    | some (w, outlet) => { t with writing := some w, outlet }
    | none => t

def serve (t : Transfer) : Transfer :=
  let (serving, m, outlet) := t.serving.advance t.isDone t.outlet
  { t with serving, outlet, passed := t.passed ++ m.toList }

/-- So many transitions of the command and of the serving in turn. -/
def iterate : Nat → Transfer → Transfer
  | 0, t => t
  | n + 1, t => iterate n t.write.serve

/-- Runs a transfer to its end: a write takes four transitions and waits at most
two turns for its slot, and the end takes three more. -/
def run (writes : List (Channel × Bytes)) : Transfer :=
  iterate (6 * writes.length + 6) (start writes)

end Transfer

end AttachGate.Terminal
