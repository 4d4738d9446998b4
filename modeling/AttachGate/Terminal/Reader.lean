import AttachGate.Wire.Request
import AttachGate.Failure

/-!
# Terminal input

A reader turns the messages of a client into chunks of input and a terminal
size.  Its receive loop takes one message after another, notes the size it
carries, and places its chunk in a slot that holds one item; a consumer takes
the items out.  The loop can be one chunk ahead of the slot, and sizes do not
wait in it.

The loop and the consumer are machines whose transitions may come in any order,
with the closing of the reader between any two.  `run` and `read` are the orders
in which nothing else comes between.
-/

namespace AttachGate.Terminal

/-- What a client's stream brings. -/
inductive Feed
  | message (r : Request)
  | finished
  | broken (failure : Failure)

inductive Item
  | chunk (data : Bytes)
  /-- The end of the input, and why it came early, if it did. -/
  | finish (failure : Option Failure)
  deriving DecidableEq

inductive Loop
  | receiving
  /-- A message has come; whether the reader is closed is looked at next. -/
  | received (message : Request)
  /-- An item is to be placed; whether the reader is closed is looked at next. -/
  | offering (item : Item)
  /-- An item is placed as soon as the slot is empty. -/
  | placing (item : Item)
  /-- The input has failed; the failure is recorded next. -/
  | failing (failure : Failure)
  /-- The failure is recorded; the alarm is raised next. -/
  | alarming (failure : Failure)
  | stopped

structure Reader where
  /-- The size that the client reported last. -/
  size : Geometry
  slot : Option Item
  closed : Bool
  /-- Set once the consumer has been given the end: what it was given. -/
  ended : Option (Option Failure)
  /-- Why the receive loop failed. -/
  error : Option Failure
  /-- How often the alarm was raised. -/
  alarms : Nat
  loop : Loop

namespace Reader

def start (size : Geometry) : Reader :=
  { size, slot := none, closed := false, ended := none, error := none, alarms := 0
    loop := .receiving }

/-- Stops delivering input. -/
def close (r : Reader) : Reader := { r with closed := true }

/-- The size of the terminal; a closed reader has none. -/
def size? (r : Reader) : Option Geometry := if r.closed then none else some r.size

/-! ## The receive loop -/

/-- Whether a failure of the input is recorded and raises the alarm.  After any
other the loop stops without a word. -/
def isRecorded (f : Failure) : Bool := f.isIn .protocol || f.isIn .stream

/-- What the loop does with a failure. -/
def Loop.afterFailure (f : Failure) : Loop := if isRecorded f then .failing f else .stopped

/-- The client's stream has brought something. -/
def receive (r : Reader) (feed : Feed) : Reader :=
  match r.loop with
  | .receiving =>
    { r with
      loop := match feed with
        | .message m => .received m
        | .finished => .offering (.finish none)
        | .broken f => Loop.afterFailure f }
  | _ => r

/-- What the loop does with the chunks of a message: there must be one if there
are any. -/
def Loop.afterMessage (input : List Bytes) : Loop :=
  match input with
  | [] => .receiving
  | [data] => .offering (.chunk data)
  | chunks => .failing (.chunkCount chunks.length)

/-- The loop uses a message, its size first. -/
def use (r : Reader) (m : Request) : Reader :=
  { r with size := m.size.getD r.size, loop := Loop.afterMessage m.input }

/-- What the loop does when an item is placed. -/
def Loop.afterPlacing : Item → Loop
  | .chunk _ => .receiving
  | .finish _ => .stopped

/-- The next transition of the loop, if it has one that needs nothing from the
client or the consumer. -/
def advance (r : Reader) : Option Reader :=
  match r.loop with
  | .receiving => none
  | .received m => some (if r.closed then { r with loop := .stopped } else r.use m)
  | .offering item => some { r with loop := if r.closed then .stopped else .placing item }
  | .placing item =>
    match r.slot with
    | none => some { r with slot := some item, loop := Loop.afterPlacing item }
    | some _ => if r.closed then some { r with loop := .offering item } else none
  | .failing f => some { r with error := some f, loop := .alarming f }
  | .alarming f => some { r with alarms := r.alarms + 1, loop := .offering (.finish (some f)) }
  | .stopped => none

/-- The next transition of the loop, if it has one, with the feeds that have
come. -/
def step (r : Reader) (inbox : List Feed) : Option (Reader × List Feed) :=
  match r.advance with
  | some r => some (r, inbox)
  | none =>
    match r.loop, inbox with
    | .receiving, feed :: inbox => some (r.receive feed, inbox)
    | _, _ => none

def iterate : Nat → Reader → List Feed → Reader × List Feed
  | 0, r, inbox => (r, inbox)
  | n + 1, r, inbox =>
    match r.step inbox with
    | some (r, inbox) => iterate n r inbox
    | none => (r, inbox)

/-- Runs the loop until it waits.  A message takes at most seven transitions. -/
def run (r : Reader) (inbox : List Feed) : Reader × List Feed :=
  iterate (7 * (inbox.length + 1)) r inbox

end Reader

/-! ## The consumer -/

inductive Reading
  /-- Whether the reader is closed is looked at next. -/
  | looking
  /-- The read takes an item as soon as there is one. -/
  | waiting
  /-- An item is taken; whether the reader is closed is looked at next. -/
  | holding (item : Item)
  | over (item : Item)

namespace Reading

/-- Starts a read.  The end is given again and again. -/
def start (r : Reader) : Reading :=
  match r.ended with
  | some failure => .over (.finish failure)
  | none => .looking

/-- The next transition of a read, if it need not wait. -/
def advance (reading : Reading) (r : Reader) : Option (Reading × Reader) :=
  match reading with
  | .looking => some (if r.closed then .over (.finish none) else .waiting, r)
  | .waiting =>
    match r.slot with
    | some item => some (.holding item, { r with slot := none })
    | none => if r.closed then some (.looking, r) else none
  | .holding item =>
    if r.closed then some (.over (.finish none), r)
    else
      match item with
      | .chunk _ => some (.over item, r)
      | .finish failure => some (.over item, { r with ended := some failure })
  | .over _ => none

def iterate : Nat → Reading → Reader → Reading × Reader
  | 0, reading, r => (reading, r)
  | n + 1, reading, r =>
    match reading.advance r with
    | some (reading, r) => iterate n reading r
    | none => (reading, r)

/-- Runs a read until it waits or is over: it looks, takes, and looks again. -/
def run (reading : Reading) (r : Reader) : Reading × Reader := iterate 3 reading r

def item? : Reading → Option Item
  | .over item => some item
  | _ => none

end Reading

/-- The octets of an item for a buffer of a size; none at the end of the input.
A chunk is never split. -/
def Item.toBytes (size : Int) : Item → Except Failure Bytes
  | .finish _ => .ok []
  | .chunk data => if size < data.length then .error (.shortBuffer data.length size) else .ok data

end AttachGate.Terminal
