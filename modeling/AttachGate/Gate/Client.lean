import AttachGate.Gate.Handler

/-!
# What clients and commands do

A client opens a stream, sends on it and goes away.  A running command asks for
the size of the terminal, reads, writes, asks whether it is called off, and
ends.
-/

namespace AttachGate.Gate

/-! ## Clients -/

/-- A client opens a stream, known by its place. -/
def arrive (g : Gate) (inbox : List Terminal.Feed) (limit : Option Nat) : Nat × Gate :=
  (g.streams.length, { g with streams := g.streams ++ [Stream.start inbox limit] })

def feed (g : Gate) (i : Nat) (f : Terminal.Feed) : Gate :=
  g.onStream i fun s => { s with inbox := s.inbox ++ [f] }

/-- Whether the handler of a stream has asked to hear when the client goes
away. -/
def Stream.isHeard (s : Stream) : Bool :=
  match s.stage with
  | .awaiting => false
  | _ => true

def depart (g : Gate) (i : Nat) : Gate :=
  match g.streams[i]? with
  | none => g
  | some s =>
    if s.isHeard then
      let g := g.onStream i fun s => { s with cancelled := true }
      match s.stage with
      | .opening _ k caller =>
        { g with sessions := g.sessions.modify k fun s => s.leave caller }
      | _ => g
    else g

/-! ## Commands -/

def terminal? (g : Gate) (i : Nat) : Option Attachment :=
  match g.streams[i]? with
  | some s => if s.isRunning then s.attachment else none
  | none => none

/-- The command of a stream reads; it gets nothing while there is nothing. -/
def read (g : Gate) (i : Nat) : Option Terminal.Item × Gate :=
  match g.terminal? i with
  | none => (none, g)
  | some a =>
    let (reading, reader) := (Terminal.Reading.start a.reader).run a.reader
    (reading.item?, g.onStream i fun s => s.onAttachment fun a => { a with reader })

def write (g : Gate) (i : Nat) (channel : Channel) (data : Bytes) :
    Option (Except Failure Nat) × Gate :=
  match g.terminal? i with
  | none => (none, g)
  | some a =>
    let (writing, outlet) := (Terminal.Writing.looking channel data).run a.outlet
    (writing.outcome?, g.onStream i fun s => s.onAttachment fun a => { a with outlet })

def finish (g : Gate) (i : Nat) (outcome : Except Failure Unit) : Gate :=
  g.onStream i fun s =>
    if s.isRunning then s.onAttachment fun a => { a with progress := .over outcome } else s

/-- The next command in the queue starts, if there is room for it. -/
def launch (g : Gate) : Gate :=
  match g.queue with
  | [] => g
  | i :: queue =>
    if (g.streams.filter Stream.isRunning).length < g.maxStreams then
      { g.onStream i fun s => s.onAttachment fun a => { a with progress := .running } with queue }
    else g

end AttachGate.Gate
