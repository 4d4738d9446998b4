import AttachGate.Terminal.Reader

/-!
# Terminal lines

A line is a reader together with the stream that feeds it, used one call at a
time: after every call the receive loop runs ahead until it waits.
-/

namespace AttachGate.Terminal

structure Line where
  reader : Reader
  /-- What the client has sent and the loop has not taken. -/
  inbox : List Feed
  /-- Whether the receive loop runs at all. -/
  started : Bool

namespace Line

def create (size : Geometry) (started : Bool) : Line :=
  { reader := .start size, inbox := [], started }

/-- Lets the receive loop run until it waits. -/
def settle (l : Line) : Line :=
  if l.started then
    let (reader, inbox) := l.reader.run l.inbox
    { l with reader, inbox }
  else l

/-- The client's stream brings something. -/
def bring (l : Line) (feed : Feed) : Line := { l with inbox := l.inbox ++ [feed] }.settle

def close (l : Line) : Line := { l with reader := l.reader.close }.settle

/-- A read, with what happens once it has begun.  It delivers nothing if it still
waits after that. -/
def read (l : Line) (meanwhile : Line → Line) : Option Item × Line :=
  let (reading, reader) := (Reading.start l.reader).run l.reader
  let l := meanwhile { l with reader }
  let (reading, reader) := reading.run l.reader
  (reading.item?, { l with reader }.settle)

end Line

end AttachGate.Terminal
