import AttachGate.Session.Schedule
import AttachGate.Terminal.Outlet
import AttachGate.Terminal.Reader

/-!
# The gate

The gate serves any number of client streams.  The first message of a stream
names an app and a command; the stream attaches to the app's session, the
command runs in the app's pod with its input and output relayed, and in the end
the stream detaches and gets a status.  Sessions are shared by the streams of an
app, and the number of commands that run at once is limited.
-/

namespace AttachGate

namespace Gate

/-- The codes of the statuses that are no success. -/
inductive Code
  | invalidArgument
  | unavailable
  | aborted
  deriving DecidableEq

inductive Status
  | ok
  /-- The client wanted no more. -/
  | closed
  | refused (code : Code) (details : Text)
  /-- A failure that no status was made of. -/
  | raised (failure : Failure)
  deriving DecidableEq

/-- How far the command of a stream has come. -/
inductive Progress
  /-- It waits for its turn. -/
  | queued
  | running
  | over (outcome : Except Failure Unit)

/-- What a stream has once its app is running. -/
structure Attachment where
  running : App.Instance
  command : List Value
  reader : Terminal.Reader
  outlet : Terminal.Outlet
  progress : Progress

/-- Where the handler of a stream stands.  Sessions are known by their place. -/
inductive Stage
  | awaiting
  /-- The first message is valid; the session is looked up next. -/
  | admitted (opening : Request.Opening)
  /-- The session is known; it is called next. -/
  | known (opening : Request.Opening) (session : Nat)
  /-- It waits to be attached. -/
  | opening (opening : Request.Opening) (session caller : Nat)
  /-- It passes output on to the client. -/
  | serving (session : Nat) (serving : Terminal.Serving)
  /-- The terminal is closed; the status is found next. -/
  | concluding (session : Nat)
  /-- It is to detach; the session is called next. -/
  | leaving (session : Nat) (status : Status)
  /-- It waits to be detached. -/
  | closing (session caller : Nat) (status : Status)
  | ended (status : Status)

structure Stream where
  /-- What the client has sent and nobody has taken. -/
  inbox : List Terminal.Feed
  /-- Whether the client is known to have gone away. -/
  cancelled : Bool
  /-- How many messages the client takes before it closes the stream. -/
  limit : Option Nat
  stage : Stage
  attachment : Option Attachment
  /-- The messages that the client has taken. -/
  passed : List Response

def Stream.start (inbox : List Terminal.Feed) (limit : Option Nat) : Stream :=
  { inbox, cancelled := false, limit, stage := .awaiting, attachment := none, passed := [] }

end Gate

open Gate in
structure Gate where
  /-- Seconds to wait for an app, if that is limited. -/
  openTimeout : Option Number
  /-- How many commands run at once. -/
  maxStreams : Nat
  sessions : List Session
  streams : List Stream
  /-- The streams whose commands wait for their turn. -/
  queue : List Nat
  cluster : Cluster
  clock : Number

namespace Gate

/-- A gate without streams.  There must be room for one command at least. -/
def create (openTimeout : Option Number) (maxStreams : Int) (cluster : Cluster) :
    Except Failure Gate :=
  if maxStreams ≤ 0 then .error .emptyPool
  else
    .ok
      { openTimeout, maxStreams := maxStreams.toNat, sessions := [], streams := [], queue := []
        cluster, clock := .float (Binary64.ofMagnitudeBits false 0) }

/-! ## Streams -/

def onStream (g : Gate) (i : Nat) (f : Stream → Stream) : Gate :=
  { g with streams := g.streams.modify i f }

/-- Moves the handler of a stream on. -/
def enter (g : Gate) (i : Nat) (stage : Stage) : Gate := g.onStream i fun s => { s with stage }

namespace Stream

/-- Changes what a stream has. -/
def onAttachment (s : Stream) (f : Attachment → Attachment) : Stream :=
  { s with attachment := s.attachment.map f }

def isRunning (s : Stream) : Bool :=
  match s.attachment with
  | some a =>
    match a.progress with
    | .running => true
    | _ => false
  | none => false

/-- Whether the command is called off: the client has gone away, or the reader
has raised the alarm. -/
def isCalledOff (s : Stream) : Bool :=
  s.cancelled || s.attachment.any fun a => a.reader.alarms > 0

end Stream

/-! ## Sessions -/

/-- The session of an app, which is created if there is none. -/
def sessionFor (g : Gate) (app : App.Id) : Nat × Gate :=
  match g.sessions.findIdx? fun s => s.app.same app with
  | some k => (k, g)
  | none => (g.sessions.length, { g with sessions := g.sessions ++ [Session.create app] })

def call (g : Gate) (k : Nat) (errand : Session.Errand) (cancelled : Bool) : Nat × Gate :=
  match g.sessions[k]? with
  | some s =>
    let (caller, s) := s.call errand cancelled
    (caller, { g with sessions := g.sessions.set k s })
  | none => (0, g)

def outcome? (g : Gate) (k caller : Nat) : Option Change.Outcome :=
  ((g.sessions[k]?).bind fun s => s.callers[caller]?).bind Session.Caller.outcome?

end Gate

end AttachGate
