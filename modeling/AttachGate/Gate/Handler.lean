import AttachGate.Gate.Basic

/-!
# The handlers of streams

A handler takes a stream from its first message to its status.  However a stream
that has called its session goes on, it calls the session once more before it
ends.
-/

namespace AttachGate.Gate

/-- How a stream ends whose first message does not come. -/
def lostFirst (f : Failure) : Status :=
  if f.isIn .stream then .refused .unavailable f.message else .raised f

/-- How a stream ends whose client sends nothing. -/
def noFirst : Status :=
  .refused .unavailable "stream closed before the first request"

/-- What becomes of a stream with its first message. -/
def afterFirst (r : Request) : Stage :=
  match r.toOpening with
  | .ok opening => .admitted opening
  | .error refusal => .ended (.refused .invalidArgument refusal.message)

def Stream.takeFirst (s : Stream) : Stream :=
  match s.inbox with
  | [] => s
  | feed :: inbox =>
    { s with
      inbox
      stage := match feed with
        | .message r => afterFirst r
        | .finished => .ended noFirst
        | .broken f => .ended (lostFirst f) }

/-- Whether the parts of an app's name can be looked up. -/
def canLookUp (app : App.Id) : Bool := app.namespaceName.isKey && app.name.isKey

def lookUp (g : Gate) (i : Nat) (opening : Request.Opening) : Gate :=
  if canLookUp opening.app then
    let (k, g) := g.sessionFor opening.app
    g.enter i (.known opening k)
  else g.enter i (.ended (.raised .wrongType))

/-- Whether a failure to start an app is told to the client. -/
def isTold (f : Failure) : Bool := f.isIn .controlPlane || f.isIn .cancelled || f.isIn .session

/-- How a stream ends whose app does not start. -/
def notStarted (app : App.Id) (f : Failure) : Status :=
  if isTold f then .refused .unavailable ("can't start app " ++ app.label ++ ": " ++ f.message)
  else .raised f

/-- The app is running: the terminal is set up and the command queued. -/
def attach (g : Gate) (i : Nat) (opening : Request.Opening) (k : Nat) (running : App.Instance) :
    Gate :=
  let a : Attachment :=
    { running
      command := running.commandLine opening.command
      reader := .start opening.size
      outlet := .start
      progress := .queued }
  { g.onStream i fun s => { s with attachment := some a, stage := .serving k .taking } with
    queue := g.queue ++ [i] }

def Stream.hangUp (s : Stream) : Stream :=
  s.onAttachment fun a => { a with reader := a.reader.close, outlet := a.outlet.close }

def Attachment.isDone (a : Attachment) : Bool :=
  match a.progress with
  | .over _ => true
  | _ => false

/-- The handler passes output on, and closes the terminal when that is over. -/
def Stream.serve (s : Stream) (k : Nat) (serving : Terminal.Serving) : Stream :=
  match s.attachment with
  | none => s
  | some a =>
    let (serving, m, outlet) := serving.advance a.isDone a.outlet
    let s := { s with attachment := some { a with outlet }, passed := s.passed ++ m.toList }
    match serving with
    | .over => { s.hangUp with stage := .concluding k }
    | serving => { s with stage := .serving k serving }

/-- The client closes the stream, which it can once it has taken a message. -/
def Stream.close (s : Stream) : Stream :=
  match s.stage with
  | .serving k _ => if s.passed.isEmpty then s else { s.hangUp with stage := .leaving k .closed }
  | _ => s

/-- How a stream ends whose command is over: a malformed message of the client
counts for more than the outcome of the command. -/
def Attachment.status (a : Attachment) : Status :=
  match a.reader.error with
  | some e =>
    if e.isIn .protocol then .refused .invalidArgument e.message else ofProgress a.progress
  | none => ofProgress a.progress
where
  /-- What the outcome of the command tells. -/
  ofProgress : Progress → Status
    | .over (.error (.exited code)) => .refused .aborted (Text.ofInt code)
    | .over (.error f) => .refused .unavailable f.message
    | _ => .ok

def Stream.conclude (s : Stream) (k : Nat) : Stream :=
  match s.attachment with
  | some a => { s with stage := .leaving k a.status }
  | none => s

/-- Whether a failure to put an app to rest is passed over. -/
def isPassedOver (f : Failure) : Bool := f.isIn .controlPlane || f.isIn .cancelled

/-- How a stream ends that was to end with a status and has detached. -/
def afterClosing (status : Status) : Change.Outcome → Status
  | .ok _ => status
  | .error f => if isPassedOver f then status else .raised f

/-- The handler has been told how attaching ended. -/
def afterOpening (g : Gate) (i : Nat) (opening : Request.Opening) (k : Nat) :
    Change.Outcome → Gate
  | .ok (some running) => g.attach i opening k running
  | .ok none => g
  | .error f =>
    let app := ((g.sessions[k]?).map Session.app).getD opening.app
    g.enter i (.leaving k (notStarted app f))

def handle (g : Gate) (i : Nat) : Gate :=
  match g.streams[i]? with
  | none => g
  | some s =>
    match s.stage with
    | .awaiting => g.onStream i Stream.takeFirst
    | .admitted opening => g.lookUp i opening
    | .known opening k =>
      let (caller, g) := g.call k (.attach g.openTimeout) s.cancelled
      g.enter i (.opening opening k caller)
    | .opening opening k caller =>
      match g.outcome? k caller with
      | some outcome => g.afterOpening i opening k outcome
      | none => g
    | .serving k serving => g.onStream i fun s => s.serve k serving
    | .concluding k => g.onStream i fun s => s.conclude k
    | .leaving k status =>
      let (caller, g) := g.call k .detach false
      g.enter i (.closing k caller status)
    | .closing k caller status =>
      match g.outcome? k caller with
      | some outcome => g.enter i (.ended (afterClosing status outcome))
      | none => g
    | .ended _ => g

end AttachGate.Gate
