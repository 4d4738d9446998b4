import AttachGate.Session.Basic

/-!
# The clients of a session

A client posts a call and waits for the worker's answer, which says what to wait
for next.  A client that attaches looks for the outcome again and again, and
between two looks gives up if it has gone away or its deadline has come; one
that detaches waits to the end.
-/

namespace AttachGate.Session

/-- A client calls the session and is known by its place among the callers. -/
def call (s : Session) (errand : Errand) (cancelled : Bool) : Nat × Session :=
  let caller := s.callers.length
  (caller,
    { s with
      callers := s.callers ++ [{ errand, cancelled, standing := .posted }]
      mailbox := s.mailbox ++ [.call caller] })

def leave (s : Session) (caller : Nat) : Session :=
  s.onCaller caller fun c => { c with cancelled := true }

/-- The outcome that an answer promises, once there is one. -/
def outcome? (s : Session) : Reply → Option Change.Outcome
  | .change token => s.coordinator.outcome? token
  | .ready running => some (.ok running)
  | .refused f => some (.error f)

namespace Caller

/-- When a client that is answered now gives up; a timeout of zero is none. -/
def deadline (clock : Number) : Errand → Except Failure (Option Number)
  | .attach (some timeout) => if timeout.isZero then .ok none else (clock.add timeout).map some
  | _ => .ok none

/-- The client sees the worker's answer. -/
def take (clock : Number) (c : Caller) : Caller :=
  match c.standing with
  | .answered (.refused f) => { c with standing := .over (.error f) }
  | .answered reply =>
    { c with
      standing := match deadline clock c.errand with
        | .ok deadline => .waiting reply deadline
        | .error f => .over (.error f) }
  | _ => c

/-- The client looks for the outcome. -/
def look (outcome? : Reply → Option Change.Outcome) (c : Caller) : Caller :=
  match c.standing with
  | .waiting reply deadline =>
    { c with
      standing := match outcome? reply, c.errand with
        | some outcome, _ => .over outcome
        | none, .attach _ => .doubting reply deadline
        | none, .detach => .waiting reply deadline }
  | _ => c

/-- Whether a deadline has come. -/
def isDue (clock : Number) : Option Number → Bool
  | some deadline => deadline.le clock
  | none => false

/-- The client gives up if it has gone away or its deadline has come, and looks
again otherwise. -/
def doubt (app : App.Id) (clock : Number) (c : Caller) : Caller :=
  match c.standing with
  | .doubting reply deadline =>
    { c with
      standing :=
        if c.cancelled then .over (.error (.gaveUp app.label))
        else if isDue clock deadline then
          match c.errand with
          | .attach (some timeout) => .over (.error (.notReady app.label timeout))
          | _ => .waiting reply deadline
        else .waiting reply deadline }
  | _ => c

/-- Whether a call would go on: it has been answered, or there is an outcome, or it
gives up. -/
def isReady (outcome? : Reply → Option Change.Outcome) (clock : Number) (c : Caller) : Bool :=
  match c.standing with
  | .posted => false
  | .answered _ => true
  | .waiting reply deadline =>
    (outcome? reply).isSome ||
      match c.errand with
      | .attach _ => c.cancelled || isDue clock deadline
      | .detach => false
  | .doubting _ _ => true
  | .over _ => false

def outcome? (c : Caller) : Option Change.Outcome :=
  match c.standing with
  | .over outcome => some outcome
  | _ => none

end Caller

/-- A caller goes on as far as it can while nothing else happens. -/
def attend (s : Session) (caller : Nat) (clock : Number) : Session :=
  s.onCaller caller fun c => ((c.take clock).look s.outcome?).doubt s.app clock

end AttachGate.Session
