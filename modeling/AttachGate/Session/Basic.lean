import AttachGate.Change.Job
import AttachGate.Coordinator

/-!
# Sessions

A session counts the clients that are attached to one app.  The first one to
attach has the app started and the last one to detach has it put to rest; the
instance that a start yields is kept for the clients in between.

The bookkeeping is done by one worker, which takes messages from a mailbox one
at a time and never waits for a change: it answers a client with what the client
is to wait for.
-/

namespace AttachGate

namespace Session

/-- What the worker answers a client. -/
inductive Reply
  /-- The client gets the outcome of an intent. -/
  | change (token : Nat)
  /-- There is nothing to wait for. -/
  | ready (running : Option App.Instance)
  | refused (failure : Failure)

/-- What a client calls for. -/
inductive Errand
  /-- To be attached, within so many seconds if that is limited. -/
  | attach (timeout : Option Number)
  | detach

inductive Mail
  | call (caller : Nat)
  /-- Notice that an intent is over. -/
  | changed (token : Nat)
  | shutdown
  deriving DecidableEq

inductive Standing
  /-- The worker has not answered. -/
  | posted
  | answered (reply : Reply)
  /-- What the client waits for is looked at next; it gives up at the deadline. -/
  | waiting (reply : Reply) (deadline : Option Number)
  /-- There was no outcome; whether to give up is looked at next. -/
  | doubting (reply : Reply) (deadline : Option Number)
  | over (outcome : Change.Outcome)

structure Caller where
  errand : Errand
  /-- Whether the client has gone away. -/
  cancelled : Bool
  standing : Standing

end Session

open Session in
structure Session where
  app : App.Id
  plan : Flip.Plan
  /-- How many clients are attached. -/
  count : Nat
  /-- The instance that newcomers get at once. -/
  cached : Option App.Instance
  /-- The token of the intent requested last. -/
  newest : Option Nat
  /-- The token of the start that newcomers may look at. -/
  start : Option Nat
  coordinator : Coordinator Change.Job (Option App.Instance)
  mailbox : List Mail
  ended : Bool
  /-- The calls there have been; a caller is known by its place. -/
  callers : List Caller

namespace Session

def create (app : App.Id) : Session :=
  { app, plan := .standard, count := 0, cached := none, newest := none, start := none
    coordinator := .start app.label, mailbox := [], ended := false, callers := [] }

def goal (s : Session) (phase : Phase) : Change.Goal := { app := s.app, phase, plan := s.plan }

/-! ## Bookkeeping -/

/-- Keeps the instance that an intent has yielded, if it is the newest intent
and has yielded one. -/
def cache (s : Session) (token : Nat) : Session :=
  if s.newest = some token then
    match s.coordinator.outcome? token with
    | some (.ok (some running)) => { s with cached := some running }
    | _ => s
  else s

/-- Requests a phase for a client, which waits for the outcome. -/
def request (s : Session) (phase : Phase) : Nat × Session :=
  let (token, coordinator) := s.coordinator.request phase
  (token, { s with coordinator, newest := some token })

/-- Looks at the start that newcomers may look at. -/
def refresh (s : Session) : Session :=
  match s.cached, s.start with
  | none, some token => s.cache token
  | _, _ => s

/-- A client attaches.  Any but the first may find an instance ready. -/
def attach (s : Session) : Reply × Session :=
  let isFirst := s.count = 0
  let s := { s with count := s.count + 1 }
  let s := if isFirst then s else s.refresh
  match (if isFirst then none else s.cached) with
  | some running => (.ready (some running), s)
  | none =>
    let (token, s) := s.request .live
    (.change token, { s with start := some token })

def detach (s : Session) : Reply × Session :=
  match s.count with
  | 0 => (.refused (.overClosed s.app.label), s)
  | 1 =>
    let (token, s) := { s with count := 0, cached := none, start := none }.request .rest
    (.change token, s)
  | n + 2 => (.ready none, { s with count := n + 1 })

/-- Notice of an intent: a start that is over is of use while clients are
attached and no instance is kept. -/
def changed (s : Session) (token : Nat) : Session :=
  match s.coordinator.intent? token with
  | some i => if i.phase = .live && s.count > 0 && s.cached.isNone then s.cache token else s
  | none => s

/-! ## The worker -/

def onCaller (s : Session) (caller : Nat) (f : Caller → Caller) : Session :=
  { s with callers := s.callers.modify caller f }

def answer (s : Session) (caller : Nat) (reply : Reply) : Session :=
  s.onCaller caller fun c => { c with standing := .answered reply }

def handle (s : Session) : Mail → Session
  | .call caller =>
    match s.callers[caller]? with
    | none => s
    | some c =>
      let (reply, s) := match c.errand with
        | .attach _ => s.attach
        | .detach => s.detach
      s.answer caller reply
  | .changed token => s.changed token
  | .shutdown => { s with ended := true }

def work (s : Session) : Session :=
  if s.ended then s
  else
    match s.mailbox with
    | [] => s
    | mail :: mailbox => { s with mailbox }.handle mail

def shutdown (s : Session) : Session := { s with mailbox := s.mailbox ++ [.shutdown] }

end Session

end AttachGate
