import AttachGate.App.Basic
import AttachGate.Failure

/-!
# Coordinating changes of one app

At most one change of an app counts at a time.  A request for the phase that the
registered intent drives to is that intent; a request for the other phase calls
it off and registers a new intent in its place.  Every intent has a runner, and
the runners of intents that were called off go on beside the newest one, so each
part of a runner's work is a transition of its own: it begins, works, returns,
clears the register if its intent is still the registered one, resolves what its
callers wait for, and gives notice.
-/

namespace AttachGate

/-- Where the runner of an intent stands.  `ρ` is the work under way and `α`
what it yields. -/
inductive Runner (ρ α : Type)
  | created
  | working (work : ρ)
  /-- The work is over; the register has not been looked at. -/
  | returned (outcome : Except Failure α)
  /-- The register no longer holds this intent. -/
  | cleared (outcome : Except Failure α)
  /-- Callers see the outcome. -/
  | resolved (outcome : Except Failure α)
  /-- Notice of the outcome has been given. -/
  | notified (outcome : Except Failure α)

/-- The outcome that callers see. -/
def Runner.outcome? {ρ α : Type} : Runner ρ α → Option (Except Failure α)
  | .resolved outcome => some outcome
  | .notified outcome => some outcome
  | _ => none

/-- A wish to drive the app to a phase. -/
structure Intent (ρ α : Type) where
  /-- Tokens count the intents from one. -/
  token : Nat
  phase : Phase
  /-- Whether a request for the other phase has called it off. -/
  cancelled : Bool
  runner : Runner ρ α

namespace Intent

variable {ρ α : Type}

def create (token : Nat) (phase : Phase) : Intent ρ α :=
  { token, phase, cancelled := false, runner := .created }

def cancel (i : Intent ρ α) : Intent ρ α := { i with cancelled := true }

def work? (i : Intent ρ α) : Option ρ :=
  match i.runner with
  | .working work => some work
  | _ => none

/-- What callers are told of the outcome of the work: that the intent was
superseded if the work was called off, and otherwise the outcome itself. -/
def report (label : Text) (i : Intent ρ α) : Except Failure α → Except Failure α
  | .error e =>
    .error (if e.isIn .cancelled then .superseded label i.phase.name i.token e else e)
  | .ok a => .ok a

def begin (first : ρ) (i : Intent ρ α) : Intent ρ α :=
  match i.runner with
  | .created => { i with runner := .working first }
  | _ => i

def move (next : ρ → ρ) (i : Intent ρ α) : Intent ρ α :=
  match i.runner with
  | .working work => { i with runner := .working (next work) }
  | _ => i

def finish (label : Text) (outcome : Except Failure α) (i : Intent ρ α) : Intent ρ α :=
  match i.runner with
  | .working _ => { i with runner := .returned (i.report label outcome) }
  | _ => i

def clear (i : Intent ρ α) : Intent ρ α :=
  match i.runner with
  | .returned outcome => { i with runner := .cleared outcome }
  | _ => i

def resolve (i : Intent ρ α) : Intent ρ α :=
  match i.runner with
  | .cleared outcome => { i with runner := .resolved outcome }
  | _ => i

def notify (i : Intent ρ α) : Intent ρ α :=
  match i.runner with
  | .resolved outcome => { i with runner := .notified outcome }
  | _ => i

/-- Whether the work is over and the register has not been looked at. -/
def isReturned (i : Intent ρ α) : Bool :=
  match i.runner with
  | .returned _ => true
  | _ => false

/-- Whether the outcome is seen and no notice of it has been given. -/
def isResolved (i : Intent ρ α) : Bool :=
  match i.runner with
  | .resolved _ => true
  | _ => false

end Intent

structure Coordinator (ρ α : Type) where
  /-- The app as it appears in messages. -/
  label : Text
  /-- Every intent there has been, in the order of creation. -/
  intents : List (Intent ρ α)
  /-- The token of the intent that requests can share. -/
  registered : Option Nat
  /-- The tokens of the notices given, in their order. -/
  notices : List Nat

namespace Coordinator

variable {ρ α : Type}

def start (label : Text) : Coordinator ρ α :=
  { label, intents := [], registered := none, notices := [] }

def intent? (c : Coordinator ρ α) (token : Nat) : Option (Intent ρ α) :=
  c.intents.find? fun i => i.token = token

/-- The intent that requests can share. -/
def current? (c : Coordinator ρ α) : Option (Intent ρ α) := c.registered.bind c.intent?

/-- The outcome of an intent, once callers see it. -/
def outcome? (c : Coordinator ρ α) (token : Nat) : Option (Except Failure α) :=
  (c.intent? token).bind fun i => i.runner.outcome?

def onIntent (c : Coordinator ρ α) (token : Nat) (f : Intent ρ α → Intent ρ α) : Coordinator ρ α :=
  { c with intents := c.intents.map fun i => if i.token = token then f i else i }

inductive Activity
  | idle
  | starting (token : Nat)
  | stopping (token : Nat)
  deriving DecidableEq

def activity (c : Coordinator ρ α) : Activity :=
  match c.current? with
  | none => .idle
  | some i =>
    match i.phase with
    | .live => .starting i.token
    | .rest => .stopping i.token

/-- Registers a new intent. -/
def register (c : Coordinator ρ α) (phase : Phase) : Nat × Coordinator ρ α :=
  let token := c.intents.length + 1
  (token, { c with intents := c.intents ++ [Intent.create token phase], registered := some token })

/-- Requests a phase and answers with the token of the intent that serves the
request. -/
def request (c : Coordinator ρ α) (phase : Phase) : Nat × Coordinator ρ α :=
  match c.current? with
  | none => c.register phase
  | some i =>
    if i.phase = phase then (i.token, c) else (c.onIntent i.token Intent.cancel).register phase

def begin (c : Coordinator ρ α) (token : Nat) (first : ρ) : Coordinator ρ α :=
  c.onIntent token (Intent.begin first)

def move (c : Coordinator ρ α) (token : Nat) (next : ρ → ρ) : Coordinator ρ α :=
  c.onIntent token (Intent.move next)

def finish (c : Coordinator ρ α) (token : Nat) (outcome : Except Failure α) : Coordinator ρ α :=
  c.onIntent token (Intent.finish c.label outcome)

/-- The runner looks at the register, and empties it if it holds its intent. -/
def clear (c : Coordinator ρ α) (token : Nat) : Coordinator ρ α :=
  if (c.intent? token).any Intent.isReturned then
    { c.onIntent token Intent.clear with
      registered := if c.registered = some token then none else c.registered }
  else c

def resolve (c : Coordinator ρ α) (token : Nat) : Coordinator ρ α :=
  c.onIntent token Intent.resolve

def notify (c : Coordinator ρ α) (token : Nat) : Coordinator ρ α :=
  if (c.intent? token).any Intent.isResolved then
    { c.onIntent token Intent.notify with notices := c.notices ++ [token] }
  else c

/-- All that a runner does once its work is over, with nothing in between. -/
def complete (c : Coordinator ρ α) (token : Nat) (outcome : Except Failure α) : Coordinator ρ α :=
  (((c.finish token outcome).clear token).resolve token).notify token

end Coordinator

end AttachGate
