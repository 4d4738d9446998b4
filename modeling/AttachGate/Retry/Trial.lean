import AttachGate.Retry.Stage

/-!
# Retries of a scripted update

A retry of an update whose outcomes are given beforehand, with the moments at
which it is called off and the delays that cannot be waited.  The run keeps count
of the attempts and records the delays that it waits.
-/

namespace AttachGate.Retry

/-- One attempt: whether the retry is called off while it runs, and how it
ends. -/
structure Attempt (α : Type) where
  cancels : Bool
  outcome : Except Failure α

/-- What surrounds a retry: its schedule with the random numbers that lengthen the
delays, the outcomes of the attempts, counted from zero, and the wait, counted from
one, during which it is called off. -/
structure Surroundings (α : Type) where
  schedule : Backoff
  noise : List Number
  retriable : Failure → Bool
  attempt : Nat → Attempt α
  cancelInWait : Option Nat
  /-- Whether the retry can be called off at all. -/
  listens : Bool
  /-- What waiting a delay fails with, if it cannot be waited. -/
  refuses : Number → Option Failure

namespace Surroundings

variable {α : Type}

/-- How many attempts are allowed. -/
def steps (env : Surroundings α) : Int := env.schedule.steps

/-- What a wait fails with.  A retry that is called off already does not wait. -/
def refusal? (env : Surroundings α) (cancelled : Bool) (delay : Number) : Option Failure :=
  if env.listens && cancelled then none else env.refuses delay

end Surroundings

/-- A retry in its surroundings. -/
structure Trial (α : Type) where
  stage : Stage Unit α
  cancelled : Bool
  attempts : Nat
  waits : List Number

namespace Trial

variable {α : Type}

def initial (env : Surroundings α) (delays : List Number) (cancelled : Bool) : Trial α :=
  { stage := start env.steps delays, cancelled, attempts := 0, waits := [] }

def step (env : Surroundings α) (t : Trial α) : Trial α :=
  match t.stage with
  | .due _ => { t with stage := t.stage.look (env.listens && t.cancelled) () }
  | .trying _ _ =>
    let attempt := env.attempt t.attempts
    { t with
      stage := t.stage.settle env.steps env.retriable attempt.outcome
      cancelled := t.cancelled || attempt.cancels
      attempts := t.attempts + 1 }
  | .pausing delay _ =>
    match env.refusal? t.cancelled delay with
    | some fault => { t with stage := t.stage.refuse fault }
    | none =>
      let waits := t.waits ++ [delay]
      let cancelled := t.cancelled || env.cancelInWait == some waits.length
      { t with stage := t.stage.wake (env.listens && cancelled), cancelled, waits }
  | .over _ => t

/-- So many steps of a trial. -/
def iterate (env : Surroundings α) : Nat → Trial α → Trial α
  | 0, t => t
  | n + 1, t => iterate env n (step env t)

/-- Runs a retry with these delays to its end: an attempt takes three steps with
the delay after it. -/
def runOn (env : Surroundings α) (delays : List Number) (cancelled : Bool) : Trial α :=
  iterate env (3 * (delays.length + 1)) (initial env delays cancelled)

/-- Runs a retry: the delays are reckoned before anything else, and one whose delays
cannot be reckoned fails at once. -/
def run (env : Surroundings α) (cancelled : Bool) : Trial α :=
  match env.schedule.delays env.noise with
  | .ok delays => runOn env delays cancelled
  | .error fault => { stage := .over (.error fault), cancelled, attempts := 0, waits := [] }

def outcome? (t : Trial α) : Option (Except Failure α) :=
  match t.stage with
  | .over outcome => some outcome
  | _ => none

end Trial

end AttachGate.Retry
