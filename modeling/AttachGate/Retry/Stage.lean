import AttachGate.Retry.Backoff

/-!
# Retrying an update

An update that loses a race is tried again on fresh state, after a delay, until
it goes through, fails in another way, is called off, or has used up its
attempts.  A retry is a machine: its stage says what it does next, and each
transition takes the answer to that.  The delays that are left count the
attempts that are left: one more than there are delays.
-/

namespace AttachGate.Retry

/-- Where a retry stands.  `σ` is the stage of the attempt under way. -/
inductive Stage (σ α : Type)
  /-- An attempt is due; whether to give up is looked at first. -/
  | due (delays : List Number)
  | trying (attempt : σ) (delays : List Number)
  /-- An attempt lost its race, and the next is delayed. -/
  | pausing (delay : Number) (delays : List Number)
  | over (outcome : Except Failure α)

variable {σ α : Type}

/-- The first stage of a retry with so many attempts. -/
def start (steps : Int) (delays : List Number) : Stage σ α :=
  if steps ≤ 0 then .over (.error (.noAttempts steps)) else .due delays

/-- Before an attempt: begins it at `first`, unless the retry is called off. -/
def Stage.look (s : Stage σ α) (cancelled : Bool) (first : σ) : Stage σ α :=
  match s with
  | .due delays =>
    if cancelled then .over (.error .cancelledBeforeAttempt) else .trying first delays
  | s => s

def Stage.move (s : Stage σ α) (next : σ) : Stage σ α :=
  match s with
  | .trying _ delays => .trying next delays
  | s => s

def Stage.settle (s : Stage σ α) (steps : Int) (retriable : Failure → Bool)
    (outcome : Except Failure α) : Stage σ α :=
  match s with
  | .trying _ delays =>
    match outcome with
    | .ok a => .over (.ok a)
    | .error e =>
      if retriable e then
        match delays with
        | delay :: rest => .pausing delay rest
        | [] => .over (.error (.attemptsSpent steps e))
      else .over (.error e)
  | s => s

/-- A delay ends: by itself, or because the retry is called off. -/
def Stage.wake (s : Stage σ α) (cancelled : Bool) : Stage σ α :=
  match s with
  | .pausing _ delays =>
    if cancelled then .over (.error .cancelledInBackoff) else .due delays
  | s => s

/-- A delay turns out to be one that cannot be waited. -/
def Stage.refuse (s : Stage σ α) (fault : Failure) : Stage σ α :=
  match s with
  | .pausing _ _ => .over (.error fault)
  | s => s

end AttachGate.Retry
