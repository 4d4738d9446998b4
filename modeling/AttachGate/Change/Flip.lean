import AttachGate.App.Snapshot
import AttachGate.Retry.Stage

/-!
# Flips

A flip sets the wanted phase of an app.  One attempt reads the app and, unless
it is wanted in that phase already, writes the object it has just read with
the one field replaced; whether to give up is looked at before the read and
again before the write.
-/

namespace AttachGate.Flip

/-- Where an attempt at a flip stands. -/
inductive Stage
  /-- Whether to give up is looked at before the read. -/
  | entered
  | reading
  /-- The app has another wanted phase; whether to give up is looked at before
  the write. -/
  | fetched (app : App.Snapshot)
  | writing (object : Members)

/-- A flip: attempts under a retry. -/
abbrev Run := Retry.Stage Stage App.Snapshot

/-- Only a lost race is tried again. -/
def isLostRace (f : Failure) : Bool := f.isIn .conflict

/-- The attempts of a flip and the delays between them. -/
structure Plan where
  steps : Int
  delays : List Number

namespace Plan

/-- The standard schedule without random lengthening. -/
def standard : Plan :=
  { steps := Backoff.standard.steps
    delays := (Backoff.standard.delays []).toOption.getD [] }

end Plan

def start (plan : Plan) : Run := Retry.start plan.steps plan.delays

/-- An attempt ends. -/
def settle (plan : Plan) (r : Run) (outcome : Except Failure App.Snapshot) : Run :=
  r.settle plan.steps isLostRace outcome

/-- Whether to give up has been looked at. -/
def look (plan : Plan) (phase : Phase) (r : Run) (cancelled : Bool) : Run :=
  match r with
  | .due _ => r.look cancelled .entered
  | .trying .entered _ =>
    if cancelled then settle plan r (.error .cancelled) else r.move .reading
  | .trying (.fetched app) _ =>
    if cancelled then settle plan r (.error .cancelled)
    else r.move (.writing (App.retarget app.object phase))
  | r => r

/-- The read or the write under way has been answered. -/
def answer (plan : Plan) (phase : Phase) (r : Run) (reply : Except Failure App.Snapshot) : Run :=
  match r with
  | .trying .reading _ =>
    match reply with
    | .ok app => if app.isWanted phase then settle plan r (.ok app) else r.move (.fetched app)
    | .error e => settle plan r (.error e)
  | .trying (.writing _) _ => settle plan r reply
  | r => r

end AttachGate.Flip
