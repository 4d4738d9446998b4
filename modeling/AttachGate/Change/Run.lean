import AttachGate.Change.Flip

/-!
# Changes of phase

A change drives an app to a phase.  Putting it to rest is a flip.  Starting it
is a flip and then, unless the app is Live already, a wait for the first
snapshot that shows it Live; that snapshot must name a pod.

A change is a machine.  `ask` says what it needs next and each transition takes
one answer, so that changes can be interleaved with each other and with
whoever calls them off, one remote call at a time.
-/

namespace AttachGate

/-- What a change needs next. -/
inductive Ask
  /-- Whether to give up. -/
  | flag
  /-- The app as it is now. -/
  | read
  /-- The app replaced by an object. -/
  | write (object : Members)
  /-- A delay. -/
  | pause (delay : Number)
  /-- The next snapshot of a watch. -/
  | next
  /-- Nothing: it is over. -/
  | nothing

namespace Change

structure Goal where
  app : App.Id
  phase : Phase
  plan : Flip.Plan

/-- How a change ends: a start with the running app. -/
abbrev Outcome := Except Failure (Option App.Instance)

inductive Stage
  | flipping (run : Flip.Run)
  /-- The app is wanted Live but has not been seen so. -/
  | waiting
  | over (outcome : Outcome)

def start (goal : Goal) : Stage := .flipping (Flip.start goal.plan)

/-- The running app that a snapshot shows. -/
def toInstance (goal : Goal) (app : App.Snapshot) : Outcome :=
  if app.pod.isBlank then .error (.noPod goal.app.label)
  else .ok (some { app := goal.app, pod := app.pod, command := app.command })

/-- The stage after a flip that has come to its end. -/
def afterFlip (goal : Goal) : Except Failure App.Snapshot → Stage
  | .error e => .over (.error e)
  | .ok app =>
    match goal.phase with
    | .rest => .over (.ok none)
    | .live => if app.isLive then .over (toInstance goal app) else .waiting

/-- A flip that is over gives way to what comes after it. -/
def ofFlip (goal : Goal) : Flip.Run → Stage
  | .over outcome => afterFlip goal outcome
  | run => .flipping run

/-- What the attempt under way needs next. -/
def askOfFlip : Flip.Run → Ask
  | .due _ => .flag
  | .trying .entered _ => .flag
  | .trying .reading _ => .read
  | .trying (.fetched _) _ => .flag
  | .trying (.writing object) _ => .write object
  | .pausing delay _ => .pause delay
  | .over _ => .nothing

def Stage.ask : Stage → Ask
  | .flipping run => askOfFlip run
  | .waiting => .next
  | .over _ => .nothing

/-- Whether to give up has been looked at. -/
def Stage.look (goal : Goal) (s : Stage) (cancelled : Bool) : Stage :=
  match s with
  | .flipping run => ofFlip goal (Flip.look goal.plan goal.phase run cancelled)
  | s => s

/-- The read or the write under way has been answered. -/
def Stage.answer (goal : Goal) (s : Stage) (reply : Except Failure App.Snapshot) : Stage :=
  match s with
  | .flipping run => ofFlip goal (Flip.answer goal.plan goal.phase run reply)
  | s => s

/-- The delay has ended. -/
def Stage.wake (goal : Goal) (s : Stage) (cancelled : Bool) : Stage :=
  match s with
  | .flipping run => ofFlip goal (run.wake cancelled)
  | s => s

/-- The watch has delivered a snapshot, ended, or failed.  An app that vanishes
while it is waited for has failed. -/
def Stage.deliver (goal : Goal) (s : Stage) (news : Except Failure (Option App.Snapshot)) : Stage :=
  match s with
  | .waiting =>
    match news with
    | .ok (some app) => if app.isLive then .over (toInstance goal app) else .waiting
    | .ok none => .over (.error (.stoppedWaiting goal.app.label))
    | .error e =>
      if e.isIn .appNotFound then .over (.error (.appDeleted goal.app.label e))
      else .over (.error e)
  | s => s

end Change

end AttachGate
