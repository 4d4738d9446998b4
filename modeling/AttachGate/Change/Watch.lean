import AttachGate.App.Snapshot

/-!
# Watching an app

A watch polls an app and delivers a snapshot each time the version it reads
differs from the one before, until it is called off.  It is a machine of three
stages; what it has to deliver comes out of the transitions.
-/

namespace AttachGate.Watch

inductive Stage
  /-- Whether to give up is looked at next. -/
  | looking
  | polling
  | resting
  | ended
  deriving DecidableEq

end Watch

/-- A watch: its stage and the version it delivered last, null before the
first. -/
structure Watch where
  stage : Watch.Stage
  seen : Value

namespace Watch

def start : Watch := ⟨.looking, .null⟩

def isNews (w : Watch) (app : App.Snapshot) : Bool := !app.version.equal w.seen

/-- Before a poll: begins it unless the watch is called off. -/
def look (w : Watch) (cancelled : Bool) : Watch :=
  match w.stage with
  | .looking => { w with stage := if cancelled then .ended else .polling }
  | _ => w

/-- A poll that has succeeded; the snapshot is delivered if it is news. -/
def poll (w : Watch) (app : App.Snapshot) : Watch :=
  match w.stage with
  | .polling => ⟨.resting, if w.isNews app then app.version else w.seen⟩
  | _ => w

/-- A rest ends: by itself, or because the watch is called off. -/
def wake (w : Watch) (cancelled : Bool) : Watch :=
  match w.stage with
  | .resting => { w with stage := if cancelled then .ended else .looking }
  | _ => w

end Watch

end AttachGate
