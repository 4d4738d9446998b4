import AttachGate.Change.Run
import AttachGate.Change.Watch
import AttachGate.Cluster

/-!
# Changes on a cluster

A job is a change together with the watch that it waits with.  It moves on by
one transition at a time: a look at whether it is called off, a delay, or one
remote call, which a cluster answers or which fails by itself.
-/

namespace AttachGate.Change

structure Job where
  stage : Stage
  watch : Watch

inductive Remote
  | read
  | write
  | watch
  deriving DecidableEq

namespace Job

def start (goal : Goal) : Job := ⟨Change.start goal, .start⟩

/-- The remote call that a job is at.  A watch is at one only while it polls. -/
def remote? (job : Job) : Option Remote :=
  match job.stage.ask with
  | .read => some .read
  | .write _ => some .write
  | .next => if job.watch.stage = .polling then some .watch else none
  | _ => none

def outcome? (job : Job) : Option Outcome :=
  match job.stage with
  | .over outcome => some outcome
  | _ => none

/-- The poll under way has been answered; a snapshot that is news is delivered. -/
def poll (goal : Goal) (reply : Except Failure App.Snapshot) (job : Job) : Job :=
  match reply with
  | .error f => { job with stage := job.stage.deliver goal (.error f) }
  | .ok app =>
    { stage := if job.watch.isNews app then job.stage.deliver goal (.ok (some app)) else job.stage
      watch := job.watch.poll app }

/-- The next transition of the watch.  Between two polls it takes no time. -/
def pull (goal : Goal) (cancelled : Bool) (c : Cluster) (job : Job) : Job :=
  match job.watch.stage with
  | .looking => { job with watch := job.watch.look cancelled }
  | .polling => job.poll goal (c.sight goal.app)
  | .resting => { job with watch := job.watch.wake cancelled }
  | .ended => { job with stage := job.stage.deliver goal (.ok none) }

/-- Whether a poll of the watch would lead on: the job is called off, so that the watch
ends behind it, or the poll fails or finds another version than the one delivered last. -/
def hasNews (goal : Goal) (cancelled : Bool) (c : Cluster) (job : Job) : Bool :=
  cancelled ||
    match c.sight goal.app with
    | .error _ => true
    | .ok app => job.watch.isNews app

/-- The next transition of a job, on a cluster. -/
def advance (goal : Goal) (cancelled : Bool) (c : Cluster) (job : Job) : Job × Cluster :=
  match job.stage.ask with
  | .flag => ({ job with stage := job.stage.look goal cancelled }, c)
  | .read => ({ job with stage := job.stage.answer goal (c.read goal.app) }, c)
  | .write object =>
    let (reply, c) := c.write object
    ({ job with stage := job.stage.answer goal reply }, c)
  | .pause _ => ({ job with stage := job.stage.wake goal cancelled }, c)
  | .next => (job.pull goal cancelled c, c)
  | .nothing => (job, c)

/-- The remote call that a job is at fails. -/
def fail (goal : Goal) (f : Failure) (job : Job) : Job :=
  { job with
    stage := match job.remote? with
      | some .watch => job.stage.deliver goal (.error f)
      | _ => job.stage.answer goal (.error f) }

end Job

end AttachGate.Change
