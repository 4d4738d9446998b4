import AttachGate.Change.Job
import AttachGate.Tool.Exchange

/-!
# Changes through the cluster tool

A change whose remote calls are commands of the tool: it reads its app, replaces
it, and while it waits its watch reads it again and again.  Whether the change is
called off can be another matter at each transition.
-/

namespace AttachGate.Tool

/-- A change under way, and what has been exchanged with the tool for it. -/
structure Drive where
  job : Change.Job
  exchange : Exchange

namespace Drive

def start (goal : Change.Goal) (script : List Scripted) : Drive :=
  ⟨.start goal, .start script⟩

/-- Asks something of the tool, and goes on with what comes back. -/
def query {α : Type} (q : Query α) (resume : Except Failure α → Change.Job) (d : Drive) : Drive :=
  let (reply, exchange) := q.run.run d.exchange
  ⟨resume reply, exchange⟩

/-- The next transition of the watch. -/
def pull (s : Settings) (goal : Change.Goal) (cancelled : Bool) (d : Drive) : Drive :=
  match d.job.watch.stage with
  | .looking => { d with job := { d.job with watch := d.job.watch.look cancelled } }
  | .polling => d.query (Query.readApp s goal.app) fun reply => d.job.poll goal reply
  | .resting => { d with job := { d.job with watch := d.job.watch.wake cancelled } }
  | .ended => { d with job := { d.job with stage := d.job.stage.deliver goal (.ok none) } }

def step (s : Settings) (goal : Change.Goal) (cancelled : Bool) (d : Drive) : Drive :=
  match d.job.stage.ask with
  | .flag => { d with job := { d.job with stage := d.job.stage.look goal cancelled } }
  | .read =>
    d.query (Query.readApp s goal.app) fun reply =>
      { d.job with stage := d.job.stage.answer goal reply }
  | .write object =>
    d.query (Query.replaceApp s (.object object)) fun reply =>
      { d.job with stage := d.job.stage.answer goal reply }
  | .pause _ => { d with job := { d.job with stage := d.job.stage.wake goal cancelled } }
  | .next => d.pull s goal cancelled
  | .nothing => d

/-- As many transitions as there are looks at whether the change is called off. -/
def run (s : Settings) (goal : Change.Goal) (looks : List Bool) (d : Drive) : Drive :=
  looks.foldl (fun d cancelled => d.step s goal cancelled) d

end Drive

end AttachGate.Tool
