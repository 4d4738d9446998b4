import AttachGate.Change.Run
import AttachGate.Json.Document

/-!
# Changes against a scripted cluster

A change whose remote calls are answered from lists given beforehand.  The run
records its calls and counts its delays.
-/

namespace AttachGate.Change

/-- A scripted answer, and whether the change is called off while it is
awaited. -/
structure Answer where
  cancels : Bool
  /-- The object answered; none stands for the object that was sent. -/
  object : Except Failure (Option Value)

inductive Call
  | read
  | write (object : Members)
  | watch

/-- A change and what is left of its script. -/
structure Rehearsal where
  stage : Stage
  cancelled : Bool
  reads : List Answer
  writes : List Answer
  news : List Answer
  /-- The wait, counted from one, during which the change is called off. -/
  cancelInWait : Option Nat
  calls : List Call
  waits : Nat

namespace Rehearsal

/-- Takes the first answer of a list; the last one repeats. -/
def take : List Answer → Answer × List Answer
  | [] => (⟨false, .error .emptyScript⟩, [])
  | [a] => (a, [a])
  | a :: rest => (a, rest)

/-- The snapshot that an answer gives. -/
def snapshot (a : Answer) (sent : Option Value) : Except Failure App.Snapshot := do
  match (← a.object).orElse (fun _ => sent) with
  | some object => App.Snapshot.ofObject object
  | none => .error (.misshapen .missingKey)

/-- Records that a watch is opened when a change starts to wait. -/
def opened (before : Stage) (r : Rehearsal) : Rehearsal :=
  match before, r.stage with
  | .flipping _, .waiting => { r with calls := r.calls ++ [.watch] }
  | _, _ => r

def step (goal : Goal) (r : Rehearsal) : Rehearsal :=
  match r.stage.ask with
  | .flag => { r with stage := r.stage.look goal r.cancelled }
  | .read =>
    let (a, reads) := take r.reads
    opened r.stage
      { r with
        stage := r.stage.answer goal (snapshot a none)
        cancelled := r.cancelled || a.cancels
        reads
        calls := r.calls ++ [.read] }
  | .write object =>
    let (a, writes) := take r.writes
    opened r.stage
      { r with
        stage := r.stage.answer goal (snapshot a (some (.object object)))
        cancelled := r.cancelled || a.cancels
        writes
        calls := r.calls ++ [.write object] }
  | .pause _ =>
    let waits := r.waits + 1
    let cancelled := r.cancelled || r.cancelInWait == some waits
    { r with stage := r.stage.wake goal cancelled, cancelled, waits }
  | .next =>
    match r.news with
    | [] => { r with stage := r.stage.deliver goal (.ok none) }
    | a :: news =>
      { r with
        stage := r.stage.deliver goal ((snapshot a none).map some)
        cancelled := r.cancelled || a.cancels
        news }
  | .nothing => r

def iterate (goal : Goal) : Nat → Rehearsal → Rehearsal
  | 0, r => r
  | n + 1, r => iterate goal n (step goal r)

/-- Runs a change to its end: an attempt takes six steps with the delay after
it, and the wait one step for each snapshot and one for the end. -/
def run (goal : Goal) (r : Rehearsal) : Rehearsal :=
  iterate goal (6 * (goal.plan.delays.length + 1) + r.news.length + 1) r

def outcome? (r : Rehearsal) : Option Outcome :=
  match r.stage with
  | .over outcome => some outcome
  | _ => none

end Rehearsal

end AttachGate.Change
