import AttachGate.Session.Caller
import AttachGate.Session.Runner

/-!
# Schedules of a session

The worker, the runners and the clients of a session can take their transitions
in any order.  A schedule fixes one: the worker first, then the runners in the
order of their intents, and last the clients, so that nobody gives up while
anything else can go on.
-/

namespace AttachGate.Session

/-- Which runners' transitions a schedule takes. -/
structure Pace where
  /-- Whether remote calls run by themselves, as far as they do not wait. -/
  remote : Bool
  /-- Whether notice is given of intents that are over. -/
  notices : Bool

/-- Whether a schedule takes the next transition of an intent's runner. -/
def Pace.allows (pace : Pace) (s : Session) (c : Cluster)
    (i : Intent Change.Job (Option App.Instance)) : Bool :=
  match i.runner with
  | .created | .returned _ | .cleared _ => true
  | .resolved _ => pace.notices
  | .notified _ => false
  | .working job =>
    match job.remote? with
    | none => true
    | some .watch => pace.remote && job.hasNews (s.goal i.phase) i.cancelled c
    | some _ => pace.remote

inductive Turn
  | worker
  | runner (token : Nat)
  deriving DecidableEq

/-- Whose turn it is, if anybody's. -/
def turn? (s : Session) (pace : Pace) (c : Cluster) : Option Turn :=
  if !s.ended && !s.mailbox.isEmpty then some .worker
  else (s.coordinator.intents.find? (pace.allows s c)).map fun i => .runner i.token

/-- Takes a turn. -/
def takeTurn (s : Session) (c : Cluster) : Turn → Session × Cluster
  | .worker => (s.work, c)
  | .runner token => s.run token c

/-- More turns than the worker and the runners can take.  With `k` intents to
come and `a` attempts to a flip, each intent takes at most eight turns for an
attempt and as many for the rest, and its watch sees at most the `k * a` writes
of all intents. -/
def turnBound (s : Session) : Nat :=
  let k := s.coordinator.intents.length + s.mailbox.length + 1
  let a := s.plan.delays.length + 2
  k * (16 * a + k * a)

def iterate (pace : Pace) : Nat → Session → Cluster → Session × Cluster
  | 0, s, c => (s, c)
  | n + 1, s, c =>
    match s.turn? pace c with
    | some turn =>
      let (s, c) := s.takeTurn c turn
      iterate pace n s c
    | none => (s, c)

/-- Lets the worker and the runners go on until nothing is left to do. -/
def settle (s : Session) (pace : Pace) (c : Cluster) : Session × Cluster :=
  iterate pace s.turnBound s c

/-- Lets every client go on. -/
def attendAll (s : Session) (clock : Number) : Session :=
  (List.range s.callers.length).foldl (fun s caller => s.attend caller clock) s

end AttachGate.Session
