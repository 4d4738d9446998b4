import AttachGate.Session.Schedule

/-!
# A session on the bench

A session whose remote calls wait to be let through one by one, and whose
notices can be held back.  What is held back keeps the order in which the
outcomes came to be seen.
-/

namespace AttachGate.Session

structure Bench where
  session : Session
  cluster : Cluster
  clock : Number
  /-- Whether notices are held back. -/
  holding : Bool
  /-- The intents whose notices are held back. -/
  held : List Nat

namespace Bench

def start (app : App.Id) (cluster : Cluster) : Bench :=
  { session := .create app, cluster, clock := .float (Binary64.ofMagnitudeBits false 0)
    holding := false, held := [] }

/-- What the session does on its own. -/
def pace (b : Bench) : Pace := { remote := false, notices := !b.holding }

/-- The tokens of the intents whose outcome is seen and unnoticed. -/
def unnoticed (s : Session) : List Nat :=
  (s.coordinator.intents.filter Intent.isResolved).map Intent.token

/-- Lets the session go on until it waits. -/
def settle (b : Bench) : Bench :=
  let (session, cluster) := b.session.settle b.pace b.cluster
  { b with
    session := session.attendAll b.clock
    cluster
    held := b.held ++ (unnoticed session).filter fun token => !b.held.contains token }

def call (b : Bench) (errand : Errand) (cancelled : Bool) : Nat × Bench :=
  let (caller, session) := b.session.call errand cancelled
  (caller, { b with session }.settle)

def leave (b : Bench) (caller : Nat) : Bench := { b with session := b.session.leave caller }.settle

def pass (b : Bench) (seconds : Number) : Bench :=
  { b with clock := (b.clock.add seconds).toOption.getD b.clock }.settle

def onCluster (b : Bench) (f : Cluster → Cluster) : Bench :=
  { b with cluster := f b.cluster }.settle

def remote? (b : Bench) (token : Nat) : Option Change.Remote := b.session.remote? token

/-- A watch that is held up has yet to look at whether it is called off. -/
def recheck (b : Bench) (token : Nat) : Bench :=
  match b.session.coordinator.intent? token with
  | none => b
  | some i =>
    let look (job : Change.Job) : Change.Job :=
      match job.remote? with
      | some .watch =>
        { job with watch := { job.watch with stage := .looking }.look i.cancelled }
      | _ => job
    { b with session := { b.session with coordinator := b.session.coordinator.move token look } }

/-- Lets the remote call of an intent through to the cluster. -/
def letThrough (b : Bench) (token : Nat) : Bench :=
  let b := b.recheck token
  let (session, cluster) := b.session.run token b.cluster
  { b with session, cluster }.settle

/-- Lets the remote call of an intent fail. -/
def fail (b : Bench) (token : Nat) (f : Failure) : Bench :=
  { b with session := b.session.fail token f }.settle

/-- Holds notices back from now on. -/
def hold (b : Bench) : Bench := { b with holding := true }

/-- Gives the notices held back, in their order, and holds back no more. -/
def deliver (b : Bench) : Bench :=
  let (session, cluster) :=
    b.held.foldl (fun (s, c) token => Session.run s token c) (b.session, b.cluster)
  { b with session, cluster, holding := false, held := [] }.settle

/-- The first intent at a remote call that would not wait. -/
def ready? (b : Bench) : Option Nat :=
  (b.session.coordinator.intents.find? fun i =>
    (i.work?.bind Change.Job.remote?).isSome &&
      Pace.allows ⟨true, false⟩ b.session b.cluster i).map Intent.token

/-- At most so many remote calls, the first intent's first. -/
def iterate : Nat → Bench → Bench
  | 0, b => b
  | n + 1, b =>
    match b.ready? with
    | some token => iterate n (b.letThrough token)
    | none => b

/-- Lets remote calls through until only watches wait. -/
def run (b : Bench) : Bench := iterate b.session.turnBound b

end Bench

end AttachGate.Session
