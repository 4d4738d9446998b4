import AttachGate.Session.Basic

/-!
# The runners of a session

Each intent of a session has a runner that carries out its change on the
cluster and then clears, resolves and gives notice.  Runners go on beside the
worker and beside each other.
-/

namespace AttachGate.Session

/-- The next transition of the runner of an intent, on a cluster. -/
def run (s : Session) (token : Nat) (c : Cluster) : Session × Cluster :=
  match s.coordinator.intent? token with
  | none => (s, c)
  | some i =>
    match i.runner with
    | .created =>
      ({ s with coordinator := s.coordinator.begin token (.start (s.goal i.phase)) }, c)
    | .working job =>
      match job.outcome? with
      | some outcome => ({ s with coordinator := s.coordinator.finish token outcome }, c)
      | none =>
        let (job, c) := job.advance (s.goal i.phase) i.cancelled c
        ({ s with coordinator := s.coordinator.move token fun _ => job }, c)
    | .returned _ => ({ s with coordinator := s.coordinator.clear token }, c)
    | .cleared _ => ({ s with coordinator := s.coordinator.resolve token }, c)
    | .resolved _ =>
      ({ s with
          coordinator := s.coordinator.notify token
          mailbox := s.mailbox ++ [.changed token] }, c)
    | .notified _ => (s, c)

/-- The remote call that an intent is at fails. -/
def fail (s : Session) (token : Nat) (f : Failure) : Session :=
  match s.coordinator.intent? token with
  | none => s
  | some i =>
    { s with coordinator := s.coordinator.move token fun job => job.fail (s.goal i.phase) f }

def remote? (s : Session) (token : Nat) : Option Change.Remote :=
  ((s.coordinator.intent? token).bind Intent.work?).bind Change.Job.remote?

end AttachGate.Session
