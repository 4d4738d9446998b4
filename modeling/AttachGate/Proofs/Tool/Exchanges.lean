import AttachGate.Proofs.Tool.Arguments

/-!
# One command for one app

An app is read with one command, and replaced with one, whose outcome decides what
comes back: a snapshot, if the output can be read as an object that one can be taken
of.  Only if the command cannot be put together is none run.
-/

namespace AttachGate.Tool

/-! ## Output -/

variable {room : Nat} {out : Text}

theorem parse_of_readText {v : Value} (hread : Json.readText room out = .ok v) :
    parse room out = App.Snapshot.ofObject v := by
  rw [parse, Document.ofText, hread]
  rfl

/-- What is made of output that cannot be read. -/
def unread : Json.ReadError → Failure
  | .malformed fault => .unexpectedOutput fault
  | e => .ofReadError e

theorem parse_of_readError {e : Json.ReadError} (hread : Json.readText room out = .error e) :
    parse room out = .error (unread e) := by
  rw [parse, Document.ofText, hread]
  cases e <;> rfl

theorem parse_eq_ok {app : App.Snapshot} :
    parse room out = .ok app ↔
      ∃ v, Json.readText room out = .ok v ∧ App.Snapshot.ofObject v = .ok app := by
  cases hread : Json.readText room out with
  | ok v => simp [parse_of_readText hread]
  | error e => simp [parse_of_readError hread]

/-! ## Commands -/

namespace Query

variable (s : Settings)

theorem run_parsed (arguments : List Text) (input : Option Text) (x : Exchange) :
    (do let result ← command s arguments true input
        match parse s.room result.out with
        | .ok snapshot => pure snapshot
        | .error e => throw e : Query App.Snapshot).run.run x =
      (reply s.room (invocation s arguments input) (x.run (invocation s arguments input)).1,
        (x.run (invocation s arguments input)).2) := by
  generalize hi : invocation s arguments input = i
  have hcommand : (command s arguments true input).run.run x =
      (judge i true (x.run i).1, (x.run i).2) := by
    unfold command
    simp only [hi]
    rw [run_bind]
    have hrun : (modifyGet (Exchange.run i) : Query Outcome).run.run x =
        (.ok (x.run i).1, (x.run i).2) := rfl
    rw [hrun]
    dsimp only
    cases judge i true (x.run i).1 <;> rfl
  rw [run_bind, hcommand, reply]
  cases judge i true (x.run i).1 with
  | error e => rfl
  | ok result =>
      simp only [bind, Except.bind]
      cases parse s.room result.out <;> rfl

theorem run_readApp {app : App.Id} {arguments : List Text}
    (harguments : readArguments app = .ok arguments) (x : Exchange) :
    (readApp s app).run.run x =
      (reply s.room (invocation s arguments none) (x.run (invocation s arguments none)).1,
        (x.run (invocation s arguments none)).2) := by
  rw [← run_parsed]
  unfold readApp
  rw [harguments]
  rfl

theorem run_readApp_of_error {app : App.Id} {e : Failure} (happ : readArguments app = .error e)
    (x : Exchange) : (readApp s app).run.run x = (.error e, x) := by
  unfold readApp
  rw [happ]
  rfl

theorem run_replaceApp {object : Value} {input : Text}
    (hinput : Document.toText object = .ok input) (x : Exchange) :
    (replaceApp s object).run.run x =
      (reply s.room (invocation s writeArguments (some input))
          (x.run (invocation s writeArguments (some input))).1,
        (x.run (invocation s writeArguments (some input))).2) := by
  rw [← run_parsed]
  unfold replaceApp
  rw [hinput]
  rfl

end Query

end AttachGate.Tool
