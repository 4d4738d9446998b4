import AttachGate.Tool.Command
import AttachGate.Change.Watch

/-!
# Exchanges with the cluster tool

What the cluster is asked through the tool, run against outcomes given
beforehand.  An exchange records its invocations; when its outcomes are used up
the tool counts as missing.
-/

namespace AttachGate.Tool

/-- The outcome of a run, and whether a watch is called off while it runs. -/
structure Scripted where
  cancels : Bool
  outcome : Outcome

/-- The outcomes that are left, and the invocations so far. -/
structure Exchange where
  script : List Scripted
  calls : List Invocation
  cancelled : Bool

namespace Exchange

def start (script : List Scripted) : Exchange := ⟨script, [], false⟩

def run (i : Invocation) (x : Exchange) : Outcome × Exchange :=
  match x.script with
  | [] => (.missing, { x with calls := x.calls ++ [i] })
  | s :: script =>
    (s.outcome,
      { script, calls := x.calls ++ [i], cancelled := x.cancelled || s.cancels })

end Exchange

/-- Something asked of the cluster: its result, or its failure, and what has
been exchanged. -/
abbrev Query (α : Type) := ExceptT Failure (StateM Exchange) α

namespace Query

def command (s : Settings) (arguments : List Text) (check : Bool) (input : Option Text) :
    Query Completed := do
  let i := invocation s arguments input
  let outcome ← modifyGet (Exchange.run i)
  match judge i check outcome with
  | .ok result => pure result
  | .error e => throw e

def readApp (s : Settings) (app : App.Id) : Query App.Snapshot := do
  let arguments ← readArguments app
  let result ← command s arguments true none
  match parse s.room result.out with
  | .ok snapshot => pure snapshot
  | .error e => throw e

/-- Replaces an app; the object carries the version that it was read with. -/
def replaceApp (s : Settings) (object : Value) : Query App.Snapshot := do
  let input ← Document.toText object
  let result ← command s writeArguments true (some input)
  match parse s.room result.out with
  | .ok snapshot => pure snapshot
  | .error e => throw e

/-- The namespace that the program runs in: the one its service account gives,
else the one of the tool's configuration, else the default. -/
def currentNamespace (s : Settings) (account : Option Text) : Query Text := do
  let own := (account.getD []).trim
  if !own.isEmpty then pure own
  else
    let result ← command s
      ["config", "view", "--minify", "-o", "jsonpath=\x7b.contexts[0].context.namespace\x7d"]
      true none
    let configured := result.out.trim
    pure (if configured.isEmpty then "default" else configured)

/-- Creates a namespace unless it is there. -/
def ensureNamespace (s : Settings) (name : Text) : Query Unit := do
  let found ← command s ["get", "namespace", name] false none
  if found.code = 0 then pure ()
  else
    let _ ← command s ["create", "namespace", name] true none
    pure ()

end Query

/-! ## Watching through the tool -/

/-- How a look-out ends. -/
inductive Ending
  /-- As many snapshots were taken as were wanted. -/
  | taken
  | stopped
  | failed (failure : Failure)

/-- A watch on an app, and what it has delivered. -/
structure Lookout where
  watch : Watch
  exchange : Exchange
  delivered : List App.Snapshot
  waits : List Number
  ending : Option Ending

namespace Lookout

/-- The versions delivered. -/
def seen (l : Lookout) : List Value := l.delivered.map fun app => app.version

/-- What a look-out is for. -/
structure Goal where
  settings : Settings
  app : App.Id
  /-- The number of snapshots wanted. -/
  wanted : Nat
  /-- The wait, counted from one, during which the watch is called off. -/
  cancelInWait : Option Nat

def start (exchange : Exchange) : Lookout :=
  { watch := .start, exchange, delivered := [], waits := [], ending := none }

def step (goal : Goal) (l : Lookout) : Lookout :=
  if l.ending.isSome then l
  else if goal.wanted ≤ l.delivered.length then { l with ending := some .taken }
  else
    match l.watch.stage with
    | .looking => { l with watch := l.watch.look l.exchange.cancelled }
    | .ended => { l with ending := some .stopped }
    | .polling =>
      match (Query.readApp goal.settings goal.app).run.run l.exchange with
      | (.error e, exchange) => { l with exchange, ending := some (.failed e) }
      | (.ok app, exchange) =>
        { l with
          exchange
          watch := l.watch.poll app
          delivered := if l.watch.isNews app then l.delivered ++ [app] else l.delivered }
    | .resting =>
      let waits := l.waits ++ [goal.settings.watchInterval]
      let cancelled := l.exchange.cancelled || goal.cancelInWait == some waits.length
      { l with
        watch := l.watch.wake cancelled
        waits
        exchange := { l.exchange with cancelled } }

def iterate (goal : Goal) : Nat → Lookout → Lookout
  | 0, l => l
  | n + 1, l => iterate goal n (step goal l)

/-- Runs a look-out to its end: each poll uses up an outcome and takes three
steps. -/
def run (goal : Goal) (exchange : Exchange) : Lookout :=
  iterate goal (3 * (exchange.script.length + 1) + 2) (start exchange)

end Lookout

end AttachGate.Tool
