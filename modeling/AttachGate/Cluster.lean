import AttachGate.App.Snapshot

/-!
# A cluster in memory

A store of app objects that accepts an object only if it carries the version of
the object it replaces, and gives every accepted object a new version.  It
stands for a cluster together with the controller that brings apps up and down:
an app that is wanted at Rest is at Rest at once, and an app that is wanted Live
is Live at once if the cluster is automatic.
-/

namespace AttachGate

/-- The failures that a cluster answers with, by the call that it fails. -/
structure Cluster.Faults where
  read : Option Failure
  write : Option Failure
  watch : Option Failure

structure Cluster where
  /-- The app objects, in the order in which they were first stored. -/
  apps : List (App.Id × Members)
  automatic : Bool
  /-- How many of the next writes lose a race against somebody else's. -/
  conflicts : Nat
  faults : Cluster.Faults
  /-- The accepted changes of a wanted phase, in their order. -/
  flips : List (App.Id × Value)

namespace Cluster

def empty : Cluster :=
  { apps := [], automatic := true, conflicts := 0, faults := ⟨none, none, none⟩, flips := [] }

def object? (c : Cluster) (app : App.Id) : Option Members :=
  (c.apps.find? fun (id, _) => id.same app).map Prod.snd

def onObject (c : Cluster) (app : App.Id) (f : Members → Members) : Cluster :=
  { c with apps := c.apps.map fun (id, object) => (id, if id.same app then f object else object) }

/-! ## Parts of objects -/

/-- The members of one part of an object, none if it lacks it. -/
def part (object : Members) (key : Text) : Members :=
  match object.get? key with
  | some (.object members) => members
  | _ => []

/-- An object with some members of one part set. -/
def merge (key : Text) (changes : Members) (object : Members) : Members :=
  object.set key
    (.object (changes.foldl (fun members (k, v) => Members.set k v members) (part object key)))

def version (object : Members) : Value :=
  ((part object "metadata").get? "resourceVersion").getD App.Snapshot.empty

/-- The version after a version: the next number. -/
def nextVersion (v : Value) : Value :=
  match v.toInteger with
  | .ok n => .text (Text.ofInt (n + 1))
  | .error _ => .text (Text.ofNat 1)

/-- An object under the next version. -/
def bump (object : Members) : Members :=
  merge "metadata" [(Text.ofString "resourceVersion", nextVersion (version object))] object

def wantedPhase (object : Members) : Value :=
  ((App.specification object).get? "targetPhase").getD App.Snapshot.empty

/-- The identity that an object states. -/
def identity (object : Members) : App.Id :=
  { namespaceName := ((part object "metadata").get? "namespace").getD App.Snapshot.empty
    name := ((part object "metadata").get? "name").getD App.Snapshot.empty }

/-! ## What goes on in the cluster -/

def put (c : Cluster) (object : Members) : Cluster :=
  let app := identity object
  if (c.object? app).isSome then c.onObject app fun _ => object
  else { c with apps := c.apps ++ [(app, object)] }

def delete (c : Cluster) (app : App.Id) : Cluster :=
  { c with apps := c.apps.filter fun (id, _) => !id.same app }

/-- Somebody sets members of one part of an app's object. -/
def amend (c : Cluster) (app : App.Id) (key : Text) (changes : Members) : Cluster :=
  c.onObject app fun object => bump (merge key changes object)

/-- The status of an app in a phase. -/
def status (phase : Phase) (pod : Text) : Value :=
  .object [(Text.ofString "phase", .text phase.name), (Text.ofString "podName", .text pod)]

/-- The status that the controller gives an app for the phase it is wanted in,
if it gives one. -/
def settledStatus (c : Cluster) (app : App.Id) (wanted : Value) : Option Value :=
  if wanted.isText Phase.rest.name then some (status .rest [])
  else if c.automatic then some (status .live (app.name.display ++ "-pod"))
  else none

/-- What is stored when an object is accepted in place of another: the status is
not the writer's to give. -/
def accepted (c : Cluster) (app : App.Id) (stored object : Members) : Members :=
  let observed := (c.settledStatus app (wantedPhase object)).orElse fun _ => stored.get? "status"
  bump (object.set "status" (observed.getD (.object [])))

/-! ## Calls -/

def notFound (app : App.Id) : Failure :=
  .reported .appNotFound ("cliapp " ++ app.label ++ " not found")

/-- A write lost its race. -/
def modified : Failure := .reported .conflict "the object has been modified"

/-- A look at an app that fails with a fault. -/
def look (c : Cluster) (fault : Option Failure) (app : App.Id) : Except Failure App.Snapshot :=
  match fault with
  | some f => .error f
  | none =>
    match c.object? app with
    | none => .error (notFound app)
    | some object => App.Snapshot.ofObject (.object object)

def read (c : Cluster) (app : App.Id) : Except Failure App.Snapshot := c.look c.faults.read app

/-- Reads an app for a watch. -/
def sight (c : Cluster) (app : App.Id) : Except Failure App.Snapshot := c.look c.faults.watch app

/-- Somebody else's write comes first, if one is to. -/
def interfere (c : Cluster) (app : App.Id) : Cluster :=
  if c.conflicts > 0 then { c.onObject app bump with conflicts := c.conflicts - 1 } else c

/-- Writes an object in place of the one it was made from, which must be the one
that is stored. -/
def write (c : Cluster) (object : Members) : Except Failure App.Snapshot × Cluster :=
  let app := identity object
  match c.faults.write with
  | some f => (.error f, c)
  | none =>
    match c.object? app with
    | none => (.error (notFound app), c)
    | some found =>
      let c := c.interfere app
      let stored := (c.object? app).getD found
      if (version object).equal (version stored) then
        let result := c.accepted app stored object
        (App.Snapshot.ofObject (.object result),
          { c.onObject app fun _ => result with flips := c.flips ++ [(app, wantedPhase object)] })
      else (.error modified, c)

end Cluster

end AttachGate
