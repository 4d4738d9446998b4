import AttachGate.Proofs.Change.Moments
import AttachGate.Proofs.Tool.Arguments

/-!
# What the tool replies

A drive is a change whose remote calls are answered through the tool: each of its
transitions is one of the change at some moment.  What the tool fails with is of
few kinds, and that of something called off is none of them.
-/

namespace AttachGate

theorem Traced.bind {Q : Failure → Prop} {α β : Type} {reply : Except Failure α}
    (hreply : Traced Q reply) {f : α → Except Failure β} (hf : ∀ a, Traced Q (f a)) :
    Traced Q (reply >>= f) := by
  cases reply with
  | ok a => exact hf a
  | error e =>
      intro other hother
      cases hother
      exact hreply e rfl

namespace Tool

/-! ## Failures of the tool -/

/-- The kinds of failure that come up when the tool is asked for an app: of launching
the command, of the command, and of reading what it has printed. -/
def failureKinds : List Kind :=
  [.toolMissing, .toolTimeout, .notLoggedIn, .conflict, .appNotFound, .controlPlane,
    .badValue, .undecodableText, .unencodableText, .tooDeep, .notARecord, .wrongType]

def isToolFailure (e : Failure) : Bool := failureKinds.contains e.kind

theorem not_cancelled_of_isToolFailure {e : Failure} (he : isToolFailure e = true) :
    e.isIn .cancelled = false := by
  have hnone : ∀ kind ∈ failureKinds, kind.isIn .cancelled = false := by decide
  exact hnone e.kind (List.contains_iff_mem.mp he)

theorem traced_of_shapeOnly {α : Type} {reply : Except Failure α} (hreply : ShapeOnly reply) :
    Traced (isToolFailure ·) reply := by
  intro e he
  rcases hreply e he with rfl | rfl <;> rfl

def complaintKinds : List Kind := [.notLoggedIn, .conflict, .appNotFound, .controlPlane]

theorem kind_complaint (err : Text) : (complaint err).kind ∈ complaintKinds := by
  unfold complaint
  split
  · decide
  · split
    · exact .tail _ (.head _)
    · split
      · exact .tail _ (.tail _ (.head _))
      · exact .tail _ (.tail _ (.tail _ (.head _)))

theorem isToolFailure_complaint (err : Text) : isToolFailure (complaint err) = true := by
  have hall : ∀ kind ∈ complaintKinds, failureKinds.contains kind = true := by decide
  exact hall _ (kind_complaint err)

theorem traced_judge (i : Invocation) (check : Bool) (outcome : Outcome) :
    Traced (isToolFailure ·) (judge i check outcome) := by
  cases outcome with
  | timedOut => exact traced_error rfl
  | missing => exact traced_error rfl
  | unlaunched fault => cases fault <;> exact traced_error rfl
  | completed result =>
      simp only [judge]
      split
      · exact traced_error (isToolFailure_complaint _)
      · exact traced_ok _

theorem traced_parse (room : Nat) (out : Text) : Traced (isToolFailure ·) (parse room out) := by
  unfold parse Document.ofText
  cases Json.readText room out with
  | ok object => exact traced_of_shapeOnly (shapeOnly_ofObject object)
  | error e =>
      cases e <;> exact traced_error rfl

theorem traced_argument (v : Value) : Traced (isToolFailure ·) (argument v) := by
  cases v with
  | text t => exact traced_ok t
  | _ => exact traced_error rfl

theorem traced_toText (v : Value) : Traced (isToolFailure ·) (Document.toText v) := by
  unfold Document.toText
  split
  · exact traced_ok _
  · exact traced_error rfl

theorem traced_readArguments (app : App.Id) : Traced (isToolFailure ·) (readArguments app) := by
  unfold readArguments
  apply (traced_argument app.name).bind
  intro name
  apply (traced_argument app.namespaceName).bind
  intro namespaceName
  exact traced_ok _

/-! ## Failures of a query -/

/-- A query that fails in no other way, whatever the tool does. -/
def Query.Traced (Q : Failure → Prop) {α : Type} (q : Query α) : Prop :=
  ∀ x : Exchange, AttachGate.Traced Q (q.run.run x).1

section Queries

variable {Q : Failure → Prop} {α β : Type}

theorem Query.Traced.bind {q : Query α} {next : α → Query β} (hq : q.Traced Q)
    (hnext : ∀ a, (next a).Traced Q) : (q >>= next).Traced Q := by
  intro x
  rw [Query.run_bind]
  have hreply := hq x
  cases hrun : q.run.run x with
  | mk reply y =>
      rw [hrun] at hreply
      cases reply with
      | ok a => exact hnext a y
      | error e => exact traced_error (hreply e rfl)

theorem Query.traced_pure (a : α) : (pure a : Query α).Traced Q := fun _ => traced_ok a

theorem Query.traced_throw {e : Failure} (he : Q e) : (throw e : Query α).Traced Q :=
  fun _ => traced_error he

theorem Query.traced_liftM {reply : Except Failure α} (hreply : AttachGate.Traced Q reply) :
    (liftM reply : Query α).Traced Q := by
  intro x
  cases reply with
  | ok a => exact traced_ok a
  | error e => exact traced_error (hreply e rfl)

end Queries

section Tool

variable (s : Settings)

theorem Query.traced_command (arguments : List Text) (check : Bool) (input : Option Text) :
    (Query.command s arguments check input).Traced (isToolFailure ·) := by
  unfold Query.command
  apply Query.Traced.bind
  · intro x
    exact traced_ok _
  · intro outcome
    have hjudge := traced_judge (invocation s arguments input) check outcome
    cases hreply : judge (invocation s arguments input) check outcome with
    | ok result => exact Query.traced_pure result
    | error e => exact Query.traced_throw (hjudge e hreply)

/-- A query that runs one command and reads what it printed. -/
theorem Query.traced_parsed (arguments : List Text) (input : Option Text) :
    Query.Traced (isToolFailure ·) (do
      let result ← Query.command s arguments true input
      match parse s.room result.out with
      | .ok snapshot => pure snapshot
      | .error e => throw e) := by
  apply (Query.traced_command s arguments true input).bind
  intro result
  have hparse := traced_parse s.room result.out
  cases hreply : parse s.room result.out with
  | ok snapshot => exact Query.traced_pure snapshot
  | error e => exact Query.traced_throw (hparse e hreply)

theorem Query.traced_readApp (app : App.Id) :
    (Query.readApp s app).Traced (isToolFailure ·) := by
  unfold Query.readApp
  apply (Query.traced_liftM (traced_readArguments app)).bind
  intro arguments
  exact Query.traced_parsed s arguments none

theorem Query.traced_replaceApp (object : Value) :
    (Query.replaceApp s object).Traced (isToolFailure ·) := by
  unfold Query.replaceApp
  apply (Query.traced_liftM (traced_toText object)).bind
  intro input
  exact Query.traced_parsed s writeArguments (some input)

end Tool

/-! ## Drives -/

namespace Drive

def reply (s : Settings) (goal : Change.Goal) (d : Drive) : Except Failure App.Snapshot :=
  match d.job.stage.ask with
  | .write object => ((Query.replaceApp s (.object object)).run.run d.exchange).1
  | _ => ((Query.readApp s goal.app).run.run d.exchange).1

theorem traced_reply (s : Settings) (goal : Change.Goal) (d : Drive) :
    Traced (isToolFailure ·) (d.reply s goal) := by
  unfold reply
  split
  · exact Query.traced_replaceApp s _ _
  · exact Query.traced_readApp s _ _

/-- A transition of a drive is one of its change, at a moment at which the tool
answers. -/
theorem job_step (s : Settings) (goal : Change.Goal) (cancelled : Bool) (d : Drive) :
    (d.step s goal cancelled).job = d.job.proceed goal ⟨cancelled, d.reply s goal⟩ := by
  unfold step Change.Job.proceed reply
  cases hask : d.job.stage.ask with
  | next =>
      simp only [pull]
      cases d.job.watch.stage <;> rfl
  | _ => rfl

end Drive

end Tool

end AttachGate
