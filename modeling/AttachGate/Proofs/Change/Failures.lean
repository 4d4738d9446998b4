import AttachGate.Change.Job
import AttachGate.Proofs.Cluster.Writes

/-!
# Where failures come from

A change makes up a few kinds of failure itself, and so does the store that it
works on; that it was called off it says only if it was.  Whatever else it fails
with, a remote call has failed with before.
-/

namespace AttachGate

namespace Change

/-- The kinds of failure that come up in a change that is not called off and
whose remote calls go through. -/
def ownKinds : List Kind :=
  [.retryExhausted, .appFailed, .appNotFound, .conflict, .notARecord, .wrongType]

/-- What may hold of all failures of changes, by whether a change was called
off, if it holds of those that remote calls bring in. -/
structure Admits (P : Bool → Failure → Prop) : Prop where
  own : ∀ cancelled e, e.kind ∈ ownKinds → P cancelled e
  calledOff : ∀ e, e.kind = .cancelled → P true e
  superseded : ∀ cancelled e label phase token, e.isIn .cancelled = true → P cancelled e →
    P cancelled (.superseded label phase token e)
  mono : ∀ e, P false e → P true e

def madeKinds : List Kind := [.retryExhausted, .appFailed]

/-- What may hold of all failures of changes if it holds of those that remote
calls are answered with, whether they come from the store or not. -/
structure Suits (P : Bool → Failure → Prop) : Prop where
  own : ∀ cancelled e, e.kind ∈ madeKinds → P cancelled e
  calledOff : ∀ e, e.kind = .cancelled → P true e
  superseded : ∀ cancelled e label phase token, e.isIn .cancelled = true → P cancelled e →
    P cancelled (.superseded label phase token e)
  mono : ∀ e, P false e → P true e

theorem Admits.suits {P : Bool → Failure → Prop} (hP : Admits P) : Suits P where
  own := by
    intro cancelled e he
    apply hP.own
    simp only [madeKinds, List.mem_cons, List.not_mem_nil, or_false] at he
    rcases he with h | h <;> simp [ownKinds, h]
  calledOff := hP.calledOff
  superseded := hP.superseded
  mono := hP.mono

theorem Suits.of_false {P : Bool → Failure → Prop} (hP : Suits P) {e : Failure}
    (he : P false e) (cancelled : Bool) : P cancelled e := by
  cases cancelled with
  | true => exact hP.mono e he
  | false => exact he

end Change

def Traced (Q : Failure → Prop) {α : Type} (reply : Except Failure α) : Prop :=
  ∀ e, reply = .error e → Q e

theorem traced_ok {Q : Failure → Prop} {α : Type} (a : α) : Traced Q (.ok a) := by
  intro e he
  cases he

theorem traced_error {Q : Failure → Prop} {α : Type} {f : Failure} (hf : Q f) :
    Traced Q (.error f : Except Failure α) := by
  intro e he
  cases he
  exact hf

theorem Traced.mono {Q R : Failure → Prop} (hQR : ∀ e, Q e → R e) {α : Type}
    {reply : Except Failure α} (hreply : Traced Q reply) : Traced R reply := by
  intro e he
  exact hQR e (hreply e he)

/-! ## The store -/

structure Cluster.FailsAs (Q : Failure → Prop) (c : Cluster) : Prop where
  read : ∀ f, c.faults.read = some f → Q f
  write : ∀ f, c.faults.write = some f → Q f
  watch : ∀ f, c.faults.watch = some f → Q f

theorem Cluster.FailsAs.of_faults {Q : Failure → Prop} {c d : Cluster} (hc : c.FailsAs Q)
    (hfaults : d.faults = c.faults) : d.FailsAs Q :=
  ⟨hfaults ▸ hc.read, hfaults ▸ hc.write, hfaults ▸ hc.watch⟩

/-- The faults of a cluster are not a writer's to change. -/
theorem Cluster.faults_write (c : Cluster) (object : Members) :
    (c.write object).2.faults = c.faults := by
  unfold Cluster.write
  simp only
  split
  · rfl
  · split
    · rfl
    · have hinterfere : (c.interfere (identity object)).faults = c.faults := by
        unfold interfere
        split <;> rfl
      split <;> exact hinterfere

namespace Change.Admits

variable {P : Bool → Failure → Prop} (hP : Admits P) (cancelled : Bool)

include hP

theorem traced_own {α : Type} {f : Failure} (hf : f.kind ∈ ownKinds) :
    Traced (P cancelled) (.error f : Except Failure α) := traced_error (hP.own cancelled f hf)

theorem traced_remote {α : Type} {f : Failure} (hf : P false f) :
    Traced (P cancelled) (.error f : Except Failure α) :=
  traced_error (hP.suits.of_false hf cancelled)

/-- An object that cannot be read has another shape. -/
theorem traced_ofObject (object : Value) :
    Traced (P cancelled) (App.Snapshot.ofObject object) := by
  intro e he
  rcases shapeOnly_ofObject object e he with rfl | rfl
  · exact hP.own _ _ (by decide)
  · exact hP.own _ _ (by decide)

theorem traced_notFound {α : Type} (app : App.Id) :
    Traced (P cancelled) (.error (Cluster.notFound app) : Except Failure α) :=
  hP.traced_own cancelled (by simp [Cluster.notFound, Failure.kind, ownKinds])

variable {c : Cluster}

theorem traced_look {fault : Option Failure} (hfault : ∀ f, fault = some f → P false f)
    (app : App.Id) : Traced (P cancelled) (c.look fault app) := by
  unfold Cluster.look
  split
  · exact hP.traced_remote cancelled (hfault _ rfl)
  · split
    · exact hP.traced_notFound cancelled app
    · exact hP.traced_ofObject cancelled _

theorem traced_write (hc : c.FailsAs (P false)) (object : Members) :
    Traced (P cancelled) (c.write object).1 := by
  unfold Cluster.write
  simp only
  split
  · rename_i f hf
    exact hP.traced_remote cancelled (hc.write f hf)
  · split
    · exact hP.traced_notFound cancelled _
    · split
      · exact hP.traced_ofObject cancelled _
      · exact hP.traced_own cancelled (by decide)

end Change.Admits

namespace Change

/-! ## Stages -/

def Stage.Traced (Q : Failure → Prop) : Stage → Prop
  | .flipping run => ∀ reply, run = .over reply → AttachGate.Traced Q reply
  | .waiting => True
  | .over outcome => AttachGate.Traced Q outcome

/-- A watch that has come to its end leads to a failure as well. -/
structure Job.Traced (Q : Failure → Prop) (job : Job) : Prop where
  stage : job.stage.Traced Q
  watch : job.watch.stage = .ended → ∀ app, Q (.stoppedWaiting app)

theorem Job.Traced.mono {Q R : Failure → Prop} (hQR : ∀ e, Q e → R e) {job : Job}
    (hjob : job.Traced Q) : job.Traced R := by
  constructor
  · have hstage := hjob.stage
    revert hstage
    cases job.stage with
    | flipping run =>
        intro hstage reply hover
        exact (hstage reply hover).mono hQR
    | waiting => exact id
    | «over» outcome =>
        intro hstage
        exact hstage.mono hQR
  · intro hended app
    exact hQR _ (hjob.watch hended app)

namespace Suits

variable {P : Bool → Failure → Prop} (hP : Suits P) {cancelled : Bool} {goal : Goal}

include hP

theorem traced_toInstance (app : App.Snapshot) :
    AttachGate.Traced (P cancelled) (toInstance goal app) := by
  unfold toInstance
  split
  · exact traced_error (hP.own _ _ (by simp [Failure.kind, madeKinds]))
  · exact traced_ok _

theorem traced_afterFlip {reply : Except Failure App.Snapshot}
    (hreply : AttachGate.Traced (P cancelled) reply) :
    (afterFlip goal reply).Traced (P cancelled) := by
  cases reply with
  | error e => exact traced_error (hreply e rfl)
  | ok app =>
      simp only [afterFlip]
      split
      · exact traced_ok _
      · split
        · exact hP.traced_toInstance app
        · trivial

theorem traced_ofFlip {run : Flip.Run}
    (hrun : ∀ reply, run = .over reply → AttachGate.Traced (P cancelled) reply) :
    (ofFlip goal run).Traced (P cancelled) := by
  cases run with
  | «over» reply => exact hP.traced_afterFlip (hrun reply rfl)
  | _ =>
      intro reply hover
      cases hover

theorem traced_settle (plan : Flip.Plan) {run : Flip.Run}
    (hrun : ∀ reply, run = .over reply → AttachGate.Traced (P cancelled) reply)
    {reply : Except Failure App.Snapshot} (hreply : AttachGate.Traced (P cancelled) reply) :
    ∀ other, Flip.settle plan run reply = .over other →
      AttachGate.Traced (P cancelled) other := by
  intro other hover
  cases run with
  | trying attempt delays =>
      cases reply with
      | ok app =>
          cases hover
          exact traced_ok app
      | error e =>
          simp only [Flip.settle, Retry.Stage.settle] at hover
          split at hover
          · cases delays with
            | nil =>
                cases hover
                exact traced_error (hP.own _ _ (by simp [Failure.kind, madeKinds]))
            | cons delay rest => cases hover
          · cases hover
            exact traced_error (hreply e rfl)
  | _ => exact hrun other hover

variable {s : Stage} (hs : s.Traced (P cancelled))

include hs

theorem traced_flag : (s.look goal cancelled).Traced (P cancelled) := by
  cases s with
  | flipping run =>
      apply hP.traced_ofFlip
      cases cancelled with
      | true =>
          have hcalledOff : ∀ other, Flip.settle goal.plan run (.error .cancelled) = .over other →
              AttachGate.Traced (P true) other :=
            hP.traced_settle goal.plan hs (traced_error (hP.calledOff _ rfl))
          unfold Flip.look
          split
          · intro reply hover
            cases hover
            exact traced_error (hP.calledOff _ rfl)
          · exact hcalledOff
          · exact hcalledOff
          · exact hs
      | false =>
          unfold Flip.look
          split
          · nofun
          · nofun
          · nofun
          · exact hs
  | _ => exact hs

theorem traced_answer {reply : Except Failure App.Snapshot}
    (hreply : AttachGate.Traced (P cancelled) reply) :
    (s.answer goal reply).Traced (P cancelled) := by
  cases s with
  | flipping run =>
      apply hP.traced_ofFlip
      unfold Flip.answer
      split
      · split
        · split
          · exact hP.traced_settle goal.plan hs (traced_ok _)
          · nofun
        · exact hP.traced_settle goal.plan hs hreply
      · exact hP.traced_settle goal.plan hs hreply
      · exact hs
  | _ => exact hs

theorem traced_wake : (s.wake goal cancelled).Traced (P cancelled) := by
  cases s with
  | flipping run =>
      apply hP.traced_ofFlip
      cases run with
      | pausing delay delays =>
          intro reply hover
          cases cancelled with
          | true =>
              cases hover
              exact traced_error (hP.calledOff _ rfl)
          | false => cases hover
      | _ => exact hs
  | _ => exact hs

theorem traced_deliver {news : Except Failure (Option App.Snapshot)}
    (hnews : AttachGate.Traced (P cancelled) news)
    (hended : news = .ok none → ∀ app, P cancelled (.stoppedWaiting app)) :
    (s.deliver goal news).Traced (P cancelled) := by
  cases s with
  | waiting =>
      simp only [Stage.deliver]
      split
      · split
        · exact hP.traced_toInstance _
        · trivial
      · exact traced_error (hended rfl _)
      · split
        · exact traced_error (hP.own _ _ (by simp [Failure.kind, madeKinds]))
        · exact traced_error (hnews _ rfl)
  | _ => exact hs

end Suits

/-! ## Jobs -/

def Job.reply? (goal : Goal) (c : Cluster) (job : Job) : Option (Except Failure App.Snapshot) :=
  match job.stage.ask with
  | .read => some (c.read goal.app)
  | .write object => some (c.write object).1
  | .next => if job.watch.stage = .polling then some (c.sight goal.app) else none
  | _ => none

namespace Suits

variable {P : Bool → Failure → Prop} (hP : Suits P) {goal : Goal}

include hP

theorem traced_start (cancelled : Bool) : (Job.start goal).Traced (P cancelled) := by
  constructor
  · intro reply hover
    simp only [Flip.start, Retry.start] at hover
    split at hover
    · cases hover
      exact traced_error (hP.own _ _ (by simp [Failure.kind, madeKinds]))
    · cases hover
  · nofun

variable {cancelled : Bool} {job : Job} (hjob : job.Traced (P cancelled))

include hjob

theorem traced_poll {reply : Except Failure App.Snapshot}
    (hreply : AttachGate.Traced (P cancelled) reply) :
    (job.poll goal reply).Traced (P cancelled) := by
  cases reply with
  | error e =>
      constructor
      · exact hP.traced_deliver hjob.stage (traced_error (hreply e rfl)) nofun
      · exact hjob.watch
  | ok app =>
      constructor
      · simp only [Job.poll]
        split
        · exact hP.traced_deliver hjob.stage (traced_ok _) nofun
        · exact hjob.stage
      · simp only [Job.poll, Watch.poll]
        split
        · nofun
        · exact hjob.watch

/-- A watch comes to its end only if it is told to give up. -/
theorem traced_watch {watch : Watch} (hended : watch.stage = .ended → cancelled = true) :
    Job.Traced (P cancelled) { job with watch } := by
  refine ⟨hjob.stage, ?_⟩
  intro hover app
  rw [hended hover]
  exact hP.calledOff _ rfl

theorem traced_fail {f : Failure} (hf : P cancelled f) :
    (job.fail goal f).Traced (P cancelled) := by
  refine ⟨?_, hjob.watch⟩
  unfold Job.fail
  simp only
  split
  · exact hP.traced_deliver hjob.stage (traced_error hf) nofun
  · exact hP.traced_answer hjob.stage (traced_error hf)

end Suits

/-- The store answers a job in no other way than it may. -/
theorem Admits.traced_reply {P : Bool → Failure → Prop} (hP : Admits P) {goal : Goal}
    {cancelled : Bool} {job : Job} {c : Cluster} (hc : c.FailsAs (P false))
    {reply : Except Failure App.Snapshot} (hreply : job.reply? goal c = some reply) :
    AttachGate.Traced (P cancelled) reply := by
  unfold Job.reply? at hreply
  split at hreply
  · cases hreply
    exact hP.traced_look cancelled hc.read _
  · cases hreply
    exact hP.traced_write cancelled hc _
  · split at hreply
    · cases hreply
      exact hP.traced_look cancelled hc.watch _
    · cases hreply
  · cases hreply

theorem Job.faults_advance (goal : Goal) (cancelled : Bool) (c : Cluster) (job : Job) :
    (job.advance goal cancelled c).2.faults = c.faults := by
  unfold Job.advance
  split
  case h_3 => exact Cluster.faults_write _ _
  all_goals rfl

end Change

end AttachGate
