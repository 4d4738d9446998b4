import AttachGate.Proofs.Change.Attempts
import AttachGate.Proofs.Change.Failures

/-!
# Changes from one moment to the next

A change goes on by one transition at a time.  What a transition meets with is
up to others: whether the change is called off by then, and how the remote call
that it makes is answered.  A list of such moments fixes the whole course of a
change that waits by polling, whatever the cluster is and whenever the change is
called off; a cluster whose state is known makes one such moment of each state.
-/

namespace AttachGate.Change

/-- What a transition meets with: whether the change is called off, and the
answer to the remote call that the transition makes, if it makes one. -/
structure Moment where
  cancelled : Bool
  reply : Except Failure App.Snapshot

namespace Job

def proceed (goal : Goal) (job : Job) (m : Moment) : Job :=
  match job.stage.ask with
  | .flag => { job with stage := job.stage.look goal m.cancelled }
  | .read => { job with stage := job.stage.answer goal m.reply }
  | .write _ => { job with stage := job.stage.answer goal m.reply }
  | .pause _ => { job with stage := job.stage.wake goal m.cancelled }
  | .next =>
    match job.watch.stage with
    | .looking => { job with watch := job.watch.look m.cancelled }
    | .polling => job.poll goal m.reply
    | .resting => { job with watch := job.watch.wake m.cancelled }
    | .ended => { job with stage := job.stage.deliver goal (.ok none) }
  | .nothing => job

def after (goal : Goal) (job : Job) (moments : List Moment) : Job :=
  moments.foldl (proceed goal) job

def remotes (goal : Goal) (job : Job) : List Moment → List Remote
  | [] => []
  | m :: rest => job.remote?.toList ++ (job.proceed goal m).remotes goal rest

variable (goal : Goal) (job : Job)

/-- A job makes a remote call with its next transition just if it is at one. -/
theorem isSome_reply? (c : Cluster) : (job.reply? goal c).isSome = job.remote?.isSome := by
  unfold reply? remote?
  cases job.stage.ask with
  | next => by_cases hpolling : job.watch.stage = .polling <;> simp [hpolling]
  | _ => rfl

/-- On a cluster a job goes on as it does at the moment that the cluster makes. -/
theorem advance_fst (cancelled : Bool) (c : Cluster) :
    (job.advance goal cancelled c).1 =
      job.proceed goal ⟨cancelled, (job.reply? goal c).getD (.error .emptyScript)⟩ := by
  unfold advance proceed reply?
  cases job.stage.ask with
  | next =>
      simp only [pull]
      cases job.watch.stage <;> rfl
  | _ => rfl

theorem after_append (before after : List Moment) :
    job.after goal (before ++ after) = (job.after goal before).after goal after :=
  List.foldl_append

theorem after_concat (before : List Moment) (m : Moment) :
    job.after goal (before ++ [m]) = (job.after goal before).proceed goal m := by
  rw [after_append]
  rfl

/-! ## A watch begins once the flip is through -/

/-- The watch has not begun as long as the flip is not behind the change. -/
def Patient (job : Job) : Prop := job.stage.isPastFlip = false → job.watch.stage = .looking

variable {goal job}

theorem patient_start (goal : Goal) : (Job.start goal).Patient := fun _ => rfl

theorem isPastFlip_of_waits (hask : job.stage.ask = .next) : job.stage.isPastFlip = true := by
  rw [Stage.eq_of_next hask]
  rfl

theorem isPastFlip_proceed (hpast : job.stage.isPastFlip = true) (m : Moment) :
    (job.proceed goal m).stage.isPastFlip = true := by
  cases hstage : job.stage with
  | flipping run =>
      rw [hstage] at hpast
      cases hpast
  | «over» outcome => simp [proceed, hstage, Stage.ask, Stage.isPastFlip]
  | waiting =>
      have hask : job.stage.ask = .next := by rw [hstage]; rfl
      simp only [proceed, hask]
      cases job.watch.stage with
      | looking => exact hpast
      | resting => exact hpast
      | ended => exact Stage.isPastFlip_deliver hpast goal (.ok none)
      | polling =>
          cases m.reply with
          | error e => exact Stage.isPastFlip_deliver hpast goal (.error e)
          | ok app =>
              simp only [poll]
              split
              · exact Stage.isPastFlip_deliver hpast goal _
              · exact hpast

/-- Only a change that waits moves its watch on. -/
theorem watch_proceed (hbefore : job.stage.isPastFlip = false) (m : Moment) :
    (job.proceed goal m).watch = job.watch := by
  unfold proceed
  split
  case h_5 hask =>
    rw [isPastFlip_of_waits hask] at hbefore
    cases hbefore
  all_goals rfl

theorem Patient.proceed (hjob : job.Patient) (m : Moment) : (job.proceed goal m).Patient := by
  intro hbefore
  cases hpast : job.stage.isPastFlip with
  | true =>
      rw [isPastFlip_proceed hpast m] at hbefore
      cases hbefore
  | false =>
      rw [watch_proceed hpast m]
      exact hjob hpast

theorem Patient.after (hjob : job.Patient) (moments : List Moment) :
    (job.after goal moments).Patient := by
  induction moments generalizing job with
  | nil => exact hjob
  | cons m rest ih => exact ih (hjob.proceed m)

end Job

/-! ## What a moment makes of a flip -/

inductive FlipStep (goal : Goal) (m : Moment) : Flip.Run → Stage → Prop
  /-- The look at whether to give up finds that the change is called off. -/
  | givesUp (run : Flip.Run) (e : Failure) (hcancelled : m.cancelled = true)
    (hask : askOfFlip run = .flag) (hkind : e.kind = .cancelled) :
    FlipStep goal m run (.over (.error e))
  | begins (delays : List Number) (hgoing : m.cancelled = false) :
    FlipStep goal m (.due delays) (.flipping (.trying .entered delays))
  | reads (delays : List Number) (hgoing : m.cancelled = false) :
    FlipStep goal m (.trying .entered delays) (.flipping (.trying .reading delays))
  | fetches (app : App.Snapshot) (delays : List Number) (hreply : m.reply = .ok app)
    (hunwanted : app.isWanted goal.phase = false) :
    FlipStep goal m (.trying .reading delays) (.flipping (.trying (.fetched app) delays))
  | skips (app : App.Snapshot) (delays : List Number) (hreply : m.reply = .ok app)
    (hwanted : app.isWanted goal.phase = true) :
    FlipStep goal m (.trying .reading delays) (afterFlip goal (.ok app))
  | writes (app : App.Snapshot) (delays : List Number) (hgoing : m.cancelled = false) :
    FlipStep goal m (.trying (.fetched app) delays)
      (.flipping (.trying (.writing (App.retarget app.object goal.phase)) delays))
  | lands (app : App.Snapshot) (object : Members) (delays : List Number)
    (hreply : m.reply = .ok app) :
    FlipStep goal m (.trying (.writing object) delays) (afterFlip goal (.ok app))
  /-- The read or the write has lost a race, and there is a delay left. -/
  | loses (attempt : Flip.Stage) (delay : Number) (delays : List Number) (e : Failure)
    (hreply : m.reply = .error e) (hlost : Flip.isLostRace e = true) :
    FlipStep goal m (.trying attempt (delay :: delays)) (.flipping (.pausing delay delays))
  /-- The read or the write has lost a race, and no attempt is left. -/
  | runsOut (attempt : Flip.Stage) (e : Failure) (hreply : m.reply = .error e)
    (hlost : Flip.isLostRace e = true) :
    FlipStep goal m (.trying attempt []) (.over (.error (.attemptsSpent goal.plan.steps e)))
  | fails (attempt : Flip.Stage) (delays : List Number) (e : Failure)
    (hreply : m.reply = .error e) (hother : Flip.isLostRace e = false) :
    FlipStep goal m (.trying attempt delays) (.over (.error e))
  | wakes (delay : Number) (delays : List Number) (hgoing : m.cancelled = false) :
    FlipStep goal m (.pausing delay delays) (.flipping (.due delays))
  | breaksOff (delay : Number) (delays : List Number) (hcancelled : m.cancelled = true) :
    FlipStep goal m (.pausing delay delays) (.over (.error .cancelledInBackoff))
  | idles (reply : Except Failure App.Snapshot) :
    FlipStep goal m (.over reply) (.flipping (.over reply))

variable {goal : Goal} {m : Moment}

/-- A failed read or write ends the attempt. -/
theorem flipStep_of_error (attempt : Flip.Stage) (delays : List Number) {e : Failure}
    (hreply : m.reply = .error e) :
    FlipStep goal m (.trying attempt delays)
      (ofFlip goal (Flip.settle goal.plan (.trying attempt delays) (.error e))) := by
  cases hlost : Flip.isLostRace e with
  | false =>
      simp only [Flip.settle, Retry.Stage.settle, hlost]
      exact .fails attempt delays e hreply hlost
  | true =>
      cases delays with
      | nil =>
          simp only [Flip.settle, Retry.Stage.settle, hlost]
          exact .runsOut attempt e hreply hlost
      | cons delay delays =>
          simp only [Flip.settle, Retry.Stage.settle, hlost]
          exact .loses attempt delay delays e hreply hlost

theorem flipStep_proceed (goal : Goal) (m : Moment) {job : Job} {run : Flip.Run}
    (hstage : job.stage = .flipping run) :
    FlipStep goal m run (job.proceed goal m).stage := by
  unfold Job.proceed
  rw [hstage]
  cases run with
  | «over» reply =>
      simp only [Stage.ask, askOfFlip, hstage]
      exact .idles reply
  | due delays =>
      cases hcancelled : m.cancelled with
      | true => exact .givesUp _ _ hcancelled rfl rfl
      | false => exact .begins delays hcancelled
  | pausing delay delays =>
      cases hcancelled : m.cancelled with
      | true => exact .breaksOff delay delays hcancelled
      | false => exact .wakes delay delays hcancelled
  | trying attempt delays =>
      cases attempt with
      | entered =>
          cases hcancelled : m.cancelled with
          | true => exact .givesUp _ _ hcancelled rfl rfl
          | false => exact .reads delays hcancelled
      | fetched app =>
          cases hcancelled : m.cancelled with
          | true => exact .givesUp _ _ hcancelled rfl rfl
          | false => exact .writes app delays hcancelled
      | reading =>
          cases hreply : m.reply with
          | error e => exact flipStep_of_error .reading delays hreply
          | ok app =>
              simp only [Stage.ask, askOfFlip, Stage.answer, Flip.answer]
              split
              · rename_i hwanted
                exact .skips app delays hreply hwanted
              · rename_i hunwanted
                exact .fetches app delays hreply (by simpa using hunwanted)
      | writing object =>
          cases hreply : m.reply with
          | error e => exact flipStep_of_error (.writing object) delays hreply
          | ok app => exact .lands app object delays hreply

/-! ## Failures -/

namespace Suits

variable {P : Bool → Failure → Prop} (hP : Suits P) {job : Job}

include hP

/-- A job fails in no other way than it may, if the remote call that it makes is not
answered in another way. -/
theorem traced_proceed (hjob : job.Traced (P m.cancelled))
    (hreply : job.remote?.isSome = true → AttachGate.Traced (P m.cancelled) m.reply) :
    (job.proceed goal m).Traced (P m.cancelled) := by
  unfold Job.proceed
  split
  · exact ⟨hP.traced_flag hjob.stage, hjob.watch⟩
  · rename_i hask
    exact ⟨hP.traced_answer hjob.stage (hreply (by simp [Job.remote?, hask])), hjob.watch⟩
  · rename_i hask
    exact ⟨hP.traced_answer hjob.stage (hreply (by simp [Job.remote?, hask])), hjob.watch⟩
  · exact ⟨hP.traced_wake hjob.stage, hjob.watch⟩
  · rename_i hask
    split
    · apply hP.traced_watch hjob
      rename_i hlooking
      cases hcancelled : m.cancelled <;> simp [Watch.look, hlooking]
    · rename_i hpolling
      exact hP.traced_poll hjob (hreply (by simp [Job.remote?, hask, hpolling]))
    · apply hP.traced_watch hjob
      rename_i hresting
      cases hcancelled : m.cancelled <;> simp [Watch.wake, hresting]
    · rename_i hended
      exact ⟨hP.traced_deliver hjob.stage (traced_ok none) fun _ => hjob.watch hended, hjob.watch⟩
  · exact hjob

theorem traced_advance {cancelled : Bool} {c : Cluster} (hjob : job.Traced (P cancelled))
    (hreply : ∀ reply, job.reply? goal c = some reply →
      AttachGate.Traced (P cancelled) reply) :
    (job.advance goal cancelled c).1.Traced (P cancelled) := by
  rw [Job.advance_fst]
  refine hP.traced_proceed (m := ⟨cancelled, _⟩) hjob fun hremote => ?_
  rw [← Job.isSome_reply? goal job c] at hremote
  obtain ⟨reply, hsome⟩ := Option.isSome_iff_exists.mp hremote
  rw [hsome]
  exact hreply reply hsome

end Suits

end AttachGate.Change
