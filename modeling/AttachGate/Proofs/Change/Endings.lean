import AttachGate.Proofs.Change.Failures

/-!
# How changes end

A start that ends well has found an instance.  A change that nobody calls off
does not end as one that was called off, as long as the cluster does not answer
it with such a failure: whether to give up is looked at between remote calls
only, and a watch comes to its end only if it is called off.
-/

namespace AttachGate

/-! ## What a start yields -/

namespace Change

/-- A start that is over and has not failed has found an instance. -/
def Stage.Yields (phase : Phase) (s : Stage) : Prop :=
  ∀ found, s = .over (.ok found) → phase = .live → found.isSome = true

variable {goal : Goal}

theorem isSome_of_toInstance {app : App.Snapshot} {found : Option App.Instance}
    (hfound : toInstance goal app = .ok found) : found.isSome = true := by
  unfold toInstance at hfound
  split at hfound
  · cases hfound
  · cases hfound
    rfl

theorem yields_afterFlip (goal : Goal) (reply : Except Failure App.Snapshot) :
    (afterFlip goal reply).Yields goal.phase := by
  intro found hover hlive
  cases reply with
  | error e => cases hover
  | ok app =>
      simp only [afterFlip, hlive] at hover
      split at hover
      · exact isSome_of_toInstance (Stage.over.inj hover)
      · cases hover

theorem yields_ofFlip (goal : Goal) (run : Flip.Run) : (ofFlip goal run).Yields goal.phase := by
  cases run with
  | «over» reply => exact yields_afterFlip goal reply
  | _ =>
      intro found hover
      cases hover

namespace Stage

variable {s : Stage}

theorem Yields.look (hs : s.Yields goal.phase) (cancelled : Bool) :
    (s.look goal cancelled).Yields goal.phase := by
  cases s with
  | flipping run => exact yields_ofFlip goal _
  | _ => exact hs

theorem Yields.answer (hs : s.Yields goal.phase) (reply : Except Failure App.Snapshot) :
    (s.answer goal reply).Yields goal.phase := by
  cases s with
  | flipping run => exact yields_ofFlip goal _
  | _ => exact hs

theorem Yields.wake (hs : s.Yields goal.phase) (cancelled : Bool) :
    (s.wake goal cancelled).Yields goal.phase := by
  cases s with
  | flipping run => exact yields_ofFlip goal _
  | _ => exact hs

theorem Yields.deliver (hs : s.Yields goal.phase) (news : Except Failure (Option App.Snapshot)) :
    (s.deliver goal news).Yields goal.phase := by
  cases s with
  | waiting =>
      intro found hover _
      simp only [Stage.deliver] at hover
      split at hover
      · split at hover
        · exact isSome_of_toInstance (Stage.over.inj hover)
        · cases hover
      · cases hover
      · split at hover <;> cases hover
  | _ => exact hs

end Stage

theorem Job.yields_start (goal : Goal) : (Job.start goal).stage.Yields goal.phase := by
  intro found hover
  cases hover

theorem Job.yields_pull {job : Job} (hjob : job.stage.Yields goal.phase) (cancelled : Bool)
    (c : Cluster) : (job.pull goal cancelled c).stage.Yields goal.phase := by
  cases hwatch : job.watch.stage <;> simp only [Job.pull, hwatch]
  case looking => exact hjob
  case resting => exact hjob
  case ended => exact hjob.deliver _
  case polling =>
    cases c.sight goal.app with
    | error f =>
        simp only [Job.poll]
        exact hjob.deliver _
    | ok app =>
        simp only [Job.poll]
        split
        · exact hjob.deliver _
        · exact hjob

theorem Job.yields_advance {job : Job} (hjob : job.stage.Yields goal.phase) (cancelled : Bool)
    (c : Cluster) : (job.advance goal cancelled c).1.stage.Yields goal.phase := by
  unfold Job.advance
  split
  · exact hjob.look cancelled
  · exact hjob.answer _
  · exact hjob.answer _
  · exact hjob.wake cancelled
  · exact Job.yields_pull hjob cancelled c
  · exact hjob

theorem Job.yields_fail {job : Job} (hjob : job.stage.Yields goal.phase) (f : Failure) :
    (job.fail goal f).stage.Yields goal.phase := by
  unfold Job.fail
  simp only
  split
  · exact hjob.deliver _
  · exact hjob.answer _

end Change

/-! ## Failures of giving up -/

def Uncancelled {α : Type} (reply : Except Failure α) : Prop :=
  ∀ e, reply = .error e → e.isIn .cancelled = false

structure Cluster.Uncancelled (c : Cluster) : Prop where
  read : ∀ f, c.faults.read = some f → f.isIn .cancelled = false
  write : ∀ f, c.faults.write = some f → f.isIn .cancelled = false
  watch : ∀ f, c.faults.watch = some f → f.isIn .cancelled = false

theorem Cluster.Uncancelled.of_faults {c d : Cluster} (hc : c.Uncancelled)
    (hfaults : d.faults = c.faults) : d.Uncancelled :=
  ⟨hfaults ▸ hc.read, hfaults ▸ hc.write, hfaults ▸ hc.watch⟩

namespace Change

def Stage.Uncancelled : Stage → Prop
  | .flipping run => ∀ reply, run = .over reply → AttachGate.Uncancelled reply
  | .waiting => True
  | .over outcome => AttachGate.Uncancelled outcome

structure Job.Uncancelled (job : Job) : Prop where
  stage : job.stage.Uncancelled
  watch : job.watch.stage ≠ .ended

/-- Only a change that is called off fails as one. -/
def Faithful : Bool → Failure → Prop
  | true, _ => True
  | false, e => e.isIn .cancelled = false

theorem admits_faithful : Admits Faithful where
  own := by
    intro cancelled e he
    cases cancelled with
    | true => trivial
    | false =>
        simp only [ownKinds, List.mem_cons, List.not_mem_nil, or_false] at he
        rcases he with h | h | h | h | h | h <;>
          simp [Faithful, Failure.isIn, h, Kind.isIn, Kind.family?]
  calledOff := by
    intro _ _
    trivial
  superseded := by
    intro cancelled e _ _ _ hcancelled he
    cases cancelled with
    | true => trivial
    | false => simp [Faithful, hcancelled] at he
  mono := by
    intro _ _
    trivial

theorem Job.uncancelled_iff (job : Job) : job.Uncancelled ↔ job.Traced (Faithful false) := by
  have hstage : job.stage.Uncancelled ↔ job.stage.Traced (Faithful false) := by
    cases job.stage <;> rfl
  have hwatch : job.watch.stage ≠ .ended ↔
      (job.watch.stage = .ended → ∀ app, Faithful false (.stoppedWaiting app)) := by
    simp [Faithful, Failure.isIn, Failure.kind, Kind.isIn]
  constructor
  · intro hjob
    exact ⟨hstage.mp hjob.stage, hwatch.mp hjob.watch⟩
  · intro hjob
    exact ⟨hstage.mpr hjob.stage, hwatch.mpr hjob.watch⟩

end Change

end AttachGate
