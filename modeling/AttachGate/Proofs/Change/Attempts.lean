import AttachGate.Change.Job
import AttachGate.Proofs.Cluster.Writes

/-!
# Attempts at a flip

An attempt at a flip writes back what it has read, under the version that it
has read it with.  What one transition makes of a change is said once, in
`StageStep`: a flip goes through in one of two ways, since its read finds the
app wanted in the phase already, or since its write is accepted, and a change
that is called off begins no write.
-/

namespace AttachGate.Change

namespace Stage

/-- The object that the attempt under way has read. -/
def held? : Stage → Option Members
  | .flipping (.trying (.fetched app) _) => some app.object
  | .flipping (.trying (.writing object) _) => some object
  | _ => none

/-- Whether the flip is behind the change, in whatever way. -/
def isPastFlip : Stage → Bool
  | .flipping _ => false
  | _ => true

def isFlipped : Stage → Bool
  | .waiting => true
  | .over (.ok _) => true
  | _ => false

/-- A stage in which nothing has been read and the flip has not gone through. -/
structure Bare (s : Stage) : Prop where
  held : s.held? = none
  unflipped : s.isFlipped = false

variable {s : Stage}

/-- A remote call, a delay and the wait are each asked for at one kind of stage. -/
theorem of_ask (s : Stage) :
    match s.ask with
    | .read => ∃ delays, s = .flipping (.trying .reading delays)
    | .write object => ∃ delays, s = .flipping (.trying (.writing object) delays)
    | .pause delay => ∃ delays, s = .flipping (.pausing delay delays)
    | .next => s = .waiting
    | _ => True := by
  cases s with
  | flipping run =>
      cases run with
      | trying attempt delays => cases attempt <;> first | trivial | exact ⟨delays, rfl⟩
      | pausing delay delays => exact ⟨delays, rfl⟩
      | _ => trivial
  | waiting => rfl
  | «over» outcome => trivial

theorem eq_of_read (hask : s.ask = .read) :
    ∃ delays, s = .flipping (.trying .reading delays) := by
  have hs := s.of_ask
  rwa [hask] at hs

theorem eq_of_write {object : Members} (hask : s.ask = .write object) :
    ∃ delays, s = .flipping (.trying (.writing object) delays) := by
  have hs := s.of_ask
  rwa [hask] at hs

theorem eq_of_pause {delay : Number} (hask : s.ask = .pause delay) :
    ∃ delays, s = .flipping (.pausing delay delays) := by
  have hs := s.of_ask
  rwa [hask] at hs

theorem eq_of_next (hask : s.ask = .next) : s = .waiting := by
  have hs := s.of_ask
  rwa [hask] at hs

theorem held?_of_write {object : Members} (hask : s.ask = .write object) :
    s.held? = some object := by
  obtain ⟨delays, rfl⟩ := eq_of_write hask
  rfl

theorem held?_of_isPastFlip (hs : s.isPastFlip = true) : s.held? = none := by
  cases s with
  | flipping run => cases hs
  | _ => rfl

theorem isPastFlip_deliver (hs : s.isPastFlip = true) (goal : Goal)
    (news : Except Failure (Option App.Snapshot)) : (s.deliver goal news).isPastFlip = true := by
  cases s with
  | flipping run => cases hs
  | «over» outcome => rfl
  | waiting =>
      simp only [deliver]
      split
      · split <;> rfl
      · rfl
      · split <;> rfl

end Stage

theorem isPastFlip_afterFlip (goal : Goal) (reply : Except Failure App.Snapshot) :
    (afterFlip goal reply).isPastFlip = true := by
  cases reply with
  | error e => rfl
  | ok app =>
      simp only [afterFlip]
      split
      · rfl
      · split <;> rfl

theorem Job.bare_start (goal : Goal) : (Job.start goal).stage.Bare := by
  simp only [Job.start, Change.start, Flip.start, Retry.start]
  split <;> exact ⟨rfl, rfl⟩

theorem bare_settle_error (goal : Goal) (attempt : Flip.Stage) (delays : List Number)
    (e : Failure) :
    (ofFlip goal (Flip.settle goal.plan (.trying attempt delays) (.error e))).Bare := by
  simp only [Flip.settle, Retry.Stage.settle]
  split
  · cases delays <;> exact ⟨rfl, rfl⟩
  · exact ⟨rfl, rfl⟩

/-! ## Transitions -/

inductive StageStep (goal : Goal) (cancelled : Bool) (c : Cluster) (s : Stage) : Stage → Prop
  /-- An attempt begins, ends without success or is delayed. -/
  | bare {t : Stage} (hbefore : s.isPastFlip = false) (hbare : t.Bare) :
    StageStep goal cancelled c s t
  /-- The read finds another wanted phase. -/
  | fetched (app : App.Snapshot) (delays : List Number) (hask : s.ask = .read)
    (hread : c.read goal.app = .ok app) (hunwanted : app.isWanted goal.phase = false) :
    StageStep goal cancelled c s (.flipping (.trying (.fetched app) delays))
  /-- The write begins. -/
  | writing (app : App.Snapshot) (delays : List Number)
    (hbefore : s = .flipping (.trying (.fetched app) delays)) (hgoing : cancelled = false) :
    StageStep goal cancelled c s
      (.flipping (.trying (.writing (App.retarget app.object goal.phase)) delays))
  /-- The read finds the phase, and there is nothing to write. -/
  | skipped (app : App.Snapshot) (hask : s.ask = .read) (hread : c.read goal.app = .ok app)
    (hwanted : app.isWanted goal.phase = true) :
    StageStep goal cancelled c s (afterFlip goal (.ok app))
  /-- The write is accepted. -/
  | landed (app : App.Snapshot) (object : Members) (hask : s.ask = .write object)
    (hwrite : (c.write object).1 = .ok app) :
    StageStep goal cancelled c s (afterFlip goal (.ok app))
  /-- The change goes on behind its flip. -/
  | onward {t : Stage} (hbefore : s.isPastFlip = true) (hafter : t.isPastFlip = true)
    (hflipped : t.isFlipped = true → s.isFlipped = true) : StageStep goal cancelled c s t

variable {goal : Goal} {cancelled : Bool} {c : Cluster}

theorem stageStep_pull {job : Job} (hwaiting : job.stage = .waiting) :
    StageStep goal cancelled c job.stage (job.pull goal cancelled c).stage := by
  have hpast : job.stage.isPastFlip = true := by rw [hwaiting]; rfl
  refine .onward hpast ?_ fun _ => by rw [hwaiting]; rfl
  unfold Job.pull
  split
  · exact hpast
  · cases c.sight goal.app with
    | error f =>
        simp only [Job.poll]
        exact Stage.isPastFlip_deliver hpast goal _
    | ok app =>
        simp only [Job.poll]
        split
        · exact Stage.isPastFlip_deliver hpast goal _
        · exact hpast
  · exact hpast
  · exact Stage.isPastFlip_deliver hpast goal (.ok none)

theorem stageStep_advance (goal : Goal) (cancelled : Bool) (c : Cluster) (job : Job) :
    StageStep goal cancelled c job.stage (job.advance goal cancelled c).1.stage := by
  obtain ⟨stage, watch⟩ := job
  cases stage with
  | waiting => exact stageStep_pull rfl
  | «over» outcome => exact .onward rfl rfl id
  | flipping run =>
      cases run with
      | due delays => cases cancelled <;> exact .bare rfl ⟨rfl, rfl⟩
      | pausing delay delays => cases cancelled <;> exact .bare rfl ⟨rfl, rfl⟩
      | «over» reply => exact .bare rfl ⟨rfl, rfl⟩
      | trying attempt delays =>
          cases attempt with
          | entered =>
              cases cancelled with
              | true => exact .bare rfl (bare_settle_error goal .entered delays .cancelled)
              | false => exact .bare rfl ⟨rfl, rfl⟩
          | fetched app =>
              cases cancelled with
              | true => exact .bare rfl (bare_settle_error goal (.fetched app) delays .cancelled)
              | false => exact .writing app delays rfl rfl
          | reading =>
              cases hread : c.read goal.app with
              | error e =>
                  simp only [Job.advance, Stage.ask, askOfFlip, Stage.answer, Flip.answer, hread]
                  exact .bare rfl (bare_settle_error goal _ _ _)
              | ok app =>
                  cases hwanted : app.isWanted goal.phase with
                  | true =>
                      simp only [Job.advance, Stage.ask, askOfFlip, Stage.answer, Flip.answer,
                        hread, hwanted, if_true]
                      exact .skipped app rfl hread hwanted
                  | false =>
                      simp only [Job.advance, Stage.ask, askOfFlip, Stage.answer, Flip.answer,
                        hread, hwanted, Bool.false_eq_true, if_false]
                      exact .fetched app delays rfl hread hwanted
          | writing object =>
              cases hwrite : (c.write object).1 with
              | error e =>
                  simp only [Job.advance, Stage.ask, askOfFlip, Stage.answer, Flip.answer, hwrite]
                  exact .bare rfl (bare_settle_error goal _ _ _)
              | ok app =>
                  simp only [Job.advance, Stage.ask, askOfFlip, Stage.answer, Flip.answer, hwrite]
                  exact .landed app object rfl hwrite

theorem cluster_advance (goal : Goal) (cancelled : Bool) (c : Cluster) (job : Job) :
    (job.advance goal cancelled c).2 = c ∨
      ∃ object, job.stage.ask = .write object ∧
        (job.advance goal cancelled c).2 = (c.write object).2 := by
  unfold Job.advance
  split
  case h_3 object hask => exact .inr ⟨object, hask, rfl⟩
  all_goals exact .inl rfl

namespace StageStep

variable {s t : Stage}

/-- What an attempt holds it has read just now or held before, under the same
version. -/
theorem held (hstep : StageStep goal cancelled c s t) {object : Members}
    (hheld : t.held? = some object) :
    (∃ before, s.held? = some before ∧ Cluster.version object = Cluster.version before) ∨
      ∃ app, c.read goal.app = .ok app ∧ app.isWanted goal.phase = false ∧ app.object = object := by
  cases hstep with
  | bare _ hbare =>
      rw [hbare.held] at hheld
      cases hheld
  | fetched app delays _ hread hunwanted =>
      exact .inr ⟨app, hread, hunwanted, Option.some.inj hheld⟩
  | writing app delays hbefore _ =>
      cases hheld
      exact .inl ⟨app.object, by rw [hbefore]; rfl, Cluster.version_retarget _ _⟩
  | skipped app =>
      rw [Stage.held?_of_isPastFlip (isPastFlip_afterFlip goal _)] at hheld
      cases hheld
  | landed app =>
      rw [Stage.held?_of_isPastFlip (isPastFlip_afterFlip goal _)] at hheld
      cases hheld
  | onward _ hafter _ =>
      rw [Stage.held?_of_isPastFlip hafter] at hheld
      cases hheld

/-- A write begins only while the change is not called off, and is for its phase. -/
theorem write (hstep : StageStep goal cancelled c s t) {object : Members}
    (hask : t.ask = .write object) :
    cancelled = false ∧ Cluster.wantedPhase object = .text goal.phase.name := by
  have hheld := Stage.held?_of_write hask
  cases hstep with
  | bare _ hbare =>
      rw [hbare.held] at hheld
      cases hheld
  | fetched app delays => cases hask
  | writing app delays _ hgoing =>
      cases hask
      exact ⟨hgoing, Cluster.wantedPhase_retarget _ _⟩
  | skipped app =>
      rw [Stage.held?_of_isPastFlip (isPastFlip_afterFlip goal _)] at hheld
      cases hheld
  | landed app =>
      rw [Stage.held?_of_isPastFlip (isPastFlip_afterFlip goal _)] at hheld
      cases hheld
  | onward _ hafter _ =>
      rw [Stage.held?_of_isPastFlip hafter] at hheld
      cases hheld

/-- A flip that has gone through had done so before, or its read has just found
the phase, or its write has just been accepted. -/
theorem flipped (hstep : StageStep goal cancelled c s t) (ht : t.isFlipped = true) :
    s.isFlipped = true ∨
    (∃ app, s.ask = .read ∧ c.read goal.app = .ok app ∧ app.isWanted goal.phase = true) ∨
    ∃ app object, s.ask = .write object ∧ (c.write object).1 = .ok app := by
  cases hstep with
  | bare _ hbare =>
      rw [hbare.unflipped] at ht
      cases ht
  | fetched app delays => cases ht
  | writing app delays => cases ht
  | skipped app hask hread hwanted => exact .inr (.inl ⟨app, hask, hread, hwanted⟩)
  | landed app object hask hwrite => exact .inr (.inr ⟨app, object, hask, hwrite⟩)
  | onward _ _ hflipped => exact .inl (hflipped ht)

theorem pastFlip (hstep : StageStep goal cancelled c s t) (hs : s.isPastFlip = true) :
    t.isPastFlip = true := by
  have hsilent : ∀ ask, s.ask = ask → ask = .next ∨ ask = .nothing := by
    rintro ask rfl
    cases s with
    | flipping run => cases hs
    | waiting => exact .inl rfl
    | «over» outcome => exact .inr rfl
  cases hstep with
  | bare hbefore =>
      rw [hs] at hbefore
      cases hbefore
  | fetched app delays hask => rcases hsilent _ hask with h | h <;> cases h
  | writing app delays hbefore =>
      rw [hbefore] at hs
      cases hs
  | skipped app => exact isPastFlip_afterFlip goal _
  | landed app => exact isPastFlip_afterFlip goal _
  | onward _ hafter _ => exact hafter

end StageStep

theorem Job.isPastFlip_of_skipped {job : Job} (hask : job.stage.ask = .read) {app : App.Snapshot}
    (hread : c.read goal.app = .ok app) (hwanted : app.isWanted goal.phase = true) :
    (job.advance goal cancelled c).1.stage.isPastFlip = true := by
  simp only [Job.advance, hask, hread]
  obtain ⟨delays, hstage⟩ := Stage.eq_of_read hask
  simp only [hstage, Stage.answer, Flip.answer, hwanted, if_true]
  exact isPastFlip_afterFlip goal (.ok app)

theorem Job.isPastFlip_of_landed {job : Job} {object : Members}
    (hask : job.stage.ask = .write object) (hwrite : ShapeOnly (c.write object).1) :
    (job.advance goal cancelled c).1.stage.isPastFlip = true := by
  simp only [Job.advance, hask]
  obtain ⟨delays, hstage⟩ := Stage.eq_of_write hask
  rw [hstage]
  cases hreply : (c.write object).1 with
  | ok app => exact isPastFlip_afterFlip goal (.ok app)
  | error e => rcases hwrite e hreply with rfl | rfl <;> rfl

end AttachGate.Change
