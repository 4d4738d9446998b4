import AttachGate.Proofs.Change.Endings
import AttachGate.Proofs.Change.Moments
import AttachGate.Proofs.Session.Books

/-!
# The intents of a session

What a move can make of an intent is said once, in `IntentStep`: a runner takes
its own next transition, a remote call fails, or the worker calls the intent
off.  A move loses no intent, and only the worker creates one.
-/

namespace AttachGate.Session

inductive IntentStep (w : Scene) :
    Move → Intent Change.Job (Option App.Instance) → Intent Change.Job (Option App.Instance) → Prop
  | same (m : Move) (i) : IntentStep w m i i
  | begun (i) (hrunner : i.runner = .created) :
    IntentStep w (.run i.token) i
      { i with runner := .working (.start (w.session.goal i.phase)) }
  | advanced (i) (job : Change.Job) (hrunner : i.runner = .working job)
    (hgoing : job.outcome? = none) :
    IntentStep w (.run i.token) i
      { i with runner :=
          .working (job.advance (w.session.goal i.phase) i.cancelled w.cluster).1 }
  | failed (i) (job : Change.Job) (f : Failure) (hrunner : i.runner = .working job) :
    IntentStep w (.fail i.token f) i
      { i with runner := .working (job.fail (w.session.goal i.phase) f) }
  | finished (i) (job : Change.Job) (outcome : Change.Outcome) (hrunner : i.runner = .working job)
    (hover : job.outcome? = some outcome) :
    IntentStep w (.run i.token) i
      { i with runner := .returned (i.report w.session.coordinator.label outcome) }
  | cleared (i) (outcome : Change.Outcome) (hrunner : i.runner = .returned outcome) :
    IntentStep w (.run i.token) i { i with runner := .cleared outcome }
  | resolved (i) (outcome : Change.Outcome) (hrunner : i.runner = .cleared outcome) :
    IntentStep w (.run i.token) i { i with runner := .resolved outcome }
  | notified (i) (outcome : Change.Outcome) (hrunner : i.runner = .resolved outcome) :
    IntentStep w (.run i.token) i { i with runner := .notified outcome }
  | calledOff (i) (houtstanding : i.runner.isOutstanding = true) : IntentStep w .work i i.cancel

theorem IntentStep.precedes {w : Scene} {m : Move}
    {i j : Intent Change.Job (Option App.Instance)} (hstep : IntentStep w m i j) :
    i.Precedes j := by
  cases hstep with
  | same => exact .refl i
  | calledOff => exact i.precedes_cancel
  | _ =>
      refine (Intent.advances_of_runner ?_ ?_).toPrecedes <;>
        simp [Runner.progress, Runner.result?, *]

/-! ## Runners -/

/-- A runner whose work is not over takes the next transition of the work. -/
theorem run_of_going (w : Scene) {token : Nat} {i : Intent Change.Job (Option App.Instance)}
    (hi : w.session.coordinator.intent? token = some i) {job : Change.Job}
    (hrunner : i.runner = .working job) (hgoing : job.outcome? = none) :
    (w.after (.run token)).session.coordinator.intent? token = some
        { i with
          runner := .working (job.advance (w.session.goal i.phase) i.cancelled w.cluster).1 } ∧
      (w.after (.run token)).cluster =
        (job.advance (w.session.goal i.phase) i.cancelled w.cluster).2 := by
  simp only [Scene.after, run, hi, hrunner, hgoing, Coordinator.move]
  rw [Coordinator.intent?_onIntent_self hi (Intent.advances_move _)]
  simp only [Intent.move, hrunner, and_self]

theorem intentStep_run_self (w : Scene) {token : Nat}
    {i : Intent Change.Job (Option App.Instance)}
    (hi : w.session.coordinator.intent? token = some i) :
    ∃ j, (w.after (.run token)).session.coordinator.intent? token = some j ∧
      IntentStep w (.run token) i j := by
  have htoken := Coordinator.token_of_intent? hi
  subst htoken
  cases hrunner : i.runner with
  | created =>
      refine ⟨_, ?_, .begun i hrunner⟩
      simp only [Scene.after, run, hi, hrunner, Coordinator.begin]
      rw [Coordinator.intent?_onIntent_self hi (Intent.advances_begin _)]
      simp only [Intent.begin, hrunner]
  | working job =>
      cases houtcome : job.outcome? with
      | none => exact ⟨_, (run_of_going w hi hrunner houtcome).1, .advanced i job hrunner houtcome⟩
      | some outcome =>
          refine ⟨_, ?_, .finished i job outcome hrunner houtcome⟩
          simp only [Scene.after, run, hi, hrunner, houtcome, Coordinator.finish]
          rw [Coordinator.intent?_onIntent_self hi (Intent.advances_finish _ _)]
          simp only [Intent.finish, hrunner]
  | returned outcome =>
      refine ⟨_, ?_, .cleared i outcome hrunner⟩
      simp only [Scene.after, run, hi, hrunner]
      rw [Coordinator.intent?_clear_self hi (by simp [Intent.isReturned, hrunner])]
      simp only [Intent.clear, hrunner]
  | cleared outcome =>
      refine ⟨_, ?_, .resolved i outcome hrunner⟩
      simp only [Scene.after, run, hi, hrunner, Coordinator.resolve]
      rw [Coordinator.intent?_onIntent_self hi Intent.advances_resolve]
      simp only [Intent.resolve, hrunner]
  | resolved outcome =>
      refine ⟨_, ?_, .notified i outcome hrunner⟩
      simp only [Scene.after, run, hi, hrunner]
      rw [Coordinator.intent?_notify_self hi (by simp [Intent.isResolved, hrunner])]
      simp only [Intent.notify, hrunner]
  | notified outcome =>
      exact ⟨i, by simp [Scene.after, run, hi, hrunner], .same _ i⟩

/-- A runner's transition is about its own intent. -/
theorem intent?_run_of_ne (s : Session) (c : Cluster) {token other : Nat}
    (hother : other ≠ token) :
    (s.run token c).1.coordinator.intent? other = s.coordinator.intent? other := by
  cases hentry : s.coordinator.intent? token with
  | none => simp only [run, hentry]
  | some i =>
      cases hrunner : i.runner with
      | created =>
          simp only [run, hentry, hrunner]
          exact Coordinator.intent?_onIntent_of_ne _ hother (Intent.advances_begin _)
      | working job =>
          cases houtcome : job.outcome? with
          | none =>
              simp only [run, hentry, hrunner, houtcome]
              exact Coordinator.intent?_onIntent_of_ne _ hother (Intent.advances_move _)
          | some outcome =>
              simp only [run, hentry, hrunner, houtcome]
              exact Coordinator.intent?_onIntent_of_ne _ hother (Intent.advances_finish _ _)
      | returned outcome =>
          simp only [run, hentry, hrunner]
          exact Coordinator.intent?_clear_of_ne _ hother
      | cleared outcome =>
          simp only [run, hentry, hrunner]
          exact Coordinator.intent?_onIntent_of_ne _ hother Intent.advances_resolve
      | resolved outcome =>
          simp only [run, hentry, hrunner]
          exact Coordinator.intent?_notify_of_ne _ hother
      | notified outcome => simp only [run, hentry, hrunner]

theorem intentStep_run (w : Scene) (token : Nat) {other : Nat}
    {i : Intent Change.Job (Option App.Instance)}
    (hi : w.session.coordinator.intent? other = some i) :
    ∃ j, (w.after (.run token)).session.coordinator.intent? other = some j ∧
      IntentStep w (.run token) i j := by
  by_cases hother : other = token
  · subst hother
    exact intentStep_run_self w hi
  · exact ⟨i, (intent?_run_of_ne w.session w.cluster hother).trans hi, .same _ i⟩

theorem intentStep_fail (w : Scene) (token : Nat) (f : Failure) {other : Nat}
    {i : Intent Change.Job (Option App.Instance)}
    (hi : w.session.coordinator.intent? other = some i) :
    ∃ j, (w.after (.fail token f)).session.coordinator.intent? other = some j ∧
      IntentStep w (.fail token f) i j := by
  cases hentry : w.session.coordinator.intent? token with
  | none => exact ⟨i, by simp [Scene.after, fail, hentry, hi], .same _ i⟩
  | some k =>
      simp only [Scene.after, fail, hentry, Coordinator.move]
      by_cases hother : other = token
      · subst hother
        rw [hi] at hentry
        cases hentry
        rw [Coordinator.intent?_onIntent_self hi (Intent.advances_move _)]
        have htoken := Coordinator.token_of_intent? hi
        subst htoken
        cases hrunner : i.runner with
        | working job =>
            exact ⟨_, rfl, by
              simpa only [Intent.move, hrunner] using IntentStep.failed i job f hrunner⟩
        | _ => exact ⟨i, by simp only [Intent.move, hrunner], .same _ i⟩
      · rw [Coordinator.intent?_onIntent_of_ne _ hother (Intent.advances_move _)]
        exact ⟨i, hi, .same _ i⟩

/-! ## The worker -/

theorem coordinator_serve {s : Session} (hs : s.Consistent) (errand : Errand) :
    (s.serve errand).2.coordinator = s.coordinator ∨
      ∃ phase, (s.serve errand).2.coordinator = (s.coordinator.supersede phase).2 := by
  cases errand with
  | attach timeout =>
      rcases hs.attach_cases with ⟨_, _, _, _, _, _, hattach⟩ | ⟨_, _, _, _, _, _, hattach⟩ |
          ⟨_, _, hattach⟩
      · exact .inl (by simp [serve, hattach])
      · exact .inl (by simp [serve, hattach])
      · exact .inr ⟨.live, by simp [serve, hattach, begun]⟩
  | detach =>
      rcases hs.detach_cases with ⟨_, hdetach⟩ | ⟨_, hdetach⟩ | ⟨_, _, hdetach⟩
      · exact .inl (by simp [serve, hdetach])
      · exact .inr ⟨.rest, by simp [serve, hdetach, begun]⟩
      · exact .inl (by simp [serve, hdetach])

theorem coordinator_work {w : Scene} (hw : w.session.Consistent) :
    w.session.work.coordinator = w.session.coordinator ∨
      ∃ phase, w.session.work.coordinator = (w.session.coordinator.supersede phase).2 := by
  rcases work_cases w with ⟨_, _, _, _, _, hwork⟩ | ⟨token, _, _, _, _, hwork⟩ |
      ⟨_, c, _, _, _, _, hwork⟩
  · exact .inl (by rw [hwork])
  · obtain ⟨kept, hkept⟩ := w.session.changed_eq token
    exact .inl (by rw [hwork, hkept])
  · rw [hwork]
    exact coordinator_serve hw c.errand

theorem intentStep_work {w : Scene} (hw : w.session.Consistent) {token : Nat}
    {i : Intent Change.Job (Option App.Instance)}
    (hi : w.session.coordinator.intent? token = some i) :
    ∃ j, (w.after .work).session.coordinator.intent? token = some j ∧ IntentStep w .work i j := by
  rcases coordinator_work hw with hkeeps | ⟨phase, hnew⟩
  · exact ⟨i, by simp only [Scene.after, hkeeps, hi], .same _ i⟩
  · have hj := hw.orderly.intent?_supersede phase hi
    rw [← hnew] at hj
    rcases hw.orderly.calledOff_cases hi with hsame | ⟨hcancel, _, houtstanding⟩
    · exact ⟨i, by rw [hsame] at hj; exact hj, .same _ i⟩
    · exact ⟨i.cancel, by rw [hcancel] at hj; exact hj, .calledOff i houtstanding⟩

/-! ## Any move -/

/-- No move loses an intent. -/
theorem intent?_after {w : Scene} (hw : w.session.Consistent) (m : Move) {token : Nat}
    {i : Intent Change.Job (Option App.Instance)}
    (hi : w.session.coordinator.intent? token = some i) :
    ∃ j, (w.after m).session.coordinator.intent? token = some j ∧ IntentStep w m i j := by
  cases m with
  | run other => exact intentStep_run w other hi
  | fail other f => exact intentStep_fail w other f hi
  | work => exact intentStep_work hw hi
  | _ => exact ⟨i, hi, .same _ i⟩

/-- What a scene says of an intent stays true of it. -/
theorem Run.precedes {rule : History → Scene → Move → Prop} {b w : Scene} {since : History}
    (hrun : Run rule b since w) (hb : b.session.Consistent) {token : Nat}
    {i : Intent Change.Job (Option App.Instance)}
    (hi : b.session.coordinator.intent? token = some i) :
    ∃ j, w.session.coordinator.intent? token = some j ∧ i.Precedes j := by
  apply hrun.invariant_of_consistent (I := fun w =>
    ∃ j, w.session.coordinator.intent? token = some j ∧ i.Precedes j) hb
  · exact ⟨i, hi, .refl i⟩
  · rintro _ v m _ hv ⟨j, hj, hij⟩
    obtain ⟨k, hk, hstep⟩ := intent?_after hv m hj
    exact ⟨k, hk, hij.trans hstep.precedes⟩

/-- Only the worker creates intents, one at a time. -/
theorem length_intents_after {w : Scene} (hw : w.session.Consistent) (m : Move) :
    (w.after m).session.coordinator.intents.length = w.session.coordinator.intents.length ∨
      m = .work ∧ ∃ phase, (w.after m).session.coordinator =
        (w.session.coordinator.supersede phase).2 := by
  by_cases hm : m = .work
  · subst hm
    rcases coordinator_work hw with hkeeps | hnew
    · exact .inl (by simp only [Scene.after, hkeeps])
    · exact .inr ⟨rfl, hnew⟩
  · left
    rcases (sameBooks_after w hm).coordinator with hkeeps | ⟨e, he, hafter⟩
    · rw [hkeeps]
    · obtain ⟨g, _, hintents⟩ := w.session.coordinator.intents_after_of_not_request he
      rw [hafter, hintents, List.length_map]

theorem Run.length_le {rule : History → Scene → Move → Prop} {b w : Scene} {since : History}
    (hrun : Run rule b since w) (hb : b.session.Consistent) :
    b.session.coordinator.intents.length ≤ w.session.coordinator.intents.length := by
  apply hrun.invariant_of_consistent (I := fun v =>
    b.session.coordinator.intents.length ≤ v.session.coordinator.intents.length) hb
  · exact Nat.le_refl _
  · intro _ v m _ hv hle
    rcases length_intents_after hv m with hsame | ⟨_, phase, hnew⟩
    · omega
    · rw [hnew, Coordinator.length_supersede]
      omega

/-- The newest intent of the last scene has been the newest ever since. -/
theorem Run.reign {rule : History → Scene → Move → Prop} {b w : Scene} {since : History}
    (hrun : Run rule b since w) (hb : b.session.Consistent)
    (hlength : w.session.coordinator.intents.length = b.session.coordinator.intents.length)
    (v : Scene) (m : Move) (hmem : (v, m) ∈ since) :
    (v.after m).session.coordinator.intents.length = b.session.coordinator.intents.length := by
  obtain ⟨earlier, later, _, hearlier, _, hlater⟩ := hrun.split hmem
  have hv : v.session.Consistent :=
    hearlier.invariant (I := fun v => v.session.Consistent) hb fun _ _ m _ hv => hv.after m
  have hfirst := hearlier.length_le hb
  have hlast := hlater.length_le (hv.after m)
  rcases length_intents_after hv m with hsame | ⟨_, phase, hnew⟩
  · omega
  · rw [hnew, Coordinator.length_supersede] at hlast
    omega

/-- Every intent that a move leaves was there before or has just been created. -/
theorem intent?_before {w : Scene} (hw : w.session.Consistent) (m : Move) {token : Nat}
    {j : Intent Change.Job (Option App.Instance)}
    (hj : (w.after m).session.coordinator.intent? token = some j) :
    (∃ i, w.session.coordinator.intent? token = some i ∧ IntentStep w m i j) ∨
      w.session.coordinator.intent? token = none ∧ m = .work ∧
        ∃ phase, j = Intent.create token phase := by
  have hw' := hw.after m
  cases hi : w.session.coordinator.intent? token with
  | some i =>
      left
      obtain ⟨k, hk, hstep⟩ := intent?_after hw m hi
      rw [hk] at hj
      cases hj
      exact ⟨i, rfl, hstep⟩
  | none =>
      right
      have hmem := Coordinator.mem_of_intent? hj
      have htoken := Coordinator.token_of_intent? hj
      have hbound := hw'.orderly.numbered.token_le hmem
      have hnew : w.session.coordinator.intents.length < token := by
        by_cases hold : token ≤ w.session.coordinator.intents.length
        · have hsome := hw.orderly.numbered.intent?_succ (token - 1)
          rw [Nat.sub_add_cancel (by omega), hi, eq_comm, List.getElem?_eq_none_iff] at hsome
          omega
        · omega
      rcases length_intents_after hw m with hlength | ⟨hm, phase, hsupersede⟩
      · omega
      · refine ⟨rfl, hm, phase, ?_⟩
        have hlength := Coordinator.length_supersede w.session.coordinator phase
        rw [← hsupersede] at hlength
        have hlatest := hw'.orderly.numbered.latest?_of_token hmem (by omega)
        rw [hsupersede, Coordinator.latest?_supersede, Option.some.injEq] at hlatest
        rw [← hlatest]
        congr 1
        omega

/-- What every new intent has and every step of an intent keeps, all intents have. -/
theorem forall_intents_after {P Q : Intent Change.Job (Option App.Instance) → Prop} {w : Scene}
    (hw : w.session.Consistent) (m : Move) (hall : ∀ i ∈ w.session.coordinator.intents, P i)
    (hnew : ∀ token phase, Q (.create token phase))
    (hstep : ∀ i j, i ∈ w.session.coordinator.intents → IntentStep w m i j → P i → Q j) :
    ∀ j ∈ (w.after m).session.coordinator.intents, Q j := by
  intro j hmem
  have hj := (hw.after m).orderly.numbered.intent?_token hmem
  rcases intent?_before hw m hj with ⟨i, hi, hij⟩ | ⟨_, _, phase, hcreated⟩
  · have hmem := Coordinator.mem_of_intent? hi
    exact hstep i j hmem hij (hall i hmem)
  · rw [hcreated]
    exact hnew _ _

/-! ## What intents yield -/

/-- A start that has come to its end without failing has found an instance. -/
structure Yields (i : Intent Change.Job (Option App.Instance)) : Prop where
  work : ∀ job, i.runner = .working job → job.stage.Yields i.phase
  result : ∀ found, i.runner.result? = some (.ok found) → i.phase = .live → found.isSome = true

theorem yields_create (token : Nat) (phase : Phase) : Yields (.create token phase) := by
  constructor <;> simp [Intent.create, Runner.result?]

theorem IntentStep.yields {w : Scene} {m : Move}
    {i j : Intent Change.Job (Option App.Instance)} (hstep : IntentStep w m i j)
    (hi : Yields i) : Yields j := by
  have hover : ∀ outcome : Change.Outcome, i.runner.result? = some outcome →
      ∀ r : Runner Change.Job (Option App.Instance), r.result? = some outcome →
        (∀ job, r ≠ .working job) → Yields { i with runner := r } := by
    intro outcome houtcome r hr hidle
    constructor
    · intro job hjob
      exact (hidle job hjob).elim
    · intro found hfound
      exact hi.result found (houtcome.trans (hr.symm.trans hfound))
  cases hstep with
  | same => exact hi
  | calledOff => exact ⟨hi.work, hi.result⟩
  | begun _ hrunner =>
      refine ⟨?_, by simp [Runner.result?]⟩
      rintro job ⟨⟩
      exact Change.Job.yields_start _
  | advanced _ job hrunner hgoing =>
      refine ⟨?_, by simp [Runner.result?]⟩
      rintro next ⟨⟩
      have hjob : job.stage.Yields (w.session.goal i.phase).phase := hi.work job hrunner
      exact Change.Job.yields_advance hjob _ _
  | failed _ job f hrunner =>
      refine ⟨?_, by simp [Runner.result?]⟩
      rintro next ⟨⟩
      have hjob : job.stage.Yields (w.session.goal i.phase).phase := hi.work job hrunner
      exact Change.Job.yields_fail hjob f
  | finished _ job outcome hrunner hended =>
      refine ⟨by simp, ?_⟩
      intro found hfound hlive
      cases outcome with
      | error e => simp [Runner.result?, Intent.report] at hfound
      | ok yielded =>
          simp only [Runner.result?, Intent.report, Option.some.injEq, Except.ok.injEq] at hfound
          subst hfound
          apply hi.work job hrunner _ _ hlive
          unfold Change.Job.outcome? at hended
          split at hended
          · rename_i hstage
            rw [hstage, Option.some.inj hended]
          · cases hended
  | cleared _ outcome hrunner =>
      exact hover outcome (by simp [hrunner, Runner.result?]) _ rfl (by simp)
  | resolved _ outcome hrunner =>
      exact hover outcome (by simp [hrunner, Runner.result?]) _ rfl (by simp)
  | notified _ outcome hrunner =>
      exact hover outcome (by simp [hrunner, Runner.result?]) _ rfl (by simp)

/-! ## How intents fail -/

/-- An intent that fails in no other way. -/
structure Traced (P : Bool → Failure → Prop) (i : Intent Change.Job (Option App.Instance)) :
    Prop where
  work : ∀ job, i.runner = .working job → job.Traced (P i.cancelled)
  result : ∀ outcome, i.runner.result? = some outcome →
    AttachGate.Traced (P i.cancelled) outcome

theorem traced_create (P : Bool → Failure → Prop) (token : Nat) (phase : Phase) :
    Traced P (.create token phase) := by
  constructor <;> simp [Intent.create, Runner.result?]

def Move.FailsAs (Q : Failure → Prop) : Move → Prop
  | .fail _ f => Q f
  | .elsewhere cluster => cluster.FailsAs Q
  | _ => True

/-- The faults of the cluster are not a session's to change. -/
theorem faults_after (w : Scene) {m : Move} (hm : ∀ cluster, m ≠ .elsewhere cluster) :
    (w.after m).cluster.faults = w.cluster.faults := by
  cases m with
  | elsewhere cluster => exact (hm cluster rfl).elim
  | run token =>
      simp only [Scene.after, run]
      split
      · rfl
      · split
        · rfl
        · split
          · rfl
          · exact Change.Job.faults_advance _ _ _ _
        · rfl
        · rfl
        · rfl
        · rfl
  | _ => rfl

theorem Move.FailsAs.after {Q : Failure → Prop} {w : Scene} {m : Move} (hm : m.FailsAs Q)
    (hw : w.cluster.FailsAs Q) : (w.after m).cluster.FailsAs Q := by
  cases m with
  | elsewhere cluster => exact hm
  | _ => exact hw.of_faults (faults_after w nofun)

def Scene.reply? (w : Scene) : Move → Option (Except Failure App.Snapshot)
  | .run token => do
    let i ← w.session.coordinator.intent? token
    let job ← i.work?
    job.reply? (w.session.goal i.phase) w.cluster
  | .fail _ f => some (.error f)
  | _ => none

section Suits

variable {P : Bool → Failure → Prop} (hP : Change.Suits P)

include hP

theorem traced_report {i : Intent Change.Job (Option App.Instance)} (label : Text)
    {outcome : Change.Outcome} (houtcome : AttachGate.Traced (P i.cancelled) outcome) :
    AttachGate.Traced (P i.cancelled) (i.report label outcome) := by
  cases outcome with
  | ok found => exact traced_ok _
  | error e =>
      have he := houtcome e rfl
      apply traced_error
      split
      · rename_i hcancelled
        exact hP.superseded _ _ _ _ _ hcancelled he
      · exact he

/-- An intent fails in no other way than it may, if the remote call that it is at is
not answered in another way. -/
theorem IntentStep.traced_of_reply {w : Scene} {m : Move}
    {i j : Intent Change.Job (Option App.Instance)} (hstep : IntentStep w m i j)
    (hreply : ∀ job reply, m = .run i.token → i.runner = .working job →
      job.reply? (w.session.goal i.phase) w.cluster = some reply →
        AttachGate.Traced (P i.cancelled) reply)
    (hfail : ∀ f, m = .fail i.token f → P i.cancelled f) (hi : Traced P i) : Traced P j := by
  have hover : ∀ outcome : Change.Outcome, i.runner.result? = some outcome →
      ∀ r : Runner Change.Job (Option App.Instance), r.result? = some outcome →
        (∀ job, r ≠ .working job) → Traced P { i with runner := r } := by
    intro outcome houtcome r hr hidle
    constructor
    · intro job hjob
      exact (hidle job hjob).elim
    · intro other hother
      exact hi.result other (houtcome.trans (hr.symm.trans hother))
  have hworking : ∀ job : Change.Job, job.Traced (P i.cancelled) →
      Traced P { i with runner := .working job } := by
    intro job hjob
    refine ⟨?_, by simp [Runner.result?]⟩
    rintro next ⟨⟩
    exact hjob
  cases hstep with
  | same => exact hi
  | calledOff =>
      have hmono : ∀ e, P i.cancelled e → P true e := by
        cases i.cancelled with
        | true => exact fun _ he => he
        | false => exact hP.mono
      constructor
      · intro job hjob
        exact (hi.work job hjob).mono hmono
      · intro outcome houtcome
        exact (hi.result outcome houtcome).mono hmono
  | begun _ hrunner => exact hworking _ (hP.traced_start _)
  | advanced _ job hrunner hgoing =>
      apply hworking
      apply hP.traced_advance (hi.work job hrunner)
      intro reply
      exact hreply job reply rfl hrunner
  | failed _ job f hrunner =>
      exact hworking _ (hP.traced_fail (hi.work job hrunner) (hfail f rfl))
  | finished _ job outcome hrunner hended =>
      refine ⟨by simp, ?_⟩
      intro other hother
      simp only [Runner.result?, Option.some.injEq] at hother
      subst hother
      apply traced_report hP
      have hstage := (hi.work job hrunner).stage
      unfold Change.Job.outcome? at hended
      split at hended
      · rename_i hover
        rw [hover] at hstage
        exact Option.some.inj hended ▸ hstage
      · cases hended
  | cleared _ outcome hrunner =>
      exact hover outcome (by simp [hrunner, Runner.result?]) _ rfl (by simp)
  | resolved _ outcome hrunner =>
      exact hover outcome (by simp [hrunner, Runner.result?]) _ rfl (by simp)
  | notified _ outcome hrunner =>
      exact hover outcome (by simp [hrunner, Runner.result?]) _ rfl (by simp)

/-- No change of a session fails in another way, if no remote call is answered so. -/
theorem traced_after_of_reply {w : Scene} (hw : w.session.Consistent) {m : Move}
    (hreply : ∀ f, w.reply? m = some (.error f) → P false f)
    (hall : ∀ i ∈ w.session.coordinator.intents, Traced P i) :
    ∀ i ∈ (w.after m).session.coordinator.intents, Traced P i := by
  apply forall_intents_after (Q := Traced P) hw m hall
  · exact traced_create P
  · intro i j hmem hstep hi
    apply hstep.traced_of_reply hP _ _ hi
    · rintro job reply rfl hrunner hanswer f rfl
      have hintent := hw.orderly.numbered.intent?_token hmem
      apply hP.of_false (hreply f _)
      simp [Scene.reply?, hintent, Intent.work?, hrunner, hanswer]
    · rintro f rfl
      exact hP.of_false (hreply f rfl) i.cancelled

end Suits

variable {P : Bool → Failure → Prop} (hP : Change.Admits P)

include hP

theorem IntentStep.traced {w : Scene} {m : Move}
    {i j : Intent Change.Job (Option App.Instance)} (hstep : IntentStep w m i j)
    (hw : w.cluster.FailsAs (P false)) (hm : m.FailsAs (P false)) (hi : Traced P i) :
    Traced P j := by
  apply hstep.traced_of_reply hP.suits _ _ hi
  · intro job reply _ _ hreply
    exact hP.traced_reply hw hreply
  · rintro f rfl
    exact hP.suits.of_false hm i.cancelled

/-- No change of a session fails in another way, if its moves bring no other failure in. -/
theorem traced_after {w : Scene} (hw : w.session.Consistent) {m : Move}
    (hcluster : w.cluster.FailsAs (P false)) (hm : m.FailsAs (P false))
    (hall : ∀ i ∈ w.session.coordinator.intents, Traced P i) :
    ∀ i ∈ (w.after m).session.coordinator.intents, Traced P i := by
  apply forall_intents_after (Q := Traced P) hw m hall
  · exact traced_create P
  · intro i j _ hstep hi
    exact hstep.traced hP hcluster hm hi

omit hP

/-! ## Intents that are not called off -/

/-- An intent that was never called off does not end as if it had been. -/
structure Undisturbed (i : Intent Change.Job (Option App.Instance)) : Prop where
  work : i.cancelled = false → ∀ job, i.runner = .working job → job.Uncancelled
  result : i.cancelled = false → ∀ outcome, i.runner.result? = some outcome →
    AttachGate.Uncancelled outcome

theorem undisturbed_create (token : Nat) (phase : Phase) : Undisturbed (.create token phase) := by
  constructor <;> simp [Intent.create, Runner.result?]

def Move.IsCalm : Move → Prop
  | .fail _ f => f.isIn .cancelled = false
  | .elsewhere cluster => cluster.Uncancelled
  | _ => True

theorem uncancelled_after {w : Scene} {m : Move} (hw : w.cluster.Uncancelled) (hm : m.IsCalm) :
    (w.after m).cluster.Uncancelled := by
  cases m with
  | elsewhere cluster => exact hm
  | _ => exact hw.of_faults (faults_after w nofun)

theorem undisturbed_iff (i : Intent Change.Job (Option App.Instance)) :
    Undisturbed i ↔ (i.cancelled = false → Traced Change.Faithful i) := by
  constructor
  · intro hi hkept
    constructor
    · intro job hjob
      rw [hkept, ← Change.Job.uncancelled_iff]
      exact hi.work hkept job hjob
    · intro outcome houtcome
      rw [hkept]
      exact hi.result hkept outcome houtcome
  · intro hi
    constructor
    · intro hkept job hjob
      have htraced := (hi hkept).work job hjob
      rwa [hkept, ← Change.Job.uncancelled_iff] at htraced
    · intro hkept outcome houtcome
      have htraced := (hi hkept).result outcome houtcome
      rwa [hkept] at htraced

theorem IntentStep.undisturbed {w : Scene} {m : Move}
    {i j : Intent Change.Job (Option App.Instance)} (hstep : IntentStep w m i j)
    (hw : w.cluster.Uncancelled) (hm : m.IsCalm) (hi : Undisturbed i) : Undisturbed j := by
  rw [undisturbed_iff] at hi ⊢
  intro hkept
  have hbefore : i.cancelled = false := by
    cases hcancelled : i.cancelled with
    | false => rfl
    | true => rw [hstep.precedes.cancelled hcancelled] at hkept; cases hkept
  have hcalm : m.FailsAs (Change.Faithful false) := by
    cases m with
    | elsewhere cluster => exact ⟨hm.read, hm.write, hm.watch⟩
    | _ => exact hm
  exact hstep.traced Change.admits_faithful ⟨hw.read, hw.write, hw.watch⟩ hcalm (hi hbefore)

end AttachGate.Session
