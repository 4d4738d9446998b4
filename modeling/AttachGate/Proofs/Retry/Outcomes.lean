import AttachGate.Proofs.Retry.Delays
import AttachGate.Retry.Trial
import AttachGate.Retry.Wait

/-!
# How a retry comes out

A retry has one attempt more than it has delays.  It goes from one attempt to the
next, over the delay between them, for as long as attempts fail in a way that is
tried again; so the first attempt that does not settles it, and if there is none the
attempts are spent.  It looks at whether it is called off before each attempt and in
each delay, and nowhere else: a call that comes in the middle of an attempt does not
undo what the attempt has come to.  A delay that cannot be waited ends it, and so do
delays that cannot be reckoned, before the first attempt.
-/

namespace AttachGate

namespace Retry

variable {α : Type}

namespace Surroundings

/-- What an attempt fails with, if the retry goes on behind it. -/
def lost? (env : Surroundings α) (k : Nat) : Option Failure :=
  match (env.attempt k).outcome with
  | .error e => if env.retriable e then some e else none
  | .ok _ => none

def hears (env : Surroundings α) (cancelled : Bool) : Bool := env.listens && cancelled

def CanWait (env : Surroundings α) (delays : List Number) : Prop :=
  ∀ delay ∈ delays, env.refuses delay = none

theorem refusal?_of_hears {env : Surroundings α} {cancelled : Bool}
    (hheard : env.hears cancelled = true) (delay : Number) :
    env.refusal? cancelled delay = none :=
  if_pos hheard

theorem refusal?_of_not_hears {env : Surroundings α} {cancelled : Bool}
    (hgoing : env.hears cancelled = false) (delay : Number) :
    env.refusal? cancelled delay = env.refuses delay := by
  have hgoes : (env.listens && cancelled) = false := hgoing
  rw [refusal?, hgoes]
  rfl

theorem CanWait.concat {env : Surroundings α} {delays : List Number} {k : Nat}
    (hwaited : env.CanWait (delays.take k)) (hk : k < delays.length)
    (hlast : env.refuses delays[k] = none) : env.CanWait (delays.take (k + 1)) := by
  rw [← List.take_append_getElem hk]
  intro delay hmem
  rcases List.mem_append.mp hmem with hmem | hmem
  · exact hwaited delay hmem
  · rw [List.mem_singleton.mp hmem]
    exact hlast

theorem CanWait.le_of_refused {env : Surroundings α} {delays : List Number} {j k : Nat}
    (hwaited : env.CanWait (delays.take k)) {hj : j < delays.length} {fault : Failure}
    (hrefused : env.refuses delays[j] = some fault) : k ≤ j := by
  apply Nat.le_of_not_lt
  intro hjk
  rw [hwaited _ (List.mem_take_iff_getElem.mpr ⟨j, by omega, rfl⟩)] at hrefused
  cases hrefused

end Surroundings

theorem settle_of_settled {env : Surroundings α} {k : Nat} (hsettled : env.lost? k = none)
    (delays : List Number) :
    (Stage.trying () delays).settle env.steps env.retriable (env.attempt k).outcome =
      .over (env.attempt k).outcome := by
  unfold Surroundings.lost? at hsettled
  cases houtcome : (env.attempt k).outcome with
  | ok a => rfl
  | error e =>
      rw [houtcome] at hsettled
      have hother : env.retriable e = false := by simpa using hsettled
      simp [Stage.settle, hother]

theorem settle_of_lost {env : Surroundings α} {k : Nat} {e : Failure}
    (hlost : env.lost? k = some e) (delays : List Number) :
    (Stage.trying () delays).settle env.steps env.retriable (env.attempt k).outcome =
      match delays with
      | delay :: rest => .pausing delay rest
      | [] => .over (.error (.attemptsSpent env.steps e)) := by
  unfold Surroundings.lost? at hlost
  cases houtcome : (env.attempt k).outcome with
  | ok a =>
      rw [houtcome] at hlost
      cases hlost
  | error f =>
      rw [houtcome] at hlost
      obtain ⟨hretriable, rfl⟩ : env.retriable f = true ∧ f = e := by simpa using hlost
      cases delays <;> simp [Stage.settle, hretriable]

namespace Trial

/-! ## Runs -/

/-- A retry after so many steps. -/
def course (env : Surroundings α) (delays : List Number) (cancelled : Bool) (n : Nat) : Trial α :=
  iterate env n (initial env delays cancelled)

theorem iterate_succ_last (env : Surroundings α) (n : Nat) (t : Trial α) :
    iterate env (n + 1) t = step env (iterate env n t) := by
  induction n generalizing t with
  | zero => rfl
  | succ n ih => exact ih (step env t)

theorem course_succ (env : Surroundings α) (delays : List Number) (cancelled : Bool) (n : Nat) :
    course env delays cancelled (n + 1) = step env (course env delays cancelled n) :=
  iterate_succ_last env n _

/-- A retry that is over goes on no more. -/
theorem course_of_over {env : Surroundings α} {delays : List Number} {cancelled : Bool} {n : Nat}
    {outcome : Except Failure α} (hover : (course env delays cancelled n).stage = .over outcome)
    {m : Nat} (hm : n ≤ m) : course env delays cancelled m = course env delays cancelled n := by
  induction hm with
  | refl => rfl
  | @step m _ ih =>
      rw [course_succ, ih]
      simp [step, hover]

def stepsLeft : Stage Unit α → Nat
  | .due delays => 3 * delays.length + 2
  | .trying _ delays => 3 * delays.length + 1
  | .pausing _ delays => 3 * delays.length + 3
  | .over _ => 0

theorem stepsLeft_step (env : Surroundings α) (t : Trial α) :
    stepsLeft (step env t).stage ≤ stepsLeft t.stage - 1 := by
  obtain ⟨stage, cancelled, attempts, waits⟩ := t
  cases stage with
  | due delays =>
      simp only [step, Stage.look]
      split <;> simp [stepsLeft]
  | trying attempt delays =>
      simp only [step]
      cases hlost : env.lost? attempts with
      | none =>
          rw [settle_of_settled hlost]
          simp [stepsLeft]
      | some e =>
          rw [settle_of_lost hlost]
          cases delays <;> simp [stepsLeft]
          omega
  | pausing delay delays =>
      simp only [step]
      cases env.refusal? cancelled delay with
      | some fault => simp [Stage.refuse, stepsLeft]
      | none =>
          simp only [Stage.wake]
          split <;> simp [stepsLeft]
  | «over» outcome => simp [step, stepsLeft]

/-- A retry is over within the steps that it is given. -/
theorem over_of_runOn (env : Surroundings α) (delays : List Number) (cancelled : Bool) :
    ∃ outcome, (runOn env delays cancelled).stage = .over outcome := by
  have hfew : ∀ n, stepsLeft (course env delays cancelled n).stage ≤
      3 * (delays.length + 1) - n := by
    intro n
    induction n with
    | zero =>
        simp only [course, iterate, initial, start]
        split <;> simp [stepsLeft]
        omega
    | succ n ih =>
        have hstep := stepsLeft_step env (course env delays cancelled n)
        rw [course_succ]
        omega
  have hnone := hfew (3 * (delays.length + 1))
  rw [Nat.sub_self] at hnone
  change ∃ outcome, (course env delays cancelled (3 * (delays.length + 1))).stage = _
  cases hstage : (course env delays cancelled (3 * (delays.length + 1))).stage with
  | «over» outcome => exact ⟨outcome, rfl⟩
  | _ => simp [hstage, stepsLeft] at hnone

/-- Wherever a run is over, that is how it comes out. -/
theorem runOn_eq_course {env : Surroundings α} {delays : List Number} {cancelled : Bool} {n : Nat}
    {outcome : Except Failure α} (hover : (course env delays cancelled n).stage = .over outcome) :
    runOn env delays cancelled = course env delays cancelled n := by
  obtain ⟨last, hlast⟩ := over_of_runOn env delays cancelled
  rcases Nat.le_total n (3 * (delays.length + 1)) with hle | hle
  · exact course_of_over hover hle
  · exact (course_of_over hlast hle).symm

/-! ## Where a retry stands -/

def AllLost (env : Surroundings α) (k : Nat) : Prop := ∀ i < k, (env.lost? i).isSome = true

/-- Where a retry with an attempt more than it has delays can stand, and how it has
come there. -/
inductive Stands (env : Surroundings α) (delays : List Number) : Trial α → Prop
  | due (k : Nat) (cancelled : Bool) (hk : k ≤ delays.length) (hlost : AllLost env k)
    (hwaited : env.CanWait (delays.take k)) (hgoing : k = 0 ∨ env.hears cancelled = false) :
    Stands env delays ⟨.due (delays.drop k), cancelled, k, delays.take k⟩
  | trying (k : Nat) (cancelled : Bool) (hk : k ≤ delays.length) (hlost : AllLost env k)
    (hwaited : env.CanWait (delays.take k)) (hgoing : env.hears cancelled = false) :
    Stands env delays ⟨.trying () (delays.drop k), cancelled, k, delays.take k⟩
  | pausing (k : Nat) (cancelled : Bool) (hk : k < delays.length)
    (hlost : AllLost env (k + 1)) (hwaited : env.CanWait (delays.take k)) :
    Stands env delays
      ⟨.pausing delays[k] (delays.drop (k + 1)), cancelled, k + 1, delays.take k⟩
  | settled (k : Nat) (cancelled : Bool) (hk : k ≤ delays.length) (hlost : AllLost env k)
    (hwaited : env.CanWait (delays.take k)) (hsettled : env.lost? k = none) :
    Stands env delays ⟨.over (env.attempt k).outcome, cancelled, k + 1, delays.take k⟩
  | spent (cancelled : Bool) (e : Failure) (hlost : AllLost env delays.length)
    (hwaited : env.CanWait delays) (hlast : env.lost? delays.length = some e) :
    Stands env delays
      ⟨.over (.error (.attemptsSpent env.steps e)), cancelled, delays.length + 1, delays⟩
  | refused (k : Nat) (cancelled : Bool) (fault : Failure) (hk : k < delays.length)
    (hlost : AllLost env (k + 1)) (hwaited : env.CanWait (delays.take k))
    (hrefused : env.refuses delays[k] = some fault) :
    Stands env delays ⟨.over (.error fault), cancelled, k + 1, delays.take k⟩
  | calledOff (cancelled : Bool) (hheard : env.hears cancelled = true) :
    Stands env delays ⟨.over (.error .cancelledBeforeAttempt), cancelled, 0, []⟩
  | brokenOff (k : Nat) (cancelled : Bool) (hk : k < delays.length)
    (hheard : env.hears cancelled = true) :
    Stands env delays
      ⟨.over (.error .cancelledInBackoff), cancelled, k + 1, delays.take (k + 1)⟩

theorem AllLost.succ {env : Surroundings α} {k : Nat} (hlost : AllLost env k)
    (hlast : (env.lost? k).isSome = true) : AllLost env (k + 1) := by
  intro i hi
  rcases Nat.lt_succ_iff_lt_or_eq.mp hi with hlt | rfl
  · exact hlost i hlt
  · exact hlast

theorem AllLost.le_of_settled {env : Surroundings α} {j k : Nat} (hlost : AllLost env k)
    (hsettled : env.lost? j = none) : k ≤ j := by
  apply Nat.le_of_not_lt
  intro hjk
  have hsome := hlost j hjk
  simp [hsettled] at hsome

theorem stands_initial {env : Surroundings α} (hsteps : 0 < env.steps) (delays : List Number)
    (cancelled : Bool) : Stands env delays (initial env delays cancelled) := by
  rw [initial, start, if_neg (Int.not_le.mpr hsteps)]
  exact .due 0 cancelled (Nat.zero_le _) (by simp [AllLost]) (by simp [Surroundings.CanWait])
    (.inl rfl)

/-- A delay that is over has been waited, unless it ends the retry. -/
theorem Stands.pause {env : Surroundings α} {delays : List Number} {k : Nat} {cancelled : Bool}
    (hk : k < delays.length) (hlost : AllLost env (k + 1))
    (hwaited : env.CanWait (delays.take k)) (hlast : env.refusal? cancelled delays[k] = none)
    (called : Bool) :
    Stands env delays
      ⟨(Stage.pausing delays[k] (delays.drop (k + 1))).wake (env.hears (cancelled || called)),
        cancelled || called, k + 1, delays.take (k + 1)⟩ := by
  cases hheard : env.hears (cancelled || called) with
  | true => exact .brokenOff k _ hk hheard
  | false =>
      have hbefore : env.hears cancelled = false := by
        cases cancelled with
        | false => exact Bool.and_false _
        | true => exact hheard
      rw [Surroundings.refusal?_of_not_hears hbefore] at hlast
      exact .due (k + 1) _ hk hlost (hwaited.concat hk hlast) (.inr hheard)

theorem Stands.step {env : Surroundings α} {delays : List Number} {t : Trial α}
    (ht : Stands env delays t) : Stands env delays (t.step env) := by
  cases ht with
  | due k cancelled hk hlost hwaited hgoing =>
      cases hheard : env.hears cancelled with
      | false =>
          have hgoes : (env.listens && cancelled) = false := hheard
          simp only [Trial.step, Stage.look, hgoes, Bool.false_eq_true, if_false]
          exact .trying k cancelled hk hlost hwaited hheard
      | true =>
          obtain rfl : k = 0 := hgoing.resolve_right (by simp [hheard])
          have hstops : (env.listens && cancelled) = true := hheard
          simp only [Trial.step, Stage.look, hstops, if_true, List.take_zero]
          exact .calledOff cancelled hheard
  | trying k cancelled hk hlost hwaited hgoing =>
      simp only [Trial.step]
      cases hlast : env.lost? k with
      | none =>
          rw [settle_of_settled hlast]
          exact .settled k _ hk hlost hwaited hlast
      | some e =>
          rw [settle_of_lost hlast]
          have hall : AllLost env (k + 1) := hlost.succ (by rw [hlast]; rfl)
          rcases Nat.lt_or_eq_of_le hk with hlt | rfl
          · rw [List.drop_eq_getElem_cons hlt]
            exact .pausing k _ hlt hall hwaited
          · rw [List.take_length] at hwaited
            rw [List.drop_length, List.take_length]
            exact .spent _ e hlost hwaited hlast
  | pausing k cancelled hk hlost hwaited =>
      simp only [Trial.step]
      cases hrefusal : env.refusal? cancelled delays[k] with
      | some fault =>
          have hgoing : env.hears cancelled = false := by
            cases hheard : env.hears cancelled with
            | false => rfl
            | true => simp [Surroundings.refusal?_of_hears hheard] at hrefusal
          rw [Surroundings.refusal?_of_not_hears hgoing] at hrefusal
          exact .refused k cancelled fault hk hlost hwaited hrefusal
      | none =>
          have hwaits : delays.take k ++ [delays[k]] = delays.take (k + 1) :=
            List.take_append_getElem hk
          simp only [hwaits]
          exact .pause hk hlost hwaited hrefusal _
  | settled k cancelled hk hlost hwaited hsettled =>
      exact .settled k cancelled hk hlost hwaited hsettled
  | spent cancelled e hlost hwaited hlast => exact .spent cancelled e hlost hwaited hlast
  | refused k cancelled fault hk hlost hwaited hrefused =>
      exact .refused k cancelled fault hk hlost hwaited hrefused
  | calledOff cancelled hheard => exact .calledOff cancelled hheard
  | brokenOff k cancelled hk hheard => exact .brokenOff k cancelled hk hheard

theorem stands_course {env : Surroundings α} (hsteps : 0 < env.steps) (delays : List Number)
    (cancelled : Bool) (n : Nat) : Stands env delays (course env delays cancelled n) := by
  induction n with
  | zero => exact stands_initial hsteps delays cancelled
  | succ n ih =>
      rw [course_succ]
      exact ih.step

/-- Without an allowance of attempts a retry is over before it begins. -/
theorem course_of_nonpos {env : Surroundings α} (hsteps : env.steps ≤ 0) (delays : List Number)
    (cancelled : Bool) (n : Nat) : course env delays cancelled n =
      ⟨.over (.error (.noAttempts env.steps)), cancelled, 0, []⟩ := by
  induction n with
  | zero => rw [course, iterate, initial, start, if_pos hsteps]
  | succ n ih =>
      rw [course_succ, ih]
      rfl

/-! ## Being called off -/

def isTrying (t : Trial α) : Bool :=
  match t.stage with
  | .trying _ _ => true
  | _ => false

/-- A retry that hears that it is called off begins no attempt. -/
theorem Stands.quiet {env : Surroundings α} {delays : List Number} {t : Trial α}
    (ht : Stands env delays t) (hheard : env.hears t.cancelled = true) :
    t.isTrying = false ∧ (t.step env).attempts = t.attempts ∧
      env.hears (t.step env).cancelled = true := by
  cases ht with
  | due k cancelled hk hlost hwaited hgoing =>
      have hstops : (env.listens && cancelled) = true := hheard
      simpa [isTrying, Trial.step, Stage.look, hstops] using hheard
  | trying k cancelled hk hlost hwaited hgoing =>
      rw [hgoing] at hheard
      cases hheard
  | pausing k cancelled hk hlost hwaited =>
      have hwaits := Surroundings.refusal?_of_hears hheard delays[k]
      obtain ⟨hlistens, rfl⟩ : env.listens = true ∧ cancelled = true := by
        simpa [Surroundings.hears] using hheard
      simp [isTrying, Trial.step, hwaits, Surroundings.hears, hlistens]
  | _ => exact ⟨rfl, rfl, hheard⟩

theorem quiet_course {env : Surroundings α} {delays : List Number} {cancelled : Bool} {n : Nat}
    (hheard : env.hears (course env delays cancelled n).cancelled = true) {m : Nat} (hm : n ≤ m) :
    (course env delays cancelled m).isTrying = false ∧
      (course env delays cancelled m).attempts = (course env delays cancelled n).attempts := by
  by_cases hsteps : 0 < env.steps
  · have hkept : env.hears (course env delays cancelled m).cancelled = true ∧
        (course env delays cancelled m).attempts = (course env delays cancelled n).attempts := by
      induction hm with
      | refl => exact ⟨hheard, rfl⟩
      | @step m _ ih =>
          obtain ⟨_, hattempts, hstill⟩ := (stands_course hsteps delays cancelled m).quiet ih.1
          rw [course_succ]
          exact ⟨hstill, hattempts.trans ih.2⟩
    exact ⟨((stands_course hsteps delays cancelled m).quiet hkept.1).1, hkept.2⟩
  · simp [course_of_nonpos (Int.not_lt.mp hsteps), isTrying]

/-- How a retry comes out that is called off during an attempt: as the attempt says,
unless that would go on. -/
def interrupted (env : Surroundings α) (k : Nat) : Except Failure α :=
  match env.lost? k with
  | none => (env.attempt k).outcome
  | some e =>
    if (k : Int) + 1 = env.steps then .error (.attemptsSpent env.steps e)
    else .error .cancelledInBackoff

/-- A retry is called off in a delay or during an attempt, and comes to its end in
this step or in the next. -/
theorem Stands.interrupted {env : Surroundings α} {delays : List Number}
    (hlength : env.steps = delays.length + 1) {t : Trial α} (ht : Stands env delays t)
    (hbefore : env.hears t.cancelled = false) (hafter : env.hears (t.step env).cancelled = true) :
    (∃ delay rest, t.stage = .pausing delay rest ∧
      (t.step env).stage = .over (.error .cancelledInBackoff)) ∨
    (∃ rest, t.stage = .trying () rest ∧
      ((t.step env).stage = .over (interrupted env t.attempts) ∨
        ((t.step env).step env).stage = .over (interrupted env t.attempts))) := by
  cases ht with
  | due k cancelled hk hlost hwaited hgoing =>
      simp only [Trial.step, hbefore] at hafter
      cases hafter
  | trying k cancelled hk hlost hwaited hgoing =>
      right
      refine ⟨_, rfl, ?_⟩
      cases hlast : env.lost? k with
      | none =>
          left
          simp only [Trial.step, settle_of_settled hlast, Trial.interrupted, hlast]
      | some e =>
          rcases Nat.lt_or_eq_of_le hk with hlt | rfl
          · right
            have hmore : (k : Int) + 1 ≠ env.steps := by omega
            have hstops : (env.listens && (cancelled || (env.attempt k).cancels)) = true := hafter
            obtain ⟨hlistens, hflag⟩ := Bool.and_eq_true_iff.mp hstops
            have hwaits : env.refusal? true delays[k] = none :=
              Surroundings.refusal?_of_hears (by rw [Surroundings.hears, hlistens]; rfl) _
            simp only [Trial.step, settle_of_lost hlast, List.drop_eq_getElem_cons hlt, hwaits,
              Stage.wake, hlistens, hflag, Bool.true_or, Bool.and_self, if_true,
              Trial.interrupted, hlast, hmore, if_false]
          · left
            have hspent : (delays.length : Int) + 1 = env.steps := hlength.symm
            simp only [Trial.step, settle_of_lost hlast, List.drop_length, Trial.interrupted,
              hlast, hspent, if_true]
  | pausing k cancelled hk hlost hwaited =>
      left
      refine ⟨_, _, rfl, ?_⟩
      simp only [Trial.step] at hafter ⊢
      cases hrefusal : env.refusal? cancelled delays[k] with
      | some fault =>
          rw [hrefusal, hbefore] at hafter
          cases hafter
      | none =>
          rw [hrefusal] at hafter
          exact if_pos hafter
  | _ =>
      simp only [Trial.step, hbefore] at hafter
      cases hafter

/-! ## Outcomes -/

/-- The failure of a retry whose attempts are spent, if there were any. -/
def exhausted (steps : Int) : Option Failure → Failure
  | none => .noAttempts steps
  | some last => .attemptsSpent steps last

theorem kind_exhausted (steps : Int) (last : Option Failure) :
    (exhausted steps last).kind = .retryExhausted ∧
      (exhausted steps last).cause? = last.map Failure.kind := by
  cases last <;> exact ⟨rfl, rfl⟩

def last? (env : Surroundings α) : Option Failure :=
  if env.steps ≤ 0 then none else env.lost? (env.steps - 1).toNat

theorem outcome?_of_stage {t : Trial α} {outcome : Except Failure α}
    (hover : t.stage = .over outcome) : t.outcome? = some outcome := by
  rw [outcome?, hover]

/-- A retry that is never called off is settled by the first attempt that does not go
on, has spent its attempts, or has come to a delay that cannot be waited. -/
theorem Stands.run_of_uncalled {env : Surroundings α} {delays : List Number} {t : Trial α}
    (ht : Stands env delays t) {outcome : Except Failure α} (hover : t.stage = .over outcome)
    (huncalled : env.hears t.cancelled = false) :
    (∃ k, k ≤ delays.length ∧ AllLost env k ∧ env.CanWait (delays.take k) ∧
      env.lost? k = none ∧ t.attempts = k + 1 ∧ t.waits = delays.take k ∧
      outcome = (env.attempt k).outcome) ∨
    (∃ e, AllLost env delays.length ∧ env.CanWait delays ∧ env.lost? delays.length = some e ∧
      t.attempts = delays.length + 1 ∧ t.waits = delays ∧
      outcome = .error (.attemptsSpent env.steps e)) ∨
    (∃ k fault, ∃ hk : k < delays.length, AllLost env (k + 1) ∧
      env.CanWait (delays.take k) ∧ env.refuses delays[k] = some fault ∧
      t.attempts = k + 1 ∧ t.waits = delays.take k ∧ outcome = .error fault) := by
  cases ht with
  | settled k cancelled hk hlost hwaited hsettled =>
      cases hover
      exact .inl ⟨k, hk, hlost, hwaited, hsettled, rfl, rfl, rfl⟩
  | spent cancelled e hlost hwaited hlast =>
      cases hover
      exact .inr (.inl ⟨e, hlost, hwaited, hlast, rfl, rfl, rfl⟩)
  | refused k cancelled fault hk hlost hwaited hrefused =>
      cases hover
      exact .inr (.inr ⟨k, fault, hk, hlost, hwaited, hrefused, rfl, rfl, rfl⟩)
  | calledOff cancelled hheard =>
      rw [hheard] at huncalled
      cases huncalled
  | brokenOff k cancelled hk hheard =>
      rw [hheard] at huncalled
      cases huncalled
  | _ => cases hover

theorem stands_run {env : Surroundings α} (hsteps : 0 < env.steps) (delays : List Number)
    (cancelled : Bool) : Stands env delays (runOn env delays cancelled) :=
  stands_course hsteps delays cancelled _

/-- A retry that is called off before it starts makes no attempt. -/
theorem run_of_cancelled {env : Surroundings α} (hsteps : 0 < env.steps)
    (hlistens : env.listens = true) (delays : List Number) :
    runOn env delays true = ⟨.over (.error .cancelledBeforeAttempt), true, 0, []⟩ := by
  have hfirst : course env delays true 1 =
      ⟨.over (.error .cancelledBeforeAttempt), true, 0, []⟩ := by
    simp [course, iterate, initial, start, step, Stage.look, Int.not_le.mpr hsteps, hlistens]
  rw [runOn_eq_course (n := 1) (by rw [hfirst]), hfirst]

theorem outcome?_of_course {env : Surroundings α} {delays : List Number} {cancelled : Bool}
    {n : Nat} {outcome : Except Failure α}
    (hover : (course env delays cancelled n).stage = .over outcome) :
    (runOn env delays cancelled).outcome? = some outcome := by
  rw [runOn_eq_course hover]
  exact outcome?_of_stage hover

theorem run_of_delays {env : Surroundings α} {delays : List Number}
    (hdelays : env.schedule.delays env.noise = .ok delays) (cancelled : Bool) :
    run env cancelled = runOn env delays cancelled := by
  rw [run, hdelays]

theorem run_of_unreckoned {env : Surroundings α} {fault : Failure}
    (hfault : env.schedule.delays env.noise = .error fault) (cancelled : Bool) :
    run env cancelled = ⟨.over (.error fault), cancelled, 0, []⟩ := by
  rw [run, hfault]

section Run

variable {env : Surroundings α} {delays : List Number} {cancelled : Bool}
  (hlength : delays.length = (env.steps - 1).toNat)

include hlength

theorem run_of_settled
    (huncalled : ∀ n, env.hears (course env delays cancelled n).cancelled = false)
    {k : Nat} (hk : (k : Int) < env.steps) (hlost : AllLost env k)
    (hwaited : env.CanWait (delays.take k)) (hsettled : env.lost? k = none) :
    (runOn env delays cancelled).attempts = k + 1 ∧
      (runOn env delays cancelled).waits = delays.take k ∧
      (runOn env delays cancelled).waits.length = k ∧
      (runOn env delays cancelled).outcome? = some (env.attempt k).outcome := by
  obtain ⟨outcome, hover⟩ := over_of_runOn env delays cancelled
  have hstands : Stands env delays (runOn env delays cancelled) :=
    stands_run (by omega) delays cancelled
  rcases hstands.run_of_uncalled hover (huncalled _) with
    ⟨j, hj, hall, _, hnone, hattempts, hwaits, rfl⟩ | ⟨e, hall, _, hsome, _⟩ |
      ⟨j, fault, hj, hall, _, hrefused, _⟩
  · obtain rfl : j = k :=
      Nat.le_antisymm (hall.le_of_settled hsettled) (hlost.le_of_settled hnone)
    refine ⟨hattempts, hwaits, ?_, outcome?_of_stage hover⟩
    rw [hwaits, List.length_take]
    omega
  · have hgoes : (env.lost? k).isSome = true := by
      rcases Nat.lt_or_eq_of_le (by omega : k ≤ delays.length) with hlt | rfl
      · exact hall k hlt
      · rw [hsome]
        rfl
    simp [hsettled] at hgoes
  · have hjk := hall.le_of_settled hsettled
    have hkj := hwaited.le_of_refused hrefused
    omega

theorem run_of_lost (huncalled : ∀ n, env.hears (course env delays cancelled n).cancelled = false)
    (hlost : ∀ i : Nat, (i : Int) < env.steps → (env.lost? i).isSome = true)
    (hwaited : env.CanWait delays) :
    (runOn env delays cancelled).attempts = env.steps.toNat ∧
      (runOn env delays cancelled).waits = delays ∧
      (runOn env delays cancelled).outcome? =
        some (.error (exhausted env.steps (last? env))) := by
  by_cases hpos : 0 < env.steps
  · obtain ⟨outcome, hover⟩ := over_of_runOn env delays cancelled
    rcases (stands_run hpos delays cancelled).run_of_uncalled hover (huncalled _) with
      ⟨j, hj, _, _, hnone, _⟩ | ⟨e, _, _, hsome, hattempts, hwaits, rfl⟩ |
        ⟨j, fault, hj, _, _, hrefused, _⟩
    · have hgoes := hlost j (by omega)
      simp [hnone] at hgoes
    · have hlast : last? env = some e := by
        rw [last?, if_neg (by omega), ← hlength, hsome]
      refine ⟨by omega, hwaits, ?_⟩
      rw [outcome?_of_stage hover, hlast]
      rfl
    · rw [hwaited _ (List.getElem_mem hj)] at hrefused
      cases hrefused
  · have hnone : env.steps ≤ 0 := Int.not_lt.mp hpos
    have hempty : delays = [] := List.eq_nil_of_length_eq_zero (by omega)
    have hrun : runOn env delays cancelled =
        ⟨.over (.error (.noAttempts env.steps)), cancelled, 0, []⟩ :=
      course_of_nonpos hnone delays cancelled _
    rw [hrun, last?, if_pos hnone, Int.toNat_of_nonpos hnone]
    exact ⟨rfl, hempty.symm, rfl⟩

theorem run_of_refused
    (huncalled : ∀ n, env.hears (course env delays cancelled n).cancelled = false)
    {k : Nat} (hk : k < delays.length) (hlost : AllLost env (k + 1))
    (hwaited : env.CanWait (delays.take k)) {fault : Failure}
    (hrefused : env.refuses delays[k] = some fault) :
    (runOn env delays cancelled).attempts = k + 1 ∧
      (runOn env delays cancelled).waits = delays.take k ∧
      (runOn env delays cancelled).outcome? = some (.error fault) := by
  obtain ⟨outcome, hover⟩ := over_of_runOn env delays cancelled
  have hstands : Stands env delays (runOn env delays cancelled) :=
    stands_run (by omega) delays cancelled
  rcases hstands.run_of_uncalled hover (huncalled _) with
    ⟨j, hj, _, hpast, hnone, _⟩ | ⟨e, _, hpast, _⟩ |
      ⟨j, other, hj, _, hpast, hother, hattempts, hwaits, rfl⟩
  · have hkj := hlost.le_of_settled hnone
    have hjk := hpast.le_of_refused hrefused
    omega
  · rw [hpast _ (List.getElem_mem hk)] at hrefused
    cases hrefused
  · obtain rfl : j = k :=
      Nat.le_antisymm (hpast.le_of_refused hrefused) (hwaited.le_of_refused hother)
    rw [hrefused, Option.some.injEq] at hother
    rw [outcome?_of_stage hover, hother]
    exact ⟨hattempts, hwaits, rfl⟩

theorem run_of_interrupted {n : Nat}
    (hbefore : env.hears (course env delays cancelled n).cancelled = false)
    (hafter : env.hears (course env delays cancelled (n + 1)).cancelled = true) :
    (∃ delay rest, (course env delays cancelled n).stage = .pausing delay rest ∧
      (runOn env delays cancelled).outcome? = some (.error .cancelledInBackoff)) ∨
    (∃ rest, (course env delays cancelled n).stage = .trying () rest ∧
      (runOn env delays cancelled).outcome? =
        some (interrupted env (course env delays cancelled n).attempts)) := by
  by_cases hpos : 0 < env.steps
  · have hstands := stands_course hpos delays cancelled n
    rw [course_succ] at hafter
    rcases hstands.interrupted (by omega) hbefore hafter with
      ⟨delay, rest, hstage, hover⟩ | ⟨rest, hstage, hover | hover⟩
    · rw [← course_succ] at hover
      exact .inl ⟨delay, rest, hstage, outcome?_of_course hover⟩
    · rw [← course_succ] at hover
      exact .inr ⟨rest, hstage, outcome?_of_course hover⟩
    · rw [← course_succ, ← course_succ] at hover
      exact .inr ⟨rest, hstage, outcome?_of_course hover⟩
  · rw [course_of_nonpos (Int.not_lt.mp hpos)] at hbefore hafter
    simp [hbefore] at hafter

end Run

/-- Delays that cannot be reckoned end a retry before its first attempt; those of a
schedule of double-precision numbers can, and they are one fewer than the attempts.

Let a retry with such delays never be called off.  If some attempt settles it, all
before that are lost and the delays between them can be waited, then these attempts are
made, these delays are waited, and the outcome is that of the last attempt.  If all
attempts that are allowed are lost and all delays can be waited, all of them are, and
the retry fails because of the last attempt, if there is any.  If a delay cannot be
waited that an attempt has come to, the retry ends with it.

Let it be called off.  From then on no attempt begins.  If that is before the start, or
in a delay, the retry ends called off; if it is during an attempt, the outcome is the
attempt's own, or that the attempts are spent if it was the last one, and only
otherwise that the retry was called off. -/
theorem outcome_of_script (env : Surroundings α) (cancelled : Bool) :
    (env.schedule.IsFloating → (∀ u ∈ env.noise, u.IsFloat) →
      ∃ delays, env.schedule.delays env.noise = .ok delays) ∧
    (∀ fault, env.schedule.delays env.noise = .error fault →
      fault = .integerTooLarge ∧ (run env cancelled).attempts = 0 ∧
      (run env cancelled).waits = [] ∧ (run env cancelled).outcome? = some (.error fault)) ∧
    ∀ delays, env.schedule.delays env.noise = .ok delays →
      delays.length = (env.steps - 1).toNat ∧
      ((∀ n, env.hears (course env delays cancelled n).cancelled = false) →
        (∀ k : Nat, (k : Int) < env.steps → AllLost env k → env.CanWait (delays.take k) →
          env.lost? k = none →
          (run env cancelled).attempts = k + 1 ∧
          (run env cancelled).waits = delays.take k ∧
          (run env cancelled).waits.length = k ∧
          (run env cancelled).outcome? = some (env.attempt k).outcome) ∧
        ((∀ i : Nat, (i : Int) < env.steps → (env.lost? i).isSome = true) →
          env.CanWait delays →
          (run env cancelled).attempts = env.steps.toNat ∧
          (run env cancelled).waits = delays ∧
          (run env cancelled).outcome? = some (.error (exhausted env.steps (last? env))) ∧
          (exhausted env.steps (last? env)).kind = .retryExhausted ∧
          (exhausted env.steps (last? env)).cause? = (last? env).map Failure.kind) ∧
        (∀ (k : Nat) (hk : k < delays.length) (fault : Failure), AllLost env (k + 1) →
          env.CanWait (delays.take k) → env.refuses delays[k] = some fault →
          (run env cancelled).attempts = k + 1 ∧
          (run env cancelled).waits = delays.take k ∧
          (run env cancelled).outcome? = some (.error fault))) ∧
      (∀ n, env.hears (course env delays cancelled n).cancelled = true → ∀ m, n ≤ m →
        (course env delays cancelled m).isTrying = false ∧
        (course env delays cancelled m).attempts = (course env delays cancelled n).attempts) ∧
      (0 < env.steps → env.hears cancelled = true →
        (run env cancelled).outcome? = some (.error .cancelledBeforeAttempt)) ∧
      (∀ n, env.hears (course env delays cancelled n).cancelled = false →
        env.hears (course env delays cancelled (n + 1)).cancelled = true →
        (∃ delay rest, (course env delays cancelled n).stage = .pausing delay rest ∧
          (run env cancelled).outcome? = some (.error .cancelledInBackoff)) ∨
        (∃ rest, (course env delays cancelled n).stage = .trying () rest ∧
          (run env cancelled).outcome? =
            some (interrupted env (course env delays cancelled n).attempts))) := by
  refine ⟨fun hb hnoise => Backoff.exists_delaysFrom hb hb.duration _ hnoise, ?_, ?_⟩
  · intro fault hfault
    rw [run_of_unreckoned hfault]
    exact ⟨Backoff.delays_eq_error hfault, rfl, rfl, rfl⟩
  intro delays hdelays
  have hlength : delays.length = (env.steps - 1).toNat := Backoff.length_delays hdelays
  rw [run_of_delays hdelays]
  refine ⟨hlength, ?_, fun n hheard m => quiet_course hheard, ?_,
    fun n => run_of_interrupted hlength⟩
  · intro huncalled
    refine ⟨fun k => run_of_settled hlength huncalled, fun hlost hwaited => ?_,
      fun k hk fault hlost hwaited => run_of_refused hlength huncalled hk hlost hwaited⟩
    obtain ⟨hattempts, hwaits, houtcome⟩ := run_of_lost hlength huncalled hlost hwaited
    exact ⟨hattempts, hwaits, houtcome, kind_exhausted _ _⟩
  · intro hpos hheard
    obtain ⟨hlistens, rfl⟩ : env.listens = true ∧ cancelled = true := by
      simpa [Surroundings.hears] using hheard
    rw [run_of_cancelled hpos hlistens]
    rfl

namespace Sample

def conflict : Failure := .reported .conflict "the object has been modified"

/-- A retry that makes three attempts at most and sleeps between them, the first time
for so long; its update loses one race and then goes through. -/
def contended (duration : Number) : Surroundings Nat :=
  { schedule := { Backoff.standard with steps := 3, duration }
    noise := []
    retriable := fun e => e.isIn .conflict
    attempt := fun k => if k = 0 then ⟨false, .error conflict⟩ else ⟨false, .ok k⟩
    cancelInWait := none
    listens := false
    refuses := waitFault? false }

/-- An update that loses every race, called off during its first attempt. -/
def hopeless (duration : Number) : Surroundings Nat :=
  { contended duration with
    attempt := fun k => ⟨k = 0, .error conflict⟩
    listens := true
    refuses := waitFault? true }

def brief : Number := Backoff.standard.duration

def negative : Number := .float (Binary64.ofDecimal true 1 (-2))

def immense : Number := .int (Nat.pow 10 400)

/-- The first of the delays, and whether it can be slept through. -/
theorem delays_contended (duration : Number) (fault : Option Failure)
    (hduration : duration.IsFloat)
    (hfirst : ((contended duration).schedule.delays []).toOption.map
      (fun delays => delays.head?.bind (waitFault? false)) = some fault) :
    ∃ first rest, (contended duration).schedule.delays [] = .ok (first :: rest) ∧
      waitFault? false first = fault := by
  obtain ⟨delays, hdelays⟩ := Backoff.exists_delaysFrom (b := (contended duration).schedule)
    ⟨hduration, ⟨_, rfl⟩, ⟨_, rfl⟩⟩ hduration 2 (fun u (hu : u ∈ []) => by cases hu)
  have hlength : delays.length = 2 := Backoff.length_delaysFrom hdelays
  rw [show (contended duration).schedule.delays [] = .ok delays from hdelays] at hfirst
  match delays, hlength with
  | [first, second], _ => exact ⟨first, [second], hdelays, Option.some.inj hfirst⟩

theorem delays_immense :
    (contended immense).schedule.delays (contended immense).noise = .error .integerTooLarge := by
  have hnone : ((contended immense).schedule.delays []).toOption = none := by decide +kernel
  cases hdelays : (contended immense).schedule.delays (contended immense).noise with
  | ok delays =>
      rw [show (contended immense).schedule.delays [] = .ok delays from hdelays] at hnone
      cases hnone
  | error fault => rw [Backoff.delays_eq_error hdelays]

theorem allLost_contended (duration : Number) : AllLost (contended duration) 1 := by
  intro i hi
  obtain rfl : i = 0 := by omega
  rfl

end Sample

open Sample in
theorem outcome_of_script_contended :
    (run (contended brief) false).attempts = 2 ∧
      (run (contended brief) false).waits.length = 1 ∧
      (run (contended brief) false).outcome? = some (.ok 1) ∧
      (run (hopeless brief) false).outcome? = some (.error .cancelledInBackoff) ∧
      (run (contended negative) false).attempts = 1 ∧
      (run (contended negative) false).outcome? = some (.error .negativeDelay) := by
  obtain ⟨first, rest, hdelays, hwaited⟩ :=
    delays_contended brief none ⟨_, rfl⟩ (by decide +kernel)
  obtain ⟨_, huncalled, _⟩ :=
    (outcome_of_script (contended brief) false).2.2 (first :: rest) hdelays
  obtain ⟨hattempts, _, hlength, houtcome⟩ := (huncalled fun n => rfl).1 1 (by decide)
    (allLost_contended brief) (List.forall_mem_singleton.mpr hwaited) rfl
  refine ⟨hattempts, hlength, houtcome, ?_, ?_⟩
  · -- the retry is called off in its second step, the first attempt
    obtain ⟨_, _, _, _, hcalledOff⟩ :=
      (outcome_of_script (hopeless brief) false).2.2 (first :: rest) hdelays
    rcases hcalledOff 1 rfl rfl with ⟨_, _, hstage, _⟩ | ⟨_, _, hends⟩
    · cases hstage
    · exact hends
  · obtain ⟨first, rest, hdelays, hrefused⟩ :=
      delays_contended negative (some .negativeDelay) ⟨_, rfl⟩ (by decide +kernel)
    obtain ⟨_, huncalled, _⟩ :=
      (outcome_of_script (contended negative) false).2.2 (first :: rest) hdelays
    obtain ⟨hattempts, _, houtcome⟩ := (huncalled fun n => rfl).2.2 0 (Nat.succ_pos _)
      .negativeDelay (allLost_contended negative) (by simp [Surroundings.CanWait]) hrefused
    exact ⟨hattempts, houtcome⟩

open Sample in
/-- A retry on a schedule whose first delay is negative makes one attempt, although the
next would go through: it cannot sleep in between.  A first delay beyond double
precision leaves it without an attempt. -/
theorem no_second_attempt_after_negative_delay :
    (contended negative).listens = false ∧ (1 : Int) < (contended negative).steps ∧
      AllLost (contended negative) 1 ∧ (contended negative).lost? 1 = none ∧
      (run (contended negative) false).attempts = 1 ∧
      (run (contended negative) false).waits = [] ∧
      (run (contended negative) false).outcome? = some (.error .negativeDelay) ∧
      (run (contended immense) false).attempts = 0 ∧
      (run (contended immense) false).outcome? = some (.error .integerTooLarge) := by
  refine ⟨rfl, by decide, allLost_contended negative, rfl, ?_⟩
  obtain ⟨first, rest, hdelays, hrefused⟩ :=
    delays_contended negative (some .negativeDelay) ⟨_, rfl⟩ (by decide +kernel)
  have hnever : ∀ n, (contended negative).hears
      (course (contended negative) (first :: rest) false n).cancelled = false := fun n => rfl
  obtain ⟨hattempts, hwaits, houtcome⟩ := run_of_refused (Backoff.length_delays hdelays)
    hnever (Nat.succ_pos _) (allLost_contended negative) (by simp [Surroundings.CanWait]) hrefused
  rw [run_of_delays hdelays, run_of_unreckoned delays_immense]
  exact ⟨hattempts, hwaits, houtcome, rfl, rfl⟩

end Trial

end Retry

end AttachGate
