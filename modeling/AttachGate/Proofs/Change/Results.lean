import AttachGate.Proofs.Change.Attempts
import AttachGate.Proofs.Change.Waiting
import AttachGate.Proofs.Retry.Delays

/-!
# What a change results in

A change on a script, with nobody to call it off.  Each attempt at its flip is one
read and perhaps one write of the script; the first attempt that does not lose a race
settles the flip.  The result of a start is then settled by one snapshot: that of the
flip, if it shows the app Live, and else the first one watched that does.
-/

namespace AttachGate.Change

def Call.isWatch : Call → Bool
  | .watch => true
  | _ => false

namespace Rehearsal

/-! ## Attempts -/

/-- An attempt at a flip: how it comes out, the calls it makes, and the script behind
it. -/
structure Attempt where
  outcome : Except Failure App.Snapshot
  calls : List Call
  reads : List Answer
  writes : List Answer

namespace Attempt

/-- The attempt that a script leads to.  What is wanted already is not written. -/
def ofScript (phase : Phase) (reads writes : List Answer) : Attempt :=
  match snapshot (take reads).1 none with
  | .error e => ⟨.error e, [.read], (take reads).2, writes⟩
  | .ok app =>
    if app.isWanted phase then ⟨.ok app, [.read], (take reads).2, writes⟩
    else
      let object := App.retarget app.object phase
      { outcome := snapshot (take writes).1 (some (.object object))
        calls := [.read, .write object]
        reads := (take reads).2
        writes := (take writes).2 }

def isSettled (a : Attempt) : Bool :=
  match a.outcome with
  | .ok _ => true
  | .error e => !Flip.isLostRace e

end Attempt

def attempts (phase : Phase) : Nat → List Answer → List Answer → List Attempt
  | 0, _, _ => []
  | n + 1, reads, writes =>
    let a := Attempt.ofScript phase reads writes
    a :: attempts phase n a.reads a.writes

def made : List Attempt → List Attempt
  | [] => []
  | a :: rest => if a.isSettled then [a] else a :: made rest

/-- What a flip comes to: what settles it, or its last lost race. -/
def flipped (steps : Int) (as : List Attempt) : Except Failure App.Snapshot :=
  match as.find? Attempt.isSettled, as.getLast? with
  | some a, _ => a.outcome
  | none, some a => a.outcome.mapError (.attemptsSpent steps)
  | none, none => .error (.noAttempts steps)

/-- A watch is opened for a change that has to wait. -/
def openings : Stage → List Call
  | .waiting => [.watch]
  | _ => []

/-- Nobody calls the change off, in so far as it looks. -/
structure Calm (r : Rehearsal) : Prop where
  cancelled : r.cancelled = false
  inWait : r.cancelInWait = none
  reads : ∀ a ∈ r.reads, a.cancels = false
  writes : ∀ a ∈ r.writes, a.cancels = false

theorem calm_take {script : List Answer} (hscript : ∀ a ∈ script, a.cancels = false) :
    (take script).1.cancels = false ∧ ∀ a ∈ (take script).2, a.cancels = false := by
  cases script with
  | nil => simp [take]
  | cons a rest =>
      cases rest with
      | nil => simpa [take] using hscript
      | cons b rest => simpa [take] using hscript

theorem calm_ofScript (phase : Phase) {reads writes : List Answer}
    (hreads : ∀ a ∈ reads, a.cancels = false) (hwrites : ∀ a ∈ writes, a.cancels = false) :
    (∀ a ∈ (Attempt.ofScript phase reads writes).reads, a.cancels = false) ∧
      ∀ a ∈ (Attempt.ofScript phase reads writes).writes, a.cancels = false := by
  unfold Attempt.ofScript
  split
  · exact ⟨(calm_take hreads).2, hwrites⟩
  · split
    · exact ⟨(calm_take hreads).2, hwrites⟩
    · exact ⟨(calm_take hreads).2, (calm_take hwrites).2⟩

variable {goal : Goal} {r : Rehearsal} {delays : List Number}

theorem opened_flipping (run : Flip.Run) (r : Rehearsal) :
    opened (.flipping run) r = { r with calls := r.calls ++ openings r.stage } := by
  obtain ⟨stage, _⟩ := r
  cases stage <;> simp [opened, openings]

/-! ## One attempt -/

theorem step_of_read (goal : Goal) (hr : r.Calm) (hask : r.stage.ask = .read) {run : Flip.Run}
    (hstage : r.stage = .flipping run) :
    let stage := r.stage.answer goal (snapshot (take r.reads).1 none)
    step goal r =
      { r with
        stage, reads := (take r.reads).2
        calls := r.calls ++ [.read] ++ openings stage } := by
  have hquiet := (calm_take hr.reads).1
  simp only [step, hask]
  rw [hstage, opened_flipping, hr.cancelled, hquiet]
  rfl

theorem step_of_write (goal : Goal) (hr : r.Calm) {object : Members}
    (hask : r.stage.ask = .write object) {run : Flip.Run} (hstage : r.stage = .flipping run) :
    let stage := r.stage.answer goal (snapshot (take r.writes).1 (some (.object object)))
    step goal r =
      { r with
        stage, writes := (take r.writes).2
        calls := r.calls ++ [.write object] ++ openings stage } := by
  have hquiet := (calm_take hr.writes).1
  simp only [step, hask]
  rw [hstage, opened_flipping, hr.cancelled, hquiet]
  rfl

/-- What has been read is written, with the phase replaced. -/
theorem iterate_fetched (goal : Goal) (hr : r.Calm) {app : App.Snapshot}
    (hstage : r.stage = .flipping (.trying (.fetched app) delays)) :
    let object := App.retarget app.object goal.phase
    let stage := ofFlip goal (Flip.settle goal.plan (.trying .entered delays)
      (snapshot (take r.writes).1 (some (.object object))))
    iterate goal 2 r =
      { r with
        stage, writes := (take r.writes).2
        calls := r.calls ++ [.write object] ++ openings stage } := by
  have hlook : step goal r =
      { r with
        stage := .flipping (.trying (.writing (App.retarget app.object goal.phase)) delays) } := by
    simp [step, hstage, Stage.ask, askOfFlip, Stage.look, Flip.look, Retry.Stage.move, ofFlip,
      hr.cancelled]
  rw [iterate, iterate, iterate, hlook, step_of_write goal _ rfl rfl]
  · rfl
  · exact ⟨hr.cancelled, hr.inWait, hr.reads, hr.writes⟩

/-- An attempt takes five steps at most. -/
theorem iterate_attempt (goal : Goal) (hr : r.Calm) (hstage : r.stage = .flipping (.due delays)) :
    let a := Attempt.ofScript goal.phase r.reads r.writes
    let stage := ofFlip goal (Flip.settle goal.plan (.trying .entered delays) a.outcome)
    ∃ n ≤ 5, iterate goal n r =
      { r with
        stage, reads := a.reads, writes := a.writes
        calls := r.calls ++ a.calls ++ openings stage } := by
  have hbegun : iterate goal 2 r = { r with stage := .flipping (.trying .reading delays) } := by
    simp [iterate, step, hstage, Stage.ask, askOfFlip, Stage.look, Flip.look,
      Retry.Stage.look, Retry.Stage.move, ofFlip, hr.cancelled]
  have hread := step_of_read goal (r := { r with stage := .flipping (.trying .reading delays) })
    ⟨hr.cancelled, hr.inWait, hr.reads, hr.writes⟩ rfl rfl
  simp only [Stage.answer, Flip.answer] at hread
  unfold Attempt.ofScript
  cases hreply : snapshot (take r.reads).1 none with
  | error e =>
      refine ⟨3, by decide, ?_⟩
      rw [iterate_add goal 2 1, hbegun, iterate, iterate, hread, hreply]
      rfl
  | ok app =>
      cases hwanted : app.isWanted goal.phase with
      | true =>
          refine ⟨3, by decide, ?_⟩
          rw [iterate_add goal 2 1, hbegun, iterate, iterate, hread, hreply]
          simp only [hwanted, if_true]
          rfl
      | false =>
          refine ⟨5, by decide, ?_⟩
          simp only [hreply, hwanted, Bool.false_eq_true, if_false] at hread
          have hwritten := iterate_fetched goal
            (r := { r with
                    stage := .flipping (.trying (.fetched app) delays)
                    reads := (take r.reads).2
                    calls := r.calls ++ [.read] })
            ⟨hr.cancelled, hr.inWait, (calm_take hr.reads).2, hr.writes⟩ rfl
          rw [iterate_add goal 2 3, hbegun, iterate, hread]
          simp only [Retry.Stage.move, ofFlip, openings, List.append_nil]
          rw [hwritten]
          simp only [hwanted, Bool.false_eq_true, if_false, List.append_assoc]
          rfl

/-! ## The whole flip -/

theorem settle_of_settled {a : Attempt} (hsettled : a.isSettled = true) (plan : Flip.Plan)
    (attempt : Flip.Stage) (delays : List Number) :
    Flip.settle plan (.trying attempt delays) a.outcome = .over a.outcome := by
  unfold Attempt.isSettled at hsettled
  cases houtcome : a.outcome with
  | ok app => rfl
  | error e =>
      have hother : Flip.isLostRace e = false := by simpa [houtcome] using hsettled
      simp [Flip.settle, Retry.Stage.settle, hother]

theorem lost_of_unsettled {a : Attempt} (hlost : a.isSettled = false) :
    ∃ e, a.outcome = .error e ∧ Flip.isLostRace e = true := by
  unfold Attempt.isSettled at hlost
  cases houtcome : a.outcome with
  | ok app => simp [houtcome] at hlost
  | error e => exact ⟨e, rfl, by simpa [houtcome] using hlost⟩

theorem flipped_of_find {as : List Attempt} {a : Attempt} (steps : Int)
    (hfirst : as.find? Attempt.isSettled = some a) : flipped steps as = a.outcome := by
  unfold flipped
  rw [hfirst]

theorem flipped_of_lost {as : List Attempt} (steps : Int) (hsome : as ≠ [])
    (hlost : as.find? Attempt.isSettled = none) :
    ∃ a e, as.getLast? = some a ∧ a.outcome = .error e ∧ Flip.isLostRace e = true ∧
      flipped steps as = .error (.attemptsSpent steps e) := by
  have hlast := List.getLast?_eq_some_getLast hsome
  have hunsettled := List.find?_eq_none.mp hlost _ (List.getLast_mem hsome)
  obtain ⟨e, houtcome, hrace⟩ := lost_of_unsettled (by simpa using hunsettled)
  refine ⟨_, e, hlast, houtcome, hrace, ?_⟩
  simp only [flipped, hlost, hlast, houtcome]
  rfl

theorem flipped_of_settled {a : Attempt} (hsettled : a.isSettled = true) (steps : Int)
    (rest : List Attempt) : flipped steps (a :: rest) = a.outcome :=
  flipped_of_find steps (List.find?_cons_of_pos hsettled)

theorem flipped_of_unsettled {a : Attempt} (hlost : a.isSettled = false) (steps : Int)
    {rest : List Attempt} (hrest : rest ≠ []) : flipped steps (a :: rest) = flipped steps rest := by
  unfold flipped
  rw [List.find?_cons_of_neg (by simp [hlost]), List.getLast?_cons_of_ne_nil hrest]

/-- With no delay left every attempt is the last. -/
theorem settle_last (plan : Flip.Plan) (attempt : Flip.Stage) (a : Attempt) :
    Flip.settle plan (.trying attempt []) a.outcome = .over (flipped plan.steps [a]) := by
  cases hsettled : a.isSettled with
  | true => rw [settle_of_settled hsettled, flipped_of_settled hsettled]
  | false =>
      obtain ⟨last, e, hlast, houtcome, hrace, hlost⟩ :=
        flipped_of_lost plan.steps (List.cons_ne_nil a []) (by simp [hsettled])
      obtain rfl : a = last := by simpa using hlast
      simp [hlost, houtcome, Flip.settle, Retry.Stage.settle, hrace]

/-- A lost race leads to the next attempt, after a delay. -/
theorem iterate_lost (goal : Goal) (hr : r.Calm) {delay : Number}
    (hstage : r.stage = .flipping (.due (delay :: delays))) {a : Attempt}
    (ha : a = Attempt.ofScript goal.phase r.reads r.writes) (hlost : a.isSettled = false) :
    ∃ n ≤ 6, iterate goal n r =
      { r with
        stage := .flipping (.due delays), reads := a.reads, writes := a.writes
        calls := r.calls ++ a.calls, waits := r.waits + 1 } := by
  obtain ⟨n, hn, hattempt⟩ := iterate_attempt goal hr hstage
  obtain ⟨e, houtcome, hrace⟩ := lost_of_unsettled hlost
  refine ⟨n + 1, by omega, ?_⟩
  rw [iterate_add, hattempt, ← ha, houtcome]
  simp [iterate, step, Flip.settle, Retry.Stage.settle, hrace, ofFlip, openings, Stage.ask,
    askOfFlip, Stage.wake, Retry.Stage.wake, hr.cancelled, hr.inWait]

/-- A flip makes one attempt after another until one is settled or no delay is left,
and a watch is opened if the change has to wait then. -/
theorem iterate_flip (goal : Goal) (hr : r.Calm) (hstage : r.stage = .flipping (.due delays))
    {as : List Attempt}
    (has : as = attempts goal.phase (delays.length + 1) r.reads r.writes) :
    ∃ n ≤ 6 * (delays.length + 1),
      (iterate goal n r).stage = afterFlip goal (flipped goal.plan.steps as) ∧
      (iterate goal n r).news = r.news ∧
      (iterate goal n r).calls = r.calls ++ (made as).flatMap Attempt.calls ++
        openings (afterFlip goal (flipped goal.plan.steps as)) := by
  -- by induction on the delays that are left, of which each lost race uses one up
  induction delays generalizing r as with
  | nil =>
      obtain ⟨n, hn, hattempt⟩ := iterate_attempt goal hr hstage
      refine ⟨n, by omega, ?_⟩
      rw [hattempt, has, settle_last]
      simp [attempts, made, ofFlip]
  | cons delay delays ih =>
      obtain ⟨a, ha⟩ : ∃ a, a = Attempt.ofScript goal.phase r.reads r.writes := ⟨_, rfl⟩
      have hsplit : as = a :: attempts goal.phase (delays.length + 1) a.reads a.writes := by
        rw [has, ha]
        rfl
      rw [List.length_cons, hsplit, made]
      cases hsettled : a.isSettled with
      | true =>
          obtain ⟨n, hn, hattempt⟩ := iterate_attempt goal hr hstage
          refine ⟨n, by omega, ?_⟩
          rw [hattempt, ← ha, settle_of_settled hsettled, flipped_of_settled hsettled]
          simp [ofFlip]
      | false =>
          obtain ⟨n, hn, hlost⟩ := iterate_lost goal hr hstage ha hsettled
          have hcalm : (iterate goal n r).Calm := by
            obtain ⟨hreads, hwrites⟩ := calm_ofScript goal.phase hr.reads hr.writes
            rw [hlost, ha]
            exact ⟨hr.cancelled, hr.inWait, hreads, hwrites⟩
          have hlater : attempts goal.phase (delays.length + 1) a.reads a.writes =
              attempts goal.phase (delays.length + 1) (iterate goal n r).reads
                (iterate goal n r).writes := by rw [hlost]
          obtain ⟨k, hk, hflip, hnews, hcalls⟩ := ih hcalm (by rw [hlost]) hlater
          have hmore : attempts goal.phase (delays.length + 1) a.reads a.writes ≠ [] :=
            List.cons_ne_nil _ _
          refine ⟨n + k, by omega, ?_⟩
          rw [iterate_add, hflip, hnews, hcalls, hlost, flipped_of_unsettled hsettled _ hmore]
          simp

/-! ## The whole run -/

/-- What a change comes to when its flip has come to its end, with what a watch
delivers from then on. -/
def result (goal : Goal) (flip : Except Failure App.Snapshot)
    (news : List (Except Failure App.Snapshot)) : Outcome :=
  match afterFlip goal flip with
  | .over outcome => outcome
  | _ => waited goal (news.find? isTelling)

/-- A run leads to the result of the change, with the calls of the attempts that are
made and perhaps a watch. -/
theorem run_of_calm (goal : Goal) (hsteps : 0 < goal.plan.steps) (hr : r.Calm)
    (hstage : r.stage = Change.start goal) {as : List Attempt}
    (has : as = attempts goal.phase (goal.plan.delays.length + 1) r.reads r.writes) :
    (run goal r).outcome? = some (result goal (flipped goal.plan.steps as) r.watched) ∧
      (run goal r).calls = r.calls ++ (made as).flatMap Attempt.calls ++
        openings (afterFlip goal (flipped goal.plan.steps as)) := by
  have hdue : r.stage = .flipping (.due goal.plan.delays) := by
    have hsome : ¬ goal.plan.steps ≤ 0 := by omega
    simp [hstage, Change.start, Flip.start, Retry.start, hsome]
  obtain ⟨n, hn, hflip, hnews, hcalls⟩ := iterate_flip goal hr hdue has
  have hwatched : (iterate goal n r).watched = r.watched := by rw [watched, hnews, watched]
  -- the run is long enough for a wait behind the flip
  obtain ⟨k, hk⟩ : ∃ k, 6 * (goal.plan.delays.length + 1) + r.news.length + 1 =
      n + ((iterate goal n r).news.length + 1 + k) :=
    ⟨6 * (goal.plan.delays.length + 1) - n, by rw [hnews]; omega⟩
  rw [run, hk, iterate_add, result, ← hcalls]
  have hpast := isPastFlip_afterFlip goal (flipped goal.plan.steps as)
  cases hafter : afterFlip goal (flipped goal.plan.steps as) with
  | flipping run =>
      rw [hafter] at hpast
      cases hpast
  | «over» outcome =>
      rw [hafter] at hflip
      rw [iterate_of_over hflip, outcome?, hflip]
      exact ⟨rfl, rfl⟩
  | waiting =>
      rw [hafter] at hflip
      obtain ⟨hover, hkept⟩ := iterate_of_waiting goal hflip
      rw [iterate_add, iterate_of_over hover, outcome?, hover, hkept, hwatched]
      exact ⟨rfl, rfl⟩

/-! ## Starts -/

theorem toInstance_eq_ok_iff {app : App.Snapshot} {found : Option App.Instance} :
    toInstance goal app = .ok found ↔
      app.pod.isBlank = false ∧
        found = some { app := goal.app, pod := app.pod, command := app.command } := by
  unfold toInstance
  split
  · rename_i hblank
    simp [hblank]
  · rename_i hpod
    simp [hpod, eq_comm]

/-- The flip of a start goes through and does not show the app Live. -/
def Waits (as : List Attempt) : Prop :=
  ∃ a flip, as.find? Attempt.isSettled = some a ∧ a.outcome = .ok flip ∧ flip.isLive = false

/-- The snapshot that settles a start: that of the flip, if it shows the app Live, and
else the first one watched that does, unless the watch fails before. -/
inductive Decides (as : List Attempt) (news : List (Except Failure App.Snapshot))
    (app : App.Snapshot) : Prop
  | atOnce (a : Attempt) (hfirst : as.find? Attempt.isSettled = some a)
    (hflip : a.outcome = .ok app) (hlive : app.isLive = true)
  | later (hwaits : Waits as) (htold : news.find? isTelling = some (.ok app))

section Start

variable {as : List Attempt} {news : List (Except Failure App.Snapshot)} {steps : Int}
  (hlive : goal.phase = .live)

include hlive

theorem afterFlip_of_live (app : App.Snapshot) :
    afterFlip goal (.ok app) = if app.isLive then .over (toInstance goal app) else .waiting := by
  simp only [afterFlip, hlive]

theorem afterFlip_of_waits (hwaits : Waits as) :
    afterFlip goal (flipped steps as) = .waiting := by
  obtain ⟨a, flip, hfirst, hflip, hrest⟩ := hwaits
  rw [flipped_of_find steps hfirst, hflip, afterFlip_of_live hlive]
  simp [hrest]

theorem result_of_waits (hwaits : Waits as) :
    result goal (flipped steps as) news = waited goal (news.find? isTelling) := by
  rw [result, afterFlip_of_waits hlive hwaits]

theorem result_of_decides {app : App.Snapshot} (hdecides : Decides as news app) :
    result goal (flipped steps as) news = toInstance goal app := by
  cases hdecides with
  | atOnce a hfirst hflip hshown =>
      rw [result, flipped_of_find steps hfirst, hflip, afterFlip_of_live hlive, if_pos hshown]
  | later hwaits htold => rw [result_of_waits hlive hwaits, htold, waited]

/-- A flip fails, or it shows the app Live, or the start has to wait. -/
theorem flipped_cases (hsome : as ≠ []) (steps : Int)
    (news : List (Except Failure App.Snapshot)) :
    (∃ e, flipped steps as = .error e) ∨
      (∃ app, Decides as news app ∧ afterFlip goal (flipped steps as) =
        .over (toInstance goal app)) ∨ Waits as := by
  cases hfind : as.find? Attempt.isSettled with
  | none =>
      obtain ⟨_, e, _, _, _, hlost⟩ := flipped_of_lost steps hsome hfind
      exact .inl ⟨_, hlost⟩
  | some a =>
      rw [flipped_of_find steps hfind]
      cases hflip : a.outcome with
      | error e => exact .inl ⟨e, rfl⟩
      | ok app =>
          cases hshown : app.isLive with
          | true =>
              refine .inr (.inl ⟨app, .atOnce a hfind hflip hshown, ?_⟩)
              rw [afterFlip_of_live hlive, if_pos hshown]
          | false => exact .inr (.inr ⟨a, app, hfind, hflip, hshown⟩)

theorem decides_of_result (hsome : as ≠ []) {found : Option App.Instance}
    (hfound : result goal (flipped steps as) news = .ok found) :
    ∃ app, Decides as news app ∧ toInstance goal app = .ok found := by
  rcases flipped_cases hlive hsome steps news with ⟨e, hfailed⟩ | ⟨app, hdecides, _⟩ | hwaits
  · rw [result, hfailed] at hfound
    cases hfound
  · rw [result_of_decides hlive hdecides] at hfound
    exact ⟨app, hdecides, hfound⟩
  · rw [result_of_waits hlive hwaits] at hfound
    cases htold : news.find? isTelling with
    | none =>
        rw [htold] at hfound
        cases hfound
    | some told =>
        rw [htold] at hfound
        cases told with
        | error e => cases hfound
        | ok app => exact ⟨app, .later hwaits htold, hfound⟩

/-- A watch is opened only for a start that has to wait. -/
theorem openings_of_live (hsome : as ≠ []) (steps : Int) :
    Waits as ∧ openings (afterFlip goal (flipped steps as)) = [.watch] ∨
      ¬ Waits as ∧ openings (afterFlip goal (flipped steps as)) = [] := by
  by_cases hwaits : Waits as
  · rw [afterFlip_of_waits hlive hwaits]
    exact .inl ⟨hwaits, rfl⟩
  · refine .inr ⟨hwaits, ?_⟩
    rcases flipped_cases hlive hsome steps [] with
      ⟨e, hfailed⟩ | ⟨app, _, hover⟩ | hwaits'
    · rw [hfailed]
      rfl
    · rw [hover]
      rfl
    · exact absurd hwaits' hwaits

end Start

/-- No attempt opens a watch. -/
theorem countP_isWatch_made (phase : Phase) (n : Nat) (reads writes : List Answer) :
    ((made (attempts phase n reads writes)).flatMap Attempt.calls).countP Call.isWatch = 0 := by
  have hnone : ∀ reads writes,
      (Attempt.ofScript phase reads writes).calls.countP Call.isWatch = 0 := by
    intro reads writes
    unfold Attempt.ofScript
    split
    · rfl
    · split <;> rfl
  induction n generalizing reads writes with
  | zero => rfl
  | succ n ih =>
      simp only [attempts, made]
      split
      · simpa using hnone reads writes
      · simp only [List.flatMap_cons, List.countP_append, ih, hnone]

/-- Let a start run on any script without being called off.  The flip is tried five
times at most, until a try does not lose a race.  The start finds an instance just if
a snapshot decides it that names a pod, and then that of the wanted app with the pod
and the command of the snapshot; a deciding snapshot without a pod fails it.  A failure
of the flip and a failure of the watch come out as they are, except that an app that is
missing while it is waited for has failed; a watch that comes to its end ends the start
as well, and five lost races do with the last of them as the cause.  A watch is opened
once at most, and only for a start that has to wait. -/
theorem outcome_of_start (goal : Goal) (hlive : goal.phase = .live) (hplan : goal.plan.IsStandard)
    (r : Rehearsal) (hr : r.Calm) (hstage : r.stage = Change.start goal) (hcalls : r.calls = [])
    (as : List Attempt) (has : as = attempts .live 5 r.reads r.writes) :
    ∃ outcome, (run goal r).outcome? = some outcome ∧
      (∀ found, outcome = .ok found ↔
        ∃ app, Decides as r.watched app ∧ app.pod.isBlank = false ∧
          found = some { app := goal.app, pod := app.pod, command := app.command }) ∧
      (∀ app, Decides as r.watched app → app.pod.isBlank = true →
        outcome = .error (.noPod goal.app.label)) ∧
      (∀ a e, as.find? Attempt.isSettled = some a → a.outcome = .error e → outcome = .error e) ∧
      (as.find? Attempt.isSettled = none →
        ∃ a e, as.getLast? = some a ∧ a.outcome = .error e ∧ e.isIn .conflict = true ∧
          outcome = .error (.attemptsSpent 5 e)) ∧
      (Waits as → ∀ e, r.watched.find? isTelling = some (.error e) →
        outcome = .error (if e.isIn .appNotFound then .appDeleted goal.app.label e else e)) ∧
      (Waits as → r.watched.find? isTelling = none →
        outcome = .error (.stoppedWaiting goal.app.label)) ∧
      (run goal r).calls.countP Call.isWatch ≤ 1 ∧
      (Waits as ∧ (run goal r).calls = (made as).flatMap Attempt.calls ++ [.watch] ∨
        ¬ Waits as ∧ (run goal r).calls = (made as).flatMap Attempt.calls) := by
  have hsteps : goal.plan.steps = 5 := hplan.steps
  have hsome : as ≠ [] := by
    rw [has]
    exact List.cons_ne_nil _ _
  have hattempts : as = attempts goal.phase (goal.plan.delays.length + 1) r.reads r.writes := by
    rw [has, hlive, hplan.length_delays]
  obtain ⟨houtcome, hmade⟩ := run_of_calm goal (by omega) hr hstage hattempts
  rw [hsteps] at houtcome hmade
  rw [hcalls, List.nil_append] at hmade
  refine ⟨_, houtcome, ?_, ?_, ?_, ?_, ?_, ?_, ?_, ?_⟩
  · intro found
    constructor
    · intro hfound
      obtain ⟨app, hdecides, hinstance⟩ := decides_of_result hlive hsome hfound
      exact ⟨app, hdecides, toInstance_eq_ok_iff.mp hinstance⟩
    · rintro ⟨app, hdecides, hinstance⟩
      rw [result_of_decides hlive hdecides]
      exact toInstance_eq_ok_iff.mpr hinstance
  · intro app hdecides hblank
    rw [result_of_decides hlive hdecides, toInstance, if_pos hblank]
  · intro a e hfirst hfailed
    rw [flipped_of_find 5 hfirst, hfailed]
    rfl
  · intro hlost
    obtain ⟨a, e, hlast, hfailed, hrace, hspent⟩ := flipped_of_lost 5 hsome hlost
    refine ⟨a, e, hlast, hfailed, hrace, ?_⟩
    rw [hspent]
    rfl
  · intro hwaits e htold
    rw [result_of_waits hlive hwaits, htold, waited]
  · intro hwaits hnone
    rw [result_of_waits hlive hwaits, hnone, waited]
  · rw [hmade, List.countP_append, has, countP_isWatch_made, ← has]
    rcases openings_of_live hlive hsome 5 with ⟨_, hopens⟩ | ⟨_, hopens⟩ <;>
      simp [hopens, Call.isWatch]
  · rw [hmade]
    rcases openings_of_live hlive hsome 5 with ⟨hwaits, hopens⟩ | ⟨hwaits, hopens⟩
    · exact .inl ⟨hwaits, by rw [hopens]⟩
    · exact .inr ⟨hwaits, by rw [hopens, List.append_nil]⟩

namespace Sample

def answer (wanted phase pod : Text) : Answer :=
  { cancels := false
    object := .ok (some (.object
      [("spec", .object [("targetPhase", .text wanted)]),
        ("status", .object [("phase", .text phase), ("podName", .text pod)])])) }

/-- A start that loses a race, is written at the next attempt, and then waits until the
app is Live. -/
def racing : Rehearsal :=
  { stage := Change.start target
    cancelled := false
    reads := [⟨false, .error (.reported .conflict "the object has been modified")⟩,
      answer Phase.rest.name Phase.rest.name []]
    writes := [⟨false, .ok none⟩]
    news := [answer Phase.live.name Phase.rest.name [],
      answer Phase.live.name Phase.live.name "ctr-pod"]
    cancelInWait := none
    calls := []
    waits := 0 }

end Sample

open Sample in
theorem outcome_of_start_racing :
    racing.Calm ∧ target.plan.IsStandard ∧
      (run target racing).outcome? =
        some (.ok (some { app := target.app, pod := .text "ctr-pod", command := [] })) ∧
      (run target racing).calls.countP Call.isWatch ≤ 1 := by
  have hcalm : racing.Calm := by
    constructor <;> simp [racing, answer]
  have hplan : target.plan.IsStandard := Flip.Plan.isStandard_standard
  obtain ⟨outcome, houtcome, hfound, _, _, _, _, _, hwatch, _⟩ :=
    outcome_of_start target rfl hplan racing hcalm rfl rfl _ rfl
  refine ⟨hcalm, hplan, ?_, hwatch⟩
  rw [houtcome, (hfound _).mpr ⟨_, .later ⟨_, _, rfl, rfl, rfl⟩ rfl, rfl, rfl⟩]
  rfl

end Rehearsal

end AttachGate.Change
