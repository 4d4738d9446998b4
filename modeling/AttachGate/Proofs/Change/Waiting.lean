import AttachGate.Change.Script

/-!
# Waiting for an app

A start that waits goes by what its watch delivers.  Snapshots that do not show the
app Live leave it waiting, whatever else they tell; the first other thing, the app
Live or a failure, ends the wait, and so does the end of the watch.  An error that
the app reports in a snapshot is not looked at.
-/

namespace AttachGate.Change

/-- Whether what a watch delivers ends a wait: the app Live, or a failure. -/
def isTelling : Except Failure App.Snapshot → Bool
  | .ok app => app.isLive
  | .error _ => true

/-- How a wait ends with the first telling thing that is delivered, if there is one. -/
def waited (goal : Goal) : Option (Except Failure App.Snapshot) → Outcome
  | some (.ok app) => toInstance goal app
  | some (.error e) => .error (if e.isIn .appNotFound then .appDeleted goal.app.label e else e)
  | none => .error (.stoppedWaiting goal.app.label)

theorem isFailed_toInstance_iff (goal : Goal) (app : App.Snapshot) :
    (∃ e, toInstance goal app = .error e ∧ e.isIn .appFailed = true) ↔ app.pod.isBlank = true := by
  unfold toInstance
  split
  · rename_i hblank
    simp only [hblank, iff_true]
    exact ⟨_, rfl, rfl⟩
  · rename_i hpod
    simp [hpod]

/-- A wait fails with the app just if the app is Live without a pod, or is not there
any more, or the watch says that it has failed. -/
theorem isFailed_waited_iff (goal : Goal) (told : Option (Except Failure App.Snapshot)) :
    (∃ e, waited goal told = .error e ∧ e.isIn .appFailed = true) ↔
      (∃ app, told = some (.ok app) ∧ app.pod.isBlank = true) ∨
        ∃ e, told = some (.error e) ∧ (e.isIn .appNotFound = true ∨ e.isIn .appFailed = true) := by
  cases told with
  | none =>
      constructor
      · rintro ⟨e, he, hfailed⟩
        cases he
        cases hfailed
      · simp
  | some news =>
      cases news with
      | ok app => simpa [waited] using isFailed_toInstance_iff goal app
      | error e =>
          cases hmissing : e.isIn .appNotFound with
          | true =>
              simp only [waited, hmissing, if_true]
              constructor
              · intro _
                exact .inr ⟨e, rfl, .inl hmissing⟩
              · intro _
                exact ⟨_, rfl, rfl⟩
          | false => simp [waited, hmissing]

namespace Rehearsal

variable {goal : Goal} {r : Rehearsal}

theorem iterate_add (goal : Goal) (n k : Nat) (r : Rehearsal) :
    iterate goal (n + k) r = iterate goal k (iterate goal n r) := by
  induction n generalizing r with
  | zero => simp [iterate]
  | succ n ih =>
      rw [Nat.add_right_comm]
      exact ih (step goal r)

/-- A change that is over goes on no more. -/
theorem iterate_of_over {outcome : Outcome} (hover : r.stage = .over outcome) (n : Nat) :
    iterate goal n r = r := by
  induction n with
  | zero => rfl
  | succ n ih =>
      have hstep : step goal r = r := by simp [step, hover, Stage.ask]
      rw [iterate, hstep, ih]

def watched (r : Rehearsal) : List (Except Failure App.Snapshot) :=
  r.news.map fun a => snapshot a none

/-! ## One delivery -/

/-- The wait takes what is delivered next. -/
theorem step_of_delivered (goal : Goal) (hstage : r.stage = .waiting) {a : Answer}
    {news : List Answer} (hnews : r.news = a :: news) :
    (step goal r).stage = Stage.waiting.deliver goal ((snapshot a none).map some) ∧
      (step goal r).news = news ∧ r.watched = snapshot a none :: (step goal r).watched ∧
      (step goal r).calls = r.calls := by
  simp [step, hstage, Stage.ask, hnews, watched]

theorem deliver_of_telling {news : Except Failure App.Snapshot} (htelling : isTelling news = true) :
    Stage.waiting.deliver goal (news.map some) = .over (waited goal (some news)) := by
  cases news with
  | ok app =>
      have hlive : app.isLive = true := htelling
      simp [Except.map, Stage.deliver, hlive, waited]
  | error e =>
      cases hmissing : e.isIn .appNotFound <;>
        simp [Except.map, Stage.deliver, waited, hmissing]

theorem deliver_of_untelling {news : Except Failure App.Snapshot}
    (huntelling : isTelling news = false) :
    Stage.waiting.deliver goal (news.map some) = .waiting := by
  cases news with
  | ok app =>
      have hrest : app.isLive = false := huntelling
      simp [Except.map, Stage.deliver, hrest]
  | error e => cases huntelling

/-! ## The whole wait -/

/-- As long as nothing telling is delivered the wait goes on. -/
theorem iterate_of_untelling (goal : Goal) (hstage : r.stage = .waiting) {n : Nat}
    (hn : n ≤ r.news.length) (huntelling : ∀ news ∈ r.watched.take n, isTelling news = false) :
    (iterate goal n r).stage = .waiting ∧ (iterate goal n r).news = r.news.drop n := by
  induction n generalizing r with
  | zero => exact ⟨hstage, by simp [iterate]⟩
  | succ n ih =>
      cases hnews : r.news with
      | nil => simp [hnews] at hn
      | cons a news =>
          obtain ⟨hnext, hleft, hwatched, _⟩ := step_of_delivered goal hstage hnews
          rw [hwatched, List.take_succ_cons] at huntelling
          rw [deliver_of_untelling (huntelling _ List.mem_cons_self)] at hnext
          obtain ⟨hwaiting, hdropped⟩ := ih hnext (by simpa [hleft, hnews] using hn)
            (fun later hlater => huntelling later (List.mem_cons_of_mem _ hlater))
          refine ⟨hwaiting, ?_⟩
          rw [iterate, hdropped, hleft, List.drop_succ_cons]

/-- A wait ends with the first telling thing that is delivered, or else with the
watch, and makes no call. -/
theorem iterate_of_waiting (goal : Goal) (hstage : r.stage = .waiting) :
    (iterate goal (r.news.length + 1) r).stage =
        .over (waited goal (r.watched.find? isTelling)) ∧
      (iterate goal (r.news.length + 1) r).calls = r.calls := by
  induction hnews : r.news generalizing r with
  | nil => simp [iterate, step, hstage, Stage.ask, hnews, Stage.deliver, watched, waited]
  | cons a news ih =>
      obtain ⟨hnext, hleft, hwatched, hcalls⟩ := step_of_delivered goal hstage hnews
      rw [List.length_cons, iterate, hwatched]
      cases htelling : isTelling (snapshot a none) with
      | true =>
          rw [deliver_of_telling htelling] at hnext
          rw [iterate_of_over hnext, List.find?_cons_of_pos htelling]
          exact ⟨hnext, hcalls⟩
      | false =>
          rw [deliver_of_untelling htelling] at hnext
          obtain ⟨hover, hkept⟩ := ih hnext hleft
          rw [List.find?_cons_of_neg (by simp [htelling])]
          exact ⟨hover, hkept.trans hcalls⟩

/-! ## Errors that the app reports -/

/-- Whatever a watch delivers, a start that waits goes on waiting behind every
snapshot that does not show the app Live, whatever error that snapshot reports.  It
fails with the app just if the first snapshot that shows the app Live names no pod,
or the watch itself fails before with the app missing or failed. -/
theorem failed_iff_of_waiting (goal : Goal) (r : Rehearsal) (hstage : r.stage = .waiting) :
    (∀ n, n ≤ r.news.length →
      (∀ news ∈ r.watched.take n, ∃ app, news = .ok app ∧ app.isLive = false) →
      (iterate goal n r).stage = .waiting ∧ (iterate goal n r).news = r.news.drop n) ∧
    ∃ outcome, (iterate goal (r.news.length + 1) r).outcome? = some outcome ∧
      ((∃ e, outcome = .error e ∧ e.isIn .appFailed = true) ↔
        (∃ app, r.watched.find? isTelling = some (.ok app) ∧ app.pod.isBlank = true) ∨
          ∃ e, r.watched.find? isTelling = some (.error e) ∧
            (e.isIn .appNotFound = true ∨ e.isIn .appFailed = true)) := by
  constructor
  · intro n hn hunlive
    have huntelling : ∀ news ∈ r.watched.take n, isTelling news = false := by
      intro news hmem
      obtain ⟨app, rfl, hrest⟩ := hunlive news hmem
      exact hrest
    exact iterate_of_untelling goal hstage hn huntelling
  · obtain ⟨hover, _⟩ := iterate_of_waiting goal hstage
    exact ⟨_, by rw [outcome?, hover], isFailed_waited_iff goal _⟩

namespace Sample

def target : Goal := { app := ⟨.text "app", .text "ctr"⟩, phase := .live, plan := .standard }

def told (phase error : Text) : Answer :=
  { cancels := false
    object := .ok (some (.object
      [("spec", .object [("targetPhase", .text Phase.live.name)]),
        ("status", .object [("phase", .text phase), ("error", .text error)])])) }

/-- A start of an app that is wanted Live already; while it waits the app reports an
error. -/
def failing : Rehearsal :=
  { stage := Change.start target
    cancelled := false
    reads := [told Phase.rest.name []]
    writes := []
    news := [told Phase.rest.name "boom"]
    cancelInWait := none
    calls := []
    waits := 0 }

end Sample

open Sample in
theorem failed_iff_of_waiting_failing :
    (iterate target 3 failing).stage = .waiting ∧ (iterate target 4 failing).stage = .waiting ∧
      ∃ outcome, (iterate target 5 failing).outcome? = some outcome ∧
        ¬ ∃ e, outcome = .error e ∧ e.isIn .appFailed = true := by
  have hstage : (iterate target 3 failing).stage = .waiting := by rfl
  obtain ⟨hwaits, outcome, houtcome, hfailed⟩ := failed_iff_of_waiting target _ hstage
  have hunlive : ∀ news ∈ (iterate target 3 failing).watched.take 1,
      ∃ app, news = .ok app ∧ app.isLive = false := by
    intro news hmem
    cases List.mem_singleton.mp hmem
    exact ⟨_, rfl, rfl⟩
  have hnone : (iterate target 3 failing).watched.find? isTelling = none := by rfl
  refine ⟨hstage, (hwaits 1 (by decide) hunlive).1, outcome, houtcome, ?_⟩
  rw [hfailed, hnone]
  simp

open Sample in
/-- A start whose app reports an error while it is waited for does not fail with the
app: it waits for as long as the watch goes on. -/
theorem not_failed_by_reported_error :
    ∃ app e, failing.watched = [.ok app] ∧ app.isLive = false ∧ app.error.isBlank = false ∧
      (run target failing).outcome? = some (.error e) ∧ e.isIn .appFailed = false :=
  ⟨_, _, rfl, rfl, rfl, rfl, rfl⟩

end Rehearsal

end AttachGate.Change
