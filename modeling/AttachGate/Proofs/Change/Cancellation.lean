import AttachGate.Proofs.Change.Moments
import AttachGate.Proofs.Retry.Delays

/-!
# Work after a change is called off

A change comes to a remote call only by a look at whether it is called off that
finds it is not, and never from one remote call straight to the next.  So once a
change is called off it makes at most the remote call that it has come to
already, and none if that happens while a call is under way.

The attempts of a flip are bounded by the delays that are left, and an attempt
reads once and writes once at most.
-/

namespace AttachGate.Change

variable {goal : Goal} {m : Moment}

/-! ## Coming to a remote call -/

def Stage.isCalling (s : Stage) : Bool :=
  match s.ask with
  | .read | .write _ => true
  | _ => false

theorem Stage.isCalling_of_isPastFlip {s : Stage} (hpast : s.isPastFlip = true) :
    s.isCalling = false := by
  cases s with
  | flipping run => cases hpast
  | _ => rfl

/-- A flip comes to a call only from a look that finds it not called off. -/
theorem FlipStep.looked {run : Flip.Run} {t : Stage} (hstep : FlipStep goal m run t)
    (hcalling : t.isCalling = true) : m.cancelled = false ∧ askOfFlip run = .flag := by
  cases hstep with
  | reads delays hgoing => exact ⟨hgoing, rfl⟩
  | writes app delays hgoing => exact ⟨hgoing, rfl⟩
  | skips app =>
      rw [Stage.isCalling_of_isPastFlip (isPastFlip_afterFlip goal _)] at hcalling
      cases hcalling
  | lands app =>
      rw [Stage.isCalling_of_isPastFlip (isPastFlip_afterFlip goal _)] at hcalling
      cases hcalling
  | _ => cases hcalling

namespace Job

variable {job : Job}

theorem remote?_eq_none (hstage : job.stage.isCalling = false)
    (hwatch : job.watch.stage ≠ .polling) : job.remote? = none := by
  unfold Stage.isCalling at hstage
  unfold remote?
  cases hask : job.stage.ask <;> simp_all

/-- A change comes to a poll only from a look that finds it not called off. -/
theorem polls (hstage : job.stage = .waiting)
    (hremote : (job.proceed goal m).remote?.isSome = true) :
    m.cancelled = false ∧ job.watch.stage = .looking := by
  have hask : job.stage.ask = .next := by rw [hstage]; rfl
  unfold proceed at hremote
  rw [hask] at hremote
  cases hwatch : job.watch.stage with
  | looking =>
      cases hcancelled : m.cancelled with
      | false => exact ⟨rfl, rfl⟩
      | true => simp [hwatch, hcancelled, remote?, hask, Watch.look] at hremote
  | resting =>
      cases hcancelled : m.cancelled <;>
        simp [hwatch, hcancelled, remote?, hask, Watch.wake] at hremote
  | ended => simp [hwatch, remote?, hstage, Stage.deliver, Stage.ask] at hremote
  | polling =>
      cases hreply : m.reply with
      | error e =>
          cases hdeleted : e.isIn .appNotFound <;>
            simp [hwatch, hreply, poll, hstage, Stage.deliver, hdeleted, remote?, Stage.ask]
              at hremote
      | ok app =>
          simp only [hwatch, hreply] at hremote
          rw [remote?_eq_none] at hremote
          · cases hremote
          · apply Stage.isCalling_of_isPastFlip
            simp only [poll]
            split
            · exact Stage.isPastFlip_deliver (by rw [hstage]; rfl) goal _
            · rw [hstage]; rfl
          · simp [poll, Watch.poll, hwatch]

/-- A job comes to a remote call only from a look that finds it not called off. -/
theorem looked (hjob : job.Patient) (hremote : (job.proceed goal m).remote?.isSome = true) :
    m.cancelled = false ∧ job.remote? = none := by
  cases hstage : job.stage with
  | «over» outcome => simp [proceed, hstage, Stage.ask, remote?] at hremote
  | waiting =>
      obtain ⟨hgoing, hlooking⟩ := polls hstage hremote
      exact ⟨hgoing, by simp [remote?, hstage, Stage.ask, hlooking]⟩
  | flipping run =>
      have hpast : job.stage.isPastFlip = false := by rw [hstage]; rfl
      have hwatch : (job.proceed goal m).watch.stage ≠ .polling := by
        rw [watch_proceed hpast m, hjob hpast]
        decide
      cases hcalling : (job.proceed goal m).stage.isCalling with
      | false =>
          rw [remote?_eq_none hcalling hwatch] at hremote
          cases hremote
      | true =>
          obtain ⟨hgoing, hflag⟩ := (flipStep_proceed goal m hstage).looked hcalling
          exact ⟨hgoing, by simp [remote?, hstage, Stage.ask, hflag]⟩

/-- A job that is called off does not come to a remote call, and neither does one
that is at a remote call already. -/
theorem remote?_proceed (goal : Goal) (hjob : job.Patient)
    (hoff : m.cancelled = true ∨ job.remote?.isSome = true) :
    (job.proceed goal m).remote? = none := by
  cases hremote : (job.proceed goal m).remote? with
  | none => rfl
  | some call =>
      obtain ⟨hgoing, hquiet⟩ := looked hjob (by rw [hremote]; rfl)
      rw [hgoing, hquiet] at hoff
      simp at hoff

theorem remotes_of_quiet (goal : Goal) (hjob : job.Patient) (hquiet : job.remote? = none)
    {moments : List Moment} (hoff : ∀ m ∈ moments, m.cancelled = true) :
    job.remotes goal moments = [] := by
  induction moments generalizing job with
  | nil => rfl
  | cons m rest ih =>
      have hnext := remote?_proceed goal hjob (.inl (hoff m List.mem_cons_self))
      have hrest := ih (hjob.proceed m) hnext fun n hn => hoff n (List.mem_cons_of_mem m hn)
      simp [remotes, hquiet, hrest]

/-- A job that is called off makes no remote call but the one that it is at. -/
theorem remotes_prefix (goal : Goal) (hjob : job.Patient) {moments : List Moment}
    (hoff : ∀ m ∈ moments, m.cancelled = true) :
    job.remotes goal moments <+: job.remote?.toList := by
  cases moments with
  | nil => exact List.nil_prefix
  | cons m rest =>
      have hnext := remote?_proceed goal hjob (.inl (hoff m List.mem_cons_self))
      have hrest := remotes_of_quiet goal (hjob.proceed m) hnext
        fun n hn => hoff n (List.mem_cons_of_mem m hn)
      simp [remotes, hrest]

end Job

/-! ## How many calls an attempt makes -/

/-- Whether an attempt has its call of a kind behind it. -/
def hasMade (call : Remote) : Flip.Stage → Bool
  | .fetched _ | .writing _ => call = .read
  | _ => false

/-- How many calls of a kind the attempts that are left can make. -/
def Stage.allowance (call : Remote) : Stage → Nat
  | .flipping (.due delays) => delays.length + 1
  | .flipping (.trying attempt delays) => delays.length + if hasMade call attempt then 0 else 1
  | .flipping (.pausing _ delays) => delays.length + 1
  | _ => 0

theorem Stage.allowance_of_isPastFlip (call : Remote) {s : Stage} (hpast : s.isPastFlip = true) :
    s.allowance call = 0 := by
  cases s with
  | flipping run => cases hpast
  | _ => rfl

def calling : Flip.Run → List Remote
  | .trying .reading _ => [.read]
  | .trying (.writing _) _ => [.write]
  | _ => []

/-- An attempt makes no call of a kind twice. -/
theorem count_calling_le (call : Remote) (attempt : Flip.Stage) (delays : List Number) :
    (calling (.trying attempt delays)).count call ≤ if hasMade call attempt then 0 else 1 := by
  cases attempt <;> cases call <;> simp [calling, hasMade]

theorem calling_of_flag {run : Flip.Run} (hask : askOfFlip run = .flag) : calling run = [] := by
  cases run with
  | trying attempt delays =>
      cases attempt with
      | reading => cases hask
      | writing object => cases hask
      | _ => rfl
  | _ => rfl

/-- Each call of a flip is taken from the allowance. -/
theorem FlipStep.allowance {run : Flip.Run} {t : Stage} (hstep : FlipStep goal m run t)
    (call : Remote) :
    t.allowance call + (calling run).count call ≤ (Stage.flipping run).allowance call := by
  cases hstep with
  | begins delays hgoing => simp [Stage.allowance, hasMade, calling]
  | reads delays hgoing => simp [Stage.allowance, hasMade, calling]
  | fetches app delays hreply hunwanted => cases call <;> simp [Stage.allowance, hasMade, calling]
  | writes app delays hgoing => cases call <;> simp [Stage.allowance, hasMade, calling]
  | wakes delay delays hgoing => simp [Stage.allowance, calling]
  | breaksOff delay delays hcancelled => simp [Stage.allowance, calling]
  | idles reply => simp [Stage.allowance, calling]
  | givesUp e hcancelled hkind hask => simp [calling_of_flag hask, Stage.allowance]
  | skips app delays hreply hwanted =>
      have hcount := count_calling_le call .reading delays
      rw [Stage.allowance_of_isPastFlip call (isPastFlip_afterFlip goal _)]
      simp only [Stage.allowance]
      omega
  | lands app object delays hreply =>
      have hcount := count_calling_le call (.writing object) delays
      rw [Stage.allowance_of_isPastFlip call (isPastFlip_afterFlip goal _)]
      simp only [Stage.allowance]
      omega
  | loses attempt delay delays e hreply hlost =>
      have hcount := count_calling_le call attempt (delay :: delays)
      simp only [Stage.allowance, List.length_cons]
      omega
  | runsOut attempt e hreply hlost =>
      have hcount := count_calling_le call attempt []
      simp only [Stage.allowance]
      omega
  | fails attempt delays e hreply hother =>
      have hcount := count_calling_le call attempt delays
      simp only [Stage.allowance]
      omega

namespace Job

variable {job : Job}

theorem remote?_of_flipping {run : Flip.Run} (hstage : job.stage = .flipping run) :
    job.remote?.toList = calling run := by
  unfold remote?
  rw [hstage]
  cases run with
  | trying attempt delays => cases attempt <;> rfl
  | _ => rfl

/-- Once the flip is behind a change, all its remote calls are polls. -/
theorem remote?_ne (hpast : job.stage.isPastFlip = true) {call : Remote} (hcall : call ≠ .watch) :
    job.remote? ≠ some call := by
  cases hstage : job.stage with
  | flipping run =>
      rw [hstage] at hpast
      cases hpast
  | «over» outcome => simp [remote?, hstage, Stage.ask]
  | waiting =>
      simp only [remote?, hstage, Stage.ask]
      split
      · exact fun hsame => hcall (Option.some.inj hsame).symm
      · exact (Option.some_ne_none call).symm

/-- A job makes no more reads, and no more writes, than the attempts that are left
allow. -/
theorem count_remotes_le (goal : Goal) (job : Job) {call : Remote} (hcall : call ≠ .watch)
    (moments : List Moment) :
    (job.remotes goal moments).count call ≤ job.stage.allowance call := by
  induction moments generalizing job with
  | nil => simp [remotes]
  | cons m rest ih =>
      have hrest := ih (job.proceed goal m)
      rw [remotes, List.count_append]
      cases hstage : job.stage with
      | flipping run =>
          have hstep := (flipStep_proceed goal m hstage).allowance call
          rw [remote?_of_flipping hstage]
          omega
      | _ =>
          have hpast : job.stage.isPastFlip = true := by rw [hstage]; rfl
          have hnone : job.remote?.toList.count call = 0 := by
            rw [List.count_eq_zero, Option.mem_toList]
            exact remote?_ne hpast hcall
          rw [Stage.allowance_of_isPastFlip call (isPastFlip_proceed hpast m)] at hrest
          omega

theorem count_remotes_start_le (hplan : goal.plan.IsStandard) {call : Remote}
    (hcall : call ≠ .watch) (moments : List Moment) :
    ((Job.start goal).remotes goal moments).count call ≤ 5 := by
  have hle := count_remotes_le goal (.start goal) hcall moments
  have hfive : (Job.start goal).stage.allowance call = 5 := by
    simp [Job.start, Change.start, Flip.start, Retry.start, Stage.allowance, hplan.steps,
      Backoff.standard, hplan.length_delays]
  omega

/-! ## After a change is called off -/

theorem remote?_start (goal : Goal) : (Job.start goal).remote? = none := by
  by_cases hnone : goal.plan.steps ≤ 0 <;>
    simp [Job.start, Change.start, Flip.start, Retry.start, hnone, remote?, Stage.ask, askOfFlip]

/-- A delay ends at once for a change that is called off, and the change with it. -/
theorem stage_of_pause {delay : Number} (hask : job.stage.ask = .pause delay)
    (hcancelled : m.cancelled = true) :
    (job.proceed goal m).stage = .over (.error .cancelledInBackoff) := by
  obtain ⟨delays, hstage⟩ := Stage.eq_of_pause hask
  simp only [proceed, hstage, Stage.ask, askOfFlip, hcancelled]
  rfl

/-- Let a change be called off at some time in its course, whatever the cluster has
answered and will answer.  From then on it makes one remote call at most, the one
that it is at, since the look before it has found the change not called off; and
none, if the change is called off while a remote call is under way, so that no read
is followed by a write.  A delay that it is in or comes to ends at once, and the
change with it.  At any time it has made at most five reads and five writes for its
flip, and all its other calls are polls of its watch. -/
theorem calls_of_calledOff (goal : Goal) (hplan : goal.plan.IsStandard) (before since : List Moment)
    (hsince : ∀ m ∈ since, m.cancelled = true) (job : Job)
    (hjob : job = (Job.start goal).after goal before) :
    (job.remotes goal since).length ≤ 1 ∧
    (∀ call ∈ job.remotes goal since, job.remote? = some call ∧
      ∃ earlier m, before = earlier ++ [m] ∧ m.cancelled = false) ∧
    (∀ earlier m, before = earlier ++ [m] →
      ((Job.start goal).after goal earlier).remote?.isSome = true →
      job.remotes goal since = []) ∧
    (∀ early m late delay, since = early ++ m :: late →
      (job.after goal early).stage.ask = .pause delay →
      (job.after goal (early ++ [m])).stage = .over (.error .cancelledInBackoff)) ∧
    ((Job.start goal).remotes goal (before ++ since)).count .read ≤ 5 ∧
    ((Job.start goal).remotes goal (before ++ since)).count .write ≤ 5 := by
  have hpatient : job.Patient := by
    rw [hjob]
    exact (patient_start goal).after before
  have hprefix := remotes_prefix goal hpatient hsince
  refine ⟨?_, ?_, ?_, ?_, count_remotes_start_le hplan (by decide) _,
    count_remotes_start_le hplan (by decide) _⟩
  · calc (job.remotes goal since).length ≤ job.remote?.toList.length := hprefix.length_le
      _ ≤ 1 := by cases job.remote? <;> simp
  · intro call hcall
    have hremote : job.remote? = some call := by simpa using hprefix.subset hcall
    refine ⟨hremote, ?_⟩
    rcases List.eq_nil_or_concat before with rfl | ⟨earlier, m, hsplit⟩
    · rw [hjob, after, List.foldl_nil, remote?_start] at hremote
      cases hremote
    · rw [List.concat_eq_append] at hsplit
      rw [hjob, hsplit, after_concat] at hremote
      have hlooked := looked ((patient_start goal).after earlier) (by rw [hremote]; rfl)
      exact ⟨earlier, m, hsplit, hlooked.1⟩
  · intro earlier m hsplit hbusy
    apply remotes_of_quiet goal hpatient _ hsince
    rw [hjob, hsplit, after_concat]
    exact remote?_proceed goal ((patient_start goal).after earlier) (.inr hbusy)
  · intro early m late delay hsplit hask
    rw [after_concat]
    exact stage_of_pause hask (hsince m (by simp [hsplit]))

namespace Sample

def target : Goal :=
  { app := ⟨.text "app", .text "ctr"⟩, phase := .live, plan := .standard }

def resting : App.Snapshot :=
  { id := target.app, targetPhase := .text Phase.rest.name, phase := .text Phase.rest.name
    pod := .null, command := [], error := .null, version := .text "1", object := [] }

def idle (cancelled : Bool) : Moment := ⟨cancelled, .error .emptyScript⟩

/-- The app is read, and the look before the write finds the start not called off. -/
def before : List Moment := [idle false, idle false, ⟨false, .ok resting⟩, idle false]

/-- The start is called off, and its write loses a race. -/
def since : List Moment :=
  [⟨true, .error (.reported .conflict "the object has been modified")⟩, idle true]

/-- The start as it is when it is called off. -/
def writer : Job := (Job.start target).after target before

end Sample

open Sample in
theorem calls_of_calledOff_writing :
    (∀ m ∈ since, m.cancelled = true) ∧ writer.remotes target since = [.write] ∧
      (writer.remotes target since).length ≤ 1 ∧
      (writer.after target since).stage = .over (.error .cancelledInBackoff) ∧
      ((Job.start target).remotes target (before ++ since)).count .read ≤ 5 := by
  have hsince : ∀ m ∈ since, m.cancelled = true := by decide
  obtain ⟨hlength, _, _, hpause, hreads, _⟩ := calls_of_calledOff target
    Flip.Plan.isStandard_standard before since hsince writer rfl
  refine ⟨hsince, by decide +kernel, hlength, ?_, hreads⟩
  have hlost : (match (writer.after target (since.take 1)).stage.ask with
      | .pause _ => true
      | _ => false) = true := by decide +kernel
  cases hask : (writer.after target (since.take 1)).stage.ask with
  | pause delay => exact hpause (since.take 1) (idle true) [] delay rfl hask
  | _ =>
      rw [hask] at hlost
      cases hlost

end Job

end AttachGate.Change
