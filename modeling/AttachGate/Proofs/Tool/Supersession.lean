import AttachGate.Proofs.Change.Endings
import AttachGate.Proofs.Coordinator.Flags
import AttachGate.Proofs.Tool.Replies

/-!
# Which intents fail as superseded

The intents of a coordinator whose changes go through the cluster tool.  A change
comes to the failure of something called off only if it has seen the cancel flag of
its intent set: it makes no such failure up, and the tool fails with none.
-/

namespace AttachGate.Tool

def goal (app : App.Id) (plan : Phase → Flip.Plan) (phase : Phase) : Change.Goal :=
  { app, phase, plan := plan phase }

def Drive.meet (outcome : Outcome) (d : Drive) : Drive :=
  { d with exchange := { d.exchange with script := [⟨false, outcome⟩] } }

/-- The changes of an app through the tool as apply functions, which see how the next
command comes out. -/
def appliers (s : Settings) (app : App.Id) (plan : Phase → Flip.Plan) :
    Appliers Outcome Drive (Option App.Instance) where
  first phase := .start (goal app plan phase) []
  next phase outcome flag d :=
    match d.job.outcome? with
    | some result => .inr result
    | none => .inl ((d.meet outcome).step s (goal app plan phase) flag)

namespace Drive

open Change (Faithful admits_faithful)

variable {s : Settings} {app : App.Id} {plan : Phase → Flip.Plan}

/-- A step at which the change is not called off brings no failure of something
called off in. -/
theorem traced_step {goal : Change.Goal} {d : Drive} (hd : d.job.Traced (Faithful false)) :
    (d.step s goal false).job.Traced (Faithful false) := by
  have hreply : Traced (Faithful false) (d.reply s goal) :=
    (traced_reply s goal d).mono fun _ => not_cancelled_of_isToolFailure
  rw [job_step]
  exact admits_faithful.suits.traced_proceed (m := ⟨false, d.reply s goal⟩) hd fun _ => hreply

/-- What an apply function comes to without having seen the flag set is no failure
of something called off. -/
theorem traced_course (phase : Phase) {seen : List (Outcome × Bool)}
    (hgoing : ∀ outcome, (outcome, true) ∉ seen) {result : Change.Outcome}
    (hresult : (appliers s app plan).course phase seen = .inr result) :
    Traced (Faithful false) result := by
  have hsuits := admits_faithful.suits
  have hcourse : Sum.elim (fun d : Drive => d.job.Traced (Faithful false))
      (Traced (Faithful false)) ((appliers s app plan).course phase seen) := by
    unfold Appliers.course
    refine List.foldlRecOn seen _ ?_ ?_
    · exact hsuits.traced_start false
    · rintro (d | result) hstate ⟨outcome, flag⟩ hmem
      · cases flag with
        | true => exact absurd hmem (hgoing outcome)
        | false =>
            simp only [appliers]
            cases hover : d.job.outcome? with
            | some result =>
                obtain ⟨hstage, _⟩ := hstate
                unfold Change.Job.outcome? at hover
                split at hover
                · rename_i hend
                  cases hover
                  rw [hend] at hstage
                  exact hstage
                · cases hover
            | none => exact traced_step (d := d.meet outcome) hstate
      · exact hstate
  rw [hresult] at hcourse
  exact hcourse

end Drive

/-! ## Intents -/

open Coordinator

/-- Whatever the tool does, whatever is requested and whoever goes on when: an intent
that has failed as superseded is called off, its change had seen so, and the other
phase had been requested while the intent was registered, the answer being a newer
intent; the failure names the intent and keeps the one that its change came to.  Any
other failure is the one that its change came to, itself. -/
theorem cause_of_failed (s : Settings) (app : App.Id) (plan : Phase → Flip.Plan)
    (label : Text) (acts : List (Act Outcome)) (a : Appliers Outcome Drive (Option App.Instance))
    (ha : a = appliers s app plan) (past : Past Outcome Drive (Option App.Instance))
    (hpast : past = history (perform a) (start label) acts)
    (c : Coordinator Drive (Option App.Instance))
    (hc : c = acts.foldl (perform a) (start label)) (token : Nat) (e : Failure)
    (hfailed : c.outcome? token = some (.error e)) :
    ∃ i, c.intent? token = some i ∧
      (e.kind = .superseded →
        i.cancelled = true ∧ (∃ outcome, (outcome, true) ∈ looks past token) ∧
        (∃ b, (b, .request i.phase.other) ∈ past ∧ b.registered = some token ∧
          token < (b.request i.phase.other).1) ∧
        ∃ cause, a.course i.phase (looks past token) = .inr (.error cause) ∧
          cause.isIn .cancelled = true ∧ e = .superseded label i.phase.name token cause) ∧
      (e.kind ≠ .superseded →
        a.course i.phase (looks past token) = .inr (.error e) ∧ e.isIn .cancelled = false) := by
  subst ha
  obtain ⟨haudited, _⟩ := audited_course (appliers s app plan) label acts
  rw [← hpast, ← hc] at haudited
  simp only [outcome?, Option.bind_eq_some_iff] at hfailed
  obtain ⟨i, hi, hrunner⟩ := hfailed
  have htoken := token_of_intent? hi
  subst htoken
  have hflagged : Flagged past i := by
    rw [hpast]
    exact flagged_course (appliers s app plan) label acts (by rw [← hc]; exact hi)
  obtain ⟨raw, hcourse, hreport⟩ :=
    (haudited.accounted i.token i hi).result _ (Runner.result?_of_outcome? hrunner)
  cases raw with
  | ok found => cases hreport
  | error cause =>
      refine ⟨i, hi, ?_⟩
      cases hkind : cause.isIn .cancelled with
      | true =>
          have he : e = .superseded label i.phase.name i.token cause := by
            simpa [Intent.report, hkind] using hreport
          refine ⟨fun _ => ?_, fun hother => absurd (by rw [he]; rfl) hother⟩
          have hseen : ∃ outcome, (outcome, true) ∈ looks past i.token := by
            cases hlooks : (looks past i.token).any Prod.snd with
            | true => simpa using hlooks
            | false =>
                have hgoing : ∀ outcome, (outcome, true) ∉ looks past i.token := by
                  simpa using hlooks
                have hfaithful := Drive.traced_course i.phase hgoing hcourse cause rfl
                rw [Change.Faithful, hkind] at hfaithful
                cases hfaithful
          have hcancelled : i.cancelled = true := by
            obtain ⟨outcome, hmem⟩ := hseen
            exact hflagged.seen outcome hmem
          exact ⟨hcancelled, hseen, hflagged.overruled hcancelled, cause, hcourse, hkind, he⟩
      | false =>
          have he : e = cause := by simpa [Intent.report, hkind] using hreport
          subst he
          refine ⟨fun hsuperseded => ?_, fun _ => ⟨hcourse, hkind⟩⟩
          rw [Failure.isIn, hsuperseded] at hkind
          cases hkind

namespace Sample

/-- The first read of a start loses a race, the app is to rest before the delay has
ended, and the start is carried to its end. -/
def overruled : List (Act Outcome) :=
  let conflict := Outcome.completed ⟨1, [], "Error from server (Conflict): try again"⟩
  [.request .live, .turn 1 .missing, .turn 1 .missing, .turn 1 .missing, .turn 1 conflict,
    .request .rest, .turn 1 .missing, .turn 1 .missing, .turn 1 .missing, .turn 1 .missing]

def changes : Appliers Outcome Drive (Option App.Instance) :=
  appliers (.make none none none) ⟨.text "app", .text "ctr"⟩ fun _ => .standard

end Sample

open Sample in
theorem cause_of_failed_overruled :
    let c := overruled.foldl (perform changes) (start "app/ctr")
    let past := history (perform changes) (start "app/ctr") overruled
    c.outcome? 1 =
        some (.error (.superseded "app/ctr" Phase.live.name 1 .cancelledInBackoff)) ∧
      ∃ i, c.intent? 1 = some i ∧ i.cancelled = true ∧
        ∃ b, (b, .request i.phase.other) ∈ past ∧ b.registered = some 1 ∧
          1 < (b.request i.phase.other).1 := by
  intro c past
  have hfailed : c.outcome? 1 =
      some (.error (.superseded "app/ctr" Phase.live.name 1 .cancelledInBackoff)) := by rfl
  obtain ⟨i, hi, hsuperseded, _⟩ := cause_of_failed (.make none none none)
    ⟨.text "app", .text "ctr"⟩ (fun _ => .standard) "app/ctr" overruled changes rfl past rfl c rfl
    1 _ hfailed
  obtain ⟨hcancelled, _, hoverruled, _⟩ := hsuperseded rfl
  exact ⟨hfailed, i, hi, hcancelled, hoverruled⟩

end AttachGate.Tool
