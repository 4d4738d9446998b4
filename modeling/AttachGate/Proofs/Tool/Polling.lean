import AttachGate.Proofs.Change.Waiting
import AttachGate.Proofs.Tool.Lookouts
import AttachGate.Proofs.Tool.Replies
import AttachGate.Proofs.Tool.Rewriting

/-!
# Waiting by polls

A start that waits polls its app through the tool and looks at what its watch delivers.
Wherever the same version means an equal object, it comes to the same as if it looked at
every poll.
-/

namespace AttachGate

namespace Change.Job

variable {goal : Goal} {job : Job}

theorem remote?_eq_watch_iff :
    job.remote? = some .watch ↔ job.stage = .waiting ∧ job.watch.stage = .polling := by
  unfold remote?
  cases hstage : job.stage with
  | waiting => simp [Stage.ask]
  | «over» outcome => simp [Stage.ask]
  | flipping run =>
      simp only [Stage.ask, reduceCtorEq, false_and, iff_false]
      cases run with
      | trying attempt delays => cases attempt <;> simp [askOfFlip]
      | _ => simp [askOfFlip]

theorem outcome?_eq_some_iff {outcome : Outcome} :
    job.outcome? = some outcome ↔ job.stage = .over outcome := by
  unfold outcome?
  split <;> simp_all

theorem outcome?_of_waiting (hwaiting : job.stage = .waiting) : job.outcome? = none := by
  rw [outcome?, hwaiting]

def inspect (goal : Goal) (reply : Poll) (job : Job) : Job :=
  { stage := job.stage.deliver goal (reply.map some)
    watch := { job.watch with stage := .resting } }

end Change.Job

namespace Tool

theorem Query.exists_object {s : Settings} {id : App.Id} {x : Exchange} {app : App.Snapshot}
    (hread : ((readApp s id).run.run x).1 = .ok app) : ∃ v, App.Snapshot.ofObject v = .ok app := by
  cases harguments : readArguments id with
  | error e =>
      rw [run_readApp_of_error s harguments] at hread
      cases hread
  | ok arguments =>
      rw [run_readApp s harguments] at hread
      obtain ⟨result, _, hparse⟩ := bind_eq_ok.mp hread
      obtain ⟨v, _, hobject⟩ := parse_eq_ok.mp hparse
      exact ⟨v, hobject⟩

namespace Drive

variable {s : Settings} {goal : Change.Goal} {cancelled : Bool} {d p : Drive}

def poll? (s : Settings) (goal : Change.Goal) (d : Drive) : Option Poll :=
  if d.job.remote? = some .watch then some (d.reply s goal) else none

theorem poll?_eq_some_iff {poll : Poll} :
    d.poll? s goal = some poll ↔ d.job.remote? = some .watch ∧ d.reply s goal = poll := by
  simp [poll?]

theorem poll?_eq_none_iff : d.poll? s goal = none ↔ d.job.remote? ≠ some .watch := by
  simp [poll?]

/-- The next transition of a drive that looks at every poll. -/
def inspect (s : Settings) (goal : Change.Goal) (cancelled : Bool) (d : Drive) : Drive :=
  if d.job.remote? = some .watch then
    d.query (Query.readApp s goal.app) fun reply => d.job.inspect goal reply
  else d.step s goal cancelled

def pollsBy (s : Settings) (goal : Change.Goal) (next : Drive → Bool → Drive) (d : Drive)
    (looks : List Bool) : List Poll :=
  (history next d looks).filterMap fun e => e.1.poll? s goal

def polls (s : Settings) (goal : Change.Goal) (d : Drive) (looks : List Bool) : List Poll :=
  pollsBy s goal (fun d cancelled => d.step s goal cancelled) d looks

def inspectedPolls (s : Settings) (goal : Change.Goal) (p : Drive) (looks : List Bool) :
    List Poll :=
  pollsBy s goal (fun p cancelled => p.inspect s goal cancelled) p looks

theorem pollsBy_cons (next : Drive → Bool → Drive) (looks : List Bool) :
    pollsBy s goal next d (cancelled :: looks) =
      (d.poll? s goal).toList ++ pollsBy s goal next (next d cancelled) looks := by
  cases hpoll : d.poll? s goal <;> simp [pollsBy, history, hpoll]

theorem polls_cons (looks : List Bool) :
    d.polls s goal (cancelled :: looks) =
      (d.poll? s goal).toList ++ (d.step s goal cancelled).polls s goal looks :=
  pollsBy_cons _ looks

theorem inspectedPolls_cons (looks : List Bool) :
    p.inspectedPolls s goal (cancelled :: looks) =
      (p.poll? s goal).toList ++ (p.inspect s goal cancelled).inspectedPolls s goal looks :=
  pollsBy_cons _ looks

/-- As many transitions, with a look at every poll. -/
def inspectRun (s : Settings) (goal : Change.Goal) (looks : List Bool) (d : Drive) : Drive :=
  looks.foldl (fun d cancelled => d.inspect s goal cancelled) d

/-! ## One transition -/

theorem step_of_over {outcome : Change.Outcome} (hover : d.job.outcome? = some outcome) :
    d.step s goal cancelled = d := by
  unfold step
  rw [Change.Job.outcome?_eq_some_iff.mp hover]
  rfl

theorem step_of_waiting (hstage : d.job.stage = .waiting) :
    d.step s goal cancelled = d.pull s goal cancelled := by
  unfold step
  rw [hstage]
  rfl

theorem step_of_poll (hd : d.job.remote? = some .watch) :
    d.step s goal cancelled =
      ⟨d.job.poll goal (d.reply s goal), ((Query.readApp s goal.app).run.run d.exchange).2⟩ := by
  obtain ⟨hstage, hwatch⟩ := Change.Job.remote?_eq_watch_iff.mp hd
  rw [step_of_waiting hstage]
  unfold pull reply
  rw [hwatch, hstage]
  rfl

theorem inspect_of_poll (hd : d.job.remote? = some .watch) :
    d.inspect s goal cancelled =
      ⟨d.job.inspect goal (d.reply s goal),
        ((Query.readApp s goal.app).run.run d.exchange).2⟩ := by
  obtain ⟨hstage, _⟩ := Change.Job.remote?_eq_watch_iff.mp hd
  unfold inspect reply
  rw [if_pos hd, hstage]
  rfl

theorem inspect_of_not_poll (hd : d.job.remote? ≠ some .watch) :
    d.inspect s goal cancelled = d.step s goal cancelled := if_neg hd

/-- Unless it waits, a drive leaves its watch alone, and what it comes to does not depend
on that. -/
theorem step_congr (s : Settings) (goal : Change.Goal) (cancelled : Bool)
    (hstage : p.job.stage = d.job.stage) (hexchange : p.exchange = d.exchange)
    (hask : d.job.stage.ask ≠ .next) :
    (p.step s goal cancelled).job.stage = (d.step s goal cancelled).job.stage ∧
      (p.step s goal cancelled).exchange = (d.step s goal cancelled).exchange ∧
      (p.step s goal cancelled).job.watch = p.job.watch ∧
      (d.step s goal cancelled).job.watch = d.job.watch := by
  obtain ⟨⟨stage, watch⟩, exchange⟩ := d
  obtain ⟨⟨_, watch'⟩, _⟩ := p
  obtain rfl := hstage
  obtain rfl := hexchange
  unfold step
  dsimp only at hask ⊢
  split
  case h_5 hnext => exact absurd hnext hask
  all_goals exact ⟨rfl, rfl, rfl, rfl⟩

/-! ## In step -/

/-- Two drives are abreast: the one looks at what its watch delivers, and the other at
every poll.  Unless they are over, the last snapshot polled did not show the app Live, and
its version is the one that the watch goes by. -/
structure Abreast (last : Option App.Snapshot) (d p : Drive) : Prop where
  stage : p.job.stage = d.job.stage
  exchange : p.exchange = d.exchange
  watch : d.job.outcome? = none → p.job.watch.stage = d.job.watch.stage
  recalls : d.job.outcome? = none → d.job.watch.Recalls last
  unlive : d.job.outcome? = none → ∀ app ∈ last, app.isLive = false
  read : ∀ app ∈ last, ∃ v, App.Snapshot.ofObject v = .ok app

theorem abreast_start (goal : Change.Goal) (script : List Scripted) :
    Abreast none (start goal script) (start goal script) where
  stage := rfl
  exchange := rfl
  watch := fun _ => rfl
  recalls := fun _ => Watch.recalls_start
  unlive := nofun
  read := nofun

/-- Of drives that are over nothing more is asked. -/
theorem Abreast.of_over {last : Option App.Snapshot} {outcome : Change.Outcome}
    (hover : d.job.stage = .over outcome) (hstage : p.job.stage = d.job.stage)
    (hexchange : p.exchange = d.exchange)
    (hread : ∀ app ∈ last, ∃ v, App.Snapshot.ofObject v = .ok app) : Abreast last d p := by
  have hclosed : d.job.outcome? ≠ none := by simp [Change.Job.outcome?, hover]
  exact ⟨hstage, hexchange, fun hopen => absurd hopen hclosed, fun hopen => absurd hopen hclosed,
    fun hopen => absurd hopen hclosed, hread⟩

theorem outcome?_of_step (hnext : (d.step s goal cancelled).job.outcome? = none) :
    d.job.outcome? = none := by
  cases hover : d.job.outcome? with
  | none => rfl
  | some outcome =>
      rw [step_of_over hover, hover] at hnext
      cases hnext

section Abreast

variable {last : Option App.Snapshot} (hdrives : Abreast last d p)

include hdrives

theorem Abreast.remote? : p.job.remote? = some .watch ↔ d.job.remote? = some .watch := by
  rw [Change.Job.remote?_eq_watch_iff, Change.Job.remote?_eq_watch_iff, hdrives.stage]
  constructor <;> rintro ⟨hstage, hwatch⟩ <;> refine ⟨hstage, ?_⟩
  · rw [← hdrives.watch (Change.Job.outcome?_of_waiting hstage)]
    exact hwatch
  · rw [hdrives.watch (Change.Job.outcome?_of_waiting hstage)]
    exact hwatch

/-- Where the watch does not poll, it is the same for both. -/
theorem Abreast.rest (hwaiting : d.job.stage = .waiting) (hwatch : d.job.watch.stage ≠ .polling)
    (cancelled : Bool) : Abreast last (d.step s goal cancelled) (p.step s goal cancelled) := by
  have hopen := Change.Job.outcome?_of_waiting hwaiting
  have hwaiting' : p.job.stage = .waiting := hdrives.stage.trans hwaiting
  have hsame := hdrives.watch hopen
  have hrecalls := hdrives.recalls hopen
  rw [step_of_waiting hwaiting, step_of_waiting hwaiting']
  unfold pull
  rw [hsame]
  cases hphase : d.job.watch.stage with
  | polling => exact absurd hphase hwatch
  | looking =>
      refine ⟨hdrives.stage, hdrives.exchange, fun _ => ?_, fun _ => hrecalls.look cancelled,
        fun _ => hdrives.unlive hopen, hdrives.read⟩
      simp only [Watch.look, hsame, hphase]
  | resting =>
      refine ⟨hdrives.stage, hdrives.exchange, fun _ => ?_, fun _ => hrecalls.wake cancelled,
        fun _ => hdrives.unlive hopen, hdrives.read⟩
      simp only [Watch.wake, hsame, hphase]
  | ended =>
      rw [hwaiting, hwaiting']
      exact .of_over rfl rfl hdrives.exchange hdrives.read

/-- Without a poll the two do the same. -/
theorem Abreast.idle (hd : d.poll? s goal = none) (cancelled : Bool) :
    Abreast last (d.step s goal cancelled) (p.inspect s goal cancelled) := by
  have hunpolled := poll?_eq_none_iff.mp hd
  rw [inspect_of_not_poll (mt hdrives.remote?.mp hunpolled)]
  by_cases hask : d.job.stage.ask = .next
  · have hwaiting := Change.Stage.eq_of_next hask
    exact hdrives.rest hwaiting (fun hphase =>
      hunpolled (Change.Job.remote?_eq_watch_iff.mpr ⟨hwaiting, hphase⟩)) cancelled
  · obtain ⟨hstage, hexchange, hwatch, hwatch'⟩ :=
      step_congr s goal cancelled hdrives.stage hdrives.exchange hask
    refine ⟨hstage, hexchange, fun hnext => ?_, fun hnext => ?_, fun hnext => ?_, hdrives.read⟩
    · rw [hwatch, hwatch']
      exact hdrives.watch (outcome?_of_step hnext)
    · rw [hwatch']
      exact hdrives.recalls (outcome?_of_step hnext)
    · exact hdrives.unlive (outcome?_of_step hnext)

theorem Abreast.reply (hd : d.job.remote? = some .watch) : p.reply s goal = d.reply s goal := by
  obtain ⟨hstage, _⟩ := Change.Job.remote?_eq_watch_iff.mp hd
  unfold Drive.reply
  rw [hdrives.stage, hdrives.exchange, hstage]

theorem Abreast.poll?_eq : p.poll? s goal = d.poll? s goal := by
  by_cases hpolls : d.job.remote? = some .watch
  · simp only [poll?, hpolls, hdrives.remote?.mpr hpolls, if_true, hdrives.reply hpolls]
  · simp only [poll?, hpolls, mt hdrives.remote?.mp hpolls, if_false]

/-- A failed poll ends both. -/
theorem Abreast.fail {e : Failure} (hd : d.poll? s goal = some (.error e)) (cancelled : Bool) :
    Abreast none (d.step s goal cancelled) (p.inspect s goal cancelled) := by
  obtain ⟨hpolls, hreply⟩ := poll?_eq_some_iff.mp hd
  obtain ⟨hwaiting, _⟩ := Change.Job.remote?_eq_watch_iff.mp hpolls
  obtain ⟨outcome, hover⟩ : ∃ outcome,
      Change.Stage.waiting.deliver goal (.error e) = .over outcome := by
    simp only [Change.Stage.deliver]
    split <;> exact ⟨_, rfl⟩
  rw [step_of_poll hpolls, inspect_of_poll (hdrives.remote?.mpr hpolls), hdrives.reply hpolls,
    hreply, hdrives.exchange]
  simp only [Change.Job.poll, Change.Job.inspect, Except.map, hdrives.stage, hwaiting, hover]
  exact .of_over rfl rfl rfl (by simp)

/-- A poll that is not delivered has found what the one before has found, and that did not
show the app Live. -/
theorem Abreast.unlive_of_old {app : App.Snapshot} (hopen : d.job.outcome? = none) {t : Text}
    (ht : app.version = .text t) (hobject : ∃ v, App.Snapshot.ofObject v = .ok app)
    (hsteady : ∀ before ∈ last, before.version = app.version →
      (Value.object app.object).equal (.object before.object) = true)
    (hold : d.job.watch.isNews app = false) : app.isLive = false := by
  rw [(hdrives.recalls hopen).isNews_eq ht, Bool.not_eq_false'] at hold
  obtain ⟨before, hbefore, hequal⟩ : ∃ before ∈ last, app.version.equal before.version = true := by
    simpa [Poll.isRepeated, Option.any_eq_true] using hold
  rw [ht, Value.text_equal_iff, ← ht] at hequal
  obtain ⟨v, hv⟩ := hobject
  obtain ⟨w, hw⟩ := hdrives.read before hbefore
  cases hlive : app.isLive with
  | false => rfl
  | true =>
      have hshown := App.Snapshot.isLive_of_equal hv hw (hsteady before hbefore hequal) hlive
      rw [hdrives.unlive hopen before hbefore] at hshown
      cases hshown

theorem Abreast.see {app : App.Snapshot} (hd : d.poll? s goal = some (.ok app)) {t : Text}
    (ht : app.version = .text t)
    (hsteady : ∀ before ∈ last, before.version = app.version →
      (Value.object app.object).equal (.object before.object) = true) (cancelled : Bool) :
    Abreast (some app) (d.step s goal cancelled) (p.inspect s goal cancelled) := by
  obtain ⟨hpolls, hreply⟩ := poll?_eq_some_iff.mp hd
  obtain ⟨hwaiting, hphase⟩ := Change.Job.remote?_eq_watch_iff.mp hpolls
  have hopen := Change.Job.outcome?_of_waiting hwaiting
  have hobject : ∃ v, App.Snapshot.ofObject v = .ok app := by
    unfold Drive.reply at hreply
    rw [hwaiting] at hreply
    exact Query.exists_object hreply
  -- A poll that is not delivered has not shown the app Live either, so it leads nowhere.
  have hseen : (d.job.poll goal (.ok app)).stage =
      Change.Stage.waiting.deliver goal (.ok (some app)) := by
    simp only [Change.Job.poll, hwaiting]
    cases hnews : d.job.watch.isNews app with
    | true => rfl
    | false =>
        have hunlive := hdrives.unlive_of_old hopen ht hobject hsteady hnews
        simp [Change.Stage.deliver, hunlive]
  rw [step_of_poll hpolls, inspect_of_poll (hdrives.remote?.mpr hpolls), hdrives.reply hpolls,
    hreply, hdrives.exchange]
  refine ⟨?_, rfl, fun _ => ?_, fun _ => .poll hphase ht, fun hnext => ?_, ?_⟩
  · rw [hseen]
    simp only [Change.Job.inspect, Except.map, hdrives.stage, hwaiting]
  · simp [Change.Job.poll, Change.Job.inspect, Watch.poll, hphase]
  · rintro _ ⟨⟩
    cases hlive : app.isLive with
    | false => rfl
    | true =>
        rw [Change.Job.outcome?, hseen] at hnext
        simp [Change.Stage.deliver, hlive] at hnext
  · rintro _ ⟨⟩
    exact hobject

/-- Two drives stay abreast whatever is looked at, and make the same polls, as long as the
same version means an equal object. -/
theorem Abreast.run (looks : List Bool) (htexts : Poll.TextVersions (d.polls s goal looks))
    (hsteady : Poll.Steady (last.toList.map .ok ++ d.polls s goal looks)) :
    (∃ last', Abreast last' (d.run s goal looks) (p.inspectRun s goal looks)) ∧
      p.inspectedPolls s goal looks = d.polls s goal looks := by
  induction looks generalizing d p last with
  | nil => exact ⟨⟨last, hdrives⟩, rfl⟩
  | cons cancelled looks ih =>
      rw [polls_cons] at htexts hsteady
      rw [polls_cons, inspectedPolls_cons, hdrives.poll?_eq]
      cases hpoll : d.poll? s goal with
      | none =>
          rw [hpoll] at htexts hsteady
          obtain ⟨hrun, hpolls⟩ := ih (hdrives.idle hpoll cancelled) htexts hsteady
          exact ⟨hrun, by rw [hpolls]⟩
      | some poll =>
          rw [hpoll, Option.toList_some, List.singleton_append] at htexts hsteady
          -- What the poll has found is what the next one is compared with, unless it failed.
          have hlater := hsteady.right_of_append
          suffices hnext : ∃ next : Option App.Snapshot,
              Abreast next (d.step s goal cancelled) (p.inspect s goal cancelled) ∧
                Poll.Steady (next.toList.map .ok ++
                  (d.step s goal cancelled).polls s goal looks) by
            obtain ⟨next, hnext, hsteady'⟩ := hnext
            obtain ⟨hrun, hpolls⟩ :=
              ih hnext (fun app happ => htexts app (List.mem_cons_of_mem _ happ)) hsteady'
            exact ⟨hrun, by rw [hpolls]⟩
          cases poll with
          | error e => exact ⟨none, hdrives.fail hpoll cancelled, hlater.tail⟩
          | ok app =>
              obtain ⟨t, ht⟩ := htexts app List.mem_cons_self
              refine ⟨some app, hdrives.see hpoll ht ?_ cancelled, hlater⟩
              rintro before ⟨⟩ hversion
              exact hsteady.rel before app rfl rfl hversion

end Abreast

/-! ## Looking at every poll -/

theorem inspectRun_of_over (s : Settings) (goal : Change.Goal) {outcome : Change.Outcome}
    (hover : p.job.stage = .over outcome) (looks : List Bool) :
    p.inspectRun s goal looks = p ∧ p.inspectedPolls s goal looks = [] := by
  have hunpolled : p.job.remote? ≠ some .watch := by
    rw [ne_eq, Change.Job.remote?_eq_watch_iff, hover]
    simp
  induction looks with
  | nil => exact ⟨rfl, rfl⟩
  | cons cancelled looks ih =>
      have hstays : p.inspect s goal cancelled = p := by
        rw [inspect_of_not_poll hunpolled]
        exact step_of_over (Change.Job.outcome?_eq_some_iff.mpr hover)
      rw [inspectedPolls_cons, inspectRun, List.foldl_cons, hstays,
        poll?_eq_none_iff.mpr hunpolled]
      exact ih

/-- A wait that makes no poll goes on, or ends with its watch. -/
theorem inspect_of_idle (hwaiting : p.job.stage = .waiting) (hp : p.poll? s goal = none)
    (cancelled : Bool) :
    (p.inspect s goal cancelled).job.stage = .waiting ∨
      (p.inspect s goal cancelled).job.stage = .over (Change.waited goal none) := by
  have hunpolled := poll?_eq_none_iff.mp hp
  rw [inspect_of_not_poll hunpolled, step_of_waiting hwaiting]
  unfold pull
  cases hphase : p.job.watch.stage with
  | polling => exact absurd (Change.Job.remote?_eq_watch_iff.mpr ⟨hwaiting, hphase⟩) hunpolled
  | looking => exact .inl hwaiting
  | resting => exact .inl hwaiting
  | ended =>
      rw [hwaiting]
      exact .inr rfl

/-- A wait that looks at every poll goes on until the first telling one, or ends with its
watch. -/
theorem inspectRun_of_waiting (hwaiting : p.job.stage = .waiting) (looks : List Bool) :
    ((p.inspectRun s goal looks).job.stage = .waiting ∧
        (p.inspectedPolls s goal looks).find? Change.isTelling = none) ∨
      (p.inspectRun s goal looks).job.stage =
        .over (Change.waited goal ((p.inspectedPolls s goal looks).find? Change.isTelling)) := by
  induction looks generalizing p with
  | nil => exact .inl ⟨hwaiting, rfl⟩
  | cons cancelled looks ih =>
      rw [inspectedPolls_cons, inspectRun, List.foldl_cons]
      cases hpoll : p.poll? s goal with
      | none =>
          rw [Option.toList_none, List.nil_append]
          obtain hnext | hover := inspect_of_idle hwaiting hpoll cancelled
          · exact ih hnext
          · obtain ⟨hstays, hpolls⟩ := inspectRun_of_over s goal hover looks
            rw [inspectRun] at hstays
            rw [hstays, hpolls]
            exact .inr hover
      | some poll =>
          obtain ⟨hpolls, hreply⟩ := poll?_eq_some_iff.mp hpoll
          have hstage : (p.inspect s goal cancelled).job.stage =
              Change.Stage.waiting.deliver goal (poll.map some) := by
            rw [inspect_of_poll hpolls, hreply, ← hwaiting]
            rfl
          rw [Option.toList_some, List.singleton_append]
          cases htelling : Change.isTelling poll with
          | true =>
              rw [Change.Rehearsal.deliver_of_telling htelling] at hstage
              obtain ⟨hstays, -⟩ := inspectRun_of_over s goal hstage looks
              rw [inspectRun] at hstays
              rw [hstays, List.find?_cons_of_pos htelling]
              exact .inr hstage
          | false =>
              rw [Change.Rehearsal.deliver_of_untelling htelling] at hstage
              rw [List.find?_cons_of_neg (by simp [htelling])]
              exact ih hstage

/-- Once it polls, a start that looks at every poll comes to what the first telling one
tells. -/
theorem inspectRun_of_polls {looks : List Bool} (hpolls : p.inspectedPolls s goal looks ≠ []) :
    ((p.inspectRun s goal looks).job.stage = .waiting ∧
        (p.inspectedPolls s goal looks).find? Change.isTelling = none) ∨
      (p.inspectRun s goal looks).job.stage =
        .over (Change.waited goal ((p.inspectedPolls s goal looks).find? Change.isTelling)) := by
  induction looks generalizing p with
  | nil => exact absurd rfl hpolls
  | cons cancelled looks ih =>
      by_cases hwaiting : p.job.stage = .waiting
      · exact inspectRun_of_waiting hwaiting _
      · have hpoll : p.poll? s goal = none := poll?_eq_none_iff.mpr fun hremote =>
          hwaiting (Change.Job.remote?_eq_watch_iff.mp hremote).1
        rw [inspectedPolls_cons, hpoll, Option.toList_none, List.nil_append] at hpolls ⊢
        rw [inspectRun, List.foldl_cons]
        exact ih hpolls

/-- A start that waits comes to the same at every moment as one that looks at every poll,
and once it polls that is what the first telling poll tells. -/
theorem run_eq_inspectRun (goal : Change.Goal) (script : List Scripted) (looks : List Bool)
    (htexts : Poll.TextVersions ((start goal script).polls s goal looks))
    (hsteady : Poll.Steady ((start goal script).polls s goal looks)) :
    ((start goal script).inspectRun s goal looks).job.outcome? =
        ((start goal script).run s goal looks).job.outcome? ∧
      ((start goal script).inspectRun s goal looks).exchange =
        ((start goal script).run s goal looks).exchange ∧
      ((start goal script).polls s goal looks ≠ [] →
        (((start goal script).run s goal looks).job.outcome? = none ∧
            ((start goal script).polls s goal looks).find? Change.isTelling = none) ∨
          ((start goal script).run s goal looks).job.outcome? =
            some (Change.waited goal
              (((start goal script).polls s goal looks).find? Change.isTelling))) := by
  obtain ⟨⟨last, hrun⟩, hpolls⟩ := (abreast_start goal script).run (s := s) looks htexts hsteady
  have houtcome : ((start goal script).inspectRun s goal looks).job.outcome? =
      ((start goal script).run s goal looks).job.outcome? := by
    rw [Change.Job.outcome?, Change.Job.outcome?, hrun.stage]
  refine ⟨houtcome, hrun.exchange, fun hsome => ?_⟩
  rw [← hpolls] at hsome ⊢
  rw [← houtcome]
  obtain ⟨hwaiting, hnone⟩ | hover := inspectRun_of_polls hsome
  · exact .inl ⟨Change.Job.outcome?_of_waiting hwaiting, hnone⟩
  · exact .inr (Change.Job.outcome?_eq_some_iff.mpr hover)

end Drive

/-! ## No transition is lost -/

/-- Where versions are texts, a watch has delivered at every moment the snapshots among its
polls that have another version than the one before, in that order, whenever it is called
off and however many are taken; it ends with a poll just if that fails, and by itself only
if it is called off, and until then it goes on polling.  Wherever the same version means an
equal object besides, a start that goes by it comes to what it would come to if it looked
at every poll: to what the first telling one tells. -/
theorem no_transition_lost :
    (∀ (goal : Lookout.Goal) (exchange : Exchange) (acts : List Lookout.Act),
      let past := history (Lookout.perform goal) (Lookout.start exchange) acts
      let l := acts.foldl (Lookout.perform goal) (Lookout.start exchange)
      Poll.TextVersions (Lookout.polls goal past) →
        (∃ apps, l.delivered = Poll.changes apps ∧
          ((Lookout.polls goal past = apps.map .ok ∧ ∀ f, l.ending ≠ some (.failed f)) ∨
            ∃ f, Lookout.polls goal past = apps.map .ok ++ [.error f] ∧
              l.ending = some (.failed f))) ∧
        (l.watch.stage = .ended ∨ l.ending = some .stopped → l.exchange.cancelled = true) ∧
        (l.ending = some .taken → goal.wanted ≤ l.delivered.length) ∧
        (l.ending = none → l.watch.stage ≠ .ended →
          (Lookout.polls goal past).length = (Lookout.goings past + 1) / 3)) ∧
    ∀ (s : Settings) (goal : Change.Goal) (script : List Scripted) (looks : List Bool),
      let first := Drive.start goal script
      let polls := first.polls s goal looks
      let outcome? := (first.run s goal looks).job.outcome?
      Poll.TextVersions polls → Poll.Steady polls →
        (first.inspectRun s goal looks).job.outcome? = outcome? ∧
        (first.inspectRun s goal looks).exchange = (first.run s goal looks).exchange ∧
        (polls ≠ [] →
          (outcome? = none ∧ polls.find? Change.isTelling = none) ∨
            outcome? = some (Change.waited goal (polls.find? Change.isTelling))) := by
  constructor
  · intro goal exchange acts past l htexts
    have hl : Lookout.Followed goal past l := Lookout.followed_course goal exchange acts
    obtain ⟨apps, hpolls, hchanges⟩ := hl.told
    refine ⟨⟨apps, (hchanges htexts).1, hpolls⟩, hl.calledOff, hl.taken, fun hopen hgoing => ?_⟩
    have hpace := hl.pace hopen hgoing
    have hphase : Lookout.sincePoll l.watch.stage ≤ 2 := by
      cases l.watch.stage <;> decide
    omega
  · intro s goal script looks first polls outcome? htexts hsteady
    exact Drive.run_eq_inspectRun goal script looks htexts hsteady

namespace Sample

def watchedApp : App.Id := ⟨.text "app", .text "ctr"⟩

def reading : Invocation :=
  invocation defaults ["get", resource, "ctr", "-n", "app", "-o", "json"] none

/-- The tool prints the object of a snapshot and ends well. -/
def printed (app : App.Snapshot) : Scripted :=
  ⟨false, .completed ⟨0, Json.write (.object app.object), []⟩⟩

theorem readApp_printed {app : App.Snapshot}
    (hplain : Json.Plain Json.maxDepth (.object app.object))
    (happ : App.Snapshot.ofObject (.object app.object) = .ok app) (script : List Scripted)
    (calls : List Invocation) :
    (Query.readApp defaults watchedApp).run.run ⟨printed app :: script, calls, false⟩ =
      (.ok app, ⟨script, calls ++ [reading], false⟩) := by
  have harguments : readArguments watchedApp =
      .ok ["get", resource, "ctr", "-n", "app", "-o", "json"] := rfl
  have hreply : ∀ i, Tool.reply defaults.room i
      (.completed ⟨0, Json.write (.object app.object), []⟩) = .ok app := by
    intro i
    exact (parse_of_readText (Json.readText_write hplain)).trans happ
  rw [Query.run_readApp _ harguments]
  simp only [Exchange.run, printed, hreply]
  rfl

def wantedLive (version phase pod : Text) : App.Snapshot where
  id := ⟨.text [], .text []⟩
  targetPhase := .text "Live"
  phase := .text phase
  pod := .text pod
  command := []
  error := .text []
  version := .text version
  object :=
    [("spec", .object [("targetPhase", .text "Live")]),
      ("metadata", .object [("resourceVersion", .text version)]),
      ("status", .object [("phase", .text phase), ("podName", .text pod)])]

theorem plain_wantedLive {version phase pod : Text} (hversion : version.IsScalar)
    (hphase : phase.IsScalar) (hpod : pod.IsScalar) :
    Json.Plain Json.maxDepth (.object (wantedLive version phase pod).object) := by
  have hkey : ∀ t : Text, t.IsScalar → t.IsWhole := fun t => Json.isWhole_of_isScalar
  have hword : ∀ t : Text, t.IsScalar → Json.Plain 988 (.text t) :=
    fun t ht => .text 988 (hkey t ht)
  have hspec : Json.Plain (988 + 1) (.object [("targetPhase", .text "Live")]) := by
    refine .object (by simp) ?_ ?_
    · simpa using hkey "targetPhase" (by decide)
    · simpa using hword "Live" (by decide)
  have hmetadata : Json.Plain (988 + 1) (.object [("resourceVersion", .text version)]) := by
    refine .object (by simp) ?_ ?_
    · simpa using hkey "resourceVersion" (by decide)
    · simpa using hword version hversion
  have hstatus : Json.Plain (988 + 1)
      (.object [("phase", .text phase), ("podName", .text pod)]) := by
    have hkeys : (["phase", "podName"] : List Text).Nodup := by decide
    refine .object hkeys ?_ ?_
    · simpa using ⟨hkey "phase" (by decide), hkey "podName" (by decide)⟩
    · simpa using ⟨hword phase hphase, hword pod hpod⟩
  have hkeys : (["spec", "metadata", "status"] : List Text).Nodup := by decide
  refine .object hkeys ?_ ?_
  · simpa [wantedLive] using
      ⟨hkey "spec" (by decide), hkey "metadata" (by decide), hkey "status" (by decide)⟩
  · simpa [wantedLive] using ⟨hspec, hmetadata, hstatus⟩

def restingApp : App.Snapshot := wantedLive "1" "Rest" []

def liveApp : App.Snapshot := wantedLive "2" "Live" "ctr-pod"

/-- The app is seen at rest twice, and then Live. -/
def sights : List Scripted := [printed restingApp, printed restingApp, printed liveApp]

def watching : Lookout.Goal :=
  { settings := defaults, app := watchedApp, wanted := 5, cancelInWait := none }

def starting : Change.Goal := { app := watchedApp, phase := .live, plan := ⟨1, []⟩ }

section Sights

variable (script : List Scripted) (calls : List Invocation)

theorem readApp_restingApp :
    (Query.readApp defaults watchedApp).run.run ⟨printed restingApp :: script, calls, false⟩ =
      (.ok restingApp, ⟨script, calls ++ [reading], false⟩) :=
  readApp_printed (plain_wantedLive (by decide) (by decide) (by decide)) rfl script calls

theorem readApp_liveApp :
    (Query.readApp defaults watchedApp).run.run ⟨printed liveApp :: script, calls, false⟩ =
      (.ok liveApp, ⟨script, calls ++ [reading], false⟩) :=
  readApp_printed (plain_wantedLive (by decide) (by decide) (by decide)) rfl script calls

end Sights

theorem isNews_restingApp_first : (⟨.polling, .null⟩ : Watch).isNews restingApp = true := rfl

theorem isNews_restingApp_again : (⟨.polling, .text "1"⟩ : Watch).isNews restingApp = false := rfl

theorem version_restingApp : restingApp.version = .text "1" := rfl

open Lookout in
/-- Nobody calls the watch off. -/
theorem polls_watching :
    polls watching (history (perform watching) (start (.start sights)) (List.replicate 9 .goOn)) =
      [.ok restingApp, .ok restingApp, .ok liveApp] := by
  simp [polls, history, perform, poll?, isPolling, Lookout.reply, Lookout.step, start, watching,
    sights, Exchange.start, Watch.start, Watch.look, Watch.poll, Watch.wake, List.replicate,
    readApp_restingApp, readApp_liveApp, isNews_restingApp_first, isNews_restingApp_again,
    version_restingApp]

open Drive in
/-- The start reads its app, which is wanted Live already, and waits. -/
theorem polls_starting :
    (start starting (printed restingApp :: sights)).polls defaults starting
      (List.replicate 11 false) = [.ok restingApp, .ok restingApp, .ok liveApp] := by
  have hwanted : restingApp.isWanted .live = true := rfl
  have hunlive : restingApp.isLive = false := rfl
  simp [Drive.polls, pollsBy, history, List.replicate, poll?, Drive.reply, Drive.step, pull, query,
    start, starting, sights, Exchange.start, readApp_restingApp, readApp_liveApp,
    Change.Job.remote?, Change.Job.start, Change.Job.poll, Change.start, Change.ofFlip,
    Change.afterFlip, Change.askOfFlip, Change.Stage.ask, Change.Stage.look, Change.Stage.answer,
    Change.Stage.deliver, Flip.start, Flip.look, Flip.answer, Flip.settle, Retry.start,
    Retry.Stage.look, Retry.Stage.move, Retry.Stage.settle, Watch.start, Watch.look, Watch.poll,
    Watch.wake, isNews_restingApp_first, isNews_restingApp_again, version_restingApp, hwanted,
    hunlive]

/-- What is seen has texts for versions, and the same version means an equal object. -/
theorem trusted_sights :
    Poll.TextVersions [.ok restingApp, .ok restingApp, .ok liveApp] ∧
      Poll.Steady [.ok restingApp, .ok restingApp, .ok liveApp] := by
  constructor
  · intro app happ
    simp only [List.mem_cons, Except.ok.injEq, List.not_mem_nil, or_false] at happ
    rcases happ with rfl | rfl | rfl <;> exact ⟨_, rfl⟩
  · refine List.isChain_cons_cons.mpr ⟨?_, List.isChain_pair.mpr ?_⟩
    · rintro _ _ ⟨⟩ ⟨⟩ _
      decide +kernel
    · rintro _ _ ⟨⟩ ⟨⟩ hversion
      cases hversion

end Sample

open Sample in
/-- Seen at rest twice in the same version, the app is delivered once, and the start ends with
the running app as soon as it is seen Live. -/
theorem no_transition_lost_sights :
    let goings := List.replicate 9 Lookout.Act.goOn
    let fresh := Lookout.start (.start sights)
    let first := Drive.start starting (printed restingApp :: sights)
    let looks := List.replicate 11 false
    let outcome := some (Except.ok (some ⟨watchedApp, .text "ctr-pod", []⟩))
    (Poll.TextVersions (Lookout.polls watching (history (Lookout.perform watching) fresh goings)) ∧
      (goings.foldl (Lookout.perform watching) fresh).delivered = [restingApp, liveApp]) ∧
    (Poll.TextVersions (first.polls defaults starting looks) ∧
      Poll.Steady (first.polls defaults starting looks) ∧
      (first.inspectRun defaults starting looks).job.outcome? = outcome ∧
      (first.run defaults starting looks).job.outcome? = outcome) := by
  obtain ⟨htexts, hsteady⟩ := trusted_sights
  obtain ⟨hwatches, hstarts⟩ := no_transition_lost
  have hseen := hwatches watching (.start sights) (List.replicate 9 .goOn)
  have hstarted := hstarts defaults starting (printed restingApp :: sights)
    (List.replicate 11 false)
  dsimp only at hseen hstarted ⊢
  rw [polls_watching] at hseen ⊢
  rw [polls_starting] at hstarted ⊢
  obtain ⟨⟨apps, hdelivered, hpolls⟩, -⟩ := hseen htexts
  obtain ⟨hsame, -, hends⟩ := hstarted htexts hsteady
  have hover : ((Drive.start starting (printed restingApp :: sights)).run defaults starting
      (List.replicate 11 false)).job.outcome? =
        some (.ok (some ⟨watchedApp, .text "ctr-pod", []⟩)) := by
    obtain ⟨-, hnone⟩ | hover := hends (by simp)
    · cases hnone
    · exact hover
  refine ⟨⟨htexts, ?_⟩, htexts, hsteady, hsame.trans hover, hover⟩
  obtain ⟨happs, -⟩ | ⟨f, happs, -⟩ := hpolls
  · obtain rfl : apps = [restingApp, restingApp, liveApp] :=
      List.map_injective_iff.mpr (fun _ _ => Except.ok.inj) happs.symm
    exact hdelivered
  · have hlast := congrArg List.getLast? happs
    simp at hlast

end Tool

end AttachGate
