import AttachGate.Proofs.Coordinator.Register
import AttachGate.Session.Caller
import AttachGate.Session.Runner

/-!
# Runs of a session

The worker, the runners, the clients and whoever else uses the cluster take
their transitions in any order.  A run is one such order.  Its history keeps
every scene with what was done there, so that a rule may look back and a
statement may speak of what has happened.
-/

namespace AttachGate.Session

/-- A session and the cluster that it works on. -/
structure Scene where
  session : Session
  cluster : Cluster

inductive Move
  /-- A client calls. -/
  | call (errand : Errand) (cancelled : Bool)
  /-- A client goes away. -/
  | leave (caller : Nat)
  /-- A client sees the worker's answer. -/
  | take (caller : Nat) (clock : Number)
  /-- A client looks for the outcome. -/
  | look (caller : Nat)
  /-- A client considers whether to give up. -/
  | doubt (caller : Nat) (clock : Number)
  /-- The worker takes the next message. -/
  | work
  /-- The runner of an intent takes its next transition. -/
  | run (token : Nat)
  /-- The remote call that an intent is at fails. -/
  | fail (token : Nat) (f : Failure)
  /-- The worker is asked to end. -/
  | shutdown
  /-- Somebody else changes the cluster. -/
  | elsewhere (cluster : Cluster)

namespace Scene

def start (app : App.Id) (cluster : Cluster) : Scene := { session := .create app, cluster }

def after (w : Scene) : Move → Scene
  | .call errand cancelled => { w with session := (w.session.call errand cancelled).2 }
  | .leave caller => { w with session := w.session.leave caller }
  | .take caller clock => { w with session := w.session.onCaller caller (Caller.take clock) }
  | .look caller =>
    { w with session := w.session.onCaller caller (Caller.look w.session.outcome?) }
  | .doubt caller clock =>
    { w with session := w.session.onCaller caller (Caller.doubt w.session.app clock) }
  | .work => { w with session := w.session.work }
  | .run token =>
    { session := (w.session.run token w.cluster).1, cluster := (w.session.run token w.cluster).2 }
  | .fail token f => { w with session := w.session.fail token f }
  | .shutdown => { w with session := w.session.shutdown }
  | .elsewhere cluster => { w with cluster }

def mail? (w : Scene) : Option Mail :=
  if w.session.ended then none else w.session.mailbox.head?

def next? (w : Scene) : Option (Nat × Errand) :=
  match w.mail? with
  | some (.call caller) => w.session.callers[caller]?.map fun c => (caller, c.errand)
  | _ => none

def taken? (w : Scene) : Move → Option (Nat × Errand)
  | .work => w.next?
  | _ => none

end Scene

/-- What has been done, each move with the scene that it was made in. -/
abbrev History := List (Scene × Move)

/-- A run from a scene, in which every move follows a rule. -/
inductive Run (rule : History → Scene → Move → Prop) (first : Scene) : History → Scene → Prop
  | start : Run rule first [] first
  | move {past : History} {w : Scene} (hrun : Run rule first past w) (m : Move)
      (hrule : rule past w m) : Run rule first (past ++ [(w, m)]) (w.after m)

def anything : History → Scene → Move → Prop := fun _ _ _ => True

/-- What holds at first and is kept by every move holds throughout a run, of its
history and of its scene. -/
theorem Run.along {rule : History → Scene → Move → Prop} {first w : Scene} {past : History}
    {I : History → Scene → Prop} (hrun : Run rule first past w) (hfirst : I [] first)
    (hmove : ∀ past w m, rule past w m → I past w → I (past ++ [(w, m)]) (w.after m)) :
    I past w := by
  induction hrun with
  | start => exact hfirst
  | move _ m hrule ih => exact hmove _ _ m hrule ih

theorem Run.invariant {rule : History → Scene → Move → Prop} {first w : Scene} {past : History}
    {I : Scene → Prop} (hrun : Run rule first past w) (hfirst : I first)
    (hmove : ∀ past w m, rule past w m → I w → I (w.after m)) : I w :=
  hrun.along (I := fun _ w => I w) hfirst hmove

/-- A run goes on from each of its scenes. -/
theorem Run.since {rule : History → Scene → Move → Prop} {first b w : Scene}
    {past earlier later : History} {m : Move} (hrun : Run rule first past w)
    (hpast : past = earlier ++ (b, m) :: later) :
    Run rule first earlier b ∧ rule earlier b m ∧
      Run (fun since => rule (earlier ++ (b, m) :: since)) (b.after m) later w := by
  induction hrun generalizing later with
  | start => simp at hpast
  | @move past w hrun last hrule ih =>
      rcases List.eq_nil_or_concat later with rfl | ⟨init, entry, rfl⟩
      · obtain ⟨rfl, hentry⟩ := List.append_singleton_inj.mp hpast
        cases hentry
        exact ⟨hrun, hrule, .start⟩
      · rw [List.concat_eq_append, ← List.cons_append, ← List.append_assoc,
          List.append_singleton_inj] at hpast
        obtain ⟨rfl, rfl⟩ := hpast
        obtain ⟨hearlier, hbetween, hlater⟩ := ih rfl
        refine ⟨hearlier, hbetween, ?_⟩
        rw [List.concat_eq_append]
        exact .move hlater last hrule

theorem Run.split {rule : History → Scene → Move → Prop} {first b w : Scene} {past : History}
    {m : Move} (hrun : Run rule first past w) (hmem : (b, m) ∈ past) :
    ∃ earlier later, past = earlier ++ (b, m) :: later ∧
      Run rule first earlier b ∧ rule earlier b m ∧
      Run (fun since => rule (earlier ++ (b, m) :: since)) (b.after m) later w := by
  obtain ⟨earlier, later, hpast⟩ := List.append_of_mem hmem
  exact ⟨earlier, later, hpast, hrun.since hpast⟩

/-- What has held of every move is part of the rule. -/
theorem Run.and {rule : History → Scene → Move → Prop} {P : Scene → Move → Prop}
    {first w : Scene} {past : History} (hrun : Run rule first past w)
    (hall : ∀ b m, (b, m) ∈ past → P b m) :
    Run (fun past w m => rule past w m ∧ P w m) first past w := by
  induction hrun with
  | start => exact .start
  | @move past w hrun m hrule ih =>
      have hpast := ih fun b m hmem => hall b m (List.mem_append_left _ hmem)
      exact .move hpast m ⟨hrule, hall w m (by simp)⟩

/-! ## Plays -/

def Scene.play : Scene → List Move → Scene
  | w, [] => w
  | w, m :: rest => (w.after m).play rest

def Scene.history : Scene → List Move → History
  | _, [] => []
  | w, m :: rest => (w, m) :: (w.after m).history rest

def Admits (rule : History → Scene → Move → Prop) : History → Scene → List Move → Prop
  | _, _, [] => True
  | past, w, m :: rest => rule past w m ∧ Admits rule (past ++ [(w, m)]) (w.after m) rest

/-- Moves made one after another are a run. -/
theorem Run.play {rule : History → Scene → Move → Prop} {first w : Scene} {past : History}
    (hrun : Run rule first past w) {moves : List Move} (hrules : Admits rule past w moves) :
    Run rule first (past ++ w.history moves) (w.play moves) := by
  induction moves generalizing past w with
  | nil => simpa [Scene.history, Scene.play] using hrun
  | cons m rest ih =>
      have hnext := ih (.move hrun m hrules.1) hrules.2
      simpa [Scene.history, Scene.play] using hnext

theorem run_play {rule : History → Scene → Move → Prop} (first : Scene) {moves : List Move}
    (hrules : Admits rule [] first moves) :
    Run rule first (first.history moves) (first.play moves) :=
  Run.start.play hrules

theorem admits_anything (past : History) (w : Scene) (moves : List Move) :
    Admits anything past w moves := by
  induction moves generalizing past w with
  | nil => trivial
  | cons m rest ih => exact ⟨trivial, ih _ _⟩

namespace Sample

def app : App.Id := ⟨.text "app", .text "ctr"⟩

def cluster : Cluster :=
  { Cluster.empty with
    apps := [(app,
      [("metadata", .object [("namespace", .text "app"), ("name", .text "ctr"),
          ("resourceVersion", .text "1")]),
        ("spec", .object [("targetPhase", .text "Rest")]),
        ("status", .object [("phase", .text "Rest")])])] }

def scene : Scene := .start app cluster

/-- A client attaches and its start comes to its end, notice and all. -/
def opening : List Move :=
  [.call (.attach none) false, .work, .run 1, .run 1, .run 1, .run 1, .run 1, .run 1, .run 1,
    .run 1, .run 1, .run 1, .work, .take 0 (.int 0), .look 0]

/-- Two clients attach, and the first one detaches. -/
def sharing : List Move :=
  [.call (.attach none) false, .work, .call (.attach none) false, .work, .call .detach false, .work]

end Sample

/-! ## What moves leave alone -/

/-- Two sessions that differ in their clients, their mailboxes and the progress
of their runners at most. -/
structure SameBooks (s t : Session) : Prop where
  app : t.app = s.app
  plan : t.plan = s.plan
  count : t.count = s.count
  cached : t.cached = s.cached
  newest : t.newest = s.newest
  start : t.start = s.start
  coordinator : t.coordinator = s.coordinator ∨
    ∃ e : Coordinator.Event Change.Job (Option App.Instance),
      e.isRequest = false ∧ t.coordinator = s.coordinator.after e

theorem sameBooks_run (s : Session) (token : Nat) (c : Cluster) :
    SameBooks s (s.run token c).1 := by
  cases hintent : s.coordinator.intent? token with
  | none =>
      simp only [run, hintent]
      exact ⟨rfl, rfl, rfl, rfl, rfl, rfl, .inl rfl⟩
  | some i =>
      cases hrunner : i.runner with
      | created =>
          simp only [run, hintent, hrunner]
          exact ⟨rfl, rfl, rfl, rfl, rfl, rfl, .inr ⟨.begin token _, rfl, rfl⟩⟩
      | working job =>
          cases houtcome : job.outcome? with
          | some outcome =>
              simp only [run, hintent, hrunner, houtcome]
              exact ⟨rfl, rfl, rfl, rfl, rfl, rfl, .inr ⟨.finish token outcome, rfl, rfl⟩⟩
          | none =>
              simp only [run, hintent, hrunner, houtcome]
              exact ⟨rfl, rfl, rfl, rfl, rfl, rfl, .inr ⟨.move token _, rfl, rfl⟩⟩
      | returned outcome =>
          simp only [run, hintent, hrunner]
          exact ⟨rfl, rfl, rfl, rfl, rfl, rfl, .inr ⟨.clear token, rfl, rfl⟩⟩
      | cleared outcome =>
          simp only [run, hintent, hrunner]
          exact ⟨rfl, rfl, rfl, rfl, rfl, rfl, .inr ⟨.resolve token, rfl, rfl⟩⟩
      | resolved outcome =>
          simp only [run, hintent, hrunner]
          exact ⟨rfl, rfl, rfl, rfl, rfl, rfl, .inr ⟨.notify token, rfl, rfl⟩⟩
      | notified outcome =>
          simp only [run, hintent, hrunner]
          exact ⟨rfl, rfl, rfl, rfl, rfl, rfl, .inl rfl⟩

theorem sameBooks_fail (s : Session) (token : Nat) (f : Failure) :
    SameBooks s (s.fail token f) := by
  cases hintent : s.coordinator.intent? token with
  | none =>
      simp only [fail, hintent]
      exact ⟨rfl, rfl, rfl, rfl, rfl, rfl, .inl rfl⟩
  | some i =>
      simp only [fail, hintent]
      exact ⟨rfl, rfl, rfl, rfl, rfl, rfl, .inr ⟨.move token _, rfl, rfl⟩⟩

/-- Only the worker keeps books. -/
theorem sameBooks_after (w : Scene) {m : Move} (hm : m ≠ .work) :
    SameBooks w.session (w.after m).session := by
  cases m with
  | work => exact (hm rfl).elim
  | run token => exact sameBooks_run w.session token w.cluster
  | fail token f => exact sameBooks_fail w.session token f
  | _ => exact ⟨rfl, rfl, rfl, rfl, rfl, rfl, .inl rfl⟩

/-- Two sessions that differ in their books and their coordinators at most. -/
structure SameClients (s t : Session) : Prop where
  app : t.app = s.app
  plan : t.plan = s.plan
  mailbox : t.mailbox = s.mailbox
  ended : t.ended = s.ended
  callers : t.callers = s.callers

theorem SameClients.refl (s : Session) : SameClients s s := ⟨rfl, rfl, rfl, rfl, rfl⟩

theorem SameClients.trans {s t u : Session} (hst : SameClients s t) (htu : SameClients t u) :
    SameClients s u :=
  ⟨htu.app.trans hst.app, htu.plan.trans hst.plan, htu.mailbox.trans hst.mailbox,
    htu.ended.trans hst.ended, htu.callers.trans hst.callers⟩

theorem cache_eq (s : Session) (token : Nat) :
    ∃ kept, s.cache token = { s with cached := kept } := by
  unfold cache
  split
  · split
    · exact ⟨_, rfl⟩
    · exact ⟨s.cached, rfl⟩
  · exact ⟨s.cached, rfl⟩

theorem refresh_eq (s : Session) : ∃ kept, s.refresh = { s with cached := kept } := by
  unfold refresh
  split
  · exact s.cache_eq _
  · exact ⟨s.cached, rfl⟩

theorem changed_eq (s : Session) (token : Nat) :
    ∃ kept, s.changed token = { s with cached := kept } := by
  unfold changed
  split
  · split
    · exact s.cache_eq token
    · exact ⟨s.cached, rfl⟩
  · exact ⟨s.cached, rfl⟩

theorem sameClients_attach (s : Session) : SameClients s s.attach.2 := by
  have hcounted : SameClients s { s with count := s.count + 1 } := ⟨rfl, rfl, rfl, rfl, rfl⟩
  have hrefreshed : SameClients s ({ s with count := s.count + 1 } : Session).refresh := by
    obtain ⟨kept, hkept⟩ := ({ s with count := s.count + 1 } : Session).refresh_eq
    rw [hkept]
    exact ⟨rfl, rfl, rfl, rfl, rfl⟩
  have hrequested : ∀ t : Session, SameClients s t →
      SameClients s { (t.request .live).2 with start := some (t.request .live).1 } :=
    fun t ht => ⟨ht.app, ht.plan, ht.mailbox, ht.ended, ht.callers⟩
  by_cases hfirst : s.count = 0
  · simp only [attach, hfirst, if_true] at hcounted ⊢
    exact hrequested _ hcounted
  · simp only [attach, hfirst, if_false]
    split
    · exact hrefreshed
    · exact hrequested _ hrefreshed

theorem sameClients_detach (s : Session) : SameClients s s.detach.2 := by
  unfold detach
  split <;> exact ⟨rfl, rfl, rfl, rfl, rfl⟩

def serve (s : Session) : Errand → Reply × Session
  | .attach _ => s.attach
  | .detach => s.detach

theorem serve_attach_ne_refused (s : Session) (timeout : Option Number) (f : Failure) :
    (s.serve (.attach timeout)).1 ≠ .refused f := by
  simp only [serve, attach]
  intro hrefused
  split at hrefused <;> cases hrefused

theorem sameClients_serve (s : Session) (errand : Errand) : SameClients s (s.serve errand).2 := by
  cases errand with
  | attach timeout => exact sameClients_attach s
  | detach => exact sameClients_detach s

/-- Who else calls, and what waits in the mailbox, is of no account to a call. -/
theorem serve_clients (s : Session) (mailbox : List Mail) (callers : List Caller)
    (errand : Errand) :
    ({ s with mailbox, callers } : Session).serve errand =
      ((s.serve errand).1, { (s.serve errand).2 with mailbox, callers }) := by
  cases errand with
  | attach timeout =>
      simp only [serve, attach]
      by_cases hfirst : s.count = 0
      · simp only [hfirst, if_true]
        rfl
      · have hrefresh : ({ s with mailbox, callers, count := s.count + 1 } : Session).refresh =
            { ({ s with count := s.count + 1 } : Session).refresh with mailbox, callers } := by
          unfold refresh
          cases s.cached <;> cases s.start <;> simp only
          unfold cache
          simp only
          split
          · split <;> rfl
          · rfl
        simp only [hfirst, if_false, hrefresh]
        generalize ({ s with count := s.count + 1 } : Session).refresh = t
        cases hcached : t.cached <;> simp only [hcached, request]
  | detach =>
      match hcount : s.count with
      | 0 => simp [serve, detach, hcount]
      | 1 => simp [serve, detach, hcount, request]
      | n + 2 => simp [serve, detach, hcount]

theorem changed_clients (s : Session) (mailbox : List Mail) (callers : List Caller)
    (token : Nat) :
    ({ s with mailbox, callers } : Session).changed token =
      { s.changed token with mailbox, callers } := by
  unfold changed
  simp only
  split
  · split
    · unfold cache
      simp only
      split
      · split <;> rfl
      · rfl
    · rfl
  · rfl

theorem serve_mailbox (s : Session) (rest : List Mail) (errand : Errand) :
    ({ s with mailbox := rest } : Session).serve errand =
      ((s.serve errand).1, { (s.serve errand).2 with mailbox := rest }) := by
  refine (serve_clients s rest s.callers errand).trans ?_
  rw [← (sameClients_serve s errand).callers]

theorem changed_mailbox (s : Session) (rest : List Mail) (token : Nat) :
    ({ s with mailbox := rest } : Session).changed token =
      { s.changed token with mailbox := rest } := by
  obtain ⟨kept, hkept⟩ := s.changed_eq token
  have hchanged := changed_clients s rest s.callers token
  rw [hkept] at hchanged ⊢
  exact hchanged

/-! ## The worker -/

/-- The worker answers the caller whose call it takes, and nobody else. -/
theorem handle_call {s : Session} {caller : Nat} {c : Caller} (hc : s.callers[caller]? = some c) :
    s.handle (.call caller) = (s.serve c.errand).2.answer caller (s.serve c.errand).1 := by
  simp only [handle, hc]
  cases c.errand <;> rfl

/-- The worker has no call and no notice to take, or takes a notice, or takes a
call and answers it. -/
theorem work_cases (w : Scene) :
    (w.next? = none ∧ (∀ token, w.mail? ≠ some (.changed token)) ∧
      ∃ mailbox ended, mailbox <:+ w.session.mailbox ∧
        w.session.work = { w.session with mailbox, ended }) ∨
    (∃ token rest, w.next? = none ∧ w.mail? = some (.changed token) ∧
      w.session.mailbox = .changed token :: rest ∧
      w.session.work = { w.session.changed token with mailbox := rest }) ∨
    ∃ caller c rest, w.next? = some (caller, c.errand) ∧
      w.session.mailbox = .call caller :: rest ∧ w.session.callers[caller]? = some c ∧
      w.session.work =
        ({ (w.session.serve c.errand).2 with mailbox := rest } : Session).answer caller
          (w.session.serve c.errand).1 := by
  have hidle : w.mail? = none → w.session.work = w.session →
      w.next? = none ∧ (∀ token, w.mail? ≠ some (.changed token)) ∧
        ∃ mailbox ended, mailbox <:+ w.session.mailbox ∧
          w.session.work = { w.session with mailbox, ended } := by
    intro hmail hwork
    exact ⟨by simp [Scene.next?, hmail], by simp [hmail], w.session.mailbox, w.session.ended,
      List.suffix_rfl, hwork⟩
  cases hended : w.session.ended with
  | true => exact .inl (hidle (by simp [Scene.mail?, hended]) (by simp [work, hended]))
  | false =>
      cases hmailbox : w.session.mailbox with
      | nil =>
          rw [hmailbox] at hidle
          exact .inl (hidle (by simp [Scene.mail?, hmailbox]) (by simp [work, hmailbox]))
      | cons mail rest =>
          have hmail : w.mail? = some mail := by simp [Scene.mail?, hended, hmailbox]
          have hwork : w.session.work =
              ({ w.session with mailbox := rest } : Session).handle mail := by
            simp [work, hended, hmailbox]
          cases mail with
          | call caller =>
              cases hc : w.session.callers[caller]? with
              | none =>
                  left
                  refine ⟨by simp [Scene.next?, hmail, hc], by simp [hmail], rest, w.session.ended,
                    List.suffix_cons _ _, ?_⟩
                  rw [hwork]
                  simp only [handle, hc]
              | some c =>
                  right; right
                  refine ⟨caller, c, rest, by simp [Scene.next?, hmail, hc], rfl, hc, ?_⟩
                  rw [hwork, handle_call (s := { w.session with mailbox := rest }) hc,
                    serve_mailbox]
          | changed token =>
              right; left
              refine ⟨token, rest, by simp [Scene.next?, hmail], hmail, rfl, ?_⟩
              rw [hwork]
              exact changed_mailbox w.session rest token
          | shutdown =>
              left
              refine ⟨by simp [Scene.next?, hmail], by simp [hmail], rest, true,
                List.suffix_cons _ _, ?_⟩
              rw [hwork]
              rfl

/-- The worker takes messages off the front of the mailbox. -/
theorem mailbox_work (w : Scene) : w.session.work.mailbox <:+ w.session.mailbox := by
  rcases work_cases w with ⟨_, _, mailbox, _, hsuffix, hwork⟩ | ⟨_, rest, _, _, hmailbox, hwork⟩ |
      ⟨_, _, rest, _, hmailbox, _, hwork⟩
  · rw [hwork]
    exact hsuffix
  · rw [hwork, hmailbox]
    exact List.suffix_cons _ _
  · rw [hwork, hmailbox]
    exact List.suffix_cons _ _

end AttachGate.Session
