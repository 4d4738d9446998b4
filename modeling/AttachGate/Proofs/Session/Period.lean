import AttachGate.Proofs.Session.Cache

/-!
# One start for each period

A period begins when a client attaches while none is, and goes on while clients
attach and none detaches.  If the start that it begins with ends well, all its
clients get the one instance of that start, and no other start is requested:
a newcomer shares the start while it is registered, and gets what it has found
once its outcome is seen.

Between these two, when its runner has emptied the register and not yet
resolved, the start is neither; a newcomer that comes just then has a second
start requested.  Apart from that moment a period has one start.
-/

namespace AttachGate.Session

/-- A move within a period: the worker takes no call to detach, and no call to
attach while the runner of the start is between the register and its callers. -/
def Within (token : Nat) (v : Scene) (m : Move) : Prop :=
  m = .work → (∀ n, v.next? ≠ some (n, .detach)) ∧
    ∀ n timeout i outcome, v.next? = some (n, .attach timeout) →
      v.session.coordinator.intent? token = some i → i.runner ≠ .cleared outcome

/-- A period with the start that it began with: that is the newest intent unless
it has failed. -/
structure Period (token : Nat) (v : Scene) : Prop where
  attached : 0 < v.session.count
  start : ∃ i, v.session.coordinator.intent? token = some i ∧ i.phase = .live ∧
    (v.session.coordinator.intents.length = token ∨
      ∃ e, i.runner.result? = some (.error e))

/-- What is said of a start until it has failed. -/
theorem Period.latest {token : Nat} {v : Scene} (hv : Period token v)
    (hconsistent : v.session.Consistent) {i : Intent Change.Job (Option App.Instance)}
    (hi : v.session.coordinator.intent? token = some i)
    (hsound : ∀ e, i.runner.result? ≠ some (.error e)) :
    v.session.coordinator.latest? = some i := by
  obtain ⟨j, hj, _, hnewest⟩ := hv.start
  rw [hi, Option.some.injEq] at hj
  subst hj
  rcases hnewest with hlength | ⟨e, he⟩
  · apply hconsistent.orderly.numbered.latest?_of_token (Coordinator.mem_of_intent? hi)
    rw [hlength, Coordinator.token_of_intent? hi]
  · exact (hsound e he).elim

theorem period_work {b : Scene} (hb : b.session.Consistent) (hvacant : b.session.count = 0)
    {caller : Nat} {timeout : Option Number} (hnext : b.next? = some (caller, .attach timeout)) :
    Period (b.session.coordinator.intents.length + 1) (b.after .work) ∧
      (b.session.serve (.attach timeout)).1 =
        .change (b.session.coordinator.intents.length + 1) := by
  rcases clients_work b with ⟨hidle, _⟩ | ⟨_, c, hother, _, _, _, hcount, hcoordinator⟩
  · rw [hnext] at hidle
    cases hidle
  · rw [hnext, Option.some.injEq, Prod.mk.injEq] at hother
    rw [← hother.2] at hcount hcoordinator
    rcases hb.attach_cases with ⟨_, _, hpos, _⟩ | ⟨_, hpos, _⟩ | ⟨_, _, hattach⟩
    · omega
    · omega
    · have hlatest : (b.after .work).session.coordinator.latest? =
          some (.create (b.session.coordinator.intents.length + 1) .live) := by
        simp [Scene.after, hcoordinator, serve, hattach, begun]
      refine ⟨⟨?_, _, (hb.after .work).orderly.numbered.intent?_latest hlatest, rfl, .inl ?_⟩, ?_⟩
      · simp [Scene.after, hcount, serve, hattach]
      · simp [Scene.after, hcoordinator, serve, hattach, begun]
      · simp [serve, hattach]

/-- A client that attaches within a period finds the start outstanding, or sees
its outcome, unless the start has failed. -/
theorem Period.attach_cases {token : Nat} {v : Scene} (hv : Period token v)
    (hconsistent : v.session.Consistent)
    (hyields : ∀ i ∈ v.session.coordinator.intents, Yields i)
    {i : Intent Change.Job (Option App.Instance)}
    (hi : v.session.coordinator.intent? token = some i)
    (hgap : ∀ outcome, i.runner ≠ .cleared outcome) :
    ((v.session.attach.2.coordinator = v.session.coordinator) ∧
      (v.session.attach.1 = .change token ∨ ∃ running, v.session.attach.1 = .ready (some running) ∧
        i.runner.outcome? = some (.ok (some running)))) ∨
    ∃ e, i.runner.result? = some (.error e) := by
  obtain ⟨j, hj, hlive, hnewest⟩ := hv.start
  rw [hi, Option.some.injEq] at hj
  subst hj
  rcases hnewest with hlength | herror
  · have hmem := Coordinator.mem_of_intent? hi
    have htoken := Coordinator.token_of_intent? hi
    have hlatest := hconsistent.orderly.numbered.latest?_of_token hmem (by omega)
    rcases hconsistent.attach_cases with ⟨running, k, _, hk, _, houtcome, hattach⟩ |
        ⟨k, _, hk, _, _, _, hattach⟩ | ⟨hdone, _, _⟩
    · rw [hlatest, Option.some.injEq] at hk
      subst hk
      exact .inl ⟨by rw [hattach], .inr ⟨running, by rw [hattach], houtcome⟩⟩
    · rw [hlatest, Option.some.injEq] at hk
      subst hk
      exact .inl ⟨by rw [hattach], .inl (by rw [hattach, htoken])⟩
    · right
      obtain ⟨hpast, hnone⟩ := hdone i hv.attached hlatest
      have hseen : ∀ outcome, i.runner.outcome? = some outcome → ∃ e, outcome = .error e := by
        intro outcome houtcome
        cases outcome with
        | error e => exact ⟨e, rfl⟩
        | ok found =>
            have hsome := (hyields i hmem).result found (Runner.result?_of_outcome? houtcome) hlive
            obtain ⟨running, rfl⟩ := Option.isSome_iff_exists.mp hsome
            exact (hnone running houtcome).elim
      cases hrunner : i.runner with
      | cleared outcome => exact (hgap outcome hrunner).elim
      | resolved outcome =>
          obtain ⟨e, rfl⟩ := hseen outcome (by rw [hrunner]; rfl)
          exact ⟨e, rfl⟩
      | notified outcome =>
          obtain ⟨e, rfl⟩ := hseen outcome (by rw [hrunner]; rfl)
          exact ⟨e, rfl⟩
      | _ => simp [hrunner, Runner.isOutstanding, Runner.progress] at hpast
  · exact .inr herror

theorem Period.after {token : Nat} {v : Scene} (hv : Period token v)
    (hconsistent : v.session.Consistent)
    (hyields : ∀ i ∈ v.session.coordinator.intents, Yields i) {m : Move} (hm : Within token v m) :
    Period token (v.after m) := by
  obtain ⟨i, hi, hlive, hnewest⟩ := hv.start
  obtain ⟨j, hj, hstep⟩ := intent?_after hconsistent m hi
  have hfailed : (∃ e, i.runner.result? = some (.error e)) →
      ∃ e, j.runner.result? = some (.error e) := by
    rintro ⟨e, he⟩
    exact ⟨e, hstep.precedes.result _ he⟩
  by_cases hwork : m = .work
  · subst hwork
    obtain ⟨hstay, hgap⟩ := hm rfl
    rcases clients_work v with ⟨_, _, hcount, hcoordinator⟩ |
        ⟨n, c, hnext, _, _, _, hcount, hcoordinator⟩
    · refine ⟨by simpa only [Scene.after, hcount] using hv.attached, j, hj,
        hstep.precedes.phase.trans hlive, ?_⟩
      rcases hnewest with hlength | herror
      · exact .inl (by simpa only [Scene.after, hcoordinator] using hlength)
      · exact .inr (hfailed herror)
    · cases herrand : c.errand with
      | detach =>
          rw [herrand] at hnext
          exact (hstay n hnext).elim
      | attach timeout =>
          rw [herrand] at hnext hcount hcoordinator
          refine ⟨?_, j, hj, hstep.precedes.phase.trans hlive, ?_⟩
          · simp only [Scene.after, hcount, serve, count_attach hconsistent]
            omega
          · rcases hnewest with hlength | herror
            · rcases hv.attach_cases hconsistent hyields hi
                (fun outcome => hgap n timeout i outcome hnext hi) with ⟨hkeeps, _⟩ | herror
              · exact .inl (by simpa only [Scene.after, hcoordinator, serve, hkeeps] using hlength)
              · exact .inr (hfailed herror)
            · exact .inr (hfailed herror)
  · refine ⟨by rw [(sameBooks_after v hwork).count]; exact hv.attached, j, hj,
      hstep.precedes.phase.trans hlive, ?_⟩
    rcases hnewest with hlength | herror
    · rcases length_intents_after hconsistent m with hsame | ⟨hm, _⟩
      · exact .inl (hsame.trans hlength)
      · exact (hwork hm).elim
    · exact .inr (hfailed herror)

/-! ## Runs -/

/-- What a period that goes on can rely on. -/
structure Scene.Thriving (v : Scene) (token : Nat) : Prop where
  sound : v.Sound
  yields : ∀ i ∈ v.session.coordinator.intents, Yields i
  period : Period token v

theorem Scene.Thriving.after {v : Scene} {token : Nat} (hv : v.Thriving token) {m : Move}
    (hm : Within token v m) : (v.after m).Thriving token where
  sound := hv.sound.after m
  yields := forall_intents_after hv.sound.consistent m hv.yields yields_create
    fun _ _ _ hstep => hstep.yields
  period := hv.period.after hv.sound.consistent hv.yields hm

section Runs

variable {rule : History → Scene → Move → Prop} {first w : Scene} {since : History} {token : Nat}

theorem Run.thriving (hrun : Run rule first since w) (hfirst : first.Thriving token)
    (hwithin : ∀ v m, (v, m) ∈ since → Within token v m) : w.Thriving token :=
  (hrun.and hwithin).invariant (I := fun w => w.Thriving token) hfirst
    fun _ _ _ hrule hv => hv.after hrule.2

/-- A client of a period is answered with the start, or with what that has found. -/
theorem Run.reply_of_period (hrun : Run rule first since w) (hfirst : first.Thriving token)
    (hwithin : ∀ v m, (v, m) ∈ since → Within token v m) {v : Scene} {n : Nat}
    {timeout : Option Number} (hmem : (v, .work) ∈ since)
    (hnext : v.next? = some (n, .attach timeout)) {i : Intent Change.Job (Option App.Instance)}
    (hi : w.session.coordinator.intent? token = some i) {found : Option App.Instance}
    (hresult : i.runner.result? = some (.ok found)) :
    (v.session.serve (.attach timeout)).1 = .change token ∨
      (v.session.serve (.attach timeout)).1 = .ready found := by
  obtain ⟨earlier, later, hpast, hearlier, _, hlater⟩ := hrun.split hmem
  have hv : v.Thriving token := hearlier.thriving hfirst fun u m hu =>
    hwithin u m (by rw [hpast]; exact List.mem_append_left _ hu)
  obtain ⟨k, hk, _⟩ := hv.period.start
  have hki : k.Precedes i := by
    obtain ⟨l, hl, hstep⟩ := intent?_after hv.sound.consistent .work hk
    obtain ⟨j, hj, hlj⟩ := hlater.precedes (hv.sound.after .work).consistent hl
    rw [hi, Option.some.injEq] at hj
    exact hj ▸ hstep.precedes.trans hlj
  have hgap : ∀ outcome, k.runner ≠ .cleared outcome := fun outcome =>
    (hwithin v .work hmem rfl).2 n timeout k outcome hnext hk
  rcases hv.period.attach_cases hv.sound.consistent hv.yields hk hgap with
    ⟨_, hchange | ⟨running, hready, houtcome⟩⟩ | ⟨e, he⟩
  · exact .inl hchange
  · have hsame := hki.result _ (Runner.result?_of_outcome? houtcome)
    rw [hresult, Option.some.injEq, Except.ok.injEq] at hsame
    exact .inr (by rw [serve, hready, hsame])
  · have hfailed := hki.result _ he
    rw [hresult] at hfailed
    cases hfailed

end Runs

/-- Let a client attach while none is, and from then on let no call to detach be
taken, and none to attach while the runner of the start is between the register
and its callers.  If that start ends well it is the only intent of the period;
every client of the period waits for it or has its instance, and ends its call
with that instance unless the client itself gives up. -/
theorem Run.one_start {rule : History → Scene → Move → Prop} {app : App.Id} {cluster : Cluster}
    {earlier since : History} {b w : Scene} {opener : Nat} {timeout : Option Number}
    (hrun : Run rule (.start app cluster) (earlier ++ (b, .work) :: since) w)
    (hvacant : b.session.count = 0) (hnext : b.next? = some (opener, .attach timeout))
    (hwithin : ∀ v m, (v, m) ∈ since →
      Within (b.session.coordinator.intents.length + 1) v m)
    {i : Intent Change.Job (Option App.Instance)}
    (hi : w.session.coordinator.intent? (b.session.coordinator.intents.length + 1) = some i)
    {found : Option App.Instance} (hresult : i.runner.result? = some (.ok found)) :
    ∃ running, found = some running ∧ i.phase = .live ∧
      w.session.coordinator.intents.drop b.session.coordinator.intents.length = [i] ∧
      ∀ v n limit, (v, .work) ∈ (b, .work) :: since → v.next? = some (n, .attach limit) →
        ∃ c, w.session.callers[n]? = some c ∧
          (c.Serves w.session (.change i.token) ∨ c.Serves w.session (.ready (some running))) ∧
          ∀ outcome, c.outcome? = some outcome →
            outcome = .ok (some running) ∨
              ∃ f, outcome = .error f ∧ c.GivesUp w.session.app f := by
  obtain ⟨hearlier, _, hlater⟩ := hrun.since rfl
  have hb := hearlier.sound (Scene.sound_start app cluster)
  obtain ⟨hbegun, hreply⟩ := period_work hb.consistent hvacant hnext
  have hfirst : (b.after .work).Thriving (b.session.coordinator.intents.length + 1) :=
    ⟨hb.after .work, forall_intents_after hb.consistent .work hearlier.yields yields_create
      (fun _ _ _ hstep => hstep.yields), hbegun⟩
  have hw := hlater.thriving hfirst hwithin
  have hmem := Coordinator.mem_of_intent? hi
  have htoken := Coordinator.token_of_intent? hi
  have hlatest := hw.period.latest hw.sound.consistent hi (by simp [hresult])
  have hlive : i.phase = .live := by
    obtain ⟨j, hj, hlive, _⟩ := hw.period.start
    rw [hi, Option.some.injEq] at hj
    exact hj ▸ hlive
  obtain ⟨running, rfl⟩ :=
    Option.isSome_iff_exists.mp ((hw.yields i hmem).result found hresult hlive)
  refine ⟨running, rfl, hlive, ?_, ?_⟩
  · obtain ⟨init, hinit⟩ := List.getLast?_eq_some_iff.mp hlatest
    have hlength := hw.sound.consistent.orderly.numbered.token_latest hlatest
    rw [hinit] at hlength ⊢
    rw [htoken, List.length_append, List.length_singleton] at hlength
    exact List.drop_left' (by omega)
  · intro v n limit hv hcall
    have hanswer : (v.session.serve (.attach limit)).1 = .change i.token ∨
        (v.session.serve (.attach limit)).1 = .ready (some running) := by
      rw [htoken]
      rcases List.mem_cons.mp hv with hsame | hsince
      · cases hsame
        rw [hnext, Option.some.injEq, Prod.mk.injEq] at hcall
        exact .inl (hcall.2 ▸ hreply)
      · exact hlater.reply_of_period hfirst hwithin hsince hcall hi hresult
    obtain ⟨c, hc, hserves⟩ := hrun.answered (List.mem_append_right _ hv) hcall
    refine ⟨c, hc, ?_, ?_⟩
    · rcases hanswer with hchange | hready
      · exact .inl (hchange ▸ hserves)
      · exact .inr (hready ▸ hserves)
    · intro outcome houtcome
      rcases hserves.of_over (Caller.standing_of_outcome? houtcome) with hpromised | hleft
      · left
        rcases hanswer with hchange | hready
        · rw [hchange] at hpromised
          have hseen : i.runner.outcome? = some outcome := by
            simpa [Session.outcome?, Coordinator.outcome?, htoken, hi] using hpromised
          have hsame := Runner.result?_of_outcome? hseen
          rw [hresult, Option.some.injEq] at hsame
          exact hsame.symm
        · rw [hready] at hpromised
          exact (Option.some.inj hpromised).symm
      · exact .inr hleft

namespace Sample

/-- Two clients attach, and their start comes to its end. -/
def together : List Move :=
  [.call (.attach none) false, .work, .call (.attach none) false, .work, .run 1, .run 1, .run 1,
    .run 1, .run 1, .run 1, .run 1, .run 1, .run 1]

/-- A client attaches, and another one just when the runner of the start has
emptied the register. -/
def between : List Move :=
  [.call (.attach none) false, .work, .run 1, .run 1, .run 1, .run 1, .run 1, .run 1, .run 1,
    .run 1, .call (.attach none) false, .work, .run 2, .run 1, .run 1]

end Sample

theorem one_start_together :
    ∃ i running, (Sample.scene.play Sample.together).session.coordinator.intents = [i] ∧
      i.phase = .live ∧ i.runner.result? = some (.ok (some running)) := by
  have hrun : Run anything Sample.scene
      ([(Sample.scene, .call (.attach none) false)] ++
        (Sample.scene.play (Sample.together.take 1), .work) ::
          (Sample.scene.play (Sample.together.take 2)).history (Sample.together.drop 2))
      (Sample.scene.play Sample.together) :=
    run_play Sample.scene (admits_anything [] Sample.scene Sample.together)
  have hwithin : ∀ v m,
      (v, m) ∈ (Sample.scene.play (Sample.together.take 2)).history (Sample.together.drop 2) →
        Within 1 v m := by
    rintro v m hmem rfl
    simp [Sample.together, Scene.history] at hmem
    subst hmem
    constructor
    · intro n hnext
      cases hnext
    · intro n timeout k outcome _ hk hcleared
      cases hk
      cases hcleared
  have hended : ((Sample.scene.play Sample.together).session.coordinator.intent? 1).any
      (fun i => i.runner.result?.any Except.isOk) = true := by decide +kernel
  obtain ⟨i, hi, hended⟩ := (Option.any_eq_true _ _).mp hended
  obtain ⟨outcome, hresult, hok⟩ := (Option.any_eq_true _ _).mp hended
  cases outcome with
  | error e => cases hok
  | ok found =>
      obtain ⟨running, rfl, hlive, hintents, _⟩ :=
        Run.one_start hrun rfl rfl hwithin hi hresult
      exact ⟨i, running, hintents, hlive, hresult⟩

/-- A client that is taken in between has a second start requested, and waits for that,
though the first start has ended well and no client has detached. -/
theorem second_start_between :
    Run anything Sample.scene (Sample.scene.history Sample.between)
        (Sample.scene.play Sample.between) ∧
      (Sample.scene.play Sample.between).session.coordinator.intents.map
          (fun i => (i.phase, i.runner.progress, i.runner.result?.any Except.isOk)) =
        [(.live, 5, true), (.live, 1, false)] ∧
      (Sample.scene.play Sample.between).session.callers =
        [⟨.attach none, false, .answered (.change 1)⟩,
          ⟨.attach none, false, .answered (.change 2)⟩] := by
  refine ⟨run_play _ (admits_anything _ _ _), ?_, rfl⟩
  decide +kernel

end AttachGate.Session
