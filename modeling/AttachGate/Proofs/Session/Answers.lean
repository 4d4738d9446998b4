import AttachGate.Proofs.Session.Intents

/-!
# Answers

Every call is posted once and answered once, and an answer is never taken back.
A call that was answered either still waits for what it was promised, or has
ended with just that, or was given up by its own client.  Together with the
fact that a run loses no intent and no outcome, this lets a statement follow a
call from the moment at which the worker took it to any later scene.
-/

namespace AttachGate.Session

/-! ## Outcomes -/

theorem outcome?_after {w : Scene} (hw : w.session.Consistent) (m : Move) {reply : Reply}
    {outcome : Change.Outcome} (houtcome : w.session.outcome? reply = some outcome) :
    (w.after m).session.outcome? reply = some outcome := by
  cases reply with
  | change token =>
      simp only [outcome?, Coordinator.outcome?, Option.bind_eq_some_iff] at houtcome ⊢
      obtain ⟨i, hi, hseen⟩ := houtcome
      obtain ⟨j, hj, hij⟩ := intent?_after hw m hi
      exact ⟨j, hj, hij.precedes.outcome hseen⟩
  | ready running => exact houtcome
  | refused f => exact houtcome

/-! ## Calls -/

/-- The failures with which a client ends its own wait. -/
inductive Caller.GivesUp (app : App.Id) (c : Caller) : Failure → Prop
  | away (hcancelled : c.cancelled = true) : GivesUp app c (.gaveUp app.label)
  | late (timeout : Number) (herrand : c.errand = .attach (some timeout)) :
    GivesUp app c (.notReady app.label timeout)
  | unreckoned (timeout : Number) (herrand : c.errand = .attach (some timeout)) :
    GivesUp app c .integerTooLarge

/-- A call that was answered stands by its answer. -/
inductive Caller.Serves (s : Session) (reply : Reply) (c : Caller) : Prop
  | answered (hstanding : c.standing = .answered reply)
  | waiting (deadline : Option Number) (hstanding : c.standing = .waiting reply deadline)
  | doubting (deadline : Option Number) (hstanding : c.standing = .doubting reply deadline)
  | promised (outcome : Change.Outcome) (hstanding : c.standing = .over outcome)
    (houtcome : s.outcome? reply = some outcome)
  | left (f : Failure) (hstanding : c.standing = .over (.error f))
    (hgivesUp : c.GivesUp s.app f)

/-- What the moves of a client make of its call. -/
structure Caller.Follows (s : Session) (c d : Caller) : Prop where
  errand : d.errand = c.errand
  cancelled : c.cancelled = true → d.cancelled = true
  posted : c.standing = .posted → d.standing = .posted
  serves : ∀ reply, c.Serves s reply → d.Serves s reply

namespace Caller

variable {s : Session}

theorem Follows.refl (c : Caller) : c.Follows s c := ⟨rfl, id, id, fun _ h => h⟩

theorem Serves.not_posted {reply : Reply} {c : Caller} (hserves : c.Serves s reply) :
    c.standing ≠ .posted := by
  intro hposted
  cases hserves <;> simp_all

theorem standing_of_outcome? {c : Caller} {outcome : Change.Outcome}
    (houtcome : c.outcome? = some outcome) : c.standing = .over outcome := by
  unfold outcome? at houtcome
  split at houtcome
  · rename_i other hstanding
    rw [hstanding, Option.some.inj houtcome]
  · cases houtcome

/-- A call that is over has ended as promised, or its own client has given up. -/
theorem Serves.of_over {reply : Reply} {c : Caller} {outcome : Change.Outcome}
    (hserves : c.Serves s reply) (hover : c.standing = .over outcome) :
    s.outcome? reply = some outcome ∨ ∃ f, outcome = .error f ∧ c.GivesUp s.app f := by
  cases hserves with
  | promised other hstanding hseen =>
      rw [hover] at hstanding
      cases hstanding
      exact .inl hseen
  | left f hstanding hgivesUp =>
      rw [hover] at hstanding
      cases hstanding
      exact .inr ⟨f, rfl, hgivesUp⟩
  | answered hstanding =>
      rw [hover] at hstanding
      cases hstanding
  | waiting deadline hstanding =>
      rw [hover] at hstanding
      cases hstanding
  | doubting deadline hstanding =>
      rw [hover] at hstanding
      cases hstanding

/-- An answer is never taken back. -/
theorem Follows.posted_iff {c d : Caller} (hfollows : c.Follows s d) :
    c.standing = .posted ↔ d.standing = .posted := by
  refine ⟨hfollows.posted, ?_⟩
  intro hposted
  cases hstanding : c.standing with
  | posted => rfl
  | answered reply => exact ((hfollows.serves reply (.answered hstanding)).not_posted hposted).elim
  | waiting reply deadline =>
      exact ((hfollows.serves reply (.waiting deadline hstanding)).not_posted hposted).elim
  | doubting reply deadline =>
      exact ((hfollows.serves reply (.doubting deadline hstanding)).not_posted hposted).elim
  | «over» outcome =>
      have hserves : ∃ reply, c.Serves s reply := by
        cases outcome with
        | ok found => exact ⟨.ready found, .promised _ hstanding rfl⟩
        | error f => exact ⟨.refused f, .promised _ hstanding rfl⟩
      obtain ⟨reply, hserves⟩ := hserves
      exact ((hfollows.serves reply hserves).not_posted hposted).elim

theorem eq_of_operand_error {n : Number} {f : Failure} (hoperand : n.operand = .error f) :
    f = .integerTooLarge := by
  unfold Number.operand at hoperand
  split at hoperand
  · cases hoperand
  · split at hoperand <;> cases hoperand
    rfl

theorem eq_of_add_error {m n : Number} {f : Failure} (hadd : m.add n = .error f) :
    f = .integerTooLarge := by
  unfold Number.add at hadd
  split at hadd
  · cases hadd
  · cases hm : m.operand with
    | error e =>
        rw [hm] at hadd
        cases hadd
        exact eq_of_operand_error hm
    | ok x =>
        cases hn : n.operand with
        | error e =>
            rw [hm, hn] at hadd
            cases hadd
            exact eq_of_operand_error hn
        | ok y =>
            rw [hm, hn] at hadd
            cases hadd

/-- A deadline that cannot be reckoned is one that was asked for. -/
theorem of_deadline_error {clock : Number} {errand : Errand} {f : Failure}
    (hdeadline : deadline clock errand = .error f) :
    ∃ timeout, errand = .attach (some timeout) ∧ f = .integerTooLarge := by
  unfold deadline at hdeadline
  split at hdeadline
  · rename_i timeout
    refine ⟨timeout, rfl, ?_⟩
    split at hdeadline
    · cases hdeadline
    · cases hadd : clock.add timeout with
      | ok t => simp [hadd, Except.map] at hdeadline
      | error e =>
          simp only [hadd, Except.map, Except.error.injEq] at hdeadline
          exact hdeadline ▸ eq_of_add_error hadd
  · cases hdeadline

theorem follows_leave (c : Caller) : c.Follows s { c with cancelled := true } := by
  refine ⟨rfl, fun _ => rfl, id, ?_⟩
  intro reply hserves
  cases hserves with
  | answered hstanding => exact .answered hstanding
  | waiting deadline hstanding => exact .waiting deadline hstanding
  | doubting deadline hstanding => exact .doubting deadline hstanding
  | promised outcome hstanding houtcome => exact .promised outcome hstanding houtcome
  | left f hstanding hgivesUp =>
      refine .left f hstanding ?_
      cases hgivesUp with
      | away hcancelled => exact .away rfl
      | late timeout herrand => exact .late timeout herrand
      | unreckoned timeout herrand => exact .unreckoned timeout herrand

theorem follows_take (clock : Number) (c : Caller) : c.Follows s (c.take clock) := by
  cases hstanding : c.standing with
  | answered reply =>
      have honly : ∀ other, c.Serves s other → other = reply := by
        intro other hserves
        cases hserves <;> simp_all
      cases reply with
      | refused f =>
          refine ⟨by simp [take, hstanding], by simp [take, hstanding],
            by simp [hstanding], ?_⟩
          intro other hserves
          rw [honly other hserves]
          exact .promised (.error f) (by simp [take, hstanding]) rfl
      | _ =>
          refine ⟨by simp [take, hstanding], by simp [take, hstanding],
            by simp [hstanding], ?_⟩
          intro other hserves
          rw [honly other hserves]
          cases hdeadline : deadline clock c.errand with
          | ok deadline =>
              exact .waiting deadline (by simp [take, hstanding, hdeadline])
          | error f =>
              obtain ⟨timeout, herrand, rfl⟩ := of_deadline_error hdeadline
              exact .left _ (by simp [take, hstanding, hdeadline])
                (.unreckoned timeout (by simp [take, hstanding, herrand]))
  | _ =>
      rw [show c.take clock = c by simp [take, hstanding]]
      exact .refl c

theorem follows_look (c : Caller) : c.Follows s (c.look s.outcome?) := by
  cases hstanding : c.standing with
  | waiting reply deadline =>
      refine ⟨by simp [look, hstanding], by simp [look, hstanding], by simp [hstanding], ?_⟩
      intro other hserves
      have hsame : other = reply := by cases hserves <;> simp_all
      subst hsame
      cases houtcome : s.outcome? other with
      | some outcome =>
          exact .promised outcome (by simp [look, hstanding, houtcome]) houtcome
      | none =>
          cases herrand : c.errand with
          | attach timeout =>
              exact .doubting deadline (by simp [look, hstanding, houtcome, herrand])
          | detach =>
              exact .waiting deadline (by simp [look, hstanding, houtcome, herrand])
  | _ =>
      rw [show c.look s.outcome? = c by simp [look, hstanding]]
      exact .refl c

theorem follows_doubt (clock : Number) (c : Caller) : c.Follows s (c.doubt s.app clock) := by
  cases hstanding : c.standing with
  | doubting reply deadline =>
      refine ⟨by simp [doubt, hstanding], by simp [doubt, hstanding], by simp [hstanding], ?_⟩
      intro other hserves
      have hsame : other = reply := by cases hserves <;> simp_all
      subst hsame
      by_cases hcancelled : c.cancelled = true
      · exact .left _ (by simp [doubt, hstanding, hcancelled])
          (.away (by simp [doubt, hstanding, hcancelled]))
      · by_cases hdue : isDue clock deadline = true
        · cases herrand : c.errand with
          | detach =>
              exact .waiting deadline (by simp [doubt, hstanding, hcancelled, hdue, herrand])
          | attach timeout =>
              cases timeout with
              | none =>
                  exact .waiting deadline
                    (by simp [doubt, hstanding, hcancelled, hdue, herrand])
              | some timeout =>
                  exact .left _ (by simp [doubt, hstanding, hcancelled, hdue, herrand])
                    (.late timeout (by simp [doubt, hstanding, hcancelled, hdue, herrand]))
        · exact .waiting deadline (by simp [doubt, hstanding, hcancelled, hdue])
  | _ =>
      rw [show c.doubt s.app clock = c by simp [doubt, hstanding]]
      exact .refl c

end Caller

variable {s : Session}

/-! ## Mailboxes -/

/-- Every call waits in the mailbox at most once, and only until its answer. -/
structure Posted (s : Session) : Prop where
  unanswered : ∀ caller, Mail.call caller ∈ s.mailbox →
    ∃ c, s.callers[caller]? = some c ∧ c.standing = .posted
  once : ∀ caller, s.mailbox.count (.call caller) ≤ 1

theorem posted_create (app : App.Id) : (create app).Posted := by
  constructor <;> simp [create]

theorem Posted.not_mem_of_answered (hs : s.Posted) {caller : Nat} {c : Caller}
    (hc : s.callers[caller]? = some c) (hanswered : c.standing ≠ .posted) :
    Mail.call caller ∉ s.mailbox := by
  intro hmem
  obtain ⟨d, hd, hposted⟩ := hs.unanswered caller hmem
  rw [hc] at hd
  cases hd
  exact hanswered hposted

theorem follows_onCaller (s : Session) (caller : Nat) {f : Caller → Caller}
    (hf : ∀ c : Caller, c.Follows s (f c)) (other : Nat) (c : Caller)
    (hc : s.callers[other]? = some c) :
    ∃ d : Caller, (s.onCaller caller f).callers[other]? = some d ∧ c.Follows s d := by
  by_cases hsame : caller = other
  · exact ⟨f c, by simp [onCaller, hsame, hc], hf c⟩
  · exact ⟨c, by simp [onCaller, hsame, hc], .refl c⟩

theorem callers_run (s : Session) (token : Nat) (c : Cluster) :
    (s.run token c).1.callers = s.callers := by
  cases hintent : s.coordinator.intent? token with
  | none => simp only [run, hintent]
  | some i =>
      cases hrunner : i.runner with
      | working job =>
          cases houtcome : job.outcome? <;> simp only [run, hintent, hrunner, houtcome]
      | _ => simp only [run, hintent, hrunner]

/-- A runner posts the notice of an outcome that is seen, and nothing else. -/
theorem mailbox_run (s : Session) (token : Nat) (c : Cluster) :
    (s.run token c).1.mailbox = s.mailbox ∨
      (s.run token c).1.mailbox = s.mailbox ++ [.changed token] ∧
        ∃ outcome, s.outcome? (.change token) = some outcome := by
  cases hintent : s.coordinator.intent? token with
  | none => simp only [run, hintent, true_or]
  | some i =>
      cases hrunner : i.runner with
      | working job =>
          cases houtcome : job.outcome? <;>
            simp only [run, hintent, hrunner, houtcome, true_or]
      | resolved outcome =>
          right
          refine ⟨by simp only [run, hintent, hrunner], outcome, ?_⟩
          simp [Session.outcome?, Coordinator.outcome?, hintent, hrunner, Runner.outcome?]
      | _ => simp only [run, hintent, hrunner, true_or]

/-- The moves of clients and runners let every call go on. -/
theorem follows_after (w : Scene) {m : Move} (hm : m ≠ .work) {caller : Nat} {c : Caller}
    (hc : w.session.callers[caller]? = some c) :
    ∃ d : Caller, (w.after m).session.callers[caller]? = some d ∧ c.Follows w.session d := by
  cases m with
  | work => exact (hm rfl).elim
  | call errand cancelled =>
      have hlt := (List.getElem?_eq_some_iff.mp hc).1
      exact ⟨c, by simp [Scene.after, call, List.getElem?_append_left hlt, hc], .refl c⟩
  | leave other => exact follows_onCaller _ other Caller.follows_leave caller c hc
  | take other clock => exact follows_onCaller _ other (Caller.follows_take clock) caller c hc
  | look other => exact follows_onCaller _ other Caller.follows_look caller c hc
  | doubt other clock => exact follows_onCaller _ other (Caller.follows_doubt clock) caller c hc
  | run token =>
      exact ⟨c, by simp [Scene.after, callers_run w.session token w.cluster, hc], .refl c⟩
  | fail token f =>
      refine ⟨c, ?_, .refl c⟩
      simp only [Scene.after, fail]
      split <;> exact hc
  | shutdown => exact ⟨c, hc, .refl c⟩
  | elsewhere cluster => exact ⟨c, hc, .refl c⟩

inductive Posts (w : Scene) : Move → List Mail → Prop
  | nothing (m : Move) : Posts w m []
  | call (errand : Errand) (cancelled : Bool) :
    Posts w (.call errand cancelled) [.call w.session.callers.length]
  | notice (token : Nat) (outcome : Change.Outcome)
    (hseen : w.session.outcome? (.change token) = some outcome) :
    Posts w (.run token) [.changed token]
  | shutdown : Posts w .shutdown [.shutdown]

/-- Clients and runners append to the mailbox. -/
theorem posts_after (w : Scene) {m : Move} (hm : m ≠ .work) :
    ∃ mail, (w.after m).session.mailbox = w.session.mailbox ++ mail ∧ Posts w m mail := by
  have hquiet : (w.after m).session.mailbox = w.session.mailbox →
      ∃ mail, (w.after m).session.mailbox = w.session.mailbox ++ mail ∧ Posts w m mail :=
    fun hsame => ⟨[], by simp [hsame], .nothing m⟩
  cases m with
  | work => exact (hm rfl).elim
  | call errand cancelled => exact ⟨_, rfl, .call errand cancelled⟩
  | run token =>
      rcases mailbox_run w.session token w.cluster with hsame | ⟨hnotice, outcome, hseen⟩
      · exact hquiet hsame
      · exact ⟨_, hnotice, .notice token outcome hseen⟩
  | fail token f =>
      apply hquiet
      simp only [Scene.after, fail]
      split <;> rfl
  | shutdown => exact ⟨_, rfl, .shutdown⟩
  | _ => exact hquiet rfl

/-- The worker answers the call that it takes, and touches no other. -/
theorem clients_work (w : Scene) :
    (w.next? = none ∧ w.session.work.callers = w.session.callers ∧
      w.session.work.count = w.session.count ∧
      w.session.work.coordinator = w.session.coordinator) ∨
    ∃ caller c, w.next? = some (caller, c.errand) ∧
      w.session.mailbox = .call caller :: w.session.work.mailbox ∧
      w.session.callers[caller]? = some c ∧
      w.session.work.callers = w.session.callers.modify caller (fun c =>
        { c with standing := .answered (w.session.serve c.errand).1 }) ∧
      w.session.work.count = (w.session.serve c.errand).2.count ∧
      w.session.work.coordinator = (w.session.serve c.errand).2.coordinator := by
  rcases work_cases w with ⟨hnext, _, _, _, _, hwork⟩ | ⟨token, _, hnext, _, _, hwork⟩ |
      ⟨caller, c, rest, hnext, hmailbox, hc, hwork⟩
  · left
    rw [hwork]
    exact ⟨hnext, rfl, rfl, rfl⟩
  · left
    obtain ⟨kept, hkept⟩ := w.session.changed_eq token
    rw [hwork, hkept]
    exact ⟨hnext, rfl, rfl, rfl⟩
  · right
    have hcallers := (sameClients_serve w.session c.errand).callers
    refine ⟨caller, c, hnext, by rw [hwork, hmailbox]; rfl, hc, ?_, by rw [hwork]; rfl,
      by rw [hwork]; rfl⟩
    rw [hwork]
    simp only [answer, onCaller, hcallers]
    apply List.ext_getElem?
    intro other
    by_cases hother : caller = other
    · subst hother
      simp [hc]
    · simp [hother]

theorem Posted.work {w : Scene} (hw : w.session.Posted) : w.session.work.Posted := by
  have honce : ∀ caller, w.session.work.mailbox.count (.call caller) ≤ 1 := fun caller =>
    Nat.le_trans ((mailbox_work w).sublist.count_le _) (hw.once caller)
  refine ⟨?_, honce⟩
  intro other hmem
  obtain ⟨d, hd, hposted⟩ := hw.unanswered other ((mailbox_work w).subset hmem)
  rcases clients_work w with ⟨_, hcallers, _⟩ | ⟨caller, c, _, hmailbox, _, hcallers, _⟩
  · exact ⟨d, by rw [hcallers, hd], hposted⟩
  · have hother : caller ≠ other := by
      rintro rfl
      have htwice := hw.once caller
      rw [hmailbox, List.count_cons_self] at htwice
      have hpos := List.count_pos_iff.mpr hmem
      omega
    exact ⟨d, by simp [hcallers, hother, hd], hposted⟩

theorem Posted.after {w : Scene} (hw : w.session.Posted) (m : Move) :
    (w.after m).session.Posted := by
  by_cases hm : m = .work
  · subst hm
    exact hw.work
  · have hstay : ∀ caller, Mail.call caller ∈ w.session.mailbox →
        ∃ c, (w.after m).session.callers[caller]? = some c ∧ c.standing = .posted := by
      intro caller hmem
      obtain ⟨c, hc, hposted⟩ := hw.unanswered caller hmem
      obtain ⟨d, hd, hfollows⟩ := follows_after w hm hc
      exact ⟨d, hd, hfollows.posted hposted⟩
    obtain ⟨mail, hmailbox, hposts⟩ := posts_after w hm
    have hquiet : (∀ caller, Mail.call caller ∉ mail) → (w.after m).session.Posted := by
      intro habsent
      constructor
      · intro caller hmem
        rw [hmailbox, List.mem_append] at hmem
        rcases hmem with hold | hmail
        · exact hstay caller hold
        · exact (habsent caller hmail).elim
      · intro caller
        rw [hmailbox, List.count_append, List.count_eq_zero.mpr (habsent caller)]
        exact hw.once caller
    cases hposts with
    | nothing => exact hquiet (by simp)
    | notice => exact hquiet (by simp)
    | shutdown => exact hquiet (by simp)
    | call errand cancelled =>
        constructor
        · intro caller hmem
          rw [hmailbox, List.mem_append, List.mem_singleton] at hmem
          rcases hmem with hold | hmail
          · exact hstay caller hold
          · cases hmail
            exact ⟨⟨errand, cancelled, .posted⟩, by simp [Scene.after, call], rfl⟩
        · intro caller
          rw [hmailbox, List.count_append]
          by_cases hfresh : caller = w.session.callers.length
          · -- nobody has called under this number before
            have habsent : Mail.call caller ∉ w.session.mailbox := by
              intro hmem
              obtain ⟨c, hc, _⟩ := hw.unanswered caller hmem
              have hlt := (List.getElem?_eq_some_iff.mp hc).1
              omega
            rw [List.count_eq_zero.mpr habsent, hfresh]
            simp
          · have hother : Mail.call caller ∉ [Mail.call w.session.callers.length] := by
              simpa using hfresh
            rw [List.count_eq_zero.mpr hother]
            exact hw.once caller

/-- What a run that goes on from a scene can rely on. -/
structure Scene.Sound (w : Scene) : Prop where
  consistent : w.session.Consistent
  posted : w.session.Posted

theorem Scene.sound_start (app : App.Id) (cluster : Cluster) : (Scene.start app cluster).Sound :=
  ⟨consistent_create app, posted_create app⟩

theorem Scene.Sound.after {w : Scene} (hw : w.Sound) (m : Move) : (w.after m).Sound :=
  ⟨hw.consistent.after m, hw.posted.after m⟩

theorem Run.sound {rule : History → Scene → Move → Prop} {first w : Scene} {past : History}
    (hrun : Run rule first past w) (hfirst : first.Sound) : w.Sound :=
  hrun.invariant hfirst fun _ _ m _ hw => hw.after m

theorem Run.invariant_of_sound {rule : History → Scene → Move → Prop} {first w : Scene}
    {past : History} {I : Scene → Prop} (hrun : Run rule first past w) (hsound : first.Sound)
    (hfirst : I first) (hmove : ∀ past v m, rule past v m → v.Sound → I v → I (v.after m)) :
    I w := by
  have hboth : w.Sound ∧ I w := by
    apply hrun.invariant (I := fun v => v.Sound ∧ I v) ⟨hsound, hfirst⟩
    rintro past v m hrule ⟨hv, hkept⟩
    exact ⟨hv.after m, hmove past v m hrule hv hkept⟩
  exact hboth.2

/-! ## Standing by an answer -/

theorem sameGoal_work (w : Scene) :
    w.session.work.app = w.session.app ∧ w.session.work.plan = w.session.plan := by
  rcases work_cases w with ⟨_, _, _, _, _, hwork⟩ | ⟨token, _, _, _, _, hwork⟩ |
      ⟨_, c, _, _, _, _, hwork⟩
  · rw [hwork]
    exact ⟨rfl, rfl⟩
  · obtain ⟨kept, hkept⟩ := w.session.changed_eq token
    rw [hwork, hkept]
    exact ⟨rfl, rfl⟩
  · rw [hwork]
    have hsame := sameClients_serve w.session c.errand
    exact ⟨hsame.app, hsame.plan⟩

/-- A session is for one app from first to last. -/
theorem sameGoal_after (w : Scene) (m : Move) :
    (w.after m).session.app = w.session.app ∧ (w.after m).session.plan = w.session.plan := by
  by_cases hm : m = .work
  · subst hm
    exact sameGoal_work w
  · exact ⟨(sameBooks_after w hm).app, (sameBooks_after w hm).plan⟩

theorem Caller.Serves.mono {s t : Session} {reply : Reply} {c : Caller}
    (hserves : c.Serves s reply) (happ : t.app = s.app)
    (houtcome : ∀ outcome, s.outcome? reply = some outcome → t.outcome? reply = some outcome) :
    c.Serves t reply := by
  cases hserves with
  | answered hstanding => exact .answered hstanding
  | waiting deadline hstanding => exact .waiting deadline hstanding
  | doubting deadline hstanding => exact .doubting deadline hstanding
  | promised outcome hstanding hseen => exact .promised outcome hstanding (houtcome _ hseen)
  | left f hstanding hgivesUp => exact .left f hstanding (happ ▸ hgivesUp)

/-- The worker answers nobody twice. -/
theorem callers_work_of_answered {w : Scene} (hw : w.session.Posted) {caller : Nat} {c : Caller}
    (hc : w.session.callers[caller]? = some c) (hanswered : c.standing ≠ .posted) :
    w.session.work.callers[caller]? = some c := by
  have habsent := hw.not_mem_of_answered hc hanswered
  rcases clients_work w with ⟨_, hcallers, _⟩ | ⟨other, _, _, hmailbox, _, hcallers, _⟩
  · rw [hcallers, hc]
  · have hother : other ≠ caller := by
      rintro rfl
      exact habsent (by simp [hmailbox])
    simp [hcallers, hother, hc]

def Answered (s : Session) (caller : Nat) (reply : Reply) : Prop :=
  ∃ c : Caller, s.callers[caller]? = some c ∧ c.Serves s reply

theorem Answered.after {w : Scene} (hw : w.Sound) {caller : Nat} {reply : Reply}
    (hanswered : w.session.Answered caller reply) (m : Move) :
    (w.after m).session.Answered caller reply := by
  obtain ⟨c, hc, hserves⟩ := hanswered
  have hkeeps : ∀ d : Caller, d.Serves w.session reply → d.Serves (w.after m).session reply :=
    fun d hd => hd.mono (sameGoal_after w m).1 fun outcome => outcome?_after hw.consistent m
  by_cases hm : m = .work
  · subst hm
    exact ⟨c, callers_work_of_answered hw.posted hc hserves.not_posted, hkeeps c hserves⟩
  · obtain ⟨d, hd, hfollows⟩ := follows_after w hm hc
    exact ⟨d, hd, hkeeps d (hfollows.serves reply hserves)⟩

/-- The worker stands by the answer that it gives to a call. -/
theorem answered_work {w : Scene} {caller : Nat} {errand : Errand}
    (hnext : w.next? = some (caller, errand)) :
    (w.after .work).session.Answered caller (w.session.serve errand).1 := by
  rcases clients_work w with ⟨hidle, _⟩ | ⟨other, c, hother, _, hc, hcallers, _⟩
  · rw [hnext] at hidle
    cases hidle
  · rw [hnext] at hother
    cases hother
    refine ⟨{ c with standing := .answered (w.session.serve c.errand).1 }, ?_, .answered rfl⟩
    simp [Scene.after, hcallers, hc]

/-! ## The moment of an answer -/

/-- A client that attaches gets what the newest intent finds or has found, and
that intent is a start. -/
theorem latest_of_attach {b : Scene} (hb : b.session.Consistent) {caller : Nat}
    {timeout : Option Number} (hnext : b.next? = some (caller, .attach timeout)) :
    ∃ i, (b.after .work).session.coordinator.latest? = some i ∧ i.phase = .live ∧
      (∀ j ∈ b.session.coordinator.intents, j.phase = .rest → j.token < i.token) ∧
      ((b.session.serve (.attach timeout)).1 = .change i.token ∨
        ∃ running, (b.session.serve (.attach timeout)).1 = .ready (some running) ∧
          i.runner.outcome? = some (.ok (some running))) := by
  have hcoordinator : (b.after .work).session.coordinator =
      (b.session.serve (.attach timeout)).2.coordinator := by
    rcases clients_work b with ⟨hidle, _⟩ | ⟨_, c, hother, _, _, _, _, hcoordinator⟩
    · rw [hnext] at hidle
      cases hidle
    · rw [hnext, Option.some.injEq, Prod.mk.injEq] at hother
      rw [Scene.after, hcoordinator, ← hother.2]
  rcases hb.attach_cases with ⟨running, i, _, hlatest, hlive, houtcome, hattach⟩ |
      ⟨i, _, hlatest, hlive, _, _, hattach⟩ | ⟨_, _, hattach⟩
  · refine ⟨i, by simp [hcoordinator, serve, hattach, hlatest], hlive,
      fun j hj => hb.token_lt_latest hlatest hlive hj, .inr ⟨running, ?_, houtcome⟩⟩
    simp [serve, hattach]
  · refine ⟨i, by simp [hcoordinator, serve, hattach, hlatest], hlive,
      fun j hj => hb.token_lt_latest hlatest hlive hj, .inl ?_⟩
    simp [serve, hattach]
  · refine ⟨.create (b.session.coordinator.intents.length + 1) .live, ?_, rfl, ?_, .inl ?_⟩
    · simp [hcoordinator, serve, hattach, begun]
    · intro j hj _
      have hbound := (hb.orderly.numbered.token_le hj).2
      simp only [Intent.create]
      omega
    · simp [serve, hattach, Intent.create]

/-- A call that was not there before has just been made, and posted. -/
theorem new_caller {w : Scene} {m : Move} (hm : m ≠ .work) {caller : Nat} {d : Caller}
    (hd : (w.after m).session.callers[caller]? = some d)
    (hnew : w.session.callers[caller]? = none) :
    caller = w.session.callers.length ∧ d.standing = .posted ∧ m = .call d.errand d.cancelled := by
  have hlength := List.getElem?_eq_none_iff.mp hnew
  have hbound := (List.getElem?_eq_some_iff.mp hd).1
  cases m with
  | work => exact (hm rfl).elim
  | call errand cancelled =>
      simp only [Scene.after, call, List.length_append, List.length_singleton] at hbound hd
      have hlast : caller = w.session.callers.length := by omega
      subst hlast
      simp at hd
      subst hd
      exact ⟨rfl, rfl, rfl⟩
  | run token =>
      simp only [Scene.after, callers_run w.session token w.cluster] at hbound
      omega
  | fail token f =>
      have hcallers : (w.after (.fail token f)).session.callers = w.session.callers := by
        simp only [Scene.after, fail]
        split <;> rfl
      rw [hcallers] at hbound
      omega
  | shutdown => exact absurd hbound (by simpa [Scene.after, shutdown] using hlength)
  | elsewhere cluster => exact absurd hbound (by simpa [Scene.after] using hlength)
  | _ => exact absurd hbound (by simpa [Scene.after, leave, onCaller] using hlength)

/-- Every call that a client's or a runner's move leaves was there before, or has
just been made. -/
theorem callers_before {w : Scene} {m : Move} (hm : m ≠ .work) {caller : Nat} {d : Caller}
    (hd : (w.after m).session.callers[caller]? = some d) :
    (∃ c : Caller, w.session.callers[caller]? = some c ∧ c.Follows w.session d) ∨
      caller = w.session.callers.length ∧ d.standing = .posted ∧
        m = .call d.errand d.cancelled := by
  cases hc : w.session.callers[caller]? with
  | none => exact .inr (new_caller hm hd hc)
  | some c =>
      obtain ⟨e, he, hfollows⟩ := follows_after w hm hc
      rw [hd] at he
      cases he
      exact .inl ⟨c, rfl, hfollows⟩

/-- The worker stands by its answers throughout a run. -/
theorem Run.answered {rule : History → Scene → Move → Prop} {app : App.Id} {cluster : Cluster}
    {past : History} {b w : Scene} (hrun : Run rule (.start app cluster) past w)
    (hmem : (b, .work) ∈ past) {caller : Nat} {errand : Errand}
    (hnext : b.next? = some (caller, errand)) :
    w.session.Answered caller (b.session.serve errand).1 := by
  obtain ⟨earlier, later, _, hearlier, _, hlater⟩ := hrun.split hmem
  have hb := hearlier.sound (Scene.sound_start app cluster)
  apply hlater.invariant_of_sound (I := fun w =>
    w.session.Answered caller (b.session.serve errand).1) (hb.after .work)
  · exact answered_work hnext
  · intro _ v m _ hv hanswered
    exact hanswered.after hv m

/-- Every call that has been answered was taken by the worker at some scene. -/
theorem Run.taken {rule : History → Scene → Move → Prop} {app : App.Id} {cluster : Cluster}
    {past : History} {w : Scene} (hrun : Run rule (.start app cluster) past w) {caller : Nat}
    {c : Caller} (hc : w.session.callers[caller]? = some c) (hanswered : c.standing ≠ .posted) :
    ∃ b, (b, .work) ∈ past ∧ b.next? = some (caller, c.errand) := by
  induction hrun generalizing c with
  | start => simp [Scene.start, create] at hc
  | @move past w hrun m hrule ih =>
      have hearlier : ∀ d : Caller, w.session.callers[caller]? = some d → d.standing ≠ .posted →
          d.errand = c.errand →
            ∃ b, (b, .work) ∈ past ++ [(w, m)] ∧ b.next? = some (caller, c.errand) := by
        intro d hd hposted herrand
        obtain ⟨b, hmem, hnext⟩ := ih hd hposted
        exact ⟨b, List.mem_append_left _ hmem, herrand ▸ hnext⟩
      by_cases hm : m = .work
      · subst hm
        simp only [Scene.after] at hc
        rcases clients_work w with ⟨_, hcallers, _⟩ | ⟨other, d, hnext, _, hd, hcallers, _⟩
        · exact hearlier c (by rwa [hcallers] at hc) hanswered rfl
        · by_cases hother : other = caller
          · subst hother
            rw [hcallers, List.getElem?_modify_eq, hd] at hc
            cases hc
            exact ⟨w, by simp, hnext⟩
          · rw [hcallers, List.getElem?_modify_ne _ _ hother] at hc
            exact hearlier c hc hanswered rfl
      · rcases callers_before hm hc with ⟨d, hd, hfollows⟩ | ⟨_, hposted, _⟩
        · exact hearlier d hd (fun hposted => hanswered (hfollows.posted hposted))
            hfollows.errand.symm
        · exact (hanswered hposted).elim

end AttachGate.Session
