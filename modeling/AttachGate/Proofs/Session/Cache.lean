import AttachGate.Proofs.Session.Answers

/-!
# The kept instance

An instance is kept only while clients are attached, and it is what the newest
intent, a start, has found.  Once the worker has taken the notice of such an
intent its instance is kept until a stop is requested.  Whatever instance a
client gets was therefore found by a start that is younger than every stop
requested before the client's call was taken.
-/

namespace AttachGate.Session

/-! ## Notices -/

/-- Notice is given only of outcomes that are seen. -/
def Noticed (s : Session) : Prop :=
  ∀ token, Mail.changed token ∈ s.mailbox →
    ∃ outcome, s.outcome? (.change token) = some outcome

theorem noticed_create (app : App.Id) : (create app).Noticed := by
  intro token hmem
  simp [create] at hmem

theorem Noticed.after {w : Scene} (hnoticed : w.session.Noticed) (hw : w.Sound) (m : Move) :
    (w.after m).session.Noticed := by
  have hold : ∀ token, Mail.changed token ∈ w.session.mailbox →
      ∃ outcome, (w.after m).session.outcome? (.change token) = some outcome := by
    intro token hmem
    obtain ⟨outcome, hseen⟩ := hnoticed token hmem
    exact ⟨outcome, outcome?_after hw.consistent m hseen⟩
  intro token hmem
  by_cases hm : m = .work
  · subst hm
    apply hold
    exact (mailbox_work w).subset hmem
  · obtain ⟨mail, hmailbox, hposts⟩ := posts_after w hm
    rw [hmailbox, List.mem_append] at hmem
    rcases hmem with hmem | hmem
    · exact hold token hmem
    · cases hposts with
      | notice other outcome hseen =>
          rw [List.mem_singleton] at hmem
          cases hmem
          exact ⟨outcome, outcome?_after hw.consistent _ hseen⟩
      | _ => simp at hmem

/-! ## Keeping an instance -/

variable {s : Session}

/-- An instance is kept until a stop is requested. -/
theorem cached_serve (hs : s.Consistent) {running : App.Instance}
    (hcached : s.cached = some running) (errand : Errand) :
    (s.serve errand).2.cached = some running ∨
      (s.serve errand).2.coordinator.intents.length = s.coordinator.intents.length + 1 := by
  cases errand with
  | attach timeout =>
      left
      rcases hs.attach_cases with ⟨found, i, _, hlatest, _, houtcome, hattach⟩ |
          ⟨_, _, _, _, _, hnone, _⟩ | ⟨_, hnone, _⟩
      · obtain ⟨j, hj, hkept⟩ := hs.cached running hcached
        rw [hlatest, Option.some.injEq] at hj
        subst hj
        rw [houtcome] at hkept
        cases hkept
        simp [serve, hattach]
      · rw [hcached] at hnone
        cases hnone
      · rw [hcached] at hnone
        cases hnone
  | detach =>
      rcases hs.detach_cases with ⟨_, hdetach⟩ | ⟨_, hdetach⟩ | ⟨_, _, hdetach⟩
      · exact .inl (by simpa [serve, hdetach] using hcached)
      · exact .inr (by simp [serve, hdetach, begun])
      · exact .inl (by simpa [serve, hdetach] using hcached)

theorem cached_changed (hs : s.Consistent) {running : App.Instance}
    (hcached : s.cached = some running) (token : Nat) :
    (s.changed token).cached = some running := by
  rcases hs.changed_cases token with ⟨hsame, _⟩ | ⟨i, found, _, hlatest, _, _, houtcome, hkeeps⟩
  · rwa [hsame]
  · obtain ⟨j, hj, hkept⟩ := hs.cached running hcached
    rw [hlatest, Option.some.injEq] at hj
    subst hj
    rw [houtcome] at hkept
    cases hkept
    rw [hkeeps]

theorem cached_work {w : Scene} (hw : w.session.Consistent) {running : App.Instance}
    (hcached : w.session.cached = some running) :
    w.session.work.cached = some running ∨
      w.session.work.coordinator.intents.length = w.session.coordinator.intents.length + 1 := by
  rcases work_cases w with ⟨_, _, _, _, _, hwork⟩ | ⟨token, _, _, _, _, hwork⟩ |
      ⟨_, c, _, _, _, _, hwork⟩
  · exact .inl (by rw [hwork, hcached])
  · rw [hwork]
    exact .inl (cached_changed hw hcached token)
  · rw [hwork]
    exact cached_serve hw hcached c.errand

/-- The notice of an intent has been taken: if the intent is still the newest and
has found an instance, that instance is kept. -/
structure Heeded (s : Session) (token : Nat) : Prop where
  seen : ∃ outcome, s.outcome? (.change token) = some outcome
  kept : ∀ i running, s.coordinator.latest? = some i → i.token = token → i.phase = .live →
    i.runner.outcome? = some (.ok (some running)) → s.cached = some running

theorem heeded_changed (hs : s.Consistent) {token : Nat}
    (hseen : ∃ outcome, s.outcome? (.change token) = some outcome) :
    (s.changed token).Heeded token := by
  rcases hs.changed_cases token with ⟨hsame, hidle⟩ |
      ⟨i, found, _, hlatest, _, _, houtcome, hkeeps⟩
  · rw [hsame]
    refine ⟨hseen, ?_⟩
    intro i running hlatest htoken hlive houtcome
    cases hcached : s.cached with
    | none => exact (hidle i hlatest htoken hlive hcached running houtcome).elim
    | some kept =>
        obtain ⟨j, hj, hkept⟩ := hs.cached kept hcached
        rw [hlatest, Option.some.injEq] at hj
        subst hj
        rw [houtcome] at hkept
        cases hkept
        rfl
  · rw [hkeeps]
    refine ⟨hseen, ?_⟩
    intro j running hj _ _ hother
    simp only [hlatest, Option.some.injEq] at hj
    subst hj
    rw [houtcome] at hother
    cases hother
    rfl

theorem heeded_work {b : Scene} (hb : b.session.Consistent) (hnoticed : b.session.Noticed)
    {token : Nat} (hmail : b.mail? = some (.changed token)) :
    (b.after .work).session.Heeded token := by
  have hnext : b.next? = none := by simp [Scene.next?, hmail]
  rcases work_cases b with ⟨_, hquiet, _⟩ | ⟨other, rest, _, hother, hmailbox, hwork⟩ |
      ⟨_, _, _, hcall, _⟩
  · exact (hquiet token hmail).elim
  · rw [hmail, Option.some.injEq] at hother
    cases hother
    have hheeded := heeded_changed hb (hnoticed token (by rw [hmailbox]; exact .head _))
    simp only [Scene.after]
    rw [hwork]
    exact ⟨hheeded.seen, hheeded.kept⟩
  · rw [hnext] at hcall
    cases hcall

theorem Heeded.after {w : Scene} {token : Nat} (hheeded : w.session.Heeded token) (hw : w.Sound)
    (m : Move) : (w.after m).session.Heeded token := by
  obtain ⟨outcome, hseen⟩ := hheeded.seen
  refine ⟨⟨outcome, outcome?_after hw.consistent m hseen⟩, ?_⟩
  intro j running hlatest htoken hlive hfound
  simp only [outcome?, Coordinator.outcome?, Option.bind_eq_some_iff] at hseen
  obtain ⟨i, hi, hseen⟩ := hseen
  have hmem := Coordinator.mem_of_intent? hi
  have hbound := (hw.consistent.orderly.numbered.token_le hmem).2
  rw [Coordinator.token_of_intent? hi] at hbound
  have hnewest := (hw.consistent.after m).orderly.numbered.token_latest hlatest
  rcases length_intents_after hw.consistent m with hlength | ⟨_, phase, hnew⟩
  · -- the intent was the newest before
    have hlatest' : w.session.coordinator.latest? = some i := by
      apply hw.consistent.orderly.numbered.latest?_of_token hmem
      rw [Coordinator.token_of_intent? hi]
      omega
    obtain ⟨k, hk, hstep⟩ := intent?_after hw.consistent m hi
    have hj := (hw.consistent.after m).orderly.numbered.intent?_latest hlatest
    rw [htoken, hk] at hj
    cases hj
    have hsame := hstep.precedes.outcome hseen
    rw [hfound] at hsame
    cases hsame
    have hkept := hheeded.kept i running hlatest' (Coordinator.token_of_intent? hi)
      (hstep.precedes.phase ▸ hlive) hseen
    by_cases hm : m = .work
    · subst hm
      rcases cached_work hw.consistent hkept with hcached | hlonger
      · exact hcached
      · simp only [Scene.after] at hlength
        omega
    · rw [(sameBooks_after w hm).cached, hkept]
  · have hlength := Coordinator.length_supersede w.session.coordinator phase
    rw [← hnew] at hlength
    omega

/-! ## Where instances come from -/

/-- An answer that leads to what a start finds, the start being younger than
every stop that there was in an earlier scene. -/
def Fresh (b w : Scene) (reply : Reply) : Prop :=
  ∃ token i, w.session.coordinator.intent? token = some i ∧ i.phase = .live ∧
    (∀ j ∈ b.session.coordinator.intents, j.phase = .rest → j.token < token) ∧
    (reply = .change token ∨ ∃ running, reply = .ready (some running) ∧
      i.runner.outcome? = some (.ok (some running)))

theorem Fresh.after {b w : Scene} {reply : Reply} (hfresh : Fresh b w reply)
    (hw : w.session.Consistent) (m : Move) : Fresh b (w.after m) reply := by
  obtain ⟨token, i, hi, hlive, hyounger, hreply⟩ := hfresh
  obtain ⟨j, hj, hstep⟩ := intent?_after hw m hi
  refine ⟨token, j, hj, hstep.precedes.phase.trans hlive, hyounger, ?_⟩
  rcases hreply with hchange | ⟨running, hready, houtcome⟩
  · exact .inl hchange
  · exact .inr ⟨running, hready, hstep.precedes.outcome houtcome⟩

theorem fresh_work {b : Scene} (hb : b.session.Consistent) {caller : Nat} {timeout : Option Number}
    (hnext : b.next? = some (caller, .attach timeout)) :
    Fresh b (b.after .work) (b.session.serve (.attach timeout)).1 := by
  obtain ⟨i, hlatest, hlive, hyounger, hreply⟩ := latest_of_attach hb hnext
  exact ⟨i.token, i, (hb.after .work).orderly.numbered.intent?_latest hlatest, hlive, hyounger,
    hreply⟩

/-! ## Runs -/

section Runs

variable {rule : History → Scene → Move → Prop} {app : App.Id} {cluster : Cluster}
  {past : History} {w : Scene}

theorem Run.yields (hrun : Run rule (.start app cluster) past w) :
    ∀ i ∈ w.session.coordinator.intents, Yields i := by
  apply hrun.invariant_of_consistent (I := fun w =>
    ∀ i ∈ w.session.coordinator.intents, Yields i) (consistent_create app)
  · simp [Scene.start, create, Coordinator.start]
  · intro _ v m _ hv hyields
    exact forall_intents_after hv m hyields yields_create fun _ _ _ hstep => hstep.yields

theorem Run.noticed (hrun : Run rule (.start app cluster) past w) : w.session.Noticed := by
  apply hrun.invariant_of_sound (I := fun w => w.session.Noticed) (Scene.sound_start app cluster)
  · exact noticed_create app
  · intro _ v m _ hv hnoticed
    exact hnoticed.after hv m

/-- The worker heeds every notice that it takes. -/
theorem Run.heeded (hrun : Run rule (.start app cluster) past w) {b : Scene} {token : Nat}
    (hmem : (b, .work) ∈ past) (hmail : b.mail? = some (.changed token)) :
    w.session.Heeded token := by
  obtain ⟨earlier, later, _, hearlier, _, hlater⟩ := hrun.split hmem
  have hb := hearlier.sound (Scene.sound_start app cluster)
  have hbegun := heeded_work hb.consistent hearlier.noticed hmail
  apply hlater.invariant_of_sound (I := fun w => w.session.Heeded token) (hb.after .work) hbegun
  intro _ v m _ hv hheeded
  exact hheeded.after hv m

/-- Every answer to a client that attaches stays fresh. -/
theorem Run.fresh (hrun : Run rule (.start app cluster) past w) {b : Scene} {caller : Nat}
    {timeout : Option Number} (hmem : (b, .work) ∈ past)
    (hnext : b.next? = some (caller, .attach timeout)) :
    Fresh b w (b.session.serve (.attach timeout)).1 := by
  obtain ⟨earlier, later, _, hearlier, _, hlater⟩ := hrun.split hmem
  have hb := hearlier.sound (Scene.sound_start app cluster)
  apply hlater.invariant_of_consistent (I := fun w =>
    Fresh b w (b.session.serve (.attach timeout)).1) (hb.consistent.after .work)
  · exact fresh_work hb.consistent hnext
  · intro _ v m _ hv hfresh
    exact hfresh.after hv m

end Runs

/-- In every run: an instance is kept only while clients are attached, and the
newest intent is the start that has found it; once the notice of the newest
intent has been taken and the intent is a start that has ended well, what it
has found is kept; and every instance that a client gets was found by a start
that is younger than all stops requested before the client's call was taken. -/
theorem Run.instance_of_newest_start {rule : History → Scene → Move → Prop} {app : App.Id}
    {cluster : Cluster} {past : History} {w : Scene}
    (hrun : Run rule (.start app cluster) past w) :
    (∀ running, w.session.cached = some running →
      0 < w.session.count ∧ ∃ i, w.session.coordinator.latest? = some i ∧ i.phase = .live ∧
        i.runner.outcome? = some (.ok (some running))) ∧
    (∀ b i found, (b, .work) ∈ past → b.mail? = some (.changed i.token) →
      w.session.coordinator.latest? = some i → i.phase = .live →
      i.runner.outcome? = some (.ok found) →
      w.session.cached = found ∧ found.isSome = true) ∧
    (∀ caller c timeout found, w.session.callers[caller]? = some c →
      c.errand = .attach timeout → c.outcome? = some (.ok found) →
      ∃ b i running, (b, .work) ∈ past ∧ b.next? = some (caller, c.errand) ∧
        i ∈ w.session.coordinator.intents ∧ i.phase = .live ∧
        i.runner.outcome? = some (.ok (some running)) ∧ found = some running ∧
        ∀ j ∈ b.session.coordinator.intents, j.phase = .rest → j.token < i.token) := by
  have hw := hrun.sound (Scene.sound_start app cluster)
  have hyields := hrun.yields
  refine ⟨?_, ?_, ?_⟩
  · intro running hcached
    have hpos : 0 < w.session.count := by
      by_cases hzero : w.session.count = 0
      · rw [(hw.consistent.vacant hzero).1] at hcached
        cases hcached
      · exact Nat.pos_of_ne_zero hzero
    obtain ⟨i, hlatest, hlive, _⟩ := hw.consistent.attached hpos
    obtain ⟨j, hj, houtcome⟩ := hw.consistent.cached running hcached
    rw [hlatest, Option.some.injEq] at hj
    subst hj
    exact ⟨hpos, i, hlatest, hlive, houtcome⟩
  · intro b i found hmem hmail hlatest hlive houtcome
    have hsome := (hyields i (List.mem_of_getLast? hlatest)).result found
      (Runner.result?_of_outcome? houtcome) hlive
    obtain ⟨running, rfl⟩ := Option.isSome_iff_exists.mp hsome
    exact ⟨(hrun.heeded hmem hmail).kept i running hlatest rfl hlive houtcome, rfl⟩
  · intro caller c timeout found hc herrand houtcome
    have hover := Caller.standing_of_outcome? houtcome
    obtain ⟨b, hmem, hnext⟩ := hrun.taken hc (by simp [hover])
    rw [herrand] at hnext
    obtain ⟨d, hd, hserves⟩ := hrun.answered hmem hnext
    rw [hc, Option.some.injEq] at hd
    subst hd
    have hpromised : w.session.outcome? (b.session.serve (.attach timeout)).1 =
        some (.ok found) := by
      rcases hserves.of_over hover with hpromised | ⟨f, hf, _⟩
      · exact hpromised
      · cases hf
    obtain ⟨token, i, hi, hlive, hyounger, hreply⟩ := hrun.fresh hmem hnext
    have hintent := Coordinator.mem_of_intent? hi
    have htoken := Coordinator.token_of_intent? hi
    rcases hreply with hreply | ⟨running, hreply, hfound⟩
    · have hseen : i.runner.outcome? = some (.ok found) := by
        simpa [hreply, Session.outcome?, Coordinator.outcome?, hi] using hpromised
      have hsome := (hyields i hintent).result found (Runner.result?_of_outcome? hseen) hlive
      obtain ⟨running, rfl⟩ := Option.isSome_iff_exists.mp hsome
      exact ⟨b, i, running, hmem, herrand ▸ hnext, hintent, hlive, hseen, rfl, htoken ▸ hyounger⟩
    · simp only [hreply, Session.outcome?, Option.some.injEq, Except.ok.injEq] at hpromised
      subst hpromised
      exact ⟨b, i, running, hmem, herrand ▸ hnext, hintent, hlive, hfound, rfl,
        htoken ▸ hyounger⟩

theorem instance_of_newest_start_opening :
    ∃ running i, (Sample.scene.play Sample.opening).session.cached = some running ∧
      0 < (Sample.scene.play Sample.opening).session.count ∧
      (Sample.scene.play Sample.opening).session.coordinator.latest? = some i ∧
      i.phase = .live ∧ i.runner.outcome? = some (.ok (some running)) := by
  have hcached : (Sample.scene.play Sample.opening).session.cached.isSome = true := by
    decide +kernel
  obtain ⟨running, hrunning⟩ := Option.isSome_iff_exists.mp hcached
  have hrun := run_play Sample.scene (admits_anything [] Sample.scene Sample.opening)
  obtain ⟨hpos, i, hlatest, hlive, houtcome⟩ :=
    (Run.instance_of_newest_start hrun).1 running hrunning
  exact ⟨running, i, hrunning, hpos, hlatest, hlive, houtcome⟩

end AttachGate.Session
