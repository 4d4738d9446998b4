import AttachGate.Proofs.Session.Tending

/-!
# The flip of the newest intent

While an intent is the newest one, all others are called off or have their work
behind them, so none of them begins a write.  One that is at a write already can
have it accepted only as long as the stored object is the one that it has read.

Once the write of the newest intent has been accepted no other write is accepted
until that intent is superseded.  If the intent skipped its write, since it
had found the app wanted in its phase already, a write that was under way by then
can still be accepted, and it is for the other phase.
-/

namespace AttachGate

def Cluster.isWanted (c : Cluster) (phase : Phase) : Bool :=
  c.apps.all fun entry => (Cluster.wantedPhase entry.2).isText phase.name

theorem Cluster.Keeps.isWanted {c : Cluster} {id : App.Id} {o : Members} (hstored : c.Keeps id o)
    (phase : Phase) : c.isWanted phase = (Cluster.wantedPhase o).isText phase.name := by
  simp [Cluster.isWanted, hstored.single]

namespace Session

/-- A move of an intent's runner with which it finds the app wanted in its phase,
so that it has nothing to write. -/
def Skips (v : Scene) (token : Nat) : Prop :=
  ∃ i job found, v.session.coordinator.intent? token = some i ∧ i.runner = .working job ∧
    job.stage.ask = .read ∧ v.cluster.read v.session.app = .ok found ∧
    found.isWanted i.phase = true

/-- A write that another intent was at in a scene has been accepted since. -/
def LandedSince (b : Scene) (since : History) (token : Nat) : Prop :=
  ∃ v i object, (v, .run i.token) ∈ since ∧ Lands v i.token ∧
    i ∈ b.session.coordinator.intents ∧ i.token ≠ token ∧ Writing i object

/-- An intent skipped its write while another one was at a write that has been
accepted since. -/
def Overtaken (past : History) (token : Nat) : Prop :=
  ∃ earlier u since, past = earlier ++ (u, .run token) :: since ∧ Skips u token ∧
    LandedSince u since token

/-- No other intent is at a write that would be accepted. -/
def Quiet (v : Scene) (token : Nat) : Prop :=
  ∀ i ∈ v.session.coordinator.intents, i.token ≠ token → ∀ object, Writing i object →
    ∀ entry ∈ v.cluster.apps,
      (Cluster.version object).equal (Cluster.version entry.2) = false

/-- Every write that another intent is at was under way in an earlier scene. -/
def Inherits (b v : Scene) (token : Nat) : Prop :=
  ∀ j ∈ v.session.coordinator.intents, j.token ≠ token → ∀ object, Writing j object →
    ∃ i ∈ b.session.coordinator.intents, i.token = j.token ∧ Writing i object

variable {id : App.Id} {past : History} {b v w : Scene} {m : Move} {o : Members} {token : Nat}
  {i j : Intent Change.Job (Option App.Instance)} {object : Members}

theorem going_of_read {job : Change.Job} (hask : job.stage.ask = .read) : job.outcome? = none := by
  unfold Change.Job.outcome?
  split
  · rename_i outcome hstage
    rw [hstage] at hask
    cases hask
  · rfl

theorem Skips.pastFlip (hskips : Skips v token) : PastFlip (v.after (.run token)) token := by
  obtain ⟨i, job, found, hi, hrunner, hask, hread, hwanted⟩ := hskips
  refine ⟨_, (run_of_going v hi hrunner (going_of_read hask)).1, by simp, ?_⟩
  rintro next ⟨⟩
  have hread : v.cluster.read (v.session.goal i.phase).app = .ok found := hread
  exact Change.Job.isPastFlip_of_skipped hask hread hwanted

theorem Skips.isWanted (hskips : Skips v token) (hstored : v.cluster.Keeps id o)
    (hi : v.session.coordinator.intent? token = some i) : v.cluster.isWanted i.phase = true := by
  obtain ⟨k, job, found, hk, _, _, hread, hwanted⟩ := hskips
  rw [hi, Option.some.injEq] at hk
  subst hk
  rw [App.Snapshot.isWanted, (Cluster.of_read hstored.single hread).2] at hwanted
  rw [hstored.isWanted, hwanted]

theorem Skips.cluster (hskips : Skips v token) : (v.after (.run token)).cluster = v.cluster := by
  obtain ⟨i, job, found, hi, hrunner, hask, _⟩ := hskips
  rw [(run_of_going v hi hrunner (going_of_read hask)).2]
  simp only [Change.Job.advance, hask]

/-! ## Superseded intents -/

/-- A superseded intent that is at a write was at it before. -/
theorem writing_before (hv : v.session.Consistent) (hm : ∀ token f, m ≠ .fail token f)
    (hj : j ∈ (v.after m).session.coordinator.intents)
    (holder : j.token < (v.after m).session.coordinator.intents.length)
    (hwriting : Writing j object) :
    ∃ i ∈ v.session.coordinator.intents, i.token = j.token ∧ Writing i object := by
  obtain ⟨next, hnext, hask⟩ := hwriting
  have hfound := (hv.after m).orderly.numbered.intent?_token hj
  rcases intent?_before hv m hfound with ⟨i, hi, hstep⟩ | ⟨_, _, phase, hnew⟩
  · have hmem := Coordinator.mem_of_intent? hi
    cases hstep with
    | same => exact ⟨j, hmem, rfl, next, hnext, hask⟩
    | calledOff => exact ⟨i, hmem, rfl, next, hnext, hask⟩
    | begun _ hrunner =>
        cases hnext
        have hheld := Change.Stage.held?_of_write hask
        rw [(Change.Job.bare_start _).held] at hheld
        cases hheld
    | advanced _ job hrunner hgoing =>
        cases hnext
        have hkept : i.cancelled = false :=
          ((Change.stageStep_advance _ i.cancelled v.cluster job).write hask).1
        have hlength : (v.after (.run i.token)).session.coordinator.intents.length =
            v.session.coordinator.intents.length := by
          rcases length_intents_after hv (.run i.token) with hsame | ⟨hwork, _⟩
          · exact hsame
          · cases hwork
        rw [hlength] at holder
        rcases hv.orderly.earlier i hmem holder with hcancelled | hresult
        · rw [hkept] at hcancelled
          cases hcancelled
        · simp [hrunner, Runner.result?] at hresult
    | failed _ job f => exact (hm _ _ rfl).elim
    | finished => cases hnext
    | cleared => cases hnext
    | resolved => cases hnext
    | notified => cases hnext
  · rw [hnew] at hnext
    cases hnext

theorem Inherits.after (hinherits : Inherits b v token) (hv : v.session.Consistent)
    (hm : ∀ token f, m ≠ .fail token f)
    (hlength : (v.after m).session.coordinator.intents.length = token) :
    Inherits b (v.after m) token := by
  intro j hj hother object hwriting
  have hbound := ((hv.after m).orderly.numbered.token_le hj).2
  obtain ⟨i, hi, htoken, hbefore⟩ := writing_before hv hm hj (by omega) hwriting
  rw [← htoken]
  exact hinherits i hi (by omega) object hbefore

/-- Nothing that has been read can be written once the version is another one. -/
theorem quiet_of_unused (hv : Kept id past v) (hrule : Tended id past v m)
    (hlength : (v.after m).session.coordinator.intents.length = token)
    (hunused : Unused past v (v.after m).cluster) : Quiet (v.after m) token := by
  intro j hj hother object hwriting entry hentry
  have hbound := ((hv.consistent.after m).orderly.numbered.token_le hj).2
  obtain ⟨i, hi, _, hbefore⟩ :=
    writing_before hv.consistent hrule.ne_fail hj (by omega) hwriting
  exact hunused _ ((hv.fits i hi).lags hbefore).known entry hentry

theorem Quiet.after (hquiet : Quiet v token) (hv : Kept id past v) (hrule : Tended id past v m)
    (hlength : (v.after m).session.coordinator.intents.length = token) :
    Quiet (v.after m) token := by
  obtain ⟨o, hstored⟩ := hv.stored
  obtain ⟨o', hkeeps, hold | hunused, _⟩ := hrule.cases hstored
  · intro j hj hother object hwriting entry hentry
    have hbound := ((hv.consistent.after m).orderly.numbered.token_le hj).2
    obtain ⟨i, hi, htoken, hbefore⟩ :=
      writing_before hv.consistent hrule.ne_fail hj (by omega) hwriting
    rw [hkeeps.single, hold, ← hstored.single] at hentry
    exact hquiet i hi (by omega) object hbefore entry hentry
  · exact quiet_of_unused hv hrule hlength hunused

/-- A write that can still be accepted is for another phase than the stored one. -/
theorem Fits.unwanted_of_version (hi : Fits past v i) (hwriting : Writing i object)
    (hstored : v.cluster.Keeps id o)
    (hversion : (Cluster.version object).equal (Cluster.version o) = true) {phase : Phase}
    (hphase : (Cluster.wantedPhase o).isText phase.name = true) :
    (Cluster.wantedPhase object).isText phase.name = false := by
  have hlags := (hi.lags hwriting).unwanted (id, o) (by simp [hstored.single]) hversion
  have hother : i.phase ≠ phase := by
    rintro rfl
    rw [hlags] at hphase
    cases hphase
  rw [hi.write object hwriting, ← Bool.not_eq_true]
  exact fun hsame => hother ((isText_name _ _).mp hsame)

/-! ## Intents behind their flips -/

theorem PastFlip.after (hpast : PastFlip v token) (hv : v.session.Consistent)
    (hm : ∀ token f, m ≠ .fail token f) : PastFlip (v.after m) token := by
  obtain ⟨i, hi, hcreated, hstage⟩ := hpast
  obtain ⟨j, hj, hstep⟩ := intent?_after hv m hi
  refine ⟨j, hj, ?_⟩
  cases hstep with
  | same => exact ⟨hcreated, hstage⟩
  | calledOff => exact ⟨hcreated, hstage⟩
  | begun _ hrunner => exact (hcreated hrunner).elim
  | advanced _ job hrunner _ =>
      refine ⟨by simp, ?_⟩
      rintro next ⟨⟩
      exact (Change.stageStep_advance _ _ _ job).pastFlip (hstage job hrunner)
  | failed _ job f => exact (hm _ _ rfl).elim
  | finished => simp
  | cleared => simp
  | resolved => simp
  | notified => simp

theorem PastFlip.not_writing (hpast : PastFlip v token)
    (hi : v.session.coordinator.intent? token = some i) : ¬ Writing i object := by
  rintro ⟨job, hrunner, hask⟩
  obtain ⟨k, hk, _, hstage⟩ := hpast
  rw [hi, Option.some.injEq] at hk
  subst hk
  have hheld := Change.Stage.held?_of_write hask
  rw [Change.Stage.held?_of_isPastFlip (hstage job hrunner)] at hheld
  cases hheld

/-- The flip of an intent is behind it, and no other intent can change what it has
left. -/
structure Settled (v : Scene) (token : Nat) : Prop where
  past : PastFlip v token
  quiet : Quiet v token

theorem Settled.after (hsettled : Settled v token) (hv : Kept id past v)
    (hrule : Tended id past v m)
    (hlength : (v.after m).session.coordinator.intents.length = token) :
    Settled (v.after m) token ∧
      (∀ phase, (v.after m).cluster.isWanted phase = v.cluster.isWanted phase) ∧
      (v.after m).cluster.flips.length = v.cluster.flips.length := by
  refine ⟨⟨hsettled.past.after hv.consistent hrule.ne_fail,
    hsettled.quiet.after hv hrule hlength⟩, ?_⟩
  obtain ⟨o, hstored⟩ := hv.stored
  obtain ⟨o', hkeeps, _, ⟨hwanted, hflips⟩ |
    ⟨other, i, object, rfl, hi, hwriting, hversion, _⟩⟩ := hrule.cases hstored
  · refine ⟨?_, hflips⟩
    intro phase
    rw [hkeeps.isWanted, hstored.isWanted, hwanted]
  · by_cases hsame : other = token
    · subst hsame
      exact (hsettled.past.not_writing hi hwriting).elim
    · have hstale := hsettled.quiet i (Coordinator.mem_of_intent? hi)
        (by rw [Coordinator.token_of_intent? hi]; exact hsame) object hwriting (id, o)
        (by simp [hstored.single])
      rw [hversion] at hstale
      cases hstale

/-! ## Flips that have gone through -/

def Flipped (i : Intent Change.Job (Option App.Instance)) : Prop :=
  (∃ job, i.runner = .working job ∧ job.stage.isFlipped = true) ∨
    ∃ found, i.runner.result? = some (.ok found)

theorem Flipped.of_result (hj : Flipped j) (hidle : ∀ job, j.runner ≠ .working job)
    (hresult : j.runner.result? = i.runner.result?) : Flipped i := by
  rcases hj with ⟨job, hjob, _⟩ | ⟨found, hfound⟩
  · exact (hidle job hjob).elim
  · exact .inr ⟨found, hresult ▸ hfound⟩

/-- A flip goes through when its write is accepted or skipped. -/
theorem IntentStep.flipped (hstep : IntentStep w m i j) (hrule : Tended id past w m)
    (hstored : w.cluster.Keeps id o) (hi : w.session.coordinator.intent? i.token = some i)
    (hj : Flipped j) :
    Flipped i ∨ m = .run i.token ∧ (Lands w i.token ∨ Skips w i.token) := by
  cases hstep with
  | same => exact .inl hj
  | calledOff => exact .inl hj
  | begun _ hrunner =>
      rcases hj with ⟨job, ⟨⟩, hflipped⟩ | ⟨found, hresult⟩
      · rw [(Change.Job.bare_start _).unflipped] at hflipped
        cases hflipped
      · cases hresult
  | advanced _ job hrunner hgoing =>
      rcases hj with ⟨next, ⟨⟩, hflipped⟩ | ⟨found, hresult⟩
      · rcases (Change.stageStep_advance _ _ _ job).flipped hflipped with
          hbefore | ⟨found, hask, hread, hwanted⟩ | ⟨found, object, hask, hwrite⟩
        · exact .inl (.inl ⟨job, hrunner, hbefore⟩)
        · exact .inr ⟨rfl, .inr ⟨i, job, found, hi, hrunner, hask, hread, hwanted⟩⟩
        · refine .inr ⟨rfl, .inl ?_⟩
          have hcluster : (w.after (.run i.token)).cluster = (w.cluster.write object).2 := by
            rw [(run_of_going w hi hrunner hgoing).2]
            simp only [Change.Job.advance, hask]
          rcases Cluster.write_cases hstored.single hstored.calm object with
            ⟨_, e, he⟩ | ⟨_, _, _, _, _, hflips, _⟩
          · rw [hwrite] at he
            cases he
          · rw [Lands, hcluster, hflips]
            omega
      · cases hresult
  | failed _ job f => exact hrule.elim
  | finished _ job outcome hrunner hover =>
      left
      rcases hj with ⟨next, hnext, _⟩ | ⟨found, hresult⟩
      · cases hnext
      · refine .inl ⟨job, hrunner, ?_⟩
        cases outcome with
        | error e => cases hresult
        | ok yielded =>
            unfold Change.Job.outcome? at hover
            split at hover
            · rename_i hstage
              cases hover
              rw [hstage]
              rfl
            · cases hover
  | cleared _ outcome hrunner => exact .inl (hj.of_result (by simp) (by rw [hrunner]; rfl))
  | resolved _ outcome hrunner => exact .inl (hj.of_result (by simp) (by rw [hrunner]; rfl))
  | notified _ outcome hrunner => exact .inl (hj.of_result (by simp) (by rw [hrunner]; rfl))

theorem Run.flipped {app : App.Id} {cluster : Cluster}
    (hrun : Run (Tended id) (.start app cluster) past w) (hstored : cluster.Keeps id o)
    (hi : i ∈ w.session.coordinator.intents) (hflipped : Flipped i) :
    ∃ u, (u, .run i.token) ∈ past ∧ (Lands u i.token ∨ Skips u i.token) := by
  induction hrun generalizing i with
  | start => simp [Scene.start, create, Coordinator.start] at hi
  | @move past v hrun m hrule ih =>
      have hv := hrun.kept (kept_start hstored)
      have hfound := (hv.consistent.after m).orderly.numbered.intent?_token hi
      rcases intent?_before hv.consistent m hfound with ⟨k, hk, hstep⟩ | ⟨_, _, phase, hnew⟩
      · have htoken : i.token = k.token := hstep.precedes.token
        obtain ⟨o', hkeeps⟩ := hv.stored
        rw [Coordinator.token_of_intent? hk |>.symm] at hk
        rw [htoken]
        rcases hstep.flipped hrule hkeeps hk hflipped with hbefore | ⟨rfl, hevent⟩
        · obtain ⟨u, hmem, hevent⟩ := ih (Coordinator.mem_of_intent? hk) hbefore
          exact ⟨u, List.mem_append_left _ hmem, hevent⟩
        · exact ⟨v, by simp, hevent⟩
      · rw [hnew] at hflipped
        rcases hflipped with ⟨job, hjob, _⟩ | ⟨found, hresult⟩
        · cases hjob
        · cases hresult

/-! ## The reign of an intent -/

section Reign

variable {earlier since : History} {u : Scene}

theorem not_lands_concat (hnone : ∀ u k, (u, .run k) ∈ since → ¬ Lands u k)
    (hflips : (v.after m).cluster.flips.length = v.cluster.flips.length) :
    ∀ u k, (u, .run k) ∈ since ++ [(v, m)] → ¬ Lands u k := by
  intro u k hmem
  rcases List.mem_append.mp hmem with hbefore | hlatest
  · exact hnone u k hbefore
  · rw [List.mem_singleton, Prod.mk.injEq] at hlatest
    obtain ⟨rfl, rfl⟩ := hlatest
    simp only [Lands, hflips]
    omega

/-- Once the write of the newest intent has been accepted, no other one is. -/
theorem Run.settled {entry : Scene × Move}
    (hrun : Run (fun since => Tended id (earlier ++ entry :: since)) u since w)
    (hu : Kept id (earlier ++ [entry]) u) (hsettled : Settled u token)
    (hfirst : u.session.coordinator.intents.length = token)
    (hlast : w.session.coordinator.intents.length = token) (phase : Phase) :
    w.cluster.isWanted phase = u.cluster.isWanted phase ∧
      ∀ v k, (v, .run k) ∈ since → ¬ Lands v k := by
  have hreign := hrun.reign hu.consistent (hlast.trans hfirst.symm)
  have hinvariant : Kept id (earlier ++ entry :: since) w ∧ Settled w token ∧
      w.cluster.isWanted phase = u.cluster.isWanted phase ∧
      ∀ v k, (v, .run k) ∈ since → ¬ Lands v k := by
    apply (hrun.and hreign).along (I := fun since v => Kept id (earlier ++ entry :: since) v ∧
      Settled v token ∧ v.cluster.isWanted phase = u.cluster.isWanted phase ∧
      ∀ v k, (v, .run k) ∈ since → ¬ Lands v k)
    · exact ⟨hu, hsettled, rfl, by simp⟩
    · rintro since v m ⟨hrule, hlength⟩ ⟨hv, hv', hwanted, hnone⟩
      obtain ⟨hnext, hkeeps, hflips⟩ := hv'.after hv hrule (hlength.trans hfirst)
      exact ⟨by simpa using hv.after hrule, hnext, (hkeeps phase).trans hwanted,
        not_lands_concat hnone hflips⟩
  exact hinvariant.2.2

/-- An intent that skipped its write is overtaken by the first write that is
accepted, and by no other. -/
theorem Run.skipped {entry : Scene × Move} {phase : Phase}
    (hrun : Run (fun since => Tended id (earlier ++ entry :: since)) u since w)
    (hu : Kept id (earlier ++ [entry]) u) (hpast : PastFlip u token)
    (hinherits : Inherits b u token) (hwanted : u.cluster.isWanted phase = true)
    (hfirst : u.session.coordinator.intents.length = token)
    (hlast : w.session.coordinator.intents.length = token) :
    w.cluster.isWanted phase = true ↔ ¬ LandedSince b since token := by
  have hreign := hrun.reign hu.consistent (hlast.trans hfirst.symm)
  have hinvariant : Kept id (earlier ++ entry :: since) w ∧ PastFlip w token ∧
      (((∀ v k, (v, .run k) ∈ since → ¬ Lands v k) ∧ w.cluster.isWanted phase = true ∧
          Inherits b w token) ∨
        (LandedSince b since token ∧ w.cluster.isWanted phase = false ∧ Quiet w token)) := by
    apply (hrun.and hreign).along (I := fun since v => Kept id (earlier ++ entry :: since) v ∧
      PastFlip v token ∧
      (((∀ u k, (u, .run k) ∈ since → ¬ Lands u k) ∧ v.cluster.isWanted phase = true ∧
          Inherits b v token) ∨
        (LandedSince b since token ∧ v.cluster.isWanted phase = false ∧ Quiet v token)))
    · exact ⟨hu, hpast, .inl ⟨by simp, hwanted, hinherits⟩⟩
    · rintro since v m ⟨hrule, hlength⟩ ⟨hv, hpassed, hstanding⟩
      have hlength := hlength.trans hfirst
      refine ⟨by simpa using hv.after hrule, hpassed.after hv.consistent hrule.ne_fail, ?_⟩
      rcases hstanding with ⟨hnone, hphase, hinherits⟩ |
          ⟨⟨other, i, object, hmem, hlands⟩, hphase, hquiet⟩
      · obtain ⟨o, hstored⟩ := hv.stored
        obtain ⟨o', hkeeps, _, ⟨hsame, hflips⟩ |
          ⟨k, i, object, rfl, hi, hwriting, hversion, hobject, hlands, hunused⟩⟩ :=
            hrule.cases hstored
        · refine .inl ⟨not_lands_concat hnone hflips, ?_,
            hinherits.after hv.consistent hrule.ne_fail hlength⟩
          rw [hkeeps.isWanted, hsame, ← hstored.isWanted, hphase]
        · right
          have htoken := Coordinator.token_of_intent? hi
          have hothers : i.token ≠ token := by
            rintro rfl
            exact hpassed.not_writing (htoken ▸ hi) hwriting
          obtain ⟨before, hbefore, hsame, hunderway⟩ :=
            hinherits i (Coordinator.mem_of_intent? hi) hothers object hwriting
          rw [← htoken, ← hsame] at hlands
          refine ⟨⟨v, before, object, by simp [hsame, htoken], hlands, hbefore,
            by rw [hsame]; exact hothers, hunderway⟩, ?_,
            quiet_of_unused hv hrule hlength hunused⟩
          rw [hkeeps.isWanted, hobject]
          exact (hv.fits i (Coordinator.mem_of_intent? hi)).unwanted_of_version hwriting hstored
            hversion (hstored.isWanted phase ▸ hphase)
      · right
        have hsettled : Settled v token := ⟨hpassed, hquiet⟩
        obtain ⟨hnext, hkeeps, _⟩ := hsettled.after hv hrule hlength
        exact ⟨⟨other, i, object, List.mem_append_left _ hmem, hlands⟩,
          (hkeeps phase).trans hphase, hnext.quiet⟩
  obtain ⟨_, _, ⟨hnone, hphase, _⟩ | ⟨hsome, hphase, _⟩⟩ := hinvariant
  · refine iff_of_true hphase ?_
    rintro ⟨v, i, object, hmem, hlands, _⟩
    exact hnone v i.token hmem hlands
  · exact iff_of_false (by simp [hphase]) (not_not_intro hsome)

/-- A move with which the newest intent has put its flip behind it. -/
structure Decided (id : App.Id) (earlier : History) (u : Scene) (since : History) (w : Scene)
    (i : Intent Change.Job (Option App.Instance)) : Prop where
  kept : Kept id earlier u
  rule : Tended id earlier u (.run i.token)
  onward : Run (fun later => Tended id (earlier ++ (u, .run i.token) :: later))
    (u.after (.run i.token)) since w
  first : (u.after (.run i.token)).session.coordinator.intents.length = i.token
  last : w.session.coordinator.intents.length = i.token
  intent : ∃ k, u.session.coordinator.intent? i.token = some k ∧ k.phase = i.phase

theorem Run.decided {app : App.Id} {cluster : Cluster}
    (hrun : Run (Tended id) (.start app cluster) past w) (hstored : cluster.Keeps id o)
    (hlatest : w.session.coordinator.latest? = some i)
    (hpast : past = earlier ++ (u, .run i.token) :: since)
    (hpassed : ∀ o, u.cluster.Keeps id o → PastFlip (u.after (.run i.token)) i.token) :
    Decided id earlier u since w i := by
  have hw := hrun.kept (kept_start hstored)
  have hlast := hw.consistent.orderly.numbered.token_latest hlatest
  have hnewest := hw.consistent.orderly.numbered.intent?_latest hlatest
  obtain ⟨hearlier, hrule, hlater⟩ := hrun.since hpast
  have hu := hearlier.kept (kept_start hstored)
  have hnext := hu.after hrule
  obtain ⟨o', hkeeps⟩ := hu.stored
  obtain ⟨j, hj, _⟩ := hpassed o' hkeeps
  have hle := hlater.length_le hnext.consistent
  have hge := (hnext.consistent.orderly.numbered.token_le (Coordinator.mem_of_intent? hj)).2
  rw [Coordinator.token_of_intent? hj] at hge
  obtain ⟨last, hfound, hprecedes⟩ := hlater.precedes hnext.consistent hj
  rw [hnewest, Option.some.injEq] at hfound
  subst hfound
  rcases intent?_before hu.consistent _ hj with ⟨k, hk, hstep⟩ | ⟨_, hwork, _⟩
  · exact ⟨hu, hrule, hlater, by omega, by omega, k, hk,
      hstep.precedes.phase.symm.trans hprecedes.phase.symm⟩
  · cases hwork

theorem Decided.settled_of_landed (hdecided : Decided id earlier u since w i)
    (hlands : Lands u i.token) :
    w.cluster.isWanted i.phase = true ∧ ∀ v k, (v, .run k) ∈ since → ¬ Lands v k := by
  obtain ⟨o', hkeeps⟩ := hdecided.kept.stored
  obtain ⟨k, hk, hphase⟩ := hdecided.intent
  rcases run_cases hkeeps i.token with
    hsame | ⟨j, object, stored, hj, hwriting, hkeeps, _, hobject, _, hpassed⟩
  · rw [Lands, hsame] at hlands
    exact (Nat.lt_irrefl _ hlands).elim
  · rw [hk, Option.some.injEq] at hj
    subst hj
    have hunused : Unused earlier u (u.after (.run i.token)).cluster := by
      rcases hdecided.rule with hflips | hunused
      · simp only [Lands] at hlands
        omega
      · exact hunused
    have hsettled : Settled (u.after (.run i.token)) i.token :=
      ⟨hpassed, quiet_of_unused hdecided.kept hdecided.rule hdecided.first hunused⟩
    have hfits := hdecided.kept.fits k (Coordinator.mem_of_intent? hk)
    have hwanted : (u.after (.run i.token)).cluster.isWanted i.phase = true := by
      rw [hkeeps.isWanted, hobject, hfits.write object hwriting, hphase]
      exact (isText_name _ _).mpr rfl
    obtain ⟨hsame, hnone⟩ := hdecided.onward.settled (hdecided.kept.after hdecided.rule) hsettled
      hdecided.first hdecided.last i.phase
    exact ⟨hsame.trans hwanted, hnone⟩

theorem Decided.wanted_of_skipped (hdecided : Decided id earlier u since w i)
    (hskips : Skips u i.token) :
    w.cluster.isWanted i.phase = true ↔ ¬ LandedSince u since i.token := by
  obtain ⟨o', hkeeps⟩ := hdecided.kept.stored
  obtain ⟨k, hk, hphase⟩ := hdecided.intent
  have hwanted : (u.after (.run i.token)).cluster.isWanted i.phase = true := by
    rw [hskips.cluster, ← hphase]
    exact hskips.isWanted hkeeps hk
  have hinherits : Inherits u (u.after (.run i.token)) i.token :=
    Inherits.after (fun j hj _ _ hwriting => ⟨j, hj, rfl, hwriting⟩) hdecided.kept.consistent
      hdecided.rule.ne_fail hdecided.first
  exact hdecided.onward.skipped (hdecided.kept.after hdecided.rule) hskips.pastFlip hinherits
    hwanted hdecided.first hdecided.last

end Reign

theorem Lands.pastFlip (hlands : Lands v token) (hstored : v.cluster.Keeps id o) :
    PastFlip (v.after (.run token)) token := by
  rcases run_cases hstored token with hsame | ⟨_, _, _, _, _, _, _, _, _, hpassed⟩
  · rw [Lands, hsame] at hlands
    exact (Nat.lt_irrefl _ hlands).elim
  · exact hpassed

/-- Let a session run on a tended cluster, and let its newest intent have ended
well; that intent is a start if clients are attached, and otherwise a stop.  The
app is wanted in its phase exactly if it has not been overtaken: it skipped its
write while another intent was at one, and that has been accepted since.  Once
its own write has been accepted no other one is. -/
theorem Run.phase_of_newest {app : App.Id} {cluster : Cluster}
    (hrun : Run (Tended id) (.start app cluster) past w) (hstored : cluster.Keeps id o)
    (happ : id.same app = true) (hlatest : w.session.coordinator.latest? = some i)
    {found : Option App.Instance} (hresult : i.runner.result? = some (.ok found)) :
    i.phase = (if w.session.count = 0 then .rest else .live) ∧
      (∃ o', w.cluster.object? app = some o' ∧
        ((Cluster.wantedPhase o').isText i.phase.name = true ↔ ¬ Overtaken past i.token)) ∧
      ∀ earlier u since, past = earlier ++ (u, .run i.token) :: since → Lands u i.token →
        ∀ v k, (v, .run k) ∈ since → ¬ Lands v k := by
  have hw := hrun.kept (kept_start hstored)
  have hlanded : ∀ earlier u since, past = earlier ++ (u, .run i.token) :: since →
      Lands u i.token →
        w.cluster.isWanted i.phase = true ∧ ∀ v k, (v, .run k) ∈ since → ¬ Lands v k := by
    intro earlier u since hpast hlands
    have hdecided := hrun.decided hstored hlatest hpast fun _ hkeeps => hlands.pastFlip hkeeps
    exact hdecided.settled_of_landed hlands
  have hskipped : ∀ earlier u since, past = earlier ++ (u, .run i.token) :: since →
      Skips u i.token →
        (w.cluster.isWanted i.phase = true ↔ ¬ LandedSince u since i.token) := by
    intro earlier u since hpast hskips
    have hdecided := hrun.decided hstored hlatest hpast fun _ _ => hskips.pastFlip
    exact hdecided.wanted_of_skipped hskips
  refine ⟨?_, ?_, fun earlier u since hpast hlands => (hlanded earlier u since hpast hlands).2⟩
  · by_cases hcount : w.session.count = 0
    · rw [if_pos hcount]
      exact (hw.consistent.vacant hcount).2 i hlatest
    · rw [if_neg hcount]
      obtain ⟨j, hj, hlive, _⟩ := hw.consistent.attached (Nat.pos_of_ne_zero hcount)
      rw [hlatest, Option.some.injEq] at hj
      exact hj ▸ hlive
  · obtain ⟨o', hkeeps⟩ := hw.stored
    refine ⟨o', Cluster.object?_of_single hkeeps.single happ, ?_⟩
    rw [← hkeeps.isWanted]
    by_cases hovertaken : Overtaken past i.token
    · obtain ⟨earlier, u, since, hpast, hskips, hsome⟩ := hovertaken
      have hiff := hskipped earlier u since hpast hskips
      constructor
      · intro hwanted
        exact (hiff.mp hwanted hsome).elim
      · intro hnot
        exact (hnot ⟨earlier, u, since, hpast, hskips, hsome⟩).elim
    · refine iff_of_true ?_ hovertaken
      obtain ⟨u, hmem, hevent⟩ := hrun.flipped hstored
        (Coordinator.mem_of_intent? (hw.consistent.orderly.numbered.intent?_latest hlatest))
        (.inr ⟨found, hresult⟩)
      obtain ⟨earlier, since, hpast⟩ := List.append_of_mem hmem
      rcases hevent with hlands | hskips
      · exact (hlanded earlier u since hpast hlands).1
      · refine (hskipped earlier u since hpast hskips).mpr ?_
        intro hsome
        exact hovertaken ⟨earlier, u, since, hpast, hskips, hsome⟩

namespace Sample

/-- A client attaches and detaches while its start is at the write.  The stop finds
the app at Rest and comes to its end, and then the write is accepted. -/
def racing : List Move :=
  [.call (.attach none) false, .work, .run 1, .run 1, .run 1, .run 1, .run 1, .call .detach false,
    .work, .run 2, .run 2, .run 2, .run 2, .run 2, .run 2, .run 2, .run 2, .run 1, .run 1, .run 1,
    .run 1, .run 1, .work, .work]

end Sample

theorem admits_racing : Admits (Tended Sample.app) [] Sample.scene Sample.racing :=
  ⟨trivial, trivial, .inl (by decide +kernel), .inl (by decide +kernel),
    .inl (by decide +kernel), .inl (by decide +kernel), .inl (by decide +kernel), trivial,
    trivial, .inl (by decide +kernel), .inl (by decide +kernel), .inl (by decide +kernel),
    .inl (by decide +kernel), .inl (by decide +kernel), .inl (by decide +kernel),
    .inl (by decide +kernel), .inl (by decide +kernel), .inr (by decide +kernel),
    .inl (by decide +kernel), .inl (by decide +kernel), .inl (by decide +kernel),
    .inl (by decide +kernel), trivial, trivial, trivial⟩

theorem phase_of_newest_racing :
    ∃ i, (Sample.scene.play Sample.racing).session.coordinator.latest? = some i ∧
      i.phase = .rest ∧ Overtaken (Sample.scene.history Sample.racing) i.token := by
  have hended : (Sample.scene.play Sample.racing).session.coordinator.latest?.any
      (fun i => i.runner.result?.any Except.isOk) = true := by decide +kernel
  have hunwanted : ((Sample.scene.play Sample.racing).cluster.object? Sample.app).all
      (fun o => !(Cluster.wantedPhase o).isText Phase.rest.name) = true := by decide +kernel
  obtain ⟨i, hlatest, hended⟩ := (Option.any_eq_true _ _).mp hended
  obtain ⟨outcome, hresult, hok⟩ := (Option.any_eq_true _ _).mp hended
  cases outcome with
  | error e => cases hok
  | ok found =>
      obtain ⟨hphase, ⟨o, ho, hiff⟩, _⟩ := Run.phase_of_newest
        (run_play Sample.scene admits_racing) ⟨rfl, rfl⟩ (by decide +kernel) hlatest hresult
      have hcount : (Sample.scene.play Sample.racing).session.count = 0 := by decide +kernel
      rw [if_pos hcount] at hphase
      rw [ho, Option.all_some, Bool.not_eq_true'] at hunwanted
      rw [hphase, hunwanted] at hiff
      refine ⟨i, hlatest, hphase, Classical.byContradiction fun hnot => ?_⟩
      cases hiff.mpr hnot

/-- A stop that has ended well need not have put the app to rest, even if all
runners have come to their end: the write of the start that it superseded can be
accepted after it. -/
theorem start_overrides_stop :
    Run (Tended Sample.app) Sample.scene (Sample.scene.history Sample.racing)
        (Sample.scene.play Sample.racing) ∧
      (Sample.scene.play Sample.racing).session.coordinator.intents.map
          (fun i => (i.phase, i.runner.progress, i.runner.result?.any Except.isOk)) =
        [(.live, 5, true), (.rest, 5, true)] ∧
      (Sample.scene.play Sample.racing).session.count = 0 ∧
      (Sample.scene.play Sample.racing).cluster.isWanted .rest = false :=
  ⟨run_play _ admits_racing, by decide +kernel⟩

end Session

end AttachGate
