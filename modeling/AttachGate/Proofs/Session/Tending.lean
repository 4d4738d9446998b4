import AttachGate.Proofs.Change.Attempts
import AttachGate.Proofs.Session.Intents

/-!
# A tended cluster

A session works on a cluster that keeps one app.  The cluster gives every object
that it accepts a version that none had before, and whoever else changes the
object leaves the wanted phase alone.  What an intent has read then either is
still the stored object as far as the wanted phase goes, and that is another one
than the intent's, or has a version that is stored no more.
-/

namespace AttachGate

/-- A cluster that keeps one app, and in which nobody else's write comes first. -/
structure Cluster.Keeps (c : Cluster) (id : App.Id) (o : Members) : Prop where
  single : c.apps = [(id, o)]
  calm : c.conflicts = 0

namespace Session

def versions (past : History) (w : Scene) : List Value :=
  (past.map Prod.fst ++ [w]).flatMap fun v => v.cluster.apps.map fun entry =>
    Cluster.version entry.2

/-- The versions of a cluster are none of those that there have been. -/
def Unused (past : History) (w : Scene) (c : Cluster) : Prop :=
  ∀ x ∈ versions past w, ∀ entry ∈ c.apps, x.equal (Cluster.version entry.2) = false

instance (past : History) (w : Scene) (c : Cluster) : Decidable (Unused past w c) :=
  inferInstanceAs (Decidable (∀ x ∈ versions past w, ∀ entry ∈ c.apps,
    x.equal (Cluster.version entry.2) = false))

/-- The rule of a tended cluster: an accepted write brings an unused version, no
remote call fails otherwise, and others may change anything but the wanted
phase. -/
def Tended (id : App.Id) (past : History) (w : Scene) : Move → Prop
  | .run token =>
    (w.after (.run token)).cluster.flips.length = w.cluster.flips.length ∨
      Unused past w (w.after (.run token)).cluster
  | .elsewhere c => ∃ o o', w.cluster.apps = [(id, o)] ∧ c.Keeps id o' ∧
    Cluster.wantedPhase o' = Cluster.wantedPhase o ∧ c.flips.length = w.cluster.flips.length ∧
    (o' = o ∨ Unused past w c)
  | .fail _ _ => False
  | _ => True

def Writing (i : Intent Change.Job (Option App.Instance)) (object : Members) : Prop :=
  ∃ job, i.runner = .working job ∧ job.stage.ask = .write object

/-- A move of an intent's runner with which its write is accepted. -/
def Lands (v : Scene) (token : Nat) : Prop :=
  v.cluster.flips.length < (v.after (.run token)).cluster.flips.length

def PastFlip (v : Scene) (token : Nat) : Prop :=
  ∃ i, v.session.coordinator.intent? token = some i ∧ i.runner ≠ .created ∧
    ∀ job, i.runner = .working job → job.stage.isPastFlip = true

variable {id : App.Id} {past : History} {v w : Scene} {m : Move} {o o' : Members} {token : Nat}
  {i j : Intent Change.Job (Option App.Instance)} {object : Members}

theorem Tended.ne_fail (hrule : Tended id past w m) : ∀ token f, m ≠ .fail token f := by
  rintro token f rfl
  exact hrule

theorem version_mem_versions (hstored : w.cluster.Keeps id o) :
    Cluster.version o ∈ versions past w := by
  simp [versions, hstored.single]

theorem versions_mono {x : Value} (hx : x ∈ versions past w) (m : Move) :
    x ∈ versions (past ++ [(w, m)]) (w.after m) := by
  simp only [versions, List.map_append, List.flatMap_append, List.mem_append] at hx ⊢
  exact .inl hx

/-! ## Moves -/

/-- The runner of an intent leaves the cluster alone, unless its write is
accepted. -/
theorem run_cases (hstored : w.cluster.Keeps id o) (token : Nat) :
    (w.after (.run token)).cluster = w.cluster ∨
    ∃ i object stored, w.session.coordinator.intent? token = some i ∧ Writing i object ∧
      (w.after (.run token)).cluster.Keeps id stored ∧
      (Cluster.version object).equal (Cluster.version o) = true ∧
      Cluster.wantedPhase stored = Cluster.wantedPhase object ∧ Lands w token ∧
      PastFlip (w.after (.run token)) token := by
  cases hi : w.session.coordinator.intent? token with
  | none => exact .inl (by simp only [Scene.after, run, hi])
  | some i =>
      cases hrunner : i.runner with
      | working job =>
          cases hgoing : job.outcome? with
          | some outcome => exact .inl (by simp only [Scene.after, run, hi, hrunner, hgoing])
          | none =>
              obtain ⟨hnext, hcluster⟩ := run_of_going w hi hrunner hgoing
              rcases Change.cluster_advance (w.session.goal i.phase) i.cancelled w.cluster job with
                hsame | ⟨object, hask, hwrite⟩
              · exact .inl (hcluster.trans hsame)
              · rw [hwrite] at hcluster
                rcases Cluster.write_cases hstored.single hstored.calm object with
                  ⟨hsame, _⟩ | ⟨stored, hsingle, hversion, hphase, hcalm, hflips, hshape⟩
                · exact .inl (hcluster.trans hsame)
                · right
                  refine ⟨i, object, stored, rfl, ⟨job, hrunner, hask⟩, ?_, hversion, hphase, ?_,
                    _, hnext, by simp, ?_⟩
                  · rw [hcluster]
                    exact ⟨hsingle, hcalm⟩
                  · simp only [Lands, hcluster, hflips]
                    omega
                  · rintro next ⟨⟩
                    exact Change.Job.isPastFlip_of_landed hask hshape
      | _ => exact .inl (by simp only [Scene.after, run, hi, hrunner])

/-- What a move makes of the cluster: it keeps the app and its wanted phase, or a
write has been accepted. -/
theorem Tended.cases (hrule : Tended id past w m) (hstored : w.cluster.Keeps id o) :
    ∃ o', (w.after m).cluster.Keeps id o' ∧
      (o' = o ∨ Unused past w (w.after m).cluster) ∧
      ((Cluster.wantedPhase o' = Cluster.wantedPhase o ∧
          (w.after m).cluster.flips.length = w.cluster.flips.length) ∨
        ∃ token i object, m = .run token ∧ w.session.coordinator.intent? token = some i ∧
          Writing i object ∧ (Cluster.version object).equal (Cluster.version o) = true ∧
          Cluster.wantedPhase o' = Cluster.wantedPhase object ∧ Lands w token ∧
          Unused past w (w.after m).cluster) := by
  have hquiet : (w.after m).cluster = w.cluster →
      ∃ o', (w.after m).cluster.Keeps id o' ∧
        (o' = o ∨ Unused past w (w.after m).cluster) ∧
        Cluster.wantedPhase o' = Cluster.wantedPhase o ∧
        (w.after m).cluster.flips.length = w.cluster.flips.length := by
    intro hsame
    rw [hsame]
    exact ⟨o, hstored, .inl rfl, rfl, rfl⟩
  cases m with
  | run token =>
      rcases run_cases hstored token with
        hsame | ⟨i, object, stored, hi, hwriting, hkeeps, hversion, hphase, hlands, _⟩
      · obtain ⟨o', hkeeps, hold, hwanted⟩ := hquiet hsame
        exact ⟨o', hkeeps, hold, .inl hwanted⟩
      · have hunused : Unused past w (w.after (.run token)).cluster := by
          rcases hrule with hflips | hunused
          · simp only [Lands] at hlands
            omega
          · exact hunused
        exact ⟨stored, hkeeps, .inr hunused, .inr ⟨token, i, object, rfl, hi, hwriting, hversion,
          hphase, hlands, hunused⟩⟩
  | elsewhere c =>
      obtain ⟨before, o', hbefore, hkeeps, hwanted, hflips, hold⟩ := hrule
      rw [hstored.single] at hbefore
      cases hbefore
      exact ⟨o', hkeeps, hold, .inl ⟨hwanted, hflips⟩⟩
  | fail token f => exact hrule.elim
  | _ =>
      obtain ⟨o', hkeeps, hold, hwanted⟩ := hquiet rfl
      exact ⟨o', hkeeps, hold, .inl hwanted⟩

/-! ## What intents hold -/

/-- An object that was read before a flip: it can still be written only while its
wanted phase is not the one of the flip. -/
structure Lags (past : History) (w : Scene) (phase : Phase) (object : Members) : Prop where
  known : Cluster.version object ∈ versions past w
  unwanted : ∀ entry ∈ w.cluster.apps,
    (Cluster.version object).equal (Cluster.version entry.2) = true →
      (Cluster.wantedPhase entry.2).isText phase.name = false

theorem Lags.after {phase : Phase} (hlags : Lags past w phase object)
    (hrule : Tended id past w m) (hstored : w.cluster.Keeps id o) :
    Lags (past ++ [(w, m)]) (w.after m) phase object := by
  refine ⟨versions_mono hlags.known m, ?_⟩
  intro entry hentry hequal
  obtain ⟨o', hkeeps, hold | hunused, _⟩ := hrule.cases hstored
  · rw [hkeeps.single, hold, ← hstored.single] at hentry
    exact hlags.unwanted entry hentry hequal
  · rw [hunused _ hlags.known entry hentry] at hequal
    cases hequal

theorem lags_of_read (hstored : w.cluster.Keeps id o) {phase : Phase} {app : App.Id}
    {found : App.Snapshot} (hread : w.cluster.read app = .ok found)
    (hunwanted : found.isWanted phase = false) : Lags past w phase found.object := by
  obtain ⟨hobject, htarget⟩ := Cluster.of_read hstored.single hread
  simp only [App.Snapshot.isWanted, htarget] at hunwanted
  rw [hobject]
  refine ⟨version_mem_versions hstored, ?_⟩
  intro entry hentry _
  rw [hstored.single, List.mem_singleton] at hentry
  rw [hentry]
  exact hunwanted

/-- What an intent holds lags behind, and what it writes is wanted in its phase. -/
structure Fits (past : History) (w : Scene) (i : Intent Change.Job (Option App.Instance)) :
    Prop where
  held : ∀ job object, i.runner = .working job → job.stage.held? = some object →
    Lags past w i.phase object
  write : ∀ object, Writing i object → Cluster.wantedPhase object = .text i.phase.name

theorem Fits.lags (hi : Fits past w i) (hwriting : Writing i object) :
    Lags past w i.phase object := by
  obtain ⟨job, hrunner, hask⟩ := hwriting
  exact hi.held job object hrunner (Change.Stage.held?_of_write hask)

theorem fits_of_idle (hidle : ∀ job, i.runner ≠ .working job) : Fits past w i := by
  constructor
  · intro job object hrunner
    exact (hidle job hrunner).elim
  · rintro object ⟨job, hrunner, _⟩
    exact (hidle job hrunner).elim

theorem IntentStep.fits (hstep : IntentStep w m i j) (hrule : Tended id past w m)
    (hstored : w.cluster.Keeps id o) (hi : Fits past w i) :
    Fits (past ++ [(w, m)]) (w.after m) j := by
  have hkept : Fits (past ++ [(w, m)]) (w.after m) i :=
    ⟨fun job object hrunner hheld => (hi.held job object hrunner hheld).after hrule hstored,
      hi.write⟩
  cases hstep with
  | same => exact hkept
  | calledOff => exact ⟨hkept.held, hkept.write⟩
  | begun _ hrunner =>
      have hbare := Change.Job.bare_start (w.session.goal i.phase)
      constructor
      · rintro job object ⟨⟩ hheld
        rw [hbare.held] at hheld
        cases hheld
      · rintro object ⟨job, ⟨⟩, hask⟩
        have hheld := Change.Stage.held?_of_write hask
        rw [hbare.held] at hheld
        cases hheld
  | advanced _ job hrunner _ =>
      have hstage := Change.stageStep_advance (w.session.goal i.phase) i.cancelled w.cluster job
      constructor
      · rintro next object ⟨⟩ hheld
        rcases hstage.held hheld with ⟨before, hbefore, hversion⟩ |
            ⟨found, hread, hunwanted, rfl⟩
        · have hlags := hkept.held job before hrunner hbefore
          exact ⟨hversion ▸ hlags.known, hversion ▸ hlags.unwanted⟩
        · exact (lags_of_read hstored hread hunwanted).after hrule hstored
      · rintro object ⟨next, ⟨⟩, hask⟩
        exact (hstage.write hask).2
  | failed _ job f => exact hrule.elim
  | finished => exact fits_of_idle (by simp)
  | cleared => exact fits_of_idle (by simp)
  | resolved => exact fits_of_idle (by simp)
  | notified => exact fits_of_idle (by simp)

/-- A session on a tended cluster. -/
structure Kept (id : App.Id) (past : History) (w : Scene) : Prop where
  consistent : w.session.Consistent
  stored : ∃ o, w.cluster.Keeps id o
  fits : ∀ i ∈ w.session.coordinator.intents, Fits past w i

theorem kept_start {app : App.Id} {cluster : Cluster} (hstored : cluster.Keeps id o) :
    Kept id [] (.start app cluster) :=
  ⟨consistent_create app, ⟨o, hstored⟩, by simp [Scene.start, create, Coordinator.start]⟩

theorem Kept.after (hw : Kept id past w) (hrule : Tended id past w m) :
    Kept id (past ++ [(w, m)]) (w.after m) := by
  obtain ⟨o, hstored⟩ := hw.stored
  obtain ⟨o', hkeeps, _⟩ := hrule.cases hstored
  exact ⟨hw.consistent.after m, ⟨o', hkeeps⟩, forall_intents_after
    (Q := Fits (past ++ [(w, m)]) (w.after m)) hw.consistent m hw.fits
    (fun _ _ => fits_of_idle (by simp [Intent.create]))
    fun _ _ _ hstep hi => hstep.fits hrule hstored hi⟩

theorem Run.kept {first : Scene} (hrun : Run (Tended id) first past w)
    (hfirst : Kept id [] first) : Kept id past w :=
  hrun.along hfirst fun _ _ _ hrule hw => hw.after hrule

end Session

end AttachGate
