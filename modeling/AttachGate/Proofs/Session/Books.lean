import AttachGate.Proofs.Session.Run

/-!
# The books of a session

What the worker keeps fits what the coordinator knows.  While clients are
attached the newest intent is a start, which newcomers may look at; with nobody
attached it is a stop and no instance is kept.  A kept instance is what the
newest intent has yielded.

The two calls of a client are inverted once, in `Consistent.attach_cases` and
`Consistent.detach_cases`; everything else about the books follows from these.
-/

namespace AttachGate.Session

/-- What the worker keeps fits its coordinator. -/
structure Consistent (s : Session) : Prop where
  orderly : s.coordinator.Orderly
  newest : s.newest = s.coordinator.latest?.map Intent.token
  attached : 0 < s.count → ∃ i, s.coordinator.latest? = some i ∧ i.phase = .live ∧
    s.start = some i.token
  vacant : s.count = 0 → s.cached = none ∧
    ∀ i, s.coordinator.latest? = some i → i.phase = .rest
  cached : ∀ running, s.cached = some running → ∃ i, s.coordinator.latest? = some i ∧
    i.runner.outcome? = some (.ok (some running))

theorem consistent_create (app : App.Id) : (create app).Consistent where
  orderly := Coordinator.orderly_start _
  newest := rfl
  attached h := by simp [create] at h
  vacant _ := ⟨rfl, by simp [create, Coordinator.start, Coordinator.latest?]⟩
  cached _ h := by simp [create] at h

/-- Runners, clients and other users of the cluster leave the books in order. -/
theorem Consistent.of_sameBooks {s t : Session} (hs : s.Consistent) (hsame : SameBooks s t) :
    t.Consistent := by
  rcases hsame.coordinator with hcoordinator | ⟨e, he, hcoordinator⟩
  · constructor
    · rw [hcoordinator]
      exact hs.orderly
    · rw [hcoordinator, hsame.newest]
      exact hs.newest
    · rw [hcoordinator, hsame.count, hsame.start]
      exact hs.attached
    · rw [hcoordinator, hsame.count, hsame.cached]
      exact hs.vacant
    · rw [hcoordinator, hsame.cached]
      exact hs.cached
  · obtain ⟨g, hg, hlatest⟩ := s.coordinator.latest?_after_of_not_request he
    rw [← hcoordinator] at hlatest
    constructor
    · rw [hcoordinator]
      exact hs.orderly.after e
    · rw [hlatest, hsame.newest, hs.newest, Option.map_map]
      congr 1
      funext i
      exact (hg i).token.symm
    · rw [hlatest, hsame.count, hsame.start]
      intro hcount
      obtain ⟨i, hi, hphase, hstart⟩ := hs.attached hcount
      exact ⟨g i, by simp [hi], (hg i).phase.trans hphase, by rw [hstart, (hg i).token]⟩
    · rw [hlatest, hsame.count, hsame.cached]
      intro hcount
      refine ⟨(hs.vacant hcount).1, ?_⟩
      intro j hj
      obtain ⟨i, hi, rfl⟩ := Option.map_eq_some_iff.mp hj
      exact (hg i).phase.trans ((hs.vacant hcount).2 i hi)
    · rw [hlatest, hsame.cached]
      intro running hrunning
      obtain ⟨i, hi, houtcome⟩ := hs.cached running hrunning
      exact ⟨g i, by simp [hi], (hg i).outcome houtcome⟩

/-! ## Requests -/

def begun (s : Session) (phase : Phase) : Session :=
  { s with
    coordinator := (s.coordinator.supersede phase).2
    newest := some (s.coordinator.intents.length + 1) }

variable {s : Session}

theorem request_cases (horderly : s.coordinator.Orderly)
    (hnewest : s.newest = s.coordinator.latest?.map Intent.token) (phase : Phase) :
    (∃ i, s.coordinator.latest? = some i ∧ i.runner.isOutstanding = true ∧ i.phase = phase ∧
      s.request phase = (i.token, s)) ∨
    ((∀ i, s.coordinator.latest? = some i → i.runner.isOutstanding = true → i.phase ≠ phase) ∧
      s.request phase = (s.coordinator.intents.length + 1, s.begun phase)) := by
  rcases horderly.request_cases phase with ⟨i, hlatest, houtstanding, hphase, hrequest⟩ |
      ⟨hfresh, hrequest⟩
  · left
    have htoken : s.newest = some i.token := by simp [hnewest, hlatest]
    refine ⟨i, hlatest, houtstanding, hphase, ?_⟩
    simp [request, hrequest, ← htoken]
  · right
    exact ⟨hfresh, by simp [request, hrequest, begun]⟩

theorem cache_of_newest (horderly : s.coordinator.Orderly)
    (hnewest : s.newest = s.coordinator.latest?.map Intent.token)
    {i : Intent Change.Job (Option App.Instance)} (hlatest : s.coordinator.latest? = some i) :
    (∃ running, i.runner.outcome? = some (.ok (some running)) ∧
      s.cache i.token = { s with cached := some running }) ∨
    ((∀ running, i.runner.outcome? ≠ some (.ok (some running))) ∧ s.cache i.token = s) := by
  have htoken : s.newest = some i.token := by simp [hnewest, hlatest]
  have houtcome : s.coordinator.outcome? i.token = i.runner.outcome? := by
    simp [Coordinator.outcome?, horderly.numbered.intent?_latest hlatest]
  unfold cache
  rw [if_pos htoken, houtcome]
  split
  · rename_i running hrunning
    exact .inl ⟨running, hrunning, rfl⟩
  · rename_i hother
    exact .inr ⟨hother, rfl⟩

theorem cache_of_older {token : Nat} (holder : s.newest ≠ some token) : s.cache token = s := by
  simp [cache, holder]

/-! ## The calls of a client -/

theorem attach_of_attached (hcount : s.count ≠ 0) {t : Session}
    (hrefresh : ({ s with count := s.count + 1 } : Session).refresh = t) :
    s.attach = match t.cached with
      | some running => (.ready (some running), t)
      | none =>
        (.change (t.request .live).1,
          { (t.request .live).2 with start := some (t.request .live).1 }) := by
  subst hrefresh
  cases hcached : ({ s with count := s.count + 1 } : Session).refresh.cached with
  | none => simp only [attach, hcount, if_false, hcached]
  | some running => simp only [attach, hcount, if_false, hcached]

/-- A client that attaches is served by the instance that the newest intent has
yielded, by the newest intent while that is outstanding, or by a new start. -/
theorem Consistent.attach_cases (hs : s.Consistent) :
    (∃ running i, 0 < s.count ∧ s.coordinator.latest? = some i ∧ i.phase = .live ∧
      i.runner.outcome? = some (.ok (some running)) ∧
      s.attach = (.ready (some running), { s with count := s.count + 1, cached := some running })) ∨
    (∃ i, 0 < s.count ∧ s.coordinator.latest? = some i ∧ i.phase = .live ∧
      i.runner.isOutstanding = true ∧ s.cached = none ∧
      s.attach = (.change i.token, { s with count := s.count + 1 })) ∨
    ((∀ i, 0 < s.count → s.coordinator.latest? = some i →
        i.runner.isOutstanding = false ∧
          ∀ running, i.runner.outcome? ≠ some (.ok (some running))) ∧
      s.cached = none ∧
      s.attach = (.change (s.coordinator.intents.length + 1),
        { s.begun .live with
          count := s.count + 1
          start := some (s.coordinator.intents.length + 1) })) := by
  by_cases hcount : s.count = 0
  · have hvacant := hs.vacant hcount
    right; right
    refine ⟨fun i hpos => by omega, hvacant.1, ?_⟩
    rcases request_cases (s := { s with count := s.count + 1 }) hs.orderly hs.newest .live with
      ⟨i, hlatest, _, hphase, _⟩ | ⟨_, hrequest⟩
    · have hrest := hvacant.2 i hlatest
      rw [hphase] at hrest
      cases hrest
    · simp only [attach, hcount, if_true] at hrequest ⊢
      rw [hrequest]
      rfl
  · have hpos : 0 < s.count := Nat.pos_of_ne_zero hcount
    obtain ⟨i, hlatest, hphase, hstart⟩ := hs.attached hpos
    cases hcached : s.cached with
    | some running =>
        obtain ⟨j, hj, houtcome⟩ := hs.cached running hcached
        have hsame : i = j := Option.some.inj (hlatest.symm.trans hj)
        have hkept : ({ s with count := s.count + 1, cached := some running } : Session) =
            { s with count := s.count + 1 } := by rw [← hcached]
        left
        refine ⟨running, i, hpos, hlatest, hphase, hsame ▸ houtcome, ?_⟩
        rw [attach_of_attached (t := { s with count := s.count + 1 }) hcount
          (by simp [refresh, hcached]), hkept]
        simp only [hcached]
    | none =>
        have hrefresh : ({ s with count := s.count + 1 } : Session).refresh =
            ({ s with count := s.count + 1 } : Session).cache i.token := by
          simp only [refresh, hcached, hstart]
        rcases cache_of_newest (s := { s with count := s.count + 1 }) hs.orderly hs.newest hlatest
          with ⟨running, houtcome, hcache⟩ | ⟨hunseen, hcache⟩
        · left
          exact ⟨running, i, hpos, hlatest, hphase, houtcome,
            attach_of_attached hcount (hrefresh.trans hcache)⟩
        · right
          have hattach := attach_of_attached hcount (hrefresh.trans hcache)
          simp only [hcached] at hattach
          rcases request_cases (s := { s with count := s.count + 1 }) hs.orderly hs.newest .live
            with ⟨j, hj, houtstanding, _, hrequest⟩ | ⟨hfresh, hrequest⟩
          · left
            have hsame : i = j := Option.some.inj (hlatest.symm.trans hj)
            subst hsame
            refine ⟨i, hpos, hlatest, hphase, houtstanding, rfl, ?_⟩
            simp only [hcached] at hrequest
            rw [hattach, hrequest, ← hstart]
          · right
            refine ⟨?_, rfl, ?_⟩
            · intro j _ hj
              have hsame : i = j := Option.some.inj (hlatest.symm.trans hj)
              subst hsame
              have hdone : ¬ i.runner.isOutstanding = true := fun houtstanding =>
                hfresh i hlatest houtstanding hphase
              exact ⟨by simpa using hdone, hunseen⟩
            · simp only [hcached] at hrequest
              rw [hattach, hrequest]
              simp only [begun, hcached]

/-- A client that detaches is refused if nobody is attached, and has a stop
requested if it is the last one. -/
theorem Consistent.detach_cases (hs : s.Consistent) :
    (s.count = 0 ∧ s.detach = (.refused (.overClosed s.app.label), s)) ∨
    (s.count = 1 ∧ s.detach = (.change (s.coordinator.intents.length + 1),
      { s.begun .rest with count := 0, cached := none, start := none })) ∨
    ∃ n, s.count = n + 2 ∧ s.detach = (.ready none, { s with count := n + 1 }) := by
  match hcount : s.count with
  | 0 => exact .inl ⟨rfl, by simp [detach, hcount]⟩
  | 1 =>
      right; left
      refine ⟨rfl, ?_⟩
      obtain ⟨j, hj, hlive, _⟩ := hs.attached (by omega)
      rcases request_cases (s := { s with count := 0, cached := none, start := none })
          hs.orderly hs.newest .rest with ⟨i, hlatest, _, hphase, _⟩ | ⟨_, hrequest⟩
      · have hsame : j = i := Option.some.inj (hj.symm.trans hlatest)
        rw [hsame, hphase] at hlive
        cases hlive
      · simp only [detach, hcount]
        rw [hrequest]
        rfl
  | n + 2 => exact .inr (.inr ⟨n, rfl, by simp [detach, hcount]⟩)

theorem count_attach (hs : s.Consistent) : s.attach.2.count = s.count + 1 := by
  rcases hs.attach_cases with ⟨_, _, _, _, _, _, hattach⟩ | ⟨_, _, _, _, _, _, hattach⟩ |
      ⟨_, _, hattach⟩ <;> rw [hattach]

theorem count_detach (hs : s.Consistent) : s.detach.2.count = s.count - 1 := by
  rcases hs.detach_cases with ⟨hcount, hdetach⟩ | ⟨hcount, hdetach⟩ | ⟨n, hcount, hdetach⟩
  · rw [hdetach, hcount]
  · rw [hdetach, hcount]
  · rw [hdetach]
    simp only
    omega

/-- A notice matters only if it is of the newest intent, a start that has
yielded an instance, and none is kept. -/
theorem Consistent.changed_cases (hs : s.Consistent) (token : Nat) :
    (s.changed token = s ∧ ∀ i, s.coordinator.latest? = some i → i.token = token →
        i.phase = .live → s.cached = none →
          ∀ running, i.runner.outcome? ≠ some (.ok (some running))) ∨
    ∃ i running, 0 < s.count ∧ s.coordinator.latest? = some i ∧ i.token = token ∧
      i.phase = .live ∧ i.runner.outcome? = some (.ok (some running)) ∧
      s.changed token = { s with cached := some running } := by
  cases hintent : s.coordinator.intent? token with
  | none =>
      left
      refine ⟨by simp [changed, hintent], ?_⟩
      rintro i hlatest rfl
      rw [hs.orderly.numbered.intent?_latest hlatest] at hintent
      cases hintent
  | some j =>
      have htoken := Coordinator.token_of_intent? hintent
      by_cases hguard : j.phase = .live ∧ 0 < s.count ∧ s.cached = none
      · obtain ⟨hphase, hpos, hcached⟩ := hguard
        have hchanged : s.changed token = s.cache token := by
          simp [changed, hintent, hphase, hpos, hcached]
        rw [hchanged]
        by_cases hnewest : s.newest = some token
        · obtain ⟨i, hlatest, _, _⟩ := hs.attached hpos
          have hsame : i.token = token := by simpa [hs.newest, hlatest] using hnewest
          subst hsame
          have hij : i = j := by
            rw [hs.orderly.numbered.intent?_latest hlatest] at hintent
            exact Option.some.inj hintent
          subst hij
          rcases cache_of_newest hs.orderly hs.newest hlatest with
            ⟨running, houtcome, hcache⟩ | ⟨hunseen, hcache⟩
          · exact .inr ⟨i, running, hpos, hlatest, rfl, hphase, houtcome, hcache⟩
          · left
            refine ⟨hcache, ?_⟩
            intro k hk _ _ _
            rw [hlatest] at hk
            cases hk
            exact hunseen
        · left
          refine ⟨cache_of_older hnewest, ?_⟩
          rintro i hlatest rfl
          exact (hnewest (by simp [hs.newest, hlatest])).elim
      · left
        constructor
        · simp only [changed, hintent]
          split
          · rename_i hboth
            simp only [Bool.and_eq_true, decide_eq_true_eq, Option.isNone_iff_eq_none] at hboth
            exact (hguard ⟨hboth.1.1, hboth.1.2, hboth.2⟩).elim
          · rfl
        · rintro i hlatest rfl hphase hcached
          have hpos : 0 < s.count := by
            by_cases hzero : s.count = 0
            · rw [(hs.vacant hzero).2 i hlatest] at hphase
              cases hphase
            · exact Nat.pos_of_ne_zero hzero
          rw [hs.orderly.numbered.intent?_latest hlatest] at hintent
          cases hintent
          exact (hguard ⟨hphase, hpos, hcached⟩).elim

/-- While the newest intent is a start it is younger than every stop. -/
theorem Consistent.token_lt_latest (hs : s.Consistent)
    {i j : Intent Change.Job (Option App.Instance)} (hlatest : s.coordinator.latest? = some i)
    (hlive : i.phase = .live) (hj : j ∈ s.coordinator.intents) (hrest : j.phase = .rest) :
    j.token < i.token := by
  have hbound := (hs.orderly.numbered.token_le hj).2
  have hnewest := hs.orderly.numbered.token_latest hlatest
  have hother : j.token ≠ s.coordinator.intents.length := by
    intro htoken
    have hsame := hs.orderly.numbered.latest?_of_token hj htoken
    rw [hlatest] at hsame
    cases hsame
    rw [hlive] at hrest
    cases hrest
  omega

/-! ## The books stay in order -/

theorem Consistent.attach (hs : s.Consistent) : s.attach.2.Consistent := by
  rcases hs.attach_cases with ⟨running, i, hpos, hlatest, hphase, houtcome, hattach⟩ |
      ⟨i, hpos, hlatest, hphase, _, hcached, hattach⟩ | ⟨_, hcached, hattach⟩
  · rw [hattach]
    refine ⟨hs.orderly, hs.newest, fun _ => hs.attached hpos, fun h => by simp at h, ?_⟩
    intro kept hkept
    cases hkept
    exact ⟨i, hlatest, houtcome⟩
  · rw [hattach]
    exact ⟨hs.orderly, hs.newest, fun _ => hs.attached hpos, fun h => by simp at h, hs.cached⟩
  · rw [hattach]
    refine ⟨hs.orderly.supersede .live, ?_, ?_, fun h => by simp at h, ?_⟩
    · simp [begun, Intent.create]
    · intro _
      exact ⟨_, Coordinator.latest?_supersede _ _, rfl, rfl⟩
    · intro kept hkept
      simp [begun, hcached] at hkept

theorem Consistent.detach (hs : s.Consistent) : s.detach.2.Consistent := by
  rcases hs.detach_cases with ⟨_, hdetach⟩ | ⟨_, hdetach⟩ | ⟨n, hcount, hdetach⟩
  · rw [hdetach]
    exact hs
  · rw [hdetach]
    refine ⟨hs.orderly.supersede .rest, ?_, fun h => by simp at h, ?_, fun kept h => by cases h⟩
    · simp [begun, Intent.create]
    · intro _
      refine ⟨rfl, ?_⟩
      intro i hi
      simp only [begun, Coordinator.latest?_supersede, Option.some.injEq] at hi
      subst hi
      rfl
  · rw [hdetach]
    have hpos : 0 < s.count := by omega
    exact ⟨hs.orderly, hs.newest, fun _ => hs.attached hpos, fun h => by simp at h, hs.cached⟩

theorem Consistent.serve (hs : s.Consistent) (errand : Errand) :
    (s.serve errand).2.Consistent := by
  cases errand with
  | attach timeout => exact hs.attach
  | detach => exact hs.detach

theorem Consistent.changed (hs : s.Consistent) (token : Nat) : (s.changed token).Consistent := by
  rcases hs.changed_cases token with ⟨hchanged, _⟩ |
      ⟨i, running, hpos, hlatest, _, _, houtcome, hchanged⟩
  · rw [hchanged]
    exact hs
  · rw [hchanged]
    refine ⟨hs.orderly, hs.newest, hs.attached, fun h => ?_, ?_⟩
    · simp only at h
      omega
    · intro kept hkept
      cases hkept
      exact ⟨i, hlatest, houtcome⟩

theorem Consistent.work {w : Scene} (hw : w.session.Consistent) : w.session.work.Consistent := by
  rcases work_cases w with ⟨_, _, _, _, _, hwork⟩ | ⟨token, _, _, _, _, hwork⟩ |
      ⟨_, c, _, _, _, _, hwork⟩
  · rw [hwork]
    exact hw.of_sameBooks ⟨rfl, rfl, rfl, rfl, rfl, rfl, .inl rfl⟩
  · rw [hwork]
    exact (hw.changed token).of_sameBooks ⟨rfl, rfl, rfl, rfl, rfl, rfl, .inl rfl⟩
  · rw [hwork]
    exact (hw.serve c.errand).of_sameBooks ⟨rfl, rfl, rfl, rfl, rfl, rfl, .inl rfl⟩

theorem Consistent.after {w : Scene} (hw : w.session.Consistent) (m : Move) :
    (w.after m).session.Consistent := by
  by_cases hm : m = .work
  · subst hm
    exact hw.work
  · exact hw.of_sameBooks (sameBooks_after w hm)

/-- What moves keep while the books are in order, runs keep. -/
theorem Run.invariant_of_consistent {rule : History → Scene → Move → Prop} {first w : Scene}
    {past : History} {I : Scene → Prop} (hrun : Run rule first past w)
    (hconsistent : first.session.Consistent) (hfirst : I first)
    (hmove : ∀ past v m, rule past v m → v.session.Consistent → I v → I (v.after m)) : I w := by
  have hboth : w.session.Consistent ∧ I w := by
    apply hrun.invariant (I := fun v => v.session.Consistent ∧ I v) ⟨hconsistent, hfirst⟩
    rintro past v m hrule ⟨hv, hkept⟩
    exact ⟨hv.after m, hmove past v m hrule hv hkept⟩
  exact hboth.2

end AttachGate.Session
