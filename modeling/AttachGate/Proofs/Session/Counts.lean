import AttachGate.Proofs.Session.Omission
import AttachGate.Proofs.Session.Tickets

/-!
# The count of a session

Clients may attach and detach as they like, more often detach than attach, and go
away in between.  The count is what the worker's answers make it: one more for each
call to attach that it takes, whatever becomes of the call, and one less for each
call to detach that it does not refuse.  It refuses just the calls that would take
the count below zero, and these might as well not have been made.
-/

namespace AttachGate.Session

def isOpen (e : Scene × Move) : Bool :=
  match e.1.taken? e.2 with
  | some (_, .attach _) => true
  | _ => false

def Reply.isRefused : Reply → Bool
  | .refused _ => true
  | _ => false

/-- The worker takes a call to detach and does not refuse it. -/
def isClose (e : Scene × Move) : Bool :=
  match e.1.taken? e.2 with
  | some (_, .detach) => !(e.1.session.serve .detach).1.isRefused
  | _ => false

def takes (n : Nat) (e : Scene × Move) : Bool := (e.1.taken? e.2).map Prod.fst == some n

/-! ## The count -/

theorem Consistent.refuses_iff {s : Session} (hs : s.Consistent) :
    (s.serve .detach).1.isRefused = true ↔ s.count = 0 := by
  unfold Session.serve
  rcases hs.detach_cases with ⟨hcount, hdetach⟩ | ⟨hcount, hdetach⟩ | ⟨k, hcount, hdetach⟩ <;>
    simp [hdetach, hcount, Reply.isRefused]

/-- A move changes the count as it is a call to attach or to detach that the worker
takes. -/
theorem count_after {w : Scene} (hw : w.Sound) (m : Move) :
    (w.after m).session.count + [(w, m)].countP isClose =
      w.session.count + [(w, m)].countP isOpen := by
  cases htaken : w.taken? m with
  | none => simp [isClose, isOpen, htaken, count_of_untaken htaken]
  | some call =>
      obtain ⟨n, errand⟩ := call
      have hcount := (takes_of_taken? hw htaken).2.count
      cases errand with
      | attach timeout =>
          rw [hcount]
          simp [isClose, isOpen, htaken, Errand.purpose, Purpose.counted]
      | detach =>
          rw [hcount]
          have hrefuses := hw.consistent.refuses_iff
          cases hrefused : (w.session.serve .detach).1.isRefused with
          | true =>
              have hzero := hrefuses.mp hrefused
              simp [isClose, isOpen, htaken, hrefused, hzero, Errand.purpose, Purpose.counted]
          | false =>
              have hpos : w.session.count ≠ 0 := by
                intro hzero
                rw [hrefuses.mpr hzero] at hrefused
                cases hrefused
              simp [isClose, isOpen, htaken, hrefused, Errand.purpose, Purpose.counted]
              omega

/-! ## Each call in its turn -/

theorem takes_iff {w : Scene} {m : Move} {n : Nat} :
    takes n (w, m) = true ↔ ∃ errand, w.taken? m = some (n, errand) := by
  simp [takes, Option.map_eq_some_iff]

/-- The calls that do not wait to be taken have been taken once each. -/
def Served (past : History) (s : Session) : Prop :=
  ∀ n, past.countP (takes n) = if (s.ticket? n).any Prod.snd then 1 else 0

theorem Served.after {past : History} {w : Scene} (hserved : Served past w.session)
    (hw : w.Sound) (m : Move) : Served (past ++ [(w, m)]) (w.after m).session := by
  intro n
  rw [List.countP_append, hserved n]
  cases htaken : w.taken? m with
  | none =>
      have hsame : ((w.after m).session.ticket? n).any Prod.snd =
          (w.session.ticket? n).any Prod.snd := by
        by_cases hcall : ∃ errand cancelled, m = .call errand cancelled
        · obtain ⟨errand, cancelled, rfl⟩ := hcall
          rw [Scene.after, ticket?_call]
          split
          · rename_i hn
            rw [hn, ticket?_length]
            rfl
          · rfl
        · have hother : ∀ errand cancelled, m ≠ .call errand cancelled := by
            intro errand cancelled hm
            exact hcall ⟨errand, cancelled, hm⟩
          rw [ticket?_of_untaken htaken hother]
      simp [takes, htaken, hsame]
  | some call =>
      obtain ⟨k, errand⟩ := call
      have htakes := (takes_of_taken? hw htaken).2
      rw [htakes.tickets n]
      by_cases hn : n = k
      · subst hn
        simp [takes, htaken, htakes.untaken]
      · simp [takes, htaken, hn, Ne.symm hn]

section Run

variable {rule : History → Scene → Move → Prop} {app : App.Id} {cluster : Cluster}
  {past : History} {w : Scene} (hrun : Run rule (.start app cluster) past w)

include hrun

theorem Run.served : Served past w.session ∧
    w.session.count + past.countP isClose = past.countP isOpen := by
  have hall : w.Sound ∧ Served past w.session ∧
      w.session.count + past.countP isClose = past.countP isOpen := by
    apply hrun.along (I := fun past w => w.Sound ∧ Served past w.session ∧
      w.session.count + past.countP isClose = past.countP isOpen)
    · refine ⟨Scene.sound_start app cluster, fun n => ?_, rfl⟩
      simp [ticket?, Scene.start, create]
    · intro past w m _ hpast
      obtain ⟨hw, hserved, hcount⟩ := hpast
      refine ⟨hw.after m, hserved.after hw m, ?_⟩
      have hstep := count_after hw m
      rw [List.countP_append, List.countP_append]
      omega
  exact hall.2

/-- No call is taken twice. -/
theorem Run.taken_once {n : Nat} {e e' : Scene × Move} (he : e ∈ past) (hn : takes n e = true)
    (he' : e' ∈ past) (hn' : takes n e' = true) : e = e' := by
  have hfew : (past.filter (takes n)).length ≤ 1 := by
    rw [← List.countP_eq_length_filter, hrun.served.1 n]
    split <;> omega
  have hmem := List.mem_filter.mpr ⟨he, hn⟩
  have hmem' := List.mem_filter.mpr ⟨he', hn'⟩
  match hkept : past.filter (takes n) with
  | [] => simp [hkept] at hmem
  | [only] =>
      rw [hkept, List.mem_singleton] at hmem hmem'
      rw [hmem, hmem']
  | _ :: _ :: _ => simp [hkept] at hfew

end Run

/-! ## Refused calls -/

/-- A refused call has ended so, or does when its client goes on. -/
def Caller.Fails (c : Caller) (f : Failure) : Prop :=
  c.standing = .answered (.refused f) ∨ c.standing = .over (.error f)

/-- A call has been refused, and that is how it ends. -/
def Refused (s : Session) (n : Nat) (f : Failure) : Prop :=
  ∃ c : Caller, s.callers[n]? = some c ∧ c.Fails f

namespace Caller

variable {c : Caller} {f : Failure}

theorem Fails.not_posted (hc : c.Fails f) : c.standing ≠ .posted := by
  intro hposted
  rcases hc with hstanding | hstanding
  · rw [hposted] at hstanding
    cases hstanding
  · rw [hposted] at hstanding
    cases hstanding

theorem Fails.take (hc : c.Fails f) (clock : Number) : (c.take clock).Fails f := by
  unfold Caller.take
  rcases hc with hstanding | hstanding <;> simp [Fails, hstanding]

theorem Fails.look (hc : c.Fails f) (outcome? : Reply → Option Change.Outcome) :
    (c.look outcome?).Fails f := by
  unfold Caller.look
  rcases hc with hstanding | hstanding <;> simp [Fails, hstanding]

theorem Fails.doubt (hc : c.Fails f) (app : App.Id) (clock : Number) :
    (c.doubt app clock).Fails f := by
  unfold Caller.doubt
  rcases hc with hstanding | hstanding <;> simp [Fails, hstanding]

end Caller

theorem Refused.onCaller {s : Session} {n k : Nat} {f : Failure} {g : Caller → Caller}
    (hg : ∀ c : Caller, c.Fails f → (g c).Fails f) (hrefused : s.Refused n f) :
    (s.onCaller k g).Refused n f := by
  obtain ⟨c, hc, hfails⟩ := hrefused
  by_cases hk : k = n
  · exact ⟨g c, by simp [Session.onCaller, hk, hc], hg c hfails⟩
  · exact ⟨c, by simp [Session.onCaller, hk, hc], hfails⟩

theorem Refused.after {w : Scene} (hw : w.Sound) {n : Nat} {f : Failure}
    (hrefused : w.session.Refused n f) (m : Move) : (w.after m).session.Refused n f := by
  have hsame : (w.after m).session.callers = w.session.callers →
      (w.after m).session.Refused n f := by
    intro hcallers
    rw [Refused, hcallers]
    exact hrefused
  cases m with
  | call errand cancelled =>
      obtain ⟨c, hc, hfails⟩ := hrefused
      have hlt := (List.getElem?_eq_some_iff.mp hc).1
      exact ⟨c, by simp [Scene.after, call, List.getElem?_append_left hlt, hc], hfails⟩
  | leave k => exact hrefused.onCaller fun c hc => hc
  | take k clock => exact hrefused.onCaller fun c hc => hc.take clock
  | look k => exact hrefused.onCaller fun c hc => hc.look _
  | doubt k clock => exact hrefused.onCaller fun c hc => hc.doubt _ clock
  | work =>
      obtain ⟨c, hc, hfails⟩ := hrefused
      exact ⟨c, callers_work_of_answered hw.posted hc hfails.not_posted, hfails⟩
  | run token => exact hsame (callers_run w.session token w.cluster)
  | fail token g =>
      apply hsame
      simp only [Scene.after, fail]
      split <;> rfl
  | shutdown => exact hsame rfl
  | elsewhere other => exact hsame rfl

/-- Nothing but a refusal makes a call fail as one that is refused, unless a remote
call does. -/
theorem admits_other : Change.Admits fun _ f => f.kind ≠ .overClosed where
  own := by
    intro _ f hf hkind
    rw [hkind] at hf
    simp [Change.ownKinds] at hf
  calledOff := by
    intro f hf
    rw [hf]
    decide
  superseded := by
    intro _ _ _ _ _ _ _
    simp [Failure.kind]
  mono := fun _ => id

theorem Caller.GivesUp.kind {app : App.Id} {c : Caller} {f : Failure} (hf : c.GivesUp app f) :
    f.kind ≠ .overClosed := by
  cases hf <;> simp [Failure.kind]

section Run

variable {rule : History → Scene → Move → Prop} {app : App.Id} {cluster : Cluster}
  {past : History} {w : Scene} (hrun : Run rule (.start app cluster) past w)

include hrun

theorem Run.app_eq : w.session.app = app := by
  apply hrun.invariant (I := fun w => w.session.app = app) rfl
  intro _ v m _ hv
  exact (sameGoal_after v m).1.trans hv

theorem Run.outcome_ne_overClosed (hcluster : cluster.FailsAs fun f => f.kind ≠ .overClosed)
    (hmoves : ∀ b m, (b, m) ∈ past → m.FailsAs fun f => f.kind ≠ .overClosed) {token : Nat}
    {f : Failure} (houtcome : w.session.coordinator.outcome? token = some (.error f)) :
    f.kind ≠ .overClosed := by
  have htraced : w.session.Consistent ∧ w.cluster.FailsAs (fun f => f.kind ≠ .overClosed) ∧
      ∀ i ∈ w.session.coordinator.intents, Traced (fun _ f => f.kind ≠ .overClosed) i := by
    apply (hrun.and fun b m => hmoves b m).invariant (I := fun v => v.session.Consistent ∧
      v.cluster.FailsAs (fun f => f.kind ≠ .overClosed) ∧
      ∀ i ∈ v.session.coordinator.intents, Traced (fun _ f => f.kind ≠ .overClosed) i)
    · exact ⟨consistent_create app, hcluster, by simp [Scene.start, create, Coordinator.start]⟩
    · intro _ v m hrule hv
      obtain ⟨hconsistent, hfaults, hall⟩ := hv
      exact ⟨hconsistent.after m, hrule.2.after hfaults,
        traced_after admits_other hconsistent hfaults hrule.2 hall⟩
  simp only [Coordinator.outcome?, Option.bind_eq_some_iff] at houtcome
  obtain ⟨i, hi, hresult⟩ := houtcome
  have hintent := htraced.2.2 i (Coordinator.mem_of_intent? hi)
  exact hintent.result _ (Runner.result?_of_outcome? hresult) f rfl

theorem Run.refused {b : Scene} {n : Nat} (hmem : (b, .work) ∈ past)
    (hnext : b.next? = some (n, .detach)) (hvacant : b.session.count = 0) :
    w.session.Refused n (.overClosed app.label) := by
  obtain ⟨earlier, later, _, hearlier, _, hlater⟩ := hrun.split hmem
  have hb := hearlier.sound (Scene.sound_start app cluster)
  apply hlater.invariant_of_sound (I := fun w => w.session.Refused n (.overClosed app.label))
    (hb.after .work)
  · rcases clients_work b with ⟨hidle, _⟩ | ⟨k, c, hcall, _, hc, hcallers, _⟩
    · rw [hnext] at hidle
      cases hidle
    · rw [hnext, Option.some.injEq, Prod.mk.injEq] at hcall
      obtain ⟨rfl, herrand⟩ := hcall
      have hserve : (b.session.serve c.errand).1 = .refused (.overClosed app.label) := by
        rw [← herrand, ← hearlier.app_eq]
        simp [serve, detach, hvacant]
      refine ⟨{ c with standing := .answered (.refused (.overClosed app.label)) }, ?_, .inl rfl⟩
      simp [Scene.after, hcallers, hc, hserve]
  · intro _ v m _ hv hrefused
    exact hrefused.after hv m

/-- A call fails as one that is refused only if it was refused. -/
theorem Run.vacant_of_overClosed
    (hcluster : cluster.FailsAs fun f => f.kind ≠ .overClosed)
    (hmoves : ∀ b m, (b, m) ∈ past → m.FailsAs fun f => f.kind ≠ .overClosed) {n : Nat}
    {c : Caller} {f : Failure} (hc : w.session.callers[n]? = some c)
    (hover : c.standing = .over (.error f)) (hkind : f.kind = .overClosed) :
    ∃ b, (b, .work) ∈ past ∧ b.next? = some (n, .detach) ∧ b.session.count = 0 := by
  obtain ⟨b, hmem, hnext⟩ := hrun.taken hc (by rw [hover]; nofun)
  obtain ⟨d, hd, hserves⟩ := hrun.answered hmem hnext
  obtain rfl : c = d := Option.some.inj (hc.symm.trans hd)
  rcases hserves.of_over hover with hpromised | ⟨g, hg, hgivesUp⟩
  · have hrefused : ∃ g, (b.session.serve c.errand).1 = .refused g := by
      cases hreply : (b.session.serve c.errand).1 with
      | change token =>
          rw [hreply] at hpromised
          exact (hrun.outcome_ne_overClosed hcluster hmoves hpromised hkind).elim
      | ready running =>
          rw [hreply] at hpromised
          cases hpromised
      | refused g => exact ⟨g, rfl⟩
    obtain ⟨g, hreply⟩ := hrefused
    cases herrand : c.errand with
    | attach timeout =>
        rw [herrand] at hreply
        exact (serve_attach_ne_refused b.session timeout g hreply).elim
    | detach =>
        rw [herrand] at hreply hnext
        obtain ⟨earlier, later, _, hearlier, _⟩ := hrun.split hmem
        have hb := (hearlier.sound (Scene.sound_start app cluster)).consistent
        exact ⟨b, hmem, hnext, hb.refuses_iff.mp (by rw [hreply]; rfl)⟩
  · cases hg
    exact (hgivesUp.kind hkind).elim

end Run

/-- However clients attach and detach, the count and the calls to detach that were not
refused make up the calls to attach.  Every call is counted once, as soon as it is
taken, and nothing else changes the count, however a call ends.

A call to detach is refused just if nobody is attached when it is taken.  It fails for
that reason, as no other call does unless a remote call fails so; and at every moment
of the run all else is as if it had not been made: the run without it leads there. -/
theorem Run.count_of_calls {rule : History → Scene → Move → Prop} {app : App.Id}
    {cluster : Cluster} {past : History} {w : Scene}
    (hrun : Run rule (.start app cluster) past w) :
    w.session.count + past.countP isClose = past.countP isOpen ∧
    (∀ (n : Nat) (c : Caller), w.session.callers[n]? = some c →
      past.countP (takes n) = if c.isTaken then 1 else 0) ∧
    (∀ b m, (b, m) ∈ past → b.taken? m = none →
      (b.after m).session.count = b.session.count) ∧
    (∀ b n, (b, .work) ∈ past → b.next? = some (n, .detach) →
      ((b.session.serve .detach).1.isRefused = true ↔ b.session.count = 0) ∧
      (b.session.count = 0 →
        w.session.Refused n (.overClosed app.label) ∧
        ∀ (earlier : History) v, earlier <+: past → Run rule (.start app cluster) earlier v →
          (Scene.start app cluster).play (earlier.without n) = v.without n ∧
          ∀ k, k ≠ n →
            (v.without n).session.callers[renumber n k]? = v.session.callers[k]?)) ∧
    (cluster.FailsAs (fun f => f.kind ≠ .overClosed) →
      (∀ b m, (b, m) ∈ past → m.FailsAs fun f => f.kind ≠ .overClosed) →
      ∀ (n : Nat) (c : Caller) (f : Failure), w.session.callers[n]? = some c →
        c.standing = .over (.error f) →
        (f.kind = .overClosed ↔
          ∃ b, (b, .work) ∈ past ∧ b.next? = some (n, .detach) ∧ b.session.count = 0)) := by
  refine ⟨hrun.served.2, ?_, fun _ _ _ => count_of_untaken, ?_, ?_⟩
  · intro n c hc
    rw [hrun.served.1 n]
    simp [ticket?, hc]
  · intro b n hmem hnext
    obtain ⟨_, _, _, hearlier, _⟩ := hrun.split hmem
    have hb := hearlier.sound (Scene.sound_start app cluster)
    refine ⟨hb.consistent.refuses_iff, fun hvacant => ⟨hrun.refused hmem hnext hvacant, ?_⟩⟩
    intro earlier v hbegins hpast
    refine ⟨?_, fun k hk => getElem?_eraseIdx_renumber hk _⟩
    apply hpast.play_without
    intro b' m errand hmem' htaken
    have hsame := hrun.taken_once (hbegins.subset hmem') (takes_iff.mpr ⟨errand, htaken⟩) hmem
      (takes_iff.mpr ⟨.detach, hnext⟩)
    cases hsame
    rw [Scene.taken?, hnext] at htaken
    cases htaken
    exact ⟨rfl, hvacant⟩
  · intro hcluster hmoves n c f hc hover
    refine ⟨hrun.vacant_of_overClosed hcluster hmoves hc hover, ?_⟩
    rintro ⟨b, hmem, hnext, hvacant⟩
    obtain ⟨d, hd, hfails⟩ := hrun.refused hmem hnext hvacant
    obtain rfl : c = d := Option.some.inj (hc.symm.trans hd)
    rcases hfails with hstanding | hstanding
    · rw [hover] at hstanding
      cases hstanding
    · rw [hover] at hstanding
      cases hstanding
      rfl

namespace Sample

/-- A client detaches from a session that nobody is attached to, while another one
attaches. -/
def declined : List Move :=
  [.call .detach false, .call (.attach none) false, .work, .take 0 (.int 0), .work, .run 1]

end Sample

theorem count_of_calls_declined :
    (Sample.scene.play Sample.declined).session.count = 1 ∧
      (Sample.scene.play Sample.declined).session.Refused 0 (.overClosed Sample.app.label) ∧
      Sample.scene.play [.call (.attach none) false, .work, .run 1] =
        (Sample.scene.play Sample.declined).without 0 ∧
      ∃ b, (b, .work) ∈ Sample.scene.history Sample.declined ∧ b.next? = some (0, .detach) ∧
        b.session.count = 0 := by
  have hrun := run_play Sample.scene (admits_anything [] Sample.scene Sample.declined)
  obtain ⟨hcount, _, _, hdetach, hfails⟩ := Run.count_of_calls hrun
  have htaken : (Sample.scene.play (Sample.declined.take 2), Move.work) ∈
      Sample.scene.history Sample.declined := by
    simp [Sample.declined, Scene.history, Scene.play]
  obtain ⟨hrefused, hwithout⟩ := (hdetach _ 0 htaken rfl).2 rfl
  have hsound : ∀ f : Failure, none = some f → f.kind ≠ .overClosed := by
    intro f hf
    cases hf
  refine ⟨hcount, hrefused, (hwithout _ _ (List.prefix_refl _) hrun).1, ?_⟩
  apply (hfails ⟨hsound, hsound, hsound⟩ _ 0 _ _ rfl rfl).mp rfl
  intro b m hmem
  simp only [Sample.declined, Scene.history, List.mem_cons, List.not_mem_nil, or_false,
    Prod.mk.injEq] at hmem
  rcases hmem with ⟨_, rfl⟩ | ⟨_, rfl⟩ | ⟨_, rfl⟩ | ⟨_, rfl⟩ | ⟨_, rfl⟩ | ⟨_, rfl⟩ <;> trivial

end AttachGate.Session
