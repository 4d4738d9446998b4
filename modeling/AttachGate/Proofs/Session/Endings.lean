import AttachGate.Proofs.Session.Tickets

/-!
# How calls end

Suppose that remote calls fail only as those of the control plane do, or as
something that was called off.  Then a client that attaches ends its wait with an
instance, with such a failure or because it has given up itself, and one that
detaches fails in such a way if it fails at all.
-/

namespace AttachGate

/-- A number that can be reckoned with in double precision. -/
def Number.IsReckonable (n : Number) : Prop := ∃ x, n.operand = .ok x

theorem Number.isReckonable_float (x : Binary64) : (Number.float x).IsReckonable := ⟨x, rfl⟩

theorem Number.IsReckonable.add {m n : Number} (hm : m.IsReckonable) (hn : n.IsReckonable) :
    ∃ sum, m.add n = .ok sum := by
  obtain ⟨x, hx⟩ := hm
  obtain ⟨y, hy⟩ := hn
  unfold Number.add
  split
  · exact ⟨_, rfl⟩
  · rw [hx, hy]
    exact ⟨_, rfl⟩

namespace Session

/-- A failure of the control plane or of something that was called off. -/
def IsRemote (f : Failure) : Prop := f.isIn .controlPlane = true ∨ f.isIn .cancelled = true

theorem suits_isRemote : Change.Suits fun _ => IsRemote where
  own := by
    intro _ e he
    simp only [Change.madeKinds, List.mem_cons, List.not_mem_nil, or_false] at he
    rcases he with h | h <;> exact .inl (by simp [Failure.isIn, h, Kind.isIn, Kind.family?])
  calledOff := by
    intro e he
    exact .inr (by simp [Failure.isIn, he, Kind.isIn])
  superseded := by
    intro _ e _ _ _ _ _
    exact .inr rfl
  mono := by
    intro e he
    exact he

/-! ## Promises -/

inductive Errand.Allows : Errand → Change.Outcome → Prop
  | started (timeout : Option Number) (running : App.Instance) :
    Allows (.attach timeout) (.ok (some running))
  | settled (found : Option App.Instance) : Allows .detach (.ok found)
  | failed (errand : Errand) (f : Failure) (hf : IsRemote f) : Allows errand (.error f)
  | gaveUp (timeout : Option Number) (f : Failure) (hf : f.isIn .session = true) :
    Allows (.attach timeout) (.error f)

/-- The answers that lead to no other end. -/
inductive Promises (s : Session) : Errand → Reply → Prop
  | start (timeout : Option Number) (token : Nat) (i : Intent Change.Job (Option App.Instance))
    (hi : s.coordinator.intent? token = some i) (hlive : i.phase = .live) :
    Promises s (.attach timeout) (.change token)
  | ready (timeout : Option Number) (running : App.Instance) :
    Promises s (.attach timeout) (.ready (some running))
  | stop (token : Nat) : Promises s .detach (.change token)
  | nothing (found : Option App.Instance) : Promises s .detach (.ready found)

theorem Promises.after {w : Scene} (hw : w.session.Consistent) (m : Move) {errand : Errand}
    {reply : Reply} (hpromises : Promises w.session errand reply) :
    Promises (w.after m).session errand reply := by
  cases hpromises with
  | start timeout token i hi hlive =>
      obtain ⟨j, hj, hij⟩ := intent?_after hw m hi
      exact .start timeout token j hj (hij.precedes.phase.trans hlive)
  | ready timeout running => exact .ready timeout running
  | stop token => exact .stop token
  | nothing found => exact .nothing found

theorem Promises.not_refused {s : Session} {errand : Errand} {reply : Reply}
    (hreply : Promises s errand reply) (f : Failure) : reply ≠ .refused f := by
  cases hreply <;> simp

/-- Where a call may stand that ends in no other way. -/
inductive Caller.Heads (s : Session) (c : Caller) : Prop
  | posted (hstanding : c.standing = .posted)
  | answered (reply : Reply) (hstanding : c.standing = .answered reply)
    (hreply : Promises s c.errand reply)
  | waiting (reply : Reply) (deadline : Option Number)
    (hstanding : c.standing = .waiting reply deadline) (hreply : Promises s c.errand reply)
  | doubting (reply : Reply) (deadline timeout : Option Number)
    (hstanding : c.standing = .doubting reply deadline) (herrand : c.errand = .attach timeout)
    (hreply : Promises s c.errand reply)
  | over (outcome : Change.Outcome) (hstanding : c.standing = .over outcome)
    (hend : c.errand.Allows outcome)

theorem Caller.Heads.after {w : Scene} (hw : w.session.Consistent) (m : Move) {c : Caller}
    (hc : c.Heads w.session) : c.Heads (w.after m).session := by
  cases hc with
  | posted hstanding => exact .posted hstanding
  | answered reply hstanding hreply => exact .answered reply hstanding (hreply.after hw m)
  | waiting reply deadline hstanding hreply =>
      exact .waiting reply deadline hstanding (hreply.after hw m)
  | doubting reply deadline timeout hstanding herrand hreply =>
      exact .doubting reply deadline timeout hstanding herrand (hreply.after hw m)
  | «over» outcome hstanding hend => exact .over outcome hstanding hend

def Errand.IsReckonable : Errand → Prop
  | .attach (some timeout) => timeout.IsReckonable
  | _ => True

/-- A call that may go on to an end that it may have. -/
def Caller.Proceeds (s : Session) (c : Caller) : Prop := c.errand.IsReckonable ∧ c.Heads s

/-- No change has failed in another way, no start has ended well without an
instance, and every call may go on. -/
structure Regular (s : Session) : Prop where
  traced : ∀ i ∈ s.coordinator.intents, Traced (fun _ => IsRemote) i
  yields : ∀ i ∈ s.coordinator.intents, Yields i
  proceeds : ∀ (n : Nat) (c : Caller), s.callers[n]? = some c → c.Proceeds s

theorem regular_create (app : App.Id) : (create app).Regular := by
  constructor <;> simp [create, Coordinator.start]

/-- What an answer has promised is an end that the call may have. -/
theorem Regular.allows {s : Session} (hs : s.Regular) {errand : Errand} {reply : Reply}
    (hreply : Promises s errand reply) {outcome : Change.Outcome}
    (houtcome : s.outcome? reply = some outcome) : errand.Allows outcome := by
  have hfailed : ∀ token f, s.coordinator.outcome? token = some (.error f) → IsRemote f := by
    intro token f hover
    simp only [Coordinator.outcome?, Option.bind_eq_some_iff] at hover
    obtain ⟨i, hi, hresult⟩ := hover
    have htraced := hs.traced i (Coordinator.mem_of_intent? hi)
    exact htraced.result _ (Runner.result?_of_outcome? hresult) f rfl
  cases hreply with
  | start timeout token i hi hlive =>
      cases outcome with
      | error f => exact .failed _ f (hfailed token f houtcome)
      | ok found =>
          simp only [outcome?, Coordinator.outcome?, hi, Option.bind_some] at houtcome
          have hyields := hs.yields i (Coordinator.mem_of_intent? hi)
          have hsome := hyields.result found (Runner.result?_of_outcome? houtcome) hlive
          obtain ⟨running, rfl⟩ := Option.isSome_iff_exists.mp hsome
          exact .started timeout running
  | ready timeout running =>
      cases houtcome
      exact .started timeout running
  | stop token =>
      cases outcome with
      | error f => exact .failed _ f (hfailed token f houtcome)
      | ok found => exact .settled found
  | nothing found =>
      cases houtcome
      exact .settled found

/-! ## Moves of clients -/

theorem exists_deadline {clock : Number} (hclock : clock.IsReckonable) {errand : Errand}
    (herrand : errand.IsReckonable) : ∃ d, Caller.deadline clock errand = .ok d := by
  cases errand with
  | detach => exact ⟨none, rfl⟩
  | attach timeout =>
      cases timeout with
      | none => exact ⟨none, rfl⟩
      | some timeout =>
          obtain ⟨sum, hsum⟩ := hclock.add herrand
          simp only [Caller.deadline, hsum]
          split
          · exact ⟨none, rfl⟩
          · exact ⟨some sum, rfl⟩

namespace Caller.Heads

variable {s : Session} {c : Caller} (hc : c.Heads s)

include hc

theorem leave : ({ c with cancelled := true } : Caller).Heads s := by
  cases hc with
  | posted hstanding => exact .posted hstanding
  | answered reply hstanding hreply => exact .answered reply hstanding hreply
  | waiting reply deadline hstanding hreply => exact .waiting reply deadline hstanding hreply
  | doubting reply deadline timeout hstanding herrand hreply =>
      exact .doubting reply deadline timeout hstanding herrand hreply
  | «over» outcome hstanding hend => exact .over outcome hstanding hend

/-- No client fails to reckon its deadline, and none is refused. -/
theorem take {clock : Number} (hclock : clock.IsReckonable) (herrand : c.errand.IsReckonable) :
    (c.take clock).Heads s := by
  cases hstanding : c.standing with
  | answered reply =>
      have hreply : Promises s c.errand reply := by cases hc <;> simp_all
      obtain ⟨deadline, hdeadline⟩ := exists_deadline hclock herrand
      have htaken : c.take clock = { c with standing := .waiting reply deadline } := by
        cases reply with
        | refused f => exact (hreply.not_refused f rfl).elim
        | _ => simp [Caller.take, hstanding, hdeadline]
      rw [htaken]
      exact .waiting reply deadline rfl hreply
  | _ =>
      have hsame : c.take clock = c := by simp [Caller.take, hstanding]
      rw [hsame]
      exact hc

theorem look (hs : s.Regular) : (c.look s.outcome?).Heads s := by
  cases hstanding : c.standing with
  | waiting reply deadline =>
      have hreply : Promises s c.errand reply := by cases hc <;> simp_all
      cases houtcome : s.outcome? reply with
      | some outcome =>
          exact .over outcome (by simp [Caller.look, hstanding, houtcome])
            (by simpa [Caller.look, hstanding] using hs.allows hreply houtcome)
      | none =>
          cases herrand : c.errand with
          | attach timeout =>
              exact .doubting reply deadline timeout
                (by simp [Caller.look, hstanding, houtcome, herrand])
                (by simp [Caller.look, hstanding, herrand])
                (by simpa [Caller.look, hstanding] using hreply)
          | detach =>
              exact .waiting reply deadline
                (by simp [Caller.look, hstanding, houtcome, herrand])
                (by simpa [Caller.look, hstanding] using hreply)
  | _ =>
      have hsame : c.look s.outcome? = c := by simp [Caller.look, hstanding]
      rw [hsame]
      exact hc

theorem doubt (app : App.Id) (clock : Number) : (c.doubt app clock).Heads s := by
  cases hstanding : c.standing with
  | doubting reply deadline =>
      obtain ⟨timeout, herrand, hreply⟩ : ∃ timeout, c.errand = .attach timeout ∧
          Promises s c.errand reply := by
        cases hc with
        | doubting _ _ timeout hdoubting herrand hreply =>
            rw [hstanding, Standing.doubting.injEq] at hdoubting
            exact ⟨timeout, herrand, hdoubting.1 ▸ hreply⟩
        | _ => simp_all
      have hgone : ∀ f, f.isIn .session = true → c.errand.Allows (.error f) := by
        intro f hf
        rw [herrand]
        exact .gaveUp timeout f hf
      unfold Caller.doubt
      simp only [hstanding]
      split
      · exact .over _ rfl (hgone _ rfl)
      · split
        · split
          · exact .over _ rfl (hgone _ rfl)
          · exact .waiting reply deadline rfl hreply
        · exact .waiting reply deadline rfl hreply
  | _ =>
      have hsame : c.doubt app clock = c := by simp [Caller.doubt, hstanding]
      rw [hsame]
      exact hc

end Caller.Heads

/-! ## The worker -/

/-- The worker promises nothing else, as long as nobody detaches who is not attached. -/
theorem promises_serve {w : Scene} (hw : w.session.Consistent) {n : Nat} {errand : Errand}
    (hnext : w.next? = some (n, errand)) (hattached : errand = .detach → 0 < w.session.count) :
    Promises (w.after .work).session errand (w.session.serve errand).1 := by
  cases errand with
  | attach timeout =>
      obtain ⟨i, hlatest, hlive, _, hchange | ⟨running, hready, _⟩⟩ := latest_of_attach hw hnext
      · rw [hchange]
        have hi := (hw.after .work).orderly.numbered.intent?_latest hlatest
        exact .start timeout i.token i hi hlive
      · rw [hready]
        exact .ready timeout running
  | detach =>
      have hcount := hattached rfl
      rcases hw.detach_cases with ⟨hzero, _⟩ | ⟨_, hdetach⟩ | ⟨_, _, hdetach⟩
      · omega
      · simp only [serve, hdetach]
        exact .stop _
      · simp only [serve, hdetach]
        exact .nothing none

def Move.IsReckonable : Move → Prop
  | .call errand _ => errand.IsReckonable
  | .take _ clock => clock.IsReckonable
  | _ => True

theorem getElem?_modify_cases {α : Type} {l : List α} {k n : Nat} {f : α → α} {a : α}
    (ha : (l.modify k f)[n]? = some a) : l[n]? = some a ∨ ∃ b, l[n]? = some b ∧ a = f b := by
  by_cases hk : k = n
  · subst hk
    rw [List.getElem?_modify_eq] at ha
    obtain ⟨b, hb, rfl⟩ := Option.map_eq_some_iff.mp ha
    exact .inr ⟨b, hb, rfl⟩
  · rw [List.getElem?_modify_ne _ _ hk] at ha
    exact .inl ha

section After

variable {w : Scene} (hw : w.Sound) (hs : w.session.Regular)

include hs

theorem Regular.proceeds_modify {k n : Nat} {f : Caller → Caller}
    (hf : ∀ c : Caller, c.Proceeds w.session → (f c).errand = c.errand ∧ (f c).Heads w.session)
    {d : Caller} (hd : (w.session.callers.modify k f)[n]? = some d) : d.Proceeds w.session := by
  rcases getElem?_modify_cases hd with hc | ⟨c, hc, rfl⟩
  · exact hs.proceeds n d hc
  · have hproceeds := hs.proceeds n c hc
    obtain ⟨herrand, hheads⟩ := hf c hproceeds
    exact ⟨herrand ▸ hproceeds.1, hheads⟩

/-- Clients and runners let every call go on. -/
theorem Regular.proceeds_after {m : Move} (hwork : m ≠ .work) (hm : m.IsReckonable) {n : Nat}
    {d : Caller} (hd : (w.after m).session.callers[n]? = some d) : d.Proceeds w.session := by
  cases m with
  | work => exact (hwork rfl).elim
  | call errand cancelled =>
      simp only [Scene.after, call, List.getElem?_append] at hd
      split at hd
      · exact hs.proceeds n d hd
      · rw [List.getElem?_singleton] at hd
        split at hd
        · cases hd
          exact ⟨hm, .posted rfl⟩
        · cases hd
  | leave k =>
      apply hs.proceeds_modify (f := fun c => { c with cancelled := true }) _ hd
      intro c hc
      exact ⟨rfl, hc.2.leave⟩
  | take k clock =>
      apply hs.proceeds_modify _ hd
      intro c hc
      exact ⟨(Caller.follows_take (s := w.session) clock c).errand, hc.2.take hm hc.1⟩
  | look k =>
      apply hs.proceeds_modify _ hd
      intro c hc
      exact ⟨(Caller.follows_look c).errand, hc.2.look hs⟩
  | doubt k clock =>
      apply hs.proceeds_modify _ hd
      intro c hc
      exact ⟨(Caller.follows_doubt clock c).errand, hc.2.doubt w.session.app clock⟩
  | run token =>
      rw [Scene.after, callers_run w.session token w.cluster] at hd
      exact hs.proceeds n d hd
  | fail token f =>
      have hcallers : (w.session.fail token f).callers = w.session.callers := by
        unfold fail
        split <;> rfl
      rw [Scene.after, hcallers] at hd
      exact hs.proceeds n d hd
  | shutdown => exact hs.proceeds n d hd
  | elsewhere cluster => exact hs.proceeds n d hd

include hw

theorem Regular.proceeds_work
    (hattached : ∀ n, w.session.ticket? n = some (.detach, false) → 0 < w.session.count) {n : Nat}
    {d : Caller} (hd : w.session.work.callers[n]? = some d) :
    d.Proceeds (w.after .work).session := by
  have hkept : ∀ c : Caller, c.Proceeds w.session → c.Proceeds (w.after .work).session :=
    fun c hc => ⟨hc.1, hc.2.after hw.consistent .work⟩
  rcases clients_work w with ⟨_, hcallers, _⟩ | ⟨k, c, hnext, hmailbox, hc, hcallers, _⟩
  · rw [hcallers] at hd
    exact hkept d (hs.proceeds n d hd)
  · rw [hcallers] at hd
    by_cases hk : k = n
    · subst hk
      rw [List.getElem?_modify_eq, hc] at hd
      cases hd
      refine ⟨(hs.proceeds k c hc).1, .answered _ rfl (promises_serve hw.consistent hnext ?_)⟩
      intro (herrand : c.errand = .detach)
      obtain ⟨_, hwaits, hposted⟩ := hw.posted.unanswered k (by rw [hmailbox]; exact .head _)
      rw [hc, Option.some.injEq] at hwaits
      subst hwaits
      apply hattached k
      simp [ticket?, hc, herrand, Errand.purpose, Caller.isTaken, hposted]
    · rw [List.getElem?_modify_ne _ _ hk] at hd
      exact hkept d (hs.proceeds n d hd)

/-- A session stays regular as long as remote calls fail as they may, what it is
given can be reckoned with, and nobody detaches who is not attached. -/
theorem Regular.after {m : Move} (hm : m.IsReckonable)
    (hreply : ∀ f, w.reply? m = some (.error f) → IsRemote f)
    (hattached : ∀ n, w.session.ticket? n = some (.detach, false) → 0 < w.session.count) :
    (w.after m).session.Regular := by
  constructor
  case traced => exact traced_after_of_reply suits_isRemote hw.consistent hreply hs.traced
  case yields =>
    apply forall_intents_after hw.consistent m hs.yields yields_create
    intro i j _ hstep hi
    exact hstep.yields hi
  case proceeds =>
    intro n d hd
    by_cases hwork : m = .work
    · subst hwork
      exact hs.proceeds_work hw hattached hd
    · obtain ⟨hreckonable, hheads⟩ := hs.proceeds_after hwork hm hd
      exact ⟨hreckonable, hheads.after hw.consistent m⟩

end After

theorem Regular.outcome {s : Session} (hs : s.Regular) {n : Nat} {c : Caller}
    (hc : s.callers[n]? = some c) {outcome : Change.Outcome} (hover : c.outcome? = some outcome) :
    c.errand.Allows outcome := by
  have hstanding := Caller.standing_of_outcome? hover
  cases (hs.proceeds n c hc).2 with
  | «over» other hother hend =>
      rw [hstanding, Standing.over.injEq] at hother
      exact hother ▸ hend
  | _ => simp_all

end Session

end AttachGate
