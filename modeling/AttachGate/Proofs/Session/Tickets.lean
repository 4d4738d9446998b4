import AttachGate.Proofs.Session.Attendance

/-!
# Tickets

A call is a ticket for its caller: it says what the session is called for and
whether the worker has taken the call.  A session hands out a ticket for each
call and its worker takes them one at a time; nothing else that happens in the
session changes them.
-/

namespace AttachGate.Session

inductive Purpose
  | attach
  | detach
  deriving DecidableEq

def Errand.purpose : Errand → Purpose
  | .attach _ => .attach
  | .detach => .detach

def Caller.isTaken (c : Caller) : Bool :=
  match c.standing with
  | .posted => false
  | _ => true

theorem Caller.isTaken_eq_false {c : Caller} : c.isTaken = false ↔ c.standing = .posted := by
  unfold isTaken
  split <;> simp_all

def ticket? (s : Session) (n : Nat) : Option (Purpose × Bool) :=
  (s.callers[n]?).map fun c => (c.errand.purpose, c.isTaken)

theorem ticket?_length (s : Session) : s.ticket? s.callers.length = none := by
  simp [ticket?]

theorem ticket?_call (s : Session) (errand : Errand) (cancelled : Bool) (n : Nat) :
    (s.call errand cancelled).2.ticket? n =
      if n = s.callers.length then some (errand.purpose, false) else s.ticket? n := by
  simp only [ticket?, call, List.getElem?_append]
  by_cases hlt : n < s.callers.length
  · simp [hlt, Nat.ne_of_lt hlt]
  · by_cases hn : n = s.callers.length
    · simp [hn, Caller.isTaken]
    · have hbeyond : n - s.callers.length ≠ 0 := by omega
      simp [hlt, hn, hbeyond]

/-- Clients and runners leave all tickets as they are. -/
theorem ticket?_after {w : Scene} {m : Move} (hm : m ≠ .work)
    (hcall : ∀ errand cancelled, m ≠ .call errand cancelled) (n : Nat) :
    (w.after m).session.ticket? n = w.session.ticket? n := by
  unfold ticket?
  cases hc : w.session.callers[n]? with
  | none =>
      cases hd : (w.after m).session.callers[n]? with
      | none => rfl
      | some d =>
          obtain ⟨_, _, hmade⟩ := new_caller hm hd hc
          exact (hcall _ _ hmade).elim
  | some c =>
      obtain ⟨d, hd, hfollows⟩ := follows_after w hm hc
      have htaken : d.isTaken = c.isTaken := by
        have hposted := hfollows.posted_iff
        rw [← Caller.isTaken_eq_false, ← Caller.isTaken_eq_false] at hposted
        cases hc : c.isTaken <;> cases hd : d.isTaken <;> simp_all
      simp [hd, hfollows.errand, htaken]

/-- How many are attached once a call has been taken. -/
def Purpose.counted : Purpose → Nat → Nat
  | .attach, count => count + 1
  | .detach, count => count - 1

structure Takes (s t : Session) (n : Nat) (p : Purpose) : Prop where
  untaken : s.ticket? n = some (p, false)
  tickets : ∀ j, t.ticket? j = if j = n then some (p, true) else s.ticket? j
  count : t.count = p.counted s.count

/-- A move in which the worker takes no call takes no ticket. -/
theorem ticket?_of_untaken {w : Scene} {m : Move} (huntaken : w.taken? m = none)
    (hcall : ∀ errand cancelled, m ≠ .call errand cancelled) (n : Nat) :
    (w.after m).session.ticket? n = w.session.ticket? n := by
  by_cases hm : m = .work
  · subst hm
    rcases clients_work w with ⟨_, hcallers, _⟩ | ⟨_, c, hnext, _⟩
    · simp only [Scene.after, ticket?, hcallers]
    · rw [Scene.taken?, hnext] at huntaken
      cases huntaken
  · exact ticket?_after hm hcall n

theorem count_of_untaken {w : Scene} {m : Move} (huntaken : w.taken? m = none) :
    (w.after m).session.count = w.session.count := by
  by_cases hm : m = .work
  · subst hm
    rcases clients_work w with ⟨_, _, hcount, _⟩ | ⟨_, c, hnext, _⟩
    · exact hcount
    · rw [Scene.taken?, hnext] at huntaken
      cases huntaken
  · exact (sameBooks_after w hm).count

theorem takes_of_taken? {w : Scene} (hw : w.Sound) {m : Move} {n : Nat} {errand : Errand}
    (htaken : w.taken? m = some (n, errand)) :
    m = .work ∧ Takes w.session (w.after m).session n errand.purpose := by
  cases m with
  | work =>
      have hnext : w.next? = some (n, errand) := htaken
      rcases answersOne_work hw with ⟨hidle, _⟩ | ⟨k, c, reply, hcall, hstep, hcount⟩
      · rw [hnext] at hidle
        cases hidle
      · rw [hnext, Option.some.injEq, Prod.mk.injEq] at hcall
        obtain ⟨rfl, rfl⟩ := hcall
        refine ⟨rfl, ?_, ?_, ?_⟩
        · simp [ticket?, hstep.called, Caller.isTaken, hstep.posted]
        · intro j
          simp only [Scene.after, ticket?, hstep.callers j]
          by_cases hj : j = n <;> simp [hj, Caller.isTaken]
        · simp only [Scene.after, hcount]
          cases herrand : c.errand with
          | attach timeout => exact count_attach hw.consistent
          | detach => exact count_detach hw.consistent
  | _ => cases htaken

/-- Besides calls, a move takes one ticket or none. -/
theorem takes_after {w : Scene} (hw : w.Sound) {m : Move}
    (hcall : ∀ errand cancelled, m ≠ .call errand cancelled) :
    ((∀ n, (w.after m).session.ticket? n = w.session.ticket? n) ∧
      (w.after m).session.count = w.session.count) ∨
    m = .work ∧ ∃ n errand, w.next? = some (n, errand) ∧
      Takes w.session (w.after m).session n errand.purpose := by
  cases htaken : w.taken? m with
  | none => exact .inl ⟨ticket?_of_untaken htaken hcall, count_of_untaken htaken⟩
  | some call =>
      obtain ⟨rfl, htakes⟩ := takes_of_taken? hw htaken
      exact .inr ⟨rfl, call.1, call.2, htaken, htakes⟩

/-! ## Refusals -/

def Unrefused (s : Session) : Prop :=
  ∀ (n : Nat) (c : Caller), s.callers[n]? = some c → c.standing = .posted ∨
    ∃ reply, s.Answered n reply ∧ ∀ f, reply ≠ .refused f

theorem unrefused_create (app : App.Id) : (create app).Unrefused := by
  simp [Unrefused, create]

theorem serve_detach_ne_refused {s : Session} (hs : s.Consistent) (hcount : 0 < s.count)
    (f : Failure) : (s.serve .detach).1 ≠ .refused f := by
  rcases hs.detach_cases with ⟨hzero, _⟩ | ⟨_, hdetach⟩ | ⟨_, _, hdetach⟩
  · omega
  · simp [serve, hdetach]
  · simp [serve, hdetach]

/-- Nobody is refused as long as somebody is attached whenever a call to detach
waits to be taken. -/
theorem Unrefused.after {w : Scene} (hs : w.session.Unrefused) (hw : w.Sound) (m : Move)
    (hattached : ∀ n, w.session.ticket? n = some (.detach, false) → 0 < w.session.count) :
    (w.after m).session.Unrefused := by
  intro n d hd
  have hkeeps : (∃ reply, w.session.Answered n reply ∧ ∀ f, reply ≠ .refused f) →
      ∃ reply, (w.after m).session.Answered n reply ∧ ∀ f, reply ≠ .refused f := by
    intro hanswered
    obtain ⟨reply, hreply, hother⟩ := hanswered
    exact ⟨reply, hreply.after hw m, hother⟩
  by_cases hm : m = .work
  · subst hm
    rcases answersOne_work hw with ⟨_, hcallers, _⟩ | ⟨caller, c, reply, hnext, hstep, _⟩
    · rw [Scene.after, hcallers] at hd
      rcases hs n d hd with hposted | hanswered
      · exact .inl hposted
      · exact .inr (hkeeps hanswered)
    · have hcallers := hstep.callers n
      rw [Scene.after] at hd
      by_cases hn : n = caller
      · right
        subst hn
        refine ⟨_, answered_work hnext, ?_⟩
        cases herrand : c.errand with
        | attach timeout => exact serve_attach_ne_refused w.session timeout
        | detach =>
            apply serve_detach_ne_refused hw.consistent
            apply hattached n
            simp [ticket?, hstep.called, herrand, Errand.purpose, Caller.isTaken, hstep.posted]
      · rw [if_neg hn, hd] at hcallers
        rcases hs n d hcallers.symm with hposted | hanswered
        · exact .inl hposted
        · exact .inr (hkeeps hanswered)
  · rcases callers_before hm hd with ⟨c, hc, hfollows⟩ | ⟨_, hposted, _⟩
    · rcases hs n c hc with hposted | hanswered
      · exact .inl (hfollows.posted hposted)
      · exact .inr (hkeeps hanswered)
    · exact .inl hposted

theorem Unrefused.not_refused {s : Session} (hs : s.Unrefused) {n : Nat} {c : Caller}
    (hc : s.callers[n]? = some c) (f : Failure) : c.standing ≠ .answered (.refused f) := by
  intro hrefused
  rcases hs n c hc with hposted | ⟨reply, ⟨d, hd, hserves⟩, hother⟩
  · rw [hrefused] at hposted
    cases hposted
  · rw [hc, Option.some.injEq] at hd
    subst hd
    cases hserves with
    | answered hstanding =>
        rw [hrefused, Standing.answered.injEq] at hstanding
        exact hother f hstanding.symm
    | waiting _ hstanding => rw [hrefused] at hstanding; cases hstanding
    | doubting _ hstanding => rw [hrefused] at hstanding; cases hstanding
    | promised _ hstanding => rw [hrefused] at hstanding; cases hstanding
    | left _ hstanding => rw [hrefused] at hstanding; cases hstanding

/-- Whatever ends a call that was not refused, its client or an intent has
brought it about. -/
theorem Unrefused.cause {s : Session} (hs : s.Unrefused) {n : Nat} {c : Caller}
    (hc : s.callers[n]? = some c) {f : Failure} (hover : c.standing = .over (.error f)) :
    (∃ token, s.coordinator.outcome? token = some (.error f)) ∨ c.GivesUp s.app f := by
  rcases hs n c hc with hposted | ⟨reply, ⟨d, hd, hserves⟩, hother⟩
  · rw [hover] at hposted
    cases hposted
  · rw [hc, Option.some.injEq] at hd
    subst hd
    rcases hserves.of_over hover with hpromised | ⟨_, hsame, hgivesUp⟩
    · left
      cases reply with
      | change token => exact ⟨token, hpromised⟩
      | ready running => cases hpromised
      | refused other => exact (hother other rfl).elim
    · cases hsame
      exact .inr hgivesUp

/-! ## Intents -/

/-- A session whose worker has taken a call to attach has had an intent. -/
def Stirred (s : Session) : Prop :=
  ∀ n, s.ticket? n = some (.attach, true) → 0 < s.coordinator.intents.length

theorem stirred_create (app : App.Id) : (create app).Stirred := by
  simp [Stirred, ticket?, create]

theorem Stirred.after {w : Scene} (hs : w.session.Stirred) (hw : w.Sound) (m : Move) :
    (w.after m).session.Stirred := by
  intro n hn
  have hgrows : w.session.coordinator.intents.length ≤
      (w.after m).session.coordinator.intents.length := by
    rcases length_intents_after hw.consistent m with hsame | ⟨_, phase, hnew⟩
    · omega
    · simp [hnew]
  by_cases hcall : ∃ errand cancelled, m = .call errand cancelled
  · obtain ⟨errand, cancelled, rfl⟩ := hcall
    simp only [Scene.after, ticket?_call] at hn
    split at hn
    · simp at hn
    · exact hs n hn
  · have hother : ∀ errand cancelled, m ≠ .call errand cancelled := by
      intro errand cancelled hm
      exact hcall ⟨errand, cancelled, hm⟩
    rcases takes_after hw hother with ⟨htickets, _⟩ | ⟨_, k, errand, _, htakes⟩
    · rw [htickets] at hn
      have hbefore := hs n hn
      omega
    · rw [htakes.tickets] at hn
      split at hn
      · have hpurpose : errand.purpose = .attach := by simpa using hn
        have hcount := htakes.count
        simp only [hpurpose, Purpose.counted] at hcount
        obtain ⟨i, hlatest, _⟩ := (hw.consistent.after m).attached (by omega)
        exact List.length_pos_of_mem (List.mem_of_getLast? hlatest)
      · have hbefore := hs n hn
        omega

/-! ## Sessions of a gate -/

/-- What holds of a session whose clients detach only while they are attached. -/
structure Sane (s : Session) : Prop where
  consistent : s.Consistent
  posted : s.Posted
  unrefused : s.Unrefused
  stirred : s.Stirred

theorem sane_create (app : App.Id) : (create app).Sane :=
  ⟨consistent_create app, posted_create app, unrefused_create app, stirred_create app⟩

theorem Sane.after {w : Scene} (hs : w.session.Sane) (m : Move)
    (hattached : ∀ n, w.session.ticket? n = some (.detach, false) → 0 < w.session.count) :
    (w.after m).session.Sane := by
  have hw : w.Sound := ⟨hs.consistent, hs.posted⟩
  exact ⟨hs.consistent.after m, hs.posted.after m, hs.unrefused.after hw m hattached,
    hs.stirred.after hw m⟩

end AttachGate.Session
