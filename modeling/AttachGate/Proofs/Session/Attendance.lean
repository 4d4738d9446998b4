import AttachGate.Proofs.Session.Answers

/-!
# Attendance

Each client attaches once and detaches once at most, after its call to attach
has been taken.  As long as all clients keep to this the count is the number of
clients that are attached, so a start is called off only when the last client
has detached: nobody else can end the start that a client waits for.
-/

namespace AttachGate.Session

/-! ## Clients -/

def Opened (s : Session) (client : Nat) : Prop :=
  ∃ c timeout, s.callers[client]? = some c ∧ c.errand = .attach timeout ∧ c.standing ≠ .posted

/-- The worker has not taken a call to detach that belongs to a client. -/
def Unclosed (own : Nat → Nat) (s : Session) (client : Nat) : Prop :=
  ∀ n d, s.callers[n]? = some d → d.errand = .detach → own n = client → d.standing = .posted

def Attached (own : Nat → Nat) (s : Session) (client : Nat) : Prop :=
  s.Opened client ∧ s.Unclosed own client

/-- A call to detach is made for a client that has been taken in, and only once
for each.  A client is known by its call to attach; `own` tells for a call to
detach whose it is. -/
def Courteous (own : Nat → Nat) : History → Scene → Move → Prop
  | _, w, .call .detach _ =>
    w.session.Opened (own w.session.callers.length) ∧
      ∀ n d, w.session.callers[n]? = some d → d.errand = .detach →
        own n ≠ own w.session.callers.length
  | _, _, _ => True

/-- The calls are those of clients that keep to the rule, and the count is the
number of them that are attached. -/
structure Attended (own : Nat → Nat) (s : Session) : Prop where
  opened : ∀ n d, s.callers[n]? = some d → d.errand = .detach → s.Opened (own n)
  once : ∀ m n c d, s.callers[m]? = some c → s.callers[n]? = some d → c.errand = .detach →
    d.errand = .detach → own m = own n → m = n
  roster : ∃ roster : List Nat, roster.Nodup ∧ roster.length = s.count ∧
    ∀ client, client ∈ roster ↔ Attached own s client

theorem attended_create (own : Nat → Nat) (app : App.Id) : (create app).Attended own where
  opened := by simp [create]
  once := by simp [create]
  roster := ⟨[], by simp [create, Attached, Opened]⟩

variable {own : Nat → Nat}

/-! ## Clients and runners -/

theorem opened_after {w : Scene} {m : Move} (hm : m ≠ .work) (client : Nat) :
    (w.after m).session.Opened client ↔ w.session.Opened client := by
  constructor
  · rintro ⟨d, timeout, hd, herrand, hanswered⟩
    rcases callers_before hm hd with ⟨c, hc, hfollows⟩ | ⟨_, hposted, _⟩
    · exact ⟨c, timeout, hc, hfollows.errand.symm.trans herrand,
        fun hposted => hanswered (hfollows.posted hposted)⟩
    · exact (hanswered hposted).elim
  · rintro ⟨c, timeout, hc, herrand, hanswered⟩
    obtain ⟨d, hd, hfollows⟩ := follows_after w hm hc
    exact ⟨d, timeout, hd, hfollows.errand.trans herrand,
      fun hposted => hanswered (hfollows.posted_iff.mpr hposted)⟩

theorem unclosed_after {w : Scene} {m : Move} (hm : m ≠ .work) (client : Nat) :
    (w.after m).session.Unclosed own client ↔ w.session.Unclosed own client := by
  constructor
  · intro hunclosed n c hc herrand hown
    obtain ⟨d, hd, hfollows⟩ := follows_after w hm hc
    exact hfollows.posted_iff.mpr (hunclosed n d hd (hfollows.errand.trans herrand) hown)
  · intro hunclosed n d hd herrand hown
    rcases callers_before hm hd with ⟨c, hc, hfollows⟩ | ⟨_, hposted, _⟩
    · exact hfollows.posted (hunclosed n c hc (hfollows.errand.symm.trans herrand) hown)
    · exact hposted

theorem Attended.of_rule {w : Scene} {m : Move} {past : History} (hw : w.session.Attended own)
    (hm : m ≠ .work) (hrule : Courteous own past w m) : (w.after m).session.Attended own := by
  have hnew : ∀ n (d : Caller), n = w.session.callers.length → d.standing = .posted →
      m = .call d.errand d.cancelled → d.errand = .detach →
        w.session.Opened (own n) ∧ ∀ k c, w.session.callers[k]? = some c →
          c.errand = .detach → own k ≠ own n := by
    intro n d hn _ hcall herrand
    rw [herrand] at hcall
    subst hcall hn
    exact hrule
  constructor
  · intro n d hd herrand
    rw [opened_after hm]
    rcases callers_before hm hd with ⟨c, hc, hfollows⟩ | ⟨hn, hposted, hcall⟩
    · exact hw.opened n c hc (hfollows.errand.symm.trans herrand)
    · exact (hnew n d hn hposted hcall herrand).1
  · intro k n c d hc hd hck hdn hown
    rcases callers_before hm hc with ⟨c', hc', hfollows⟩ | ⟨hk, hposted, hcall⟩
    · have herrand := hfollows.errand.symm.trans hck
      rcases callers_before hm hd with ⟨d', hd', hfollows'⟩ | ⟨hn, hposted', hcall'⟩
      · exact hw.once k n c' d' hc' hd' herrand (hfollows'.errand.symm.trans hdn) hown
      · exact ((hnew n d hn hposted' hcall' hdn).2 k c' hc' herrand hown).elim
    · rcases callers_before hm hd with ⟨d', hd', hfollows'⟩ | ⟨hn, _, _⟩
      · exact ((hnew k c hk hposted hcall hck).2 n d' hd' (hfollows'.errand.symm.trans hdn)
          hown.symm).elim
      · exact hk.trans hn.symm
  · obtain ⟨roster, hnodup, hlength, hmem⟩ := hw.roster
    refine ⟨roster, hnodup, by rw [hlength, (sameBooks_after w hm).count], ?_⟩
    intro client
    rw [hmem, Attached, Attached, opened_after hm, unclosed_after hm]

/-! ## The worker -/

/-- The calls of two sessions are the same but for one, which is posted in the
first and answered in the second. -/
structure AnswersOne (s t : Session) (caller : Nat) (c : Caller) (reply : Reply) : Prop where
  called : s.callers[caller]? = some c
  posted : c.standing = .posted
  callers : ∀ n, t.callers[n]? =
    if n = caller then some { c with standing := .answered reply } else s.callers[n]?

theorem answersOne_work {w : Scene} (hw : w.Sound) :
    (w.next? = none ∧ w.session.work.callers = w.session.callers ∧
      w.session.work.count = w.session.count) ∨
    ∃ caller c reply, w.next? = some (caller, c.errand) ∧
      AnswersOne w.session w.session.work caller c reply ∧
      w.session.work.count = (w.session.serve c.errand).2.count := by
  rcases clients_work w with ⟨hidle, hcallers, hcount, _⟩ |
      ⟨caller, c, hnext, hmailbox, hc, hcallers, hcount, _⟩
  · exact .inl ⟨hidle, hcallers, hcount⟩
  · right
    refine ⟨caller, c, (w.session.serve c.errand).1, hnext, ⟨hc, ?_, ?_⟩, hcount⟩
    · obtain ⟨d, hd, hposted⟩ := hw.posted.unanswered caller (by rw [hmailbox]; exact .head _)
      rw [hc] at hd
      cases hd
      exact hposted
    · intro n
      rw [hcallers]
      by_cases hn : n = caller
      · subst hn
        simp [hc]
      · simp [hn, Ne.symm hn]

theorem answersOne_of_next? {w : Scene} (hw : w.Sound) {caller : Nat} {errand : Errand}
    (hnext : w.next? = some (caller, errand)) :
    ∃ c reply, c.errand = errand ∧ AnswersOne w.session w.session.work caller c reply := by
  rcases answersOne_work hw with ⟨hidle, _⟩ | ⟨other, c, reply, hother, hstep, _⟩
  · rw [hnext] at hidle
    cases hidle
  · rw [hnext, Option.some.injEq, Prod.mk.injEq] at hother
    obtain ⟨rfl, rfl⟩ := hother
    exact ⟨c, reply, rfl, hstep⟩

namespace AnswersOne

variable {s t : Session} {caller : Nat} {c : Caller} {reply : Reply}

theorem before (hstep : AnswersOne s t caller c reply) {n : Nat} {d : Caller}
    (hd : t.callers[n]? = some d) :
    ∃ e : Caller, s.callers[n]? = some e ∧ e.errand = d.errand := by
  rw [hstep.callers n] at hd
  by_cases hn : n = caller
  · rw [if_pos hn] at hd
    cases hd
    exact ⟨c, hn ▸ hstep.called, rfl⟩
  · rw [if_neg hn] at hd
    exact ⟨d, hd, rfl⟩

theorem not_opened (hstep : AnswersOne s t caller c reply) : ¬ s.Opened caller := by
  rintro ⟨d, timeout, hd, _, hanswered⟩
  rw [hstep.called] at hd
  cases hd
  exact hanswered hstep.posted

theorem opened_iff (hstep : AnswersOne s t caller c reply) (client : Nat) :
    t.Opened client ↔ s.Opened client ∨ client = caller ∧ c.errand ≠ .detach := by
  unfold Opened
  rw [hstep.callers client]
  by_cases hsame : client = caller
  · subst hsame
    cases herrand : c.errand <;> simp [hstep.called, hstep.posted, herrand]
  · simp [hsame]

theorem unclosed_iff (hstep : AnswersOne s t caller c reply) (client : Nat) :
    t.Unclosed own client ↔
      s.Unclosed own client ∧ ¬ (c.errand = .detach ∧ own caller = client) := by
  constructor
  · intro hopen
    refine ⟨?_, ?_⟩
    · intro n d hd herrand hown
      by_cases hn : n = caller
      · subst hn
        rw [hstep.called] at hd
        cases hd
        exact hstep.posted
      · exact hopen n d (by rw [hstep.callers n, if_neg hn, hd]) herrand hown
    · rintro ⟨herrand, hown⟩
      have hanswered := hopen caller { c with standing := .answered reply }
        (by rw [hstep.callers caller, if_pos rfl]) herrand hown
      cases hanswered
  · rintro ⟨hopen, hother⟩ n d hd herrand hown
    rw [hstep.callers n] at hd
    by_cases hn : n = caller
    · rw [if_pos hn] at hd
      cases hd
      exact (hother ⟨herrand, hn ▸ hown⟩).elim
    · rw [if_neg hn] at hd
      exact hopen n d hd herrand hown

end AnswersOne

/-- A client is attached for as long as its call to detach waits. -/
theorem Attended.attached_of_posted {s : Session} (hs : s.Attended own) {n : Nat} {c : Caller}
    (hc : s.callers[n]? = some c) (herrand : c.errand = .detach) (hposted : c.standing = .posted) :
    Attached own s (own n) := by
  refine ⟨hs.opened n c hc herrand, ?_⟩
  intro m d hd hdetach hown
  have hsame := hs.once m n d c hd hc hdetach herrand hown
  subst hsame
  rw [hc] at hd
  cases hd
  exact hposted

/-- A client joins the roster when its call to attach is taken, and leaves it
when its call to detach is. -/
theorem Attended.roster_answersOne {s t : Session} {caller : Nat} {c : Caller} {reply : Reply}
    (hs : s.Attended own) (hstep : AnswersOne s t caller c reply) (hconsistent : s.Consistent)
    (hcount : t.count = (s.serve c.errand).2.count) :
    ∃ roster : List Nat, roster.Nodup ∧ roster.length = t.count ∧
      ∀ client, client ∈ roster ↔ Attached own t client := by
  obtain ⟨roster, hnodup, hlength, hmem⟩ := hs.roster
  cases herrand : c.errand with
  | attach timeout =>
      rw [herrand] at hcount
      refine ⟨caller :: roster, ?_, ?_, ?_⟩
      · rw [List.nodup_cons]
        exact ⟨fun hold => hstep.not_opened ((hmem caller).mp hold).1, hnodup⟩
      · rw [List.length_cons, hlength, hcount]
        exact (count_attach hconsistent).symm
      · intro client
        rw [List.mem_cons, hmem, Attached, Attached, hstep.opened_iff, hstep.unclosed_iff]
        simp only [herrand, reduceCtorEq, ne_eq, not_false_eq_true, and_true, false_and]
        constructor
        · rintro (rfl | ⟨hin, hopen⟩)
          · refine ⟨.inr rfl, ?_⟩
            intro n d hd hdetach hown
            exact (hstep.not_opened (hown ▸ hs.opened n d hd hdetach)).elim
          · exact ⟨.inl hin, hopen⟩
        · rintro ⟨hin | rfl, hopen⟩
          · exact .inr ⟨hin, hopen⟩
          · exact .inl rfl
  | detach =>
      rw [herrand] at hcount
      have hattached : own caller ∈ roster :=
        (hmem _).mpr (hs.attached_of_posted hstep.called herrand hstep.posted)
      refine ⟨roster.erase (own caller), hnodup.erase _, ?_, ?_⟩
      · rw [List.length_erase_of_mem hattached, hlength, hcount]
        exact (count_detach hconsistent).symm
      · intro client
        rw [hnodup.mem_erase_iff, hmem, Attached, Attached, hstep.opened_iff, hstep.unclosed_iff]
        simp only [herrand, ne_eq, not_true_eq_false, and_false, or_false, true_and]
        constructor
        · rintro ⟨hother, hin, hopen⟩
          exact ⟨hin, hopen, fun hown => hother hown.symm⟩
        · rintro ⟨hin, hopen, hother⟩
          exact ⟨fun hown => hother hown.symm, hin, hopen⟩

theorem Attended.work {w : Scene} (hw : w.session.Attended own) (hsound : w.Sound) :
    w.session.work.Attended own := by
  rcases answersOne_work hsound with ⟨_, hcallers, hcount⟩ | ⟨caller, c, reply, _, hstep, hcount⟩
  · constructor
    · simpa only [Opened, hcallers] using hw.opened
    · simpa only [hcallers] using hw.once
    · simpa only [Attached, Opened, Unclosed, hcallers, hcount] using hw.roster
  · refine ⟨?_, ?_, hw.roster_answersOne hstep hsound.consistent hcount⟩
    · intro n d hd herrand
      obtain ⟨e, he, hsame⟩ := hstep.before hd
      exact (hstep.opened_iff _).mpr (.inl (hw.opened n e he (hsame.trans herrand)))
    · intro k n d e hd he hdk hen hown
      obtain ⟨d', hd', hsame⟩ := hstep.before hd
      obtain ⟨e', he', hsame'⟩ := hstep.before he
      exact hw.once k n d' e' hd' he' (hsame.trans hdk) (hsame'.trans hen) hown

/-- Clients that keep to the rule are attended to. -/
theorem Attended.after {w : Scene} {m : Move} {past : History} (hw : w.session.Attended own)
    (hsound : w.Sound) (hrule : Courteous own past w m) : (w.after m).session.Attended own := by
  by_cases hm : m = .work
  · subst hm
    exact hw.work hsound
  · exact hw.of_rule hm hrule

/-! ## Starts that clients wait for -/

/-- A start is called off only when the last client detaches. -/
theorem next?_of_calledOff {w : Scene} (hw : w.session.Consistent) {m : Move} {token : Nat}
    {i j : Intent Change.Job (Option App.Instance)}
    (hi : w.session.coordinator.intent? token = some i)
    (hj : (w.after m).session.coordinator.intent? token = some j) (hlive : i.phase = .live)
    (hkept : i.cancelled = false) (hcancelled : j.cancelled = true) :
    m = .work ∧ w.session.count = 1 ∧ ∃ n, w.next? = some (n, .detach) := by
  obtain ⟨k, hk, hstep⟩ := intent?_after hw m hi
  rw [hj, Option.some.injEq] at hk
  subst hk
  have hsame : (w.after m).session.coordinator ≠ w.session.coordinator := by
    intro hsame
    rw [hsame, hi] at hj
    cases hj
    rw [hkept] at hcancelled
    cases hcancelled
  cases hstep with
  | calledOff _ houtstanding =>
      refine ⟨rfl, ?_⟩
      simp only [Scene.after] at hj hsame
      rcases clients_work w with ⟨_, _, _, hkeeps⟩ | ⟨caller, c, hnext, _, _, _, _, hserves⟩
      · exact (hsame hkeeps).elim
      · rw [hserves] at hj hsame
        cases herrand : c.errand with
        | attach timeout =>
            rw [herrand] at hj hsame
            rcases hw.attach_cases with ⟨_, _, _, _, _, _, hattach⟩ |
                ⟨_, _, _, _, _, _, hattach⟩ | ⟨hdone, _, hattach⟩
            · exact (hsame (by simp [serve, hattach])).elim
            · exact (hsame (by simp [serve, hattach])).elim
            · -- a start gives way to no other start
              have hnew : (w.session.serve (.attach timeout)).2.coordinator =
                  (w.session.coordinator.supersede .live).2 := by simp [serve, hattach, begun]
              rw [hnew, hw.orderly.intent?_supersede .live hi] at hj
              rcases hw.orderly.calledOff_cases hi with hsame | ⟨_, hlatest, _⟩
              · rw [hsame, Option.some.injEq] at hj
                rw [← hj] at hcancelled
                rw [hkept] at hcancelled
                cases hcancelled
              · by_cases hcount : w.session.count = 0
                · rw [(hw.vacant hcount).2 i hlatest] at hlive
                  cases hlive
                · rw [(hdone i (Nat.pos_of_ne_zero hcount) hlatest).1] at houtstanding
                  cases houtstanding
        | detach =>
            rw [herrand] at hsame hnext
            rcases hw.detach_cases with ⟨_, hdetach⟩ | ⟨hcount, _⟩ | ⟨_, _, hdetach⟩
            · exact (hsame (by simp [serve, hdetach])).elim
            · exact ⟨hcount, caller, hnext⟩
            · exact (hsame (by simp [serve, hdetach])).elim
  | _ =>
      have hflag : i.cancelled = true := hcancelled
      rw [hkept] at hflag
      cases hflag

/-- A client that has been taken in waits for a start, which is not called off
as long as the client has not detached. -/
structure Spared (own : Nat → Nat) (s : Session) (client token : Nat) : Prop where
  opened : s.Opened client
  start : ∃ i, s.coordinator.intent? token = some i ∧ i.phase = .live ∧
    (s.Unclosed own client → i.cancelled = false)

theorem opened_mono {w : Scene} (hw : w.Sound) (m : Move) {client : Nat}
    (hopened : w.session.Opened client) : (w.after m).session.Opened client := by
  by_cases hm : m = .work
  · subst hm
    rcases answersOne_work hw with ⟨_, hcallers, _⟩ | ⟨_, _, _, _, hstep, _⟩
    · simpa only [Scene.after, Opened, hcallers] using hopened
    · exact (hstep.opened_iff client).mpr (.inl hopened)
  · exact (opened_after hm client).mpr hopened

theorem unclosed_mono {w : Scene} (hw : w.Sound) (m : Move) {client : Nat}
    (hunclosed : (w.after m).session.Unclosed own client) :
    w.session.Unclosed own client ∧
      (m = .work → ∀ n, w.next? = some (n, .detach) → own n ≠ client) := by
  by_cases hm : m = .work
  · subst hm
    simp only [Scene.after] at hunclosed
    rcases answersOne_work hw with ⟨hidle, hcallers, _⟩ | ⟨caller, c, _, hnext, hstep, _⟩
    · refine ⟨by simpa only [Unclosed, hcallers] using hunclosed, ?_⟩
      intro _ n hn
      rw [hidle] at hn
      cases hn
    · obtain ⟨hbefore, hother⟩ := (hstep.unclosed_iff client).mp hunclosed
      refine ⟨hbefore, ?_⟩
      intro _ n hn hown
      rw [hn, Option.some.injEq, Prod.mk.injEq] at hnext
      exact hother ⟨hnext.2.symm, hnext.1 ▸ hown⟩
  · exact ⟨(unclosed_after hm client).mp hunclosed, fun h => (hm h).elim⟩

theorem Spared.after {w : Scene} {client token : Nat} (hspared : w.session.Spared own client token)
    (hw : w.Sound) (hattended : w.session.Attended own) (m : Move) :
    (w.after m).session.Spared own client token := by
  refine ⟨opened_mono hw m hspared.opened, ?_⟩
  obtain ⟨i, hi, hlive, hkept⟩ := hspared.start
  obtain ⟨j, hj, hstep⟩ := intent?_after hw.consistent m hi
  refine ⟨j, hj, hstep.precedes.phase.trans hlive, ?_⟩
  intro hunclosed
  obtain ⟨hbefore, hother⟩ := unclosed_mono hw m hunclosed
  cases hcancelled : j.cancelled with
  | false => rfl
  | true =>
      -- the last client has detached, and that is this one
      obtain ⟨hm, hcount, n, hnext⟩ :=
        next?_of_calledOff hw.consistent hi hj hlive (hkept hbefore) hcancelled
      obtain ⟨roster, _, hlength, hmem⟩ := hattended.roster
      obtain ⟨only, hroster⟩ := List.length_eq_one_iff.mp (hlength.trans hcount)
      have hclient : client ∈ roster := (hmem client).mpr ⟨hspared.opened, hbefore⟩
      obtain ⟨c, _, herrand, hstep⟩ := answersOne_of_next? hw hnext
      have hleaver : own n ∈ roster :=
        (hmem _).mpr (hattended.attached_of_posted hstep.called herrand hstep.posted)
      rw [hroster, List.mem_singleton] at hclient hleaver
      exact (hother hm n hnext (hleaver.trans hclient.symm)).elim

theorem spared_work {b : Scene} (hb : b.Sound) {client token : Nat} {timeout : Option Number}
    (hnext : b.next? = some (client, .attach timeout))
    (hreply : (b.session.serve (.attach timeout)).1 = .change token) :
    (b.after .work).session.Spared own client token := by
  obtain ⟨i, hlatest, hlive, _, hpromise⟩ := latest_of_attach hb.consistent hnext
  have horderly := (hb.consistent.after .work).orderly
  have htoken : i.token = token := by
    rcases hpromise with hchange | ⟨_, hready, _⟩
    · rw [hreply] at hchange
      cases hchange
      rfl
    · rw [hreply] at hready
      cases hready
  constructor
  · obtain ⟨c, _, herrand, hstep⟩ := answersOne_of_next? hb hnext
    exact (hstep.opened_iff client).mpr (.inr ⟨rfl, by simp [herrand]⟩)
  · refine ⟨i, ?_, hlive, fun _ => horderly.latest i hlatest⟩
    rw [← htoken]
    exact horderly.numbered.intent?_latest hlatest

/-! ## Runs -/

section Runs

variable {app : App.Id} {cluster : Cluster} {past : History} {w : Scene}

theorem Run.attended (hrun : Run (Courteous own) (.start app cluster) past w) :
    w.session.Attended own := by
  apply hrun.invariant_of_sound (I := fun w => w.session.Attended own)
    (Scene.sound_start app cluster)
  · exact attended_create own app
  · intro _ v m hrule hv hattended
    exact hattended.after hv hrule

/-- The start that a client waits for is spared until the client detaches. -/
theorem Run.spared (hrun : Run (Courteous own) (.start app cluster) past w) {b : Scene}
    {client token : Nat} {timeout : Option Number} (hmem : (b, .work) ∈ past)
    (hnext : b.next? = some (client, .attach timeout))
    (hreply : (b.session.serve (.attach timeout)).1 = .change token) :
    w.session.Spared own client token := by
  obtain ⟨earlier, later, _, hearlier, _, hlater⟩ := hrun.split hmem
  have hb := hearlier.sound (Scene.sound_start app cluster)
  have hboth : w.session.Attended own ∧ w.session.Spared own client token := by
    apply hlater.invariant_of_sound (I := fun w =>
      w.session.Attended own ∧ w.session.Spared own client token) (hb.after .work)
    · exact ⟨hearlier.attended.work hb, spared_work hb hnext hreply⟩
    · rintro _ v m hrule hv ⟨hattended, hspared⟩
      exact ⟨hattended.after hv hrule, hspared.after hv hattended m⟩
  exact hboth.2

/-- While no call fails as if it had been called off, only changes that were
called off do. -/
theorem Run.undisturbed {rule : History → Scene → Move → Prop}
    (hrun : Run rule (.start app cluster) past w) (hcluster : cluster.Uncancelled)
    (hcalm : ∀ b m, (b, m) ∈ past → m.IsCalm) :
    ∀ i ∈ w.session.coordinator.intents, Undisturbed i := by
  have hboth : w.cluster.Uncancelled ∧
      ∀ i ∈ w.session.coordinator.intents, Undisturbed i := by
    apply (hrun.and (P := fun _ m => m.IsCalm) hcalm).invariant_of_consistent (I := fun w =>
      w.cluster.Uncancelled ∧ ∀ i ∈ w.session.coordinator.intents, Undisturbed i)
      (consistent_create app)
    · exact ⟨hcluster, by simp [Scene.start, create, Coordinator.start]⟩
    · rintro _ v m hrule hv ⟨hcalled, hundisturbed⟩
      exact ⟨uncancelled_after hcalled hrule.2,
        forall_intents_after hv m hundisturbed undisturbed_create
          fun _ _ _ hstep => hstep.undisturbed hcalled hrule.2⟩
  exact hboth.2

end Runs

/-- A client that gives up does not take itself for called off. -/
theorem Caller.GivesUp.uncancelled {app : App.Id} {c : Caller} {f : Failure}
    (hgivesUp : c.GivesUp app f) : f.isIn .cancelled = false := by
  cases hgivesUp <;> rfl

/-- In every run of clients that keep to the rule: the registered intent is a
start while clients are attached and a stop while none is; the start that a
client waits for is not called off before the client's call to detach is taken;
and unless a remote call fails as if it had been called off, no call to attach
ends with such a failure before that. -/
theorem Run.start_not_called_off {app : App.Id} {cluster : Cluster} {past : History} {w : Scene}
    (hrun : Run (Courteous own) (.start app cluster) past w) :
    (∀ token, w.session.coordinator.registered = some token →
      ∃ i, w.session.coordinator.intent? token = some i ∧
        (0 < w.session.count → i.phase = .live) ∧ (w.session.count = 0 → i.phase = .rest)) ∧
    (∀ b client timeout token, (b, .work) ∈ past → b.next? = some (client, .attach timeout) →
      (b.session.serve (.attach timeout)).1 = .change token → w.session.Unclosed own client →
      ∃ i, w.session.coordinator.intent? token = some i ∧ i.phase = .live ∧
        i.cancelled = false) ∧
    (cluster.Uncancelled → (∀ b m, (b, m) ∈ past → m.IsCalm) →
      ∀ client c timeout e, w.session.callers[client]? = some c → c.errand = .attach timeout →
        w.session.Unclosed own client → c.outcome? = some (.error e) →
        e.isIn .cancelled = false) := by
  have hw := hrun.sound (Scene.sound_start app cluster)
  refine ⟨?_, ?_, ?_⟩
  · intro token hregistered
    obtain ⟨i, hlatest, rfl, _⟩ := (hw.consistent.orderly.registered_iff token).mp hregistered
    refine ⟨i, hw.consistent.orderly.numbered.intent?_latest hlatest, ?_, ?_⟩
    · intro hpos
      obtain ⟨j, hj, hlive, _⟩ := hw.consistent.attached hpos
      rw [hlatest, Option.some.injEq] at hj
      exact hj ▸ hlive
    · intro hzero
      exact (hw.consistent.vacant hzero).2 i hlatest
  · intro b client timeout token hmem hnext hreply hunclosed
    obtain ⟨i, hi, hlive, hkept⟩ := (hrun.spared hmem hnext hreply).start
    exact ⟨i, hi, hlive, hkept hunclosed⟩
  · intro hcluster hcalm client c timeout e hc herrand hunclosed houtcome
    have hover := Caller.standing_of_outcome? houtcome
    obtain ⟨b, hmem, hnext⟩ := hrun.taken hc (by simp [hover])
    rw [herrand] at hnext
    obtain ⟨d, hd, hserves⟩ := hrun.answered hmem hnext
    rw [hc, Option.some.injEq] at hd
    subst hd
    rcases hserves.of_over hover with hpromised | ⟨f, hf, hgivesUp⟩
    · cases hreply : (b.session.serve (.attach timeout)).1 with
      | change token =>
          obtain ⟨i, hi, _, hkept⟩ := (hrun.spared hmem hnext hreply).start
          have hundisturbed := hrun.undisturbed hcluster hcalm i (Coordinator.mem_of_intent? hi)
          have hseen : i.runner.outcome? = some (.error e) := by
            simpa [hreply, Session.outcome?, Coordinator.outcome?, hi] using hpromised
          exact hundisturbed.result (hkept hunclosed) _ (Runner.result?_of_outcome? hseen) e rfl
      | ready running => simp [hreply, Session.outcome?] at hpromised
      | refused f => exact (serve_attach_ne_refused _ _ f hreply).elim
    · cases hf
      exact hgivesUp.uncancelled

theorem start_not_called_off_sharing :
    ∃ i, (Sample.scene.play Sample.sharing).session.coordinator.intent? 1 = some i ∧
      i.phase = .live ∧ i.cancelled = false ∧
      (Sample.scene.play Sample.sharing).session.count = 1 := by
  -- the call to detach is that of client 0
  have hrun : Run (Courteous fun _ => 0) Sample.scene (Sample.scene.history Sample.sharing)
      (Sample.scene.play Sample.sharing) := by
    apply run_play
    refine ⟨trivial, trivial, trivial, trivial, ⟨⟨_, none, rfl, rfl, nofun⟩, ?_⟩, trivial, trivial⟩
    intro n d hd herrand
    rcases n with _ | _ | n <;> cases hd <;> cases herrand
  have hmem : (Sample.scene.play (Sample.sharing.take 3), .work) ∈
      Sample.scene.history Sample.sharing := .tail _ (.tail _ (.tail _ (.head _)))
  obtain ⟨i, hi, hlive, hkept⟩ :=
    (Run.start_not_called_off hrun).2.1 _ 1 none 1 hmem rfl rfl fun _ _ _ _ hown => nomatch hown
  exact ⟨i, hi, hlive, hkept, rfl⟩

end AttachGate.Session
