import AttachGate.Proofs.Session.Attendance
import Mathlib.Data.List.TakeWhile

/-!
# Calls at shutdown

A session is asked to end through its mailbox, so its worker answers the calls
that were made before it was asked, and ends.  What is posted behind that, and
whatever comes once the worker has ended, stays in the mailbox: nobody takes it,
and a client that waits for an answer waits for good.
-/

namespace AttachGate.Session

def Move.isShutdown : Move → Bool
  | .shutdown => true
  | _ => false

/-- The scene in which the worker was first asked to end. -/
def asked? (past : History) : Option Scene :=
  (past.find? fun e => e.2.isShutdown).map Prod.fst

/-- The messages that the worker takes before it ends. -/
def front (s : Session) : List Mail :=
  if s.ended then [] else s.mailbox.takeWhile (· ≠ .shutdown)

theorem asked?_concat (past : History) (w : Scene) (m : Move) :
    asked? (past ++ [(w, m)]) =
      (asked? past).or (if m.isShutdown then some w else none) := by
  unfold asked?
  rw [List.find?_append]
  cases past.find? fun e => e.2.isShutdown with
  | some e => rfl
  | none => cases hm : m.isShutdown <;> simp [hm]

/-! ## Moves of clients and runners -/

theorem ended_after {w : Scene} {m : Move} (hm : m ≠ .work) :
    (w.after m).session.ended = w.session.ended := by
  cases m with
  | work => exact (hm rfl).elim
  | run token =>
      simp only [Scene.after, run]
      split
      · rfl
      · split
        case h_2 => split <;> rfl
        all_goals rfl
  | fail token f =>
      simp only [Scene.after, fail]
      split <;> rfl
  | _ => rfl

theorem mem_of_mem_front {s : Session} {mail : Mail} (hmem : mail ∈ s.front) :
    mail ∈ s.mailbox := by
  unfold front at hmem
  split at hmem
  · cases hmem
  · exact (List.takeWhile_prefix _).subset hmem

theorem front_of_unasked {s : Session} (hrunning : s.ended = false)
    (habsent : Mail.shutdown ∉ s.mailbox) : s.front = s.mailbox := by
  have hall : ∀ mail ∈ s.mailbox, decide (mail ≠ .shutdown) = true := by
    intro mail hmem
    simp only [decide_eq_true_eq]
    rintro rfl
    exact habsent hmem
  simp only [front, hrunning, Bool.false_eq_true, if_false]
  exact List.takeWhile_eq_self_iff.mpr hall

/-- Once the worker has been asked to end, nothing more comes in front. -/
theorem front_of_asked {s t : Session} (hended : t.ended = s.ended)
    (hasked : s.ended = true ∨ Mail.shutdown ∈ s.mailbox) {mail : List Mail}
    (hmailbox : t.mailbox = s.mailbox ++ mail) : t.front = s.front := by
  unfold front
  rw [hended, hmailbox]
  cases hs : s.ended with
  | true => rfl
  | false =>
      rw [hs] at hasked
      have hmem : Mail.shutdown ∈ s.mailbox := hasked.resolve_left (by simp)
      obtain ⟨before, after, hsplit⟩ := List.append_of_mem hmem
      simp [hsplit, List.takeWhile_append]

/-! ## Who is answered -/

/-- A call waits for its answer just if the worker has still to take it or it came
after the worker was asked to end, with `asked` calls made until then. -/
structure Drains (asked : Option Nat) (s : Session) : Prop where
  unasked : asked = none → s.ended = false ∧ Mail.shutdown ∉ s.mailbox
  marked : ∀ n, asked = some n → s.ended = true ∨ Mail.shutdown ∈ s.mailbox
  made : ∀ n, asked = some n → n ≤ s.callers.length
  waits : ∀ (k : Nat) (c : Caller), s.callers[k]? = some c →
    (c.standing = .posted ↔ Mail.call k ∈ s.front ∨ ∃ n, asked = some n ∧ n ≤ k)
  late : ∀ n, asked = some n → ∀ k, n ≤ k → Mail.call k ∉ s.front

theorem drains_create (app : App.Id) : (create app).Drains none := by
  constructor <;> simp [create]

theorem length_callers_after {w : Scene} {m : Move} (hm : m ≠ .work) :
    w.session.callers.length ≤ (w.after m).session.callers.length := by
  by_contra hless
  have hsome : (w.session.callers[(w.after m).session.callers.length]?).isSome = true := by
    simpa using hless
  obtain ⟨c, hc⟩ := Option.isSome_iff_exists.mp hsome
  obtain ⟨d, hd, _⟩ := follows_after w hm hc
  simp at hd

theorem Drains.of_asked {w : Scene} {n : Nat} (hdrains : w.session.Drains (some n)) {m : Move}
    (hm : m ≠ .work) :
    (w.after m).session.Drains (some n) := by
  obtain ⟨mail, hmailbox, _⟩ := posts_after w hm
  have hended := ended_after (w := w) hm
  have hmarked := hdrains.marked n rfl
  have hfront := front_of_asked hended hmarked hmailbox
  have hmade := hdrains.made n rfl
  refine ⟨by simp, ?_, ?_, ?_, ?_⟩
  · intro _ _
    rw [hended, hmailbox]
    exact hmarked.imp id (List.mem_append_left mail)
  · intro k hk
    cases hk
    exact Nat.le_trans hmade (length_callers_after hm)
  · intro k d hd
    rw [hfront]
    rcases callers_before hm hd with ⟨c, hc, hfollows⟩ | ⟨hnew, hposted, _⟩
    · rw [← hfollows.posted_iff]
      exact hdrains.waits k c hc
    · simp only [hposted, true_iff]
      exact .inr ⟨n, rfl, hnew ▸ hmade⟩
  · intro k hk
    rw [hfront]
    exact hdrains.late k hk

/-- Before the worker is asked to end it is to take every message. -/
theorem Drains.of_unasked {w : Scene} (hdrains : w.session.Drains none) {m : Move}
    (hm : m ≠ .work) (hshutdown : m ≠ .shutdown) : (w.after m).session.Drains none := by
  obtain ⟨mail, hmailbox, hposts⟩ := posts_after w hm
  obtain ⟨hrunning, habsent⟩ := hdrains.unasked rfl
  have hrunning' : (w.after m).session.ended = false := (ended_after hm).trans hrunning
  have habsent' : Mail.shutdown ∉ (w.after m).session.mailbox := by
    rw [hmailbox, List.mem_append]
    intro hmem
    cases hposts with
    | shutdown => exact hshutdown rfl
    | _ => simp [habsent] at hmem
  refine ⟨fun _ => ⟨hrunning', habsent'⟩, by simp, by simp, ?_, by simp⟩
  intro k d hd
  rw [front_of_unasked hrunning' habsent']
  rcases callers_before hm hd with ⟨c, hc, hfollows⟩ | ⟨hnew, hposted, hmade⟩
  · have hother : Mail.call k ∉ mail := by
      have hlt := (List.getElem?_eq_some_iff.mp hc).1
      cases hposts <;> simp
      omega
    have hwaits := hdrains.waits k c hc
    rw [front_of_unasked hrunning habsent] at hwaits
    rw [← hfollows.posted_iff, hwaits, hmailbox]
    simp [hother]
  · rw [hmade, hnew]
    simp [hposted, Scene.after, call]

/-- Asked to end, the worker is still to take what is in its mailbox. -/
theorem Drains.shutdown {w : Scene} (hw : w.Sound) (hdrains : w.session.Drains none) :
    (w.after .shutdown).session.Drains (some w.session.callers.length) := by
  obtain ⟨hrunning, habsent⟩ := hdrains.unasked rfl
  have hfront : (w.after .shutdown).session.front = w.session.front := by
    have hall := front_of_unasked hrunning habsent
    simp only [front, hrunning, Bool.false_eq_true, if_false] at hall ⊢
    rw [hall]
    simp only [Scene.after, Session.shutdown, hrunning, Bool.false_eq_true, if_false]
    rw [List.takeWhile_append, hall]
    simp
  have hlate : ∀ k, w.session.callers.length ≤ k → Mail.call k ∉ w.session.front := by
    intro k hk hmem
    obtain ⟨c, hc, _⟩ := hw.posted.unanswered k (mem_of_mem_front hmem)
    have hlt := (List.getElem?_eq_some_iff.mp hc).1
    omega
  refine ⟨by simp, ?_, ?_, ?_, ?_⟩
  · intro _ _
    right
    simp [Scene.after, Session.shutdown]
  · intro n hn
    cases hn
    exact Nat.le_refl _
  · intro k c hc
    have hlt : k < w.session.callers.length := (List.getElem?_eq_some_iff.mp hc).1
    rw [hfront]
    simpa [Nat.not_le.mpr hlt] using hdrains.waits k c hc
  · intro n hn
    cases hn
    rw [hfront]
    exact hlate

/-! ## The worker -/

theorem handle_fields (s : Session) (mail : Mail) :
    (s.handle mail).mailbox = s.mailbox ∧
      ((s.handle mail).ended = true ↔ s.ended = true ∨ mail = .shutdown) := by
  cases mail with
  | call caller =>
      cases hc : s.callers[caller]? with
      | none => simp [handle, hc]
      | some c =>
          have hsame := sameClients_serve s c.errand
          rw [handle_call hc]
          simp [answer, onCaller, hsame.mailbox, hsame.ended]
  | changed token =>
      obtain ⟨kept, hkept⟩ := s.changed_eq token
      simp [handle, hkept]
  | shutdown => simp [handle]

/-- The worker ends with the message that asks it to, and takes a call off the front. -/
theorem front_work {s : Session} (hrunning : s.ended = false) {mail : Mail} {rest : List Mail}
    (hmailbox : s.mailbox = mail :: rest) :
    s.work.mailbox = rest ∧ (s.work.ended = true ↔ mail = .shutdown) ∧
      ∀ k, Mail.call k ∈ s.front ↔ mail = .call k ∨ Mail.call k ∈ s.work.front := by
  have hwork : s.work = ({ s with mailbox := rest } : Session).handle mail := by
    simp [work, hrunning, hmailbox]
  obtain ⟨hrest, hends⟩ := ({ s with mailbox := rest } : Session).handle_fields mail
  rw [← hwork] at hrest hends
  simp only [hrunning, Bool.false_eq_true, false_or] at hends
  refine ⟨hrest, hends, ?_⟩
  intro k
  by_cases hmail : mail = .shutdown
  · simp [front, hrunning, hmailbox, hmail, hends.mpr hmail]
  · have hgoes : s.work.ended = false := by simpa [hmail] using hends
    simp [front, hrunning, hgoes, hmailbox, hrest, hmail, eq_comm]

/-- The worker answers the call that it takes. -/
theorem Drains.waits_work {w : Scene} (hw : w.Sound) {asked : Option Nat}
    (hdrains : w.session.Drains asked) {mail : Mail} {rest : List Mail}
    (hrunning : w.session.ended = false) (hmailbox : w.session.mailbox = mail :: rest) (k : Nat)
    (d : Caller) (hd : w.session.work.callers[k]? = some d) :
    d.standing = .posted ↔
      Mail.call k ∈ w.session.work.front ∨ ∃ n, asked = some n ∧ n ≤ k := by
  obtain ⟨hrest, _, hfront⟩ := front_work hrunning hmailbox
  have hmail? : w.mail? = some mail := by simp [Scene.mail?, hrunning, hmailbox]
  rcases answersOne_work hw with ⟨hidle, hcallers, _⟩ | ⟨caller, c, reply, hnext, hstep, _⟩
  · rw [hcallers] at hd
    have hother : mail ≠ .call k := by
      intro hmail
      simp [Scene.next?, hmail?, hmail, hd] at hidle
    rw [hdrains.waits k d hd, hfront]
    simp [hother]
  · have hmail : mail = .call caller := by
      unfold Scene.next? at hnext
      rw [hmail?] at hnext
      cases mail with
      | call other =>
          obtain ⟨_, _, hsame⟩ := Option.map_eq_some_iff.mp hnext
          rw [Prod.mk.injEq] at hsame
          rw [hsame.1]
      | _ => cases hnext
    rw [hstep.callers k] at hd
    by_cases hk : k = caller
    · subst hk
      rw [if_pos rfl] at hd
      cases hd
      have habsent : Mail.call k ∉ w.session.work.front := by
        intro hmem
        have hagain := mem_of_mem_front hmem
        have honce := hw.posted.once k
        rw [hmailbox, hmail, List.count_cons_self] at honce
        rw [hrest] at hagain
        have htwice := List.count_pos_iff.mpr hagain
        omega
      have hearly : ¬ ∃ n, asked = some n ∧ n ≤ k := by
        intro hlate
        obtain ⟨n, hn, hle⟩ := hlate
        exact hdrains.late n hn k hle ((hfront k).mpr (.inl hmail))
      simp [habsent, hearly]
    · rw [if_neg hk] at hd
      rw [hdrains.waits k d hd, hfront, hmail]
      simp [Ne.symm hk]

theorem Drains.work {w : Scene} (hw : w.Sound) {asked : Option Nat}
    (hdrains : w.session.Drains asked) : (w.after .work).session.Drains asked := by
  have hidle : w.session.work = w.session → (w.after .work).session.Drains asked := by
    intro hsame
    rw [Scene.after, hsame]
    exact hdrains
  cases hrunning : w.session.ended with
  | true => exact hidle (by simp [Session.work, hrunning])
  | false =>
      cases hmailbox : w.session.mailbox with
      | nil => exact hidle (by simp [Session.work, hmailbox])
      | cons mail rest =>
          obtain ⟨hrest, hends, hfront⟩ := front_work hrunning hmailbox
          refine ⟨?_, ?_, ?_, hdrains.waits_work hw hrunning hmailbox, ?_⟩
          · intro hasked
            have habsent := (hdrains.unasked hasked).2
            rw [hmailbox, List.mem_cons, not_or] at habsent
            refine ⟨?_, by rw [Scene.after, hrest]; exact habsent.2⟩
            rw [Scene.after, ← Bool.not_eq_true, hends]
            exact fun hmail => habsent.1 hmail.symm
          · intro n hn
            have hmarked := hdrains.marked n hn
            rw [hmailbox, hrunning, List.mem_cons] at hmarked
            rw [Scene.after, hends, hrest]
            exact (hmarked.resolve_left (by simp)).imp Eq.symm id
          · intro n hn
            have hlength : (w.after .work).session.callers.length = w.session.callers.length := by
              rcases clients_work w with ⟨_, hcallers, _⟩ | ⟨_, _, _, _, _, hcallers, _⟩ <;>
                simp [Scene.after, hcallers]
            rw [hlength]
            exact hdrains.made n hn
          · intro n hn k hk hmem
            exact hdrains.late n hn k hk ((hfront k).mpr (.inr hmem))

theorem Drains.after {w : Scene} (hw : w.Sound) {past : History}
    (hdrains : w.session.Drains ((asked? past).map fun b => b.session.callers.length))
    (m : Move) :
    (w.after m).session.Drains
      ((asked? (past ++ [(w, m)])).map fun b => b.session.callers.length) := by
  rw [asked?_concat]
  by_cases hm : m = .work
  · subst hm
    simpa [Move.isShutdown] using hdrains.work hw
  · cases hasked : asked? past with
    | some b =>
        rw [hasked] at hdrains
        exact Drains.of_asked hdrains hm
    | none =>
        rw [hasked] at hdrains
        by_cases hshutdown : m = .shutdown
        · subst hshutdown
          exact Drains.shutdown hw hdrains
        · have hnot : m.isShutdown = false := by
            cases m with
            | shutdown => exact (hshutdown rfl).elim
            | _ => rfl
          simpa [hnot] using Drains.of_unasked hdrains hm hshutdown

variable {rule : History → Scene → Move → Prop} {app : App.Id} {cluster : Cluster}
  {past : History} {w : Scene}

theorem Run.drains (hrun : Run rule (.start app cluster) past w) :
    w.session.Drains ((asked? past).map fun b => b.session.callers.length) := by
  have hboth : w.Sound ∧
      w.session.Drains ((asked? past).map fun b => b.session.callers.length) := by
    apply hrun.along (I := fun past w => w.Sound ∧
      w.session.Drains ((asked? past).map fun b => b.session.callers.length))
    · exact ⟨Scene.sound_start app cluster, drains_create app⟩
    · intro past w m _ hboth
      exact ⟨hboth.1.after m, hboth.2.after hboth.1 m⟩
  exact hboth.2

theorem posted_after_of_ended {w : Scene} (hended : w.session.ended = true) {k : Nat} {c : Caller}
    (hc : w.session.callers[k]? = some c) (hposted : c.standing = .posted) (m : Move) :
    (w.after m).session.ended = true ∧
      ∃ d, (w.after m).session.callers[k]? = some d ∧ d.standing = .posted := by
  by_cases hm : m = .work
  · subst hm
    have hsame : w.session.work = w.session := by simp [Session.work, hended]
    rw [Scene.after, hsame]
    exact ⟨hended, c, hc, hposted⟩
  · obtain ⟨d, hd, hfollows⟩ := follows_after w hm hc
    exact ⟨(ended_after hm).trans hended, d, hd, hfollows.posted hposted⟩

/-- Nobody ever answers a call that waits once the worker has ended. -/
theorem Run.unanswered {v : Scene} {rest : History} (hlater : Run anything w rest v)
    (hended : w.session.ended = true) {k : Nat} {c : Caller}
    (hc : w.session.callers[k]? = some c) (hposted : c.standing = .posted) :
    v.session.ended = true ∧ ∃ d, v.session.callers[k]? = some d ∧ d.standing = .posted := by
  apply hlater.invariant (I := fun v => v.session.ended = true ∧
    ∃ d, v.session.callers[k]? = some d ∧ d.standing = .posted) ⟨hended, c, hc, hposted⟩
  intro _ v m _ hv
  obtain ⟨hends, d, hd, hwaits⟩ := hv
  exact posted_after_of_ended hends hd hwaits m

/-- Suppose that the worker has ended.  It was asked to at some scene, and a call
waits for its answer just if it was made after that; and no run that goes on from
here brings the answer to a call that waits for it. -/
theorem Run.waits_iff_after_shutdown (hrun : Run rule (.start app cluster) past w)
    (hended : w.session.ended = true) :
    ∃ b, asked? past = some b ∧
      ∀ (k : Nat) (c : Caller), w.session.callers[k]? = some c →
        (c.standing = .posted ↔ b.session.callers.length ≤ k) ∧
        (c.standing = .posted → ∀ rest v, Run anything w rest v →
          ∃ d, v.session.callers[k]? = some d ∧ d.standing = .posted) := by
  have hdrains := hrun.drains
  cases hasked : asked? past with
  | none =>
      have hrunning := (hdrains.unasked (by simp [hasked])).1
      rw [hended] at hrunning
      cases hrunning
  | some b =>
      refine ⟨b, rfl, ?_⟩
      intro k c hc
      constructor
      · rw [hdrains.waits k c hc]
        simp [front, hended, hasked]
      · intro hposted rest v hlater
        exact (hlater.unanswered hended hc hposted).2

namespace Sample

/-- The only client detaches after its session was asked to end and before its
worker has seen to that. -/
def closing : List Move := opening ++ [.shutdown, .call .detach false, .work]

end Sample

theorem waits_iff_after_shutdown_closing :
    (Sample.scene.play Sample.closing).session.callers.map Caller.errand =
        [.attach none, .detach] ∧
      ∃ b, asked? (Sample.scene.history Sample.closing) = some b ∧
        ∀ k c, (Sample.scene.play Sample.closing).session.callers[k]? = some c →
          (c.standing = .posted ↔ b.session.callers.length ≤ k) := by
  have hrun := run_play Sample.scene (admits_anything [] Sample.scene Sample.closing)
  have hended : (Sample.scene.play Sample.closing).session.ended = true := by decide +kernel
  obtain ⟨b, hasked, hwaits⟩ := Run.waits_iff_after_shutdown hrun hended
  exact ⟨rfl, b, hasked, fun k c hc => (hwaits k c hc).1⟩

/-- A client can detach from a session whose worker ends without an answer to it,
and then it never comes to have one. -/
theorem detach_unanswered_closing :
    Run anything Sample.scene (Sample.scene.history Sample.closing)
        (Sample.scene.play Sample.closing) ∧
      (Sample.scene.play Sample.closing).session.ended = true ∧
      (Sample.scene.play Sample.closing).session.callers[1]? = some ⟨.detach, false, .posted⟩ ∧
      ∀ rest v, Run anything (Sample.scene.play Sample.closing) rest v →
        ∃ d, v.session.callers[1]? = some d ∧ d.standing = .posted := by
  have hended : (Sample.scene.play Sample.closing).session.ended = true := by decide +kernel
  have hposted : (Sample.scene.play Sample.closing).session.callers[1]? =
      some ⟨.detach, false, .posted⟩ := rfl
  refine ⟨run_play _ (admits_anything _ _ _), hended, hposted, ?_⟩
  intro rest v hlater
  exact (hlater.unanswered hended hposted rfl).2

end AttachGate.Session
