import AttachGate.Proofs.Session.Run

/-!
# Calls left out

A run from which one call is left out: the call is not made, the worker does not
take it, and its client does nothing, while all other moves are made as they were,
the later calls under numbers one lower.  If what the worker did for the call
amounts to nothing, this leads from scene to scene of the run, each without the
call.
-/

namespace AttachGate.Session

/-- The number of a call `k` other than `n` when `n` is not counted. -/
def renumber (n k : Nat) : Nat := if n < k then k - 1 else k

/-- What is about a call, when call `n` is left out. -/
def unlessAbout {α : Type} (n : Nat) (about : Nat → α) (k : Nat) : Option α :=
  if k = n then none else some (about (renumber n k))

def Mail.without (n : Nat) : Mail → Option Mail
  | .call k => unlessAbout n .call k
  | mail => some mail

/-- A session as it is but for one call, which has not been made. -/
def without (s : Session) (n : Nat) : Session :=
  { s with
    mailbox := s.mailbox.filterMap (Mail.without n)
    callers := s.callers.eraseIdx n }

namespace Scene

def without (w : Scene) (n : Nat) : Scene := { w with session := w.session.without n }

/-- What is left of a move, when call `n` is left out. -/
def rest? (w : Scene) (n : Nat) : Move → Option Move
  | .call errand cancelled =>
    if w.session.callers.length = n then none else some (.call errand cancelled)
  | .leave k => unlessAbout n .leave k
  | .take k clock => unlessAbout n (.take · clock) k
  | .look k => unlessAbout n .look k
  | .doubt k clock => unlessAbout n (.doubt · clock) k
  | .work => if w.mail? = some (.call n) then none else some .work
  | m => some m

end Scene

/-- The moves that are left of a history, when call `n` is left out. -/
def History.without (past : History) (n : Nat) : List Move :=
  past.filterMap fun e => e.1.rest? n e.2

/-! ## Callers -/

section Callers

variable {α : Type} {n k : Nat}

theorem getElem?_eraseIdx_renumber (hk : k ≠ n) (callers : List α) :
    (callers.eraseIdx n)[renumber n k]? = callers[k]? := by
  rw [List.getElem?_eraseIdx, renumber]
  by_cases hlt : n < k
  · have hsucc : k - 1 + 1 = k := by omega
    have hge : ¬ k - 1 < n := by omega
    rw [if_pos hlt, if_neg hge, hsucc]
  · have hbefore : k < n := by omega
    rw [if_neg hlt, if_pos hbefore]

theorem eraseIdx_modify_self (f : α → α) (callers : List α) :
    (callers.modify n f).eraseIdx n = callers.eraseIdx n := by
  apply List.ext_getElem?
  intro j
  rw [List.getElem?_eraseIdx, List.getElem?_eraseIdx]
  split
  · exact List.getElem?_modify_ne _ _ (by omega)
  · exact List.getElem?_modify_ne _ _ (by omega)

theorem eraseIdx_modify_renumber (hk : k ≠ n) (f : α → α) (callers : List α) :
    (callers.modify k f).eraseIdx n = (callers.eraseIdx n).modify (renumber n k) f := by
  apply List.ext_getElem?
  intro j
  rw [List.getElem?_modify, List.getElem?_eraseIdx, List.getElem?_eraseIdx, List.getElem?_modify,
    List.getElem?_modify]
  unfold renumber
  by_cases hj : j < n
  · have hsame : ((if n < k then k - 1 else k) = j) ↔ k = j := by split <;> omega
    simp only [hj, if_true, hsame]
  · have hsame : ((if n < k then k - 1 else k) = j) ↔ k = j + 1 := by split <;> omega
    simp only [hj, if_false, hsame]

theorem eraseIdx_append_singleton_self (c : α) (callers : List α) :
    (callers ++ [c]).eraseIdx callers.length = callers := by
  rw [List.eraseIdx_append_of_length_le (Nat.le_refl _), Nat.sub_self]
  simp

theorem eraseIdx_append_singleton {callers : List α} (hn : callers.length ≠ n) (c : α) :
    (callers ++ [c]).eraseIdx n = callers.eraseIdx n ++ [c] ∧
      (callers.eraseIdx n).length = renumber n callers.length := by
  rw [renumber]
  by_cases hlt : n < callers.length
  · rw [List.eraseIdx_append_of_lt_length hlt, List.length_eraseIdx, if_pos hlt]
    exact ⟨rfl, rfl⟩
  · have hbeyond : callers.length ≤ n := by omega
    rw [List.eraseIdx_of_length_le hbeyond, List.eraseIdx_of_length_le (by simp; omega),
      if_neg hlt]
    exact ⟨rfl, rfl⟩

end Callers

/-! ## Moves of clients -/

variable {n : Nat}

theorem without_onCaller_self (s : Session) (f : Caller → Caller) :
    (s.onCaller n f).without n = s.without n := by
  simp only [without, onCaller, eraseIdx_modify_self]

theorem without_onCaller {k : Nat} (hk : k ≠ n) (s : Session) (f : Caller → Caller) :
    (s.onCaller k f).without n = (s.without n).onCaller (renumber n k) f := by
  simp only [without, onCaller, eraseIdx_modify_renumber hk]

theorem without_call_self {s : Session} (hn : s.callers.length = n) (errand : Errand)
    (cancelled : Bool) : (s.call errand cancelled).2.without n = s.without n := by
  subst hn
  have hnobody : s.callers.eraseIdx s.callers.length = s.callers :=
    List.eraseIdx_of_length_le (Nat.le_refl _)
  simp [without, call, Mail.without, unlessAbout, hnobody, eraseIdx_append_singleton_self]

theorem without_call {s : Session} (hn : s.callers.length ≠ n) (errand : Errand)
    (cancelled : Bool) :
    (s.call errand cancelled).2.without n = ((s.without n).call errand cancelled).2 := by
  obtain ⟨hcallers, hlength⟩ :=
    eraseIdx_append_singleton hn (⟨errand, cancelled, .posted⟩ : Caller)
  simp [without, call, Mail.without, unlessAbout, hcallers, hlength, hn]

/-! ## Runners -/

theorem without_run (s : Session) (token : Nat) (c : Cluster) :
    (s.without n).run token c = ((s.run token c).1.without n, (s.run token c).2) := by
  cases hintent : s.coordinator.intent? token with
  | none => simp only [run, without, hintent]
  | some i =>
      cases hrunner : i.runner with
      | working job =>
          cases houtcome : job.outcome? with
          | some outcome => simp only [run, without, hintent, hrunner, houtcome]
          | none => simp only [run, without, goal, hintent, hrunner, houtcome]
      | resolved outcome =>
          simp only [run, without, hintent, hrunner, List.filterMap_append]
          rfl
      | _ => simp only [run, without, goal, hintent, hrunner]

theorem without_fail (s : Session) (token : Nat) (f : Failure) :
    (s.without n).fail token f = (s.fail token f).without n := by
  cases hintent : s.coordinator.intent? token with
  | none => simp only [fail, without, hintent]
  | some i => simp only [fail, without, goal, hintent]

/-! ## The worker -/

theorem without_serve (s : Session) (errand : Errand) :
    (s.without n).serve errand = ((s.serve errand).1, (s.serve errand).2.without n) := by
  have hsame := sameClients_serve s errand
  rw [without, serve_clients, without, hsame.mailbox, hsame.callers]

theorem without_changed (s : Session) (token : Nat) :
    (s.without n).changed token = (s.changed token).without n := by
  obtain ⟨kept, hkept⟩ := s.changed_eq token
  rw [without, changed_clients, without, hkept]

theorem without_answer {k : Nat} (hk : k ≠ n) (s : Session) (reply : Reply) :
    (s.answer k reply).without n = (s.without n).answer (renumber n k) reply :=
  without_onCaller hk s _

theorem without_handle {mail mail' : Mail} (hmail : mail.without n = some mail') (s : Session) :
    (s.handle mail).without n = (s.without n).handle mail' := by
  cases mail with
  | call k =>
      rw [Mail.without, unlessAbout] at hmail
      split at hmail
      · cases hmail
      · rename_i hk
        cases hmail
        have hcaller : (s.without n).callers[renumber n k]? = s.callers[k]? :=
          getElem?_eraseIdx_renumber hk s.callers
        cases hc : s.callers[k]? with
        | none =>
            rw [hc] at hcaller
            simp only [handle, hc, hcaller]
        | some c =>
            rw [hc] at hcaller
            rw [handle_call hc, handle_call hcaller, without_serve, without_answer hk]
  | changed token =>
      cases hmail
      exact (without_changed s token).symm
  | shutdown =>
      cases hmail
      rfl

theorem work_of_mail? {w : Scene} {mail : Mail} (hmail : w.mail? = some mail) :
    ∃ rest, w.session.mailbox = mail :: rest ∧ w.session.ended = false ∧
      w.session.work = ({ w.session with mailbox := rest } : Session).handle mail := by
  cases hended : w.session.ended with
  | true => simp [Scene.mail?, hended] at hmail
  | false =>
      cases hmailbox : w.session.mailbox with
      | nil => simp [Scene.mail?, hmailbox] at hmail
      | cons first rest =>
          obtain rfl : first = mail := by simpa [Scene.mail?, hended, hmailbox] using hmail
          exact ⟨rest, rfl, rfl, by simp [work, hended, hmailbox]⟩

/-- A session without a call that its worker does not take next works as before. -/
theorem without_work {w : Scene} (hother : w.mail? ≠ some (.call n)) :
    w.session.work.without n = (w.session.without n).work := by
  cases hmail : w.mail? with
  | none =>
      have hidle : w.session.ended = true ∨ w.session.mailbox = [] := by
        cases hended : w.session.ended <;> simp_all [Scene.mail?]
      rcases hidle with hended | hmailbox
      · simp [work, without, hended]
      · simp [work, without, hmailbox]
  | some mail =>
      obtain ⟨rest, hmailbox, hended, hwork⟩ := work_of_mail? hmail
      obtain ⟨mail', hkept⟩ : ∃ mail', mail.without n = some mail' := by
        cases mail with
        | call k =>
            have hk : k ≠ n := by
              rintro rfl
              exact hother hmail
            exact ⟨_, if_neg hk⟩
        | _ => exact ⟨_, rfl⟩
      rw [hwork, without_handle hkept]
      simp [work, without, hended, hmailbox, hkept]

/-- A call for which the worker does nothing is not missed when it is taken. -/
theorem without_work_self {w : Scene} (hmail : w.mail? = some (.call n))
    (hnothing : ∀ errand, w.next? = some (n, errand) → errand = .detach ∧ w.session.count = 0) :
    w.session.work.without n = w.session.without n := by
  obtain ⟨rest, hmailbox, _, hwork⟩ := work_of_mail? hmail
  have hdropped : ({ w.session with mailbox := rest } : Session).without n =
      w.session.without n := by
    simp [without, hmailbox, Mail.without, unlessAbout]
  rw [hwork, ← hdropped]
  generalize hs : ({ w.session with mailbox := rest } : Session) = s
  have hcallers : w.session.callers = s.callers := by rw [← hs]
  cases hc : s.callers[n]? with
  | none => simp only [handle, hc]
  | some c =>
      obtain ⟨herrand, hcount⟩ := hnothing c.errand (by simp [Scene.next?, hmail, hcallers, hc])
      have hvacant : s.count = 0 := by rw [← hs, hcount]
      have hserve : s.serve c.errand = (.refused (.overClosed s.app.label), s) := by
        simp [herrand, serve, detach, hvacant]
      rw [handle_call hc, hserve, answer, without_onCaller_self]

/-! ## Runs -/

/-- A client's move for its own call. -/
theorem without_about {w : Scene} {k : Nat} {g : Nat → Move} {f : Caller → Caller}
    (hafter : w.after (g k) = { w with session := w.session.onCaller k f })
    (hwithout : (w.without n).after (g (renumber n k)) =
      { w.without n with session := (w.session.without n).onCaller (renumber n k) f }) :
    (w.after (g k)).without n = (w.without n).play (unlessAbout n g k).toList := by
  rw [hafter, unlessAbout, Scene.without]
  split
  · rename_i hk
    rw [hk, without_onCaller_self]
    rfl
  · rename_i hk
    rw [without_onCaller hk]
    exact hwithout.symm

/-- What is left of a move leads to what the move leads to, without the call that is
left out, if the worker does nothing for that call. -/
theorem without_after {w : Scene} {m : Move}
    (hnothing : ∀ errand, w.taken? m = some (n, errand) →
      errand = .detach ∧ w.session.count = 0) :
    (w.after m).without n = (w.without n).play (w.rest? n m).toList := by
  cases m with
  | call errand cancelled =>
      rw [Scene.rest?]
      split
      · rename_i hn
        rw [Scene.without, Scene.after, without_call_self hn]
        rfl
      · rename_i hn
        rw [Scene.without, Scene.after, without_call hn]
        rfl
  | leave k => exact without_about rfl rfl
  | take k clock => exact without_about (g := (.take · clock)) rfl rfl
  | look k => exact without_about rfl rfl
  | doubt k clock => exact without_about (g := (.doubt · clock)) rfl rfl
  | work =>
      rw [Scene.rest?]
      split
      · rename_i hmail
        rw [Scene.without, Scene.after, without_work_self hmail hnothing]
        rfl
      · rename_i hother
        rw [Scene.without, Scene.after, without_work hother]
        rfl
  | run token =>
      have hrun := without_run (n := n) w.session token w.cluster
      simp only [Scene.rest?, Option.toList, Scene.play, Scene.after, Scene.without, hrun]
  | fail token f =>
      have hfail := without_fail (n := n) w.session token f
      simp only [Scene.rest?, Option.toList, Scene.play, Scene.after, Scene.without, hfail]
  | shutdown =>
      simp only [Scene.rest?, Option.toList, Scene.play, Scene.after, Scene.without, shutdown,
        Session.without, List.filterMap_append]
      rfl
  | elsewhere cluster => rfl

theorem Scene.play_append (w : Scene) (before after : List Move) :
    w.play (before ++ after) = (w.play before).play after := by
  induction before generalizing w with
  | nil => rfl
  | cons m rest ih => exact ih (w.after m)

/-- A call for which the worker never does anything can be left out of a run: nothing
else becomes different. -/
theorem Run.play_without {rule : History → Scene → Move → Prop} {app : App.Id}
    {cluster : Cluster} {past : History} {w : Scene} (hrun : Run rule (.start app cluster) past w)
    (hnothing : ∀ b m errand, (b, m) ∈ past → b.taken? m = some (n, errand) →
      errand = .detach ∧ b.session.count = 0) :
    (Scene.start app cluster).play (past.without n) = w.without n := by
  induction hrun with
  | start => rfl
  | @move past w _ m _ ih =>
      have hlast := without_after (w := w) (m := m) fun errand htaken =>
        hnothing w m errand (by simp) htaken
      have hpast := ih fun b m errand hmem => hnothing b m errand (List.mem_append_left _ hmem)
      rw [hlast, ← hpast, ← Scene.play_append]
      congr 1
      cases hrest : w.rest? n m <;> simp [History.without, hrest]

end AttachGate.Session
