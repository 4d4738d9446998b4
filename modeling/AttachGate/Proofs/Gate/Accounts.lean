import AttachGate.Proofs.Gate.Moves
import AttachGate.Proofs.Session.Tickets

/-!
# Streams and sessions

To the sessions a stream is nothing but its calls: it joins the session of its
app, is due to attach, waits to be attached, is due to detach, waits to be
detached, and is gone.  Every move of the gate is of one of a few kinds for
these accounts, and everything about attaching follows from the kinds.
-/

namespace AttachGate.Gate

open Session (Purpose)

/-- Where a stream stands with the sessions. -/
inductive Account
  | before
  /-- It is to call a session. -/
  | due (p : Purpose) (k : Nat)
  /-- It waits for the end of its call. -/
  | waiting (p : Purpose) (k caller : Nat)
  | gone

/-- Where a stream stands once its call of a session is over. -/
def Account.next (k : Nat) : Purpose → Account
  | .attach => .due .detach k
  | .detach => .gone

def Stage.account : Stage → Account
  | .awaiting | .admitted _ => .before
  | .known _ k => .due .attach k
  | .opening _ k caller => .waiting .attach k caller
  | .serving k _ | .concluding k | .leaving k _ => .due .detach k
  | .closing k caller _ => .waiting .detach k caller
  | .ended _ => .gone

def account? (g : Gate) (i : Nat) : Option Account := (g.streams[i]?).map fun s => s.stage.account

/-! ## Papers -/

structure Call where
  stream : Nat
  purpose : Purpose
  session : Nat
  caller : Nat

structure Join where
  stream : Nat
  app : App.Id
  session : Nat

/-- What a handler is about to call a session for. -/
def Stage.calls? : Stage → Option (Purpose × Nat)
  | .known _ k => some (.attach, k)
  | .leaving k _ => some (.detach, k)
  | _ => none

def call? (g : Gate) : Move → Option Call
  | .handle i => do
    let stream ← g.streams[i]?
    let (purpose, k) ← stream.stage.calls?
    let session ← g.sessions[k]?
    pure ⟨i, purpose, k, session.callers.length⟩
  | _ => none

def Stage.joins? : Stage → Option App.Id
  | .admitted o => if canLookUp o.app then some o.app else none
  | _ => none

def join? (g : Gate) : Move → Option Join
  | .handle i => do
    let stream ← g.streams[i]?
    let app ← stream.stage.joins?
    pure ⟨i, app, (g.sessionFor app).1⟩
  | _ => none

/-! ## Kinds of moves -/

/-- The accounts are the same but for one stream's. -/
def Marks (g h : Gate) (i : Nat) (a : Account) : Prop :=
  ∀ j, h.account? j = if j = i then some a else g.account? j

/-- What a move can do to the accounts and to the sessions. -/
inductive Passing (g h : Gate) : Option Call → Option Join → Prop
  | idle (haccounts : ∀ i, h.account? i = g.account? i) (hsessions : h.sessions = g.sessions) :
    Passing g h none none
  | arrived (haccounts : Marks g h g.streams.length .before)
    (hsessions : h.sessions = g.sessions) : Passing g h none none
  | turnedAway (i : Nat) (hfrom : g.account? i = some .before) (haccounts : Marks g h i .gone)
    (hsessions : h.sessions = g.sessions) : Passing g h none none
  | joined (i : Nat) (app : App.Id) (hkey : canLookUp app = true)
    (hfrom : g.account? i = some .before)
    (haccounts : Marks g h i (.due .attach (g.sessionFor app).1))
    (hsessions : h.sessions = (g.sessionFor app).2.sessions) :
    Passing g h none (some ⟨i, app, (g.sessionFor app).1⟩)
  | called (i : Nat) (errand : Session.Errand) (cancelled : Bool) (k : Nat) (s : Session)
    (hfrom : g.account? i = some (.due errand.purpose k)) (hs : g.sessions[k]? = some s)
    (haccounts : Marks g h i (.waiting errand.purpose k s.callers.length))
    (hsessions : h.sessions = g.sessions.set k (s.call errand cancelled).2) :
    Passing g h (some ⟨i, errand.purpose, k, s.callers.length⟩) none
  | answered (i : Nat) (p : Purpose) (k caller : Nat) (outcome : Change.Outcome)
    (hfrom : g.account? i = some (.waiting p k caller))
    (hover : g.outcome? k caller = some outcome) (haccounts : Marks g h i (.next k p))
    (hsessions : h.sessions = g.sessions) : Passing g h none none
  | moved (k : Nat) (s : Session) (m : Session.Move)
    (hm : ∀ errand cancelled, m ≠ .call errand cancelled) (hs : g.sessions[k]? = some s)
    (haccounts : ∀ i, h.account? i = g.account? i)
    (hsessions : h.sessions =
      g.sessions.set k (Session.Scene.after ⟨s, g.cluster⟩ m).session) : Passing g h none none

theorem account?_onStream (g : Gate) (i : Nat) (f : Stream → Stream) (j : Nat) :
    (g.onStream i f).account? j =
      if j = i then (g.streams[i]?).map fun s => (f s).stage.account else g.account? j := by
  simp only [account?, onStream, List.getElem?_modify]
  by_cases hj : j = i
  · subst hj
    simp [Option.map_map, Function.comp_def]
  · simp [hj, Ne.symm hj]

/-- A stream's handler moves on. -/
theorem marks_onStream {g : Gate} {i : Nat} {s : Stream} (hs : g.streams[i]? = some s)
    {f : Stream → Stream} {a : Account} (ha : (f s).stage.account = a) :
    Marks g (g.onStream i f) i a := by
  intro j
  rw [account?_onStream, hs]
  simp [ha]

theorem accounts_onStream {g : Gate} {i : Nat} {f : Stream → Stream}
    (hf : ∀ s, (f s).stage.account = s.stage.account) (j : Nat) :
    (g.onStream i f).account? j = g.account? j := by
  rw [account?_onStream]
  by_cases hj : j = i
  · simp [hj, hf, account?]
  · simp [hj]

/-! ### Clients and commands -/

theorem Passing.onStream {g : Gate} {i : Nat} {f : Stream → Stream}
    (hf : ∀ s, (f s).stage.account = s.stage.account) : Passing g (g.onStream i f) none none :=
  .idle (accounts_onStream hf) rfl

theorem passing_arrive (g : Gate) (inbox : List Terminal.Feed) (limit : Option Nat) :
    Passing g (g.arrive inbox limit).2 none none := by
  apply Passing.arrived
  · intro j
    simp only [account?, arrive, List.getElem?_append]
    by_cases hlt : j < g.streams.length
    · simp [hlt, Nat.ne_of_lt hlt]
    · by_cases hj : j = g.streams.length
      · simp [hj, Stream.start, Stage.account]
      · have hbeyond : j - g.streams.length ≠ 0 := by omega
        simp [hlt, hj, hbeyond]
  · rfl

theorem passing_depart (g : Gate) (i : Nat) : Passing g (g.depart i) none none := by
  have hcancelled : Passing g (g.onStream i fun s => { s with cancelled := true }) none none :=
    .onStream fun _ => rfl
  unfold depart
  cases hs : g.streams[i]? with
  | none => exact .idle (fun _ => rfl) rfl
  | some s =>
      simp only
      split
      · split
        · rename_i k caller _
          cases hsession : g.sessions[k]? with
          | none =>
              apply Passing.idle
              · exact accounts_onStream fun _ => rfl
              · exact modify_of_none hsession _
          | some session =>
              apply Passing.moved k session (.leave caller) (by simp) hsession
              · exact accounts_onStream fun _ => rfl
              · exact modify_of_some hsession _
        · exact hcancelled
      · exact .idle (fun _ => rfl) rfl

theorem account_close (s : Stream) : s.close.stage.account = s.stage.account := by
  unfold Stream.close
  split
  · rename_i hstage
    split
    · rfl
    · rw [hstage]
      rfl
  · rfl

theorem account_listen (s : Stream) : (s.listen?.getD s).stage.account = s.stage.account := by
  unfold Stream.listen?
  split
  · rename_i a _
    cases a.reader.step s.inbox <;> rfl
  · rfl

theorem passing_launch (g : Gate) : Passing g g.launch none none := by
  unfold launch
  split
  · exact .idle (fun _ => rfl) rfl
  · split
    · rename_i i _ _ _
      exact .idle (accounts_onStream fun _ => rfl) rfl
    · exact .idle (fun _ => rfl) rfl

theorem passing_read (g : Gate) (i : Nat) : Passing g (g.read i).2 none none := by
  unfold read
  split
  · exact .idle (fun _ => rfl) rfl
  · exact .onStream fun _ => rfl

theorem passing_write (g : Gate) (i : Nat) (channel : Channel) (data : Bytes) :
    Passing g (g.write i channel data).2 none none := by
  unfold write
  split
  · exact .idle (fun _ => rfl) rfl
  · exact .onStream fun _ => rfl

theorem passing_finish (g : Gate) (i : Nat) (outcome : Except Failure Unit) :
    Passing g (g.finish i outcome) none none := by
  apply Passing.onStream
  intro s
  split <;> rfl

theorem passing_onSession (g : Gate) (k : Nat) (deed : Deed) :
    Passing g (g.onSession k (deed.move g.clock)) none none := by
  cases hs : g.sessions[k]? with
  | none =>
      rw [onSession_of_none hs]
      exact .idle (fun _ => rfl) rfl
  | some s =>
      rw [onSession_of_some hs]
      apply Passing.moved k s (deed.move g.clock)
      · cases deed <;> simp [Deed.move]
      · exact hs
      · intro _
        rfl
      · rfl

/-! ### Handlers -/

/-- Every stream that is due calls a session that there is. -/
def Housed (g : Gate) : Prop :=
  ∀ i p k, g.account? i = some (.due p k) → k < g.sessions.length

theorem account_takeFirst {s : Stream} (hstage : s.stage = .awaiting) :
    s.takeFirst.stage.account = .before ∨ s.takeFirst.stage.account = .gone := by
  unfold Stream.takeFirst
  split
  · left
    rw [hstage]
    rfl
  · rename_i feed _ _
    cases feed with
    | message r =>
        simp only [afterFirst]
        split
        · exact .inl rfl
        · exact .inr rfl
    | finished => exact .inr rfl
    | broken f => exact .inr rfl

theorem account_serve {s : Stream} {k : Nat} {serving : Terminal.Serving}
    (hstage : s.stage = .serving k serving) (other : Terminal.Serving) :
    (s.serve k other).stage.account = .due .detach k := by
  unfold Stream.serve
  split
  · rw [hstage]
    rfl
  · simp only
    split <;> rfl

theorem account_conclude {s : Stream} {k : Nat} (hstage : s.stage = .concluding k) :
    (s.conclude k).stage.account = .due .detach k := by
  unfold Stream.conclude
  split
  · rfl
  · rw [hstage]
    rfl

theorem passing_lookUp {g : Gate} {i : Nat} {s : Stream} (hs : g.streams[i]? = some s)
    (hbefore : s.stage.account = .before) (o : Request.Opening) :
    Passing g (g.lookUp i o) none
      (if canLookUp o.app then some ⟨i, o.app, (g.sessionFor o.app).1⟩ else none) := by
  have hfrom : g.account? i = some .before := by simp [account?, hs, hbefore]
  unfold lookUp
  by_cases hkey : canLookUp o.app = true
  · have hstreams : (g.sessionFor o.app).2.streams = g.streams := by
      unfold sessionFor
      split <;> rfl
    simp only [hkey, if_true]
    apply Passing.joined i o.app hkey hfrom
    · intro j
      rw [enter, account?_onStream, hstreams, hs]
      simp [Stage.account, account?, hstreams]
    · rfl
  · simp only [hkey, Bool.false_eq_true, if_false]
    apply Passing.turnedAway i hfrom
    · exact marks_onStream hs rfl
    · rfl

/-- A stream that is due calls its session. -/
theorem passing_call {g : Gate} {i : Nat} {stream : Stream} (hs : g.streams[i]? = some stream)
    (errand : Session.Errand) {k : Nat} (hdue : stream.stage.account = .due errand.purpose k)
    {s : Session} (hsession : g.sessions[k]? = some s) (cancelled : Bool) {stage : Stage}
    (hstage : stage.account = .waiting errand.purpose k s.callers.length) :
    Passing g ((g.call k errand cancelled).2.enter i stage)
      (some ⟨i, errand.purpose, k, s.callers.length⟩) none := by
  have hcall : (g.call k errand cancelled).2 =
      { g with sessions := g.sessions.set k (s.call errand cancelled).2 } := by
    simp only [call, hsession]
  rw [hcall]
  apply Passing.called i errand cancelled k s
  · simp [account?, hs, hdue]
  · exact hsession
  · exact marks_onStream (g := { g with sessions := _ }) hs hstage
  · rfl

theorem fst_call {g : Gate} {k : Nat} {s : Session} (hs : g.sessions[k]? = some s)
    (errand : Session.Errand) (cancelled : Bool) :
    (g.call k errand cancelled).1 = s.callers.length := by
  simp only [call, hs, Session.call]

/-- A stream that has been told how attaching ended is due to detach, if it was
told anything. -/
theorem passing_afterOpening {g : Gate} {i : Nat} {s : Stream} (hs : g.streams[i]? = some s)
    {o : Request.Opening} {k caller : Nat} (hstage : s.stage.account = .waiting .attach k caller)
    {outcome : Change.Outcome} (hover : g.outcome? k caller = some outcome) :
    Passing g (g.afterOpening i o k outcome) none none := by
  have hfrom : g.account? i = some (.waiting .attach k caller) := by simp [account?, hs, hstage]
  unfold afterOpening
  split
  · apply Passing.answered i .attach k caller _ hfrom hover
    · exact marks_onStream hs rfl
    · rfl
  · exact .idle (fun _ => rfl) rfl
  · apply Passing.answered i .attach k caller _ hfrom hover
    · exact marks_onStream hs rfl
    · rfl

theorem passing_handle {g : Gate} (hhoused : Housed g) (i : Nat) :
    Passing g (g.handle i) (g.call? (.handle i)) (g.join? (.handle i)) := by
  have hidle : Passing g g none none := .idle (fun _ => rfl) rfl
  cases hs : g.streams[i]? with
  | none => simpa [handle, hs, call?, join?] using hidle
  | some s =>
      have hfrom : g.account? i = some s.stage.account := by simp [account?, hs]
      -- the handler moves on by itself and is where it was with the sessions
      have hstays : ∀ f : Stream → Stream, (f s).stage.account = s.stage.account →
          Passing g (g.onStream i f) none none := by
        intro f hf
        apply Passing.idle
        · intro j
          rw [marks_onStream hs hf j]
          by_cases hj : j = i
          · simp [hj, hfrom]
          · simp [hj]
        · rfl
      have hquiet : s.stage.calls? = none → s.stage.joins? = none →
          Passing g (g.handle i) none none →
          Passing g (g.handle i) (g.call? (.handle i)) (g.join? (.handle i)) := by
        intro hcalls hjoins hpassing
        simpa [call?, join?, hs, hcalls, hjoins] using hpassing
      cases hstage : s.stage with
      | awaiting =>
          apply hquiet (by rw [hstage]; rfl) (by rw [hstage]; rfl)
          simp only [handle, hs, hstage]
          rcases account_takeFirst hstage with hbefore | hgone
          · exact hstays _ (by rw [hbefore, hstage]; rfl)
          · apply Passing.turnedAway i
            · rw [hfrom, hstage]
              rfl
            · exact marks_onStream hs hgone
            · rfl
      | admitted o =>
          have hcall : g.call? (.handle i) = none := by simp [call?, hs, hstage, Stage.calls?]
          have hjoin : g.join? (.handle i) =
              if canLookUp o.app then some ⟨i, o.app, (g.sessionFor o.app).1⟩ else none := by
            by_cases hkey : canLookUp o.app = true <;>
              simp [join?, hs, hstage, Stage.joins?, hkey]
          rw [hcall, hjoin]
          simp only [handle, hs, hstage]
          exact passing_lookUp hs (by rw [hstage]; rfl) o
      | known o k =>
          have hdue : s.stage.account = .due .attach k := by rw [hstage]; rfl
          obtain ⟨session, hsession⟩ : ∃ session, g.sessions[k]? = some session :=
            ⟨_, List.getElem?_eq_getElem (hhoused i .attach k (by rw [hfrom, hdue]))⟩
          have hcall : g.call? (.handle i) = some ⟨i, .attach, k, session.callers.length⟩ := by
            simp [call?, hs, hstage, Stage.calls?, hsession]
          have hjoin : g.join? (.handle i) = none := by simp [join?, hs, hstage, Stage.joins?]
          rw [hcall, hjoin]
          simp only [handle, hs, hstage]
          apply passing_call hs (.attach g.openTimeout) hdue hsession
          simp only [Stage.account, fst_call hsession, Session.Errand.purpose]
      | opening o k caller =>
          apply hquiet (by rw [hstage]; rfl) (by rw [hstage]; rfl)
          simp only [handle, hs, hstage]
          cases hover : g.outcome? k caller with
          | none => exact hidle
          | some outcome => exact passing_afterOpening hs (by rw [hstage]; rfl) hover
      | serving k serving =>
          apply hquiet (by rw [hstage]; rfl) (by rw [hstage]; rfl)
          simp only [handle, hs, hstage]
          exact hstays _ (by rw [account_serve hstage, hstage]; rfl)
      | concluding k =>
          apply hquiet (by rw [hstage]; rfl) (by rw [hstage]; rfl)
          simp only [handle, hs, hstage]
          exact hstays _ (by rw [account_conclude hstage, hstage]; rfl)
      | leaving k status =>
          have hdue : s.stage.account = .due .detach k := by rw [hstage]; rfl
          obtain ⟨session, hsession⟩ : ∃ session, g.sessions[k]? = some session :=
            ⟨_, List.getElem?_eq_getElem (hhoused i .detach k (by rw [hfrom, hdue]))⟩
          have hcall : g.call? (.handle i) = some ⟨i, .detach, k, session.callers.length⟩ := by
            simp [call?, hs, hstage, Stage.calls?, hsession]
          have hjoin : g.join? (.handle i) = none := by simp [join?, hs, hstage, Stage.joins?]
          rw [hcall, hjoin]
          simp only [handle, hs, hstage]
          apply passing_call hs .detach hdue hsession
          simp only [Stage.account, fst_call hsession, Session.Errand.purpose]
      | closing k caller status =>
          apply hquiet (by rw [hstage]; rfl) (by rw [hstage]; rfl)
          simp only [handle, hs, hstage]
          cases hover : g.outcome? k caller with
          | none => exact hidle
          | some outcome =>
              apply Passing.answered i .detach k caller outcome
              · rw [hfrom, hstage]
                rfl
              · exact hover
              · exact marks_onStream hs rfl
              · rfl
      | ended status =>
          simpa [handle, hs, hstage, call?, join?, Stage.calls?, Stage.joins?] using hidle

/-- Every move is of one of the kinds. -/
theorem passing_after {g : Gate} (hhoused : Housed g) (m : Move) :
    Passing g (g.after m) (g.call? m) (g.join? m) := by
  have hidle : ∀ h : Gate, h.streams = g.streams → h.sessions = g.sessions →
      Passing g h none none := by
    intro h hstreams hsessions
    exact .idle (fun i => by simp only [account?, hstreams]) hsessions
  cases m with
  | arrive inbox limit => exact g.passing_arrive inbox limit
  | feed i f => exact .onStream fun _ => rfl
  | depart i => exact g.passing_depart i
  | close i => exact .onStream account_close
  | handle i => exact passing_handle hhoused i
  | listen i => exact .onStream account_listen
  | launch => exact g.passing_launch
  | read i => exact g.passing_read i
  | write i channel data => exact g.passing_write i channel data
  | finish i outcome => exact g.passing_finish i outcome
  | session k deed => exact g.passing_onSession k deed
  | elsewhere cluster => exact hidle _ rfl rfl
  | pass seconds => exact hidle _ rfl rfl

end AttachGate.Gate
