import AttachGate.Proofs.Gate.Effects
import AttachGate.Proofs.Gate.Roster
import AttachGate.Proofs.Session.Endings

/-!
# How the calls of streams end

The sessions of a gate stay regular as long as remote calls fail only as those of
the control plane do, or as something that was called off.  So a stream that waits
to be attached gets an instance or a failure that its client is told of, and one
that waits to be detached gets no failure that is not passed over.
-/

namespace AttachGate.Gate

open Session (Purpose IsRemote)

def reply? (g : Gate) : Move → Option (Except Failure App.Snapshot)
  | .session k deed => do
    let s ← g.sessions[k]?
    Session.Scene.reply? ⟨s, g.cluster⟩ (deed.move g.clock)
  | _ => none

/-- What the gate brings into its sessions can be reckoned with, and its sessions
are regular. -/
structure Regular (g : Gate) : Prop where
  timeout : ∀ timeout, g.openTimeout = some timeout → timeout.IsReckonable
  clock : ∃ x, g.clock = .float x
  sessions : ∀ (k : Nat) (s : Session), g.sessions[k]? = some s → s.Regular

theorem regular_create {openTimeout : Option Number} {maxStreams : Int} {cluster : Cluster}
    {g : Gate} (hg : create openTimeout maxStreams cluster = .ok g)
    (htimeout : ∀ timeout, openTimeout = some timeout → timeout.IsReckonable) : Regular g := by
  unfold create at hg
  split at hg
  · cases hg
  · cases hg
    exact ⟨htimeout, ⟨_, rfl⟩, by simp⟩

/-! ## One move -/

namespace Regular

variable {g : Gate} (hg : Regular g) {m : Move}

include hg

theorem reckonable_attach : (Session.Errand.attach g.openTimeout).IsReckonable := by
  cases htimeout : g.openTimeout with
  | none => trivial
  | some timeout => exact hg.timeout timeout htimeout

theorem reckonable_of_brings {k : Nat} {move : Session.Move} (hmove : Brings g m k move) :
    move.IsReckonable := by
  cases hmove with
  | attach cancelled => exact hg.reckonable_attach
  | detach => trivial
  | leave caller => trivial
  | deed deed hm =>
      cases deed with
      | take caller =>
          obtain ⟨x, hx⟩ := hg.clock
          simp only [Deed.move, Session.Move.IsReckonable, hx]
          exact Number.isReckonable_float x
      | _ => trivial

end Regular

/-- The remote calls of sessions are those that are made in the moves of the gate. -/
theorem reply?_of_brings {g : Gate} {m : Move} {k : Nat} {s : Session}
    (hs : g.sessions[k]? = some s) {move : Session.Move} (hmove : Brings g m k move)
    {reply : Except Failure App.Snapshot}
    (hreply : Session.Scene.reply? ⟨s, g.cluster⟩ move = some reply) :
    g.reply? m = some reply := by
  cases hmove with
  | attach cancelled => cases hreply
  | detach => cases hreply
  | leave caller => cases hreply
  | deed deed hm =>
      subst hm
      simpa [reply?, hs] using hreply

/-! ## Any course -/

theorem clock_pass {g : Gate} (hclock : ∃ x, g.clock = .float x) (seconds : Number) :
    ∃ x, (g.pass seconds).clock = .float x := by
  obtain ⟨x, hx⟩ := hclock
  have hleft : (Number.float x).operand = .ok x := rfl
  simp only [pass, hx, Number.add, hleft]
  cases seconds.operand with
  | error f => exact ⟨x, rfl⟩
  | ok y => exact ⟨x.add y, rfl⟩

theorem Regular.after {g : Gate} (hg : Regular g) (hbooked : Booked g) {m : Move}
    (hreply : ∀ f, g.reply? m = some (.error f) → IsRemote f) : Regular (g.after m) := by
  have heffect := g.effect_after m
  generalize g.after m = h at heffect
  cases heffect with
  | streams => exact ⟨hg.timeout, hg.clock, hg.sessions⟩
  | created app streams =>
      refine ⟨hg.timeout, hg.clock, ?_⟩
      intro k t ht
      rcases session_of_created ht with hold | rfl
      · exact hg.sessions k t hold
      · exact Session.regular_create app
  | moved k s move streams hs hmove =>
      refine ⟨hg.timeout, hg.clock, ?_⟩
      intro j t ht
      rw [Booked.sessions_set hs] at ht
      split at ht
      · cases ht
        have hsane := hbooked.sane k s hs
        apply Session.Regular.after (w := ⟨s, g.cluster⟩) ⟨hsane.consistent, hsane.posted⟩
          (hg.sessions k s hs) (hg.reckonable_of_brings hmove)
        · intro f hf
          exact hreply f (reply?_of_brings hs hmove hf)
        · intro n hn
          exact hbooked.count_pos hs hn
      · exact hg.sessions j t ht
  | elsewhere cluster => exact ⟨hg.timeout, hg.clock, hg.sessions⟩
  | pass seconds => exact ⟨hg.timeout, clock_pass hg.clock seconds, hg.sessions⟩

/-! ## What streams are told -/

section Told

variable {g : Gate} (hg : Regular g) (hbooked : Booked g) {i k n : Nat}

include hg hbooked

theorem Regular.allows {p : Purpose} (hwaits : g.account? i = some (.waiting p k n))
    {outcome : Change.Outcome} (hover : g.outcome? k n = some outcome) :
    ∃ errand : Session.Errand, errand.purpose = p ∧ errand.Allows outcome := by
  obtain ⟨taken, hticket⟩ := hbooked.held i p k n hwaits
  simp only [outcome?, Option.bind_eq_some_iff] at hover
  obtain ⟨c, ⟨s, hs, hc⟩, houtcome⟩ := hover
  refine ⟨c.errand, ?_, (hg.sessions k s hs).outcome hc houtcome⟩
  rw [ticket?_of_session hs, Session.ticket?, hc, Option.map_some, Option.some.injEq,
    Prod.mk.injEq] at hticket
  exact hticket.1

/-- A stream that is attached has an instance; otherwise its client is told why not. -/
theorem Regular.opened (hwaits : g.account? i = some (.waiting .attach k n))
    {outcome : Change.Outcome} (hover : g.outcome? k n = some outcome) :
    (∃ running, outcome = .ok (some running)) ∨ ∃ f, outcome = .error f ∧ isTold f = true := by
  obtain ⟨errand, hpurpose, hallows⟩ := hg.allows hbooked hwaits hover
  cases hallows with
  | started timeout running => exact .inl ⟨running, rfl⟩
  | settled found => cases hpurpose
  | failed _ f hf => exact .inr ⟨f, rfl, by rcases hf with h | h <;> simp [isTold, h]⟩
  | gaveUp timeout f hf => exact .inr ⟨f, rfl, by simp [isTold, hf]⟩

/-- A failure to be detached is passed over. -/
theorem Regular.closed (hwaits : g.account? i = some (.waiting .detach k n)) {f : Failure}
    (hover : g.outcome? k n = some (.error f)) : isPassedOver f = true := by
  obtain ⟨errand, hpurpose, hallows⟩ := hg.allows hbooked hwaits hover
  cases hallows with
  | failed _ _ hf => rcases hf with h | h <;> simp [isPassedOver, h]
  | gaveUp timeout _ hf => cases hpurpose

end Told

end AttachGate.Gate
