import AttachGate.Proofs.Coordinator.Completion

/-!
# Who calls an intent off

The cancel flag of an intent is set by one thing only: a request for the other
phase that finds the intent registered and is answered with a newer one.  What the
apply function sees of the flag at its work is never ahead of it.
-/

namespace AttachGate

variable {ω ρ α : Type}

theorem Phase.eq_other_of_ne {p q : Phase} (hne : p ≠ q) : q = p.other := by
  cases p <;> cases q <;> first | rfl | exact absurd rfl hne

namespace Coordinator

/-- In the course of a coordinator the other phase was requested while an intent
was registered, and the request was answered with a newer one. -/
def Overruled (past : Past ω ρ α) (i : Intent ρ α) : Prop :=
  ∃ b, (b, .request i.phase.other) ∈ past ∧ b.registered = some i.token ∧
    i.token < (b.request i.phase.other).1

theorem Overruled.mono {past later : Past ω ρ α} {i j : Intent ρ α} (hi : Overruled past i)
    (htoken : j.token = i.token) (hphase : j.phase = i.phase) :
    Overruled (past ++ later) j := by
  obtain ⟨b, hmem, hregistered, hnewer⟩ := hi
  unfold Overruled
  rw [htoken, hphase]
  exact ⟨b, List.mem_append_left later hmem, hregistered, hnewer⟩

/-- The cancel flag of an intent fits what was requested, and what the apply
function has seen of it. -/
structure Flagged (past : Past ω ρ α) (i : Intent ρ α) : Prop where
  overruled : i.cancelled = true → Overruled past i
  seen : ∀ world, (world, true) ∈ looks past i.token → i.cancelled = true

theorem flagged_create {past : Past ω ρ α} {token : Nat} (hturns : turns past token = [])
    (phase : Phase) : Flagged past (Intent.create token phase) := by
  constructor <;> simp [Intent.create, looks, hturns]

theorem looks_request (past : Past ω ρ α) (c : Coordinator ρ α) (phase : Phase) (token : Nat) :
    looks (past ++ [(c, .request phase)]) token = looks past token := by
  simp only [looks, turns_request]

/-- A request that supersedes the registered intent sets its flag, and no other. -/
theorem Flagged.request {past : Past ω ρ α} {c : Coordinator ρ α} (hc : c.Orderly)
    {i : Intent ρ α} (hi : Flagged past i) (hfound : c.intent? i.token = some i)
    (phase : Phase) {j : Intent ρ α} (hj : (c.request phase).2.intent? i.token = some j) :
    Flagged (past ++ [(c, .request phase)]) j := by
  have hkept : Flagged (past ++ [(c, .request phase)]) i := by
    refine ⟨fun hcancelled => (hi.overruled hcancelled).mono rfl rfl, ?_⟩
    rw [looks_request]
    exact hi.seen
  rcases hc.request_cases phase with ⟨_, _, _, _, hsame⟩ | ⟨hother, hnew⟩
  · rw [hsame, hfound] at hj
    cases hj
    exact hkept
  · rw [hnew, hc.intent?_supersede phase hfound] at hj
    cases hj
    rcases hc.calledOff_cases hfound with hsame | ⟨hcancel, hlatest, houtstanding⟩
    · rw [hsame]
      exact hkept
    · rw [hcancel]
      refine ⟨fun _ => ⟨c, ?_, ?_, ?_⟩, fun _ _ => rfl⟩
      · have hphase := Phase.eq_other_of_ne (hother i hlatest houtstanding)
        simp [Intent.cancel, ← hphase]
      · exact (hc.registered_iff i.token).mpr ⟨i, hlatest, rfl, houtstanding⟩
      · have hbound := (hc.numbered.token_le (mem_of_intent? hfound)).2
        have hphase := Phase.eq_other_of_ne (hother i hlatest houtstanding)
        simp only [Intent.cancel, ← hphase, hnew, token_supersede]
        omega

theorem Turned.cancelled {a : Appliers ω ρ α} {label : Text} {world : ω} {i j : Intent ρ α}
    (hturned : Turned a label world i j) : j.cancelled = i.cancelled := by
  cases hturned <;> rfl

/-- In its turn the apply function sees the flag as it is. -/
theorem Flagged.turn {a : Appliers ω ρ α} {past : Past ω ρ α} {c : Coordinator ρ α}
    {i j : Intent ρ α} (hi : Flagged past i) (hfound : c.intent? i.token = some i) {world : ω}
    (hturned : Turned a c.label world i j) :
    Flagged (past ++ [(c, .turn i.token world)]) j := by
  obtain ⟨htoken, hphase⟩ := hturned.fields
  constructor
  · intro hcancelled
    rw [hturned.cancelled] at hcancelled
    exact (hi.overruled hcancelled).mono htoken hphase
  · intro seen hseen
    rw [hturned.cancelled]
    rw [htoken, (accounts_turn past hfound world).2.1, List.mem_append] at hseen
    rcases hseen with hold | hnew
    · exact hi.seen seen hold
    · cases hrunner : i.runner <;> simp_all [Intent.look?]

theorem Flagged.of_turns {past : Past ω ρ α} {i : Intent ρ α} (hi : Flagged past i)
    {entry : Coordinator ρ α × Act ω}
    (hturns : turns (past ++ [entry]) i.token = turns past i.token) :
    Flagged (past ++ [entry]) i := by
  refine ⟨fun hcancelled => (hi.overruled hcancelled).mono rfl rfl, ?_⟩
  unfold looks
  rw [hturns]
  exact hi.seen

theorem flagged_perform {a : Appliers ω ρ α} {label : Text} {past : Past ω ρ α}
    {c : Coordinator ρ α} (hc : Audited a label past c)
    (hflagged : ∀ token i, c.intent? token = some i → Flagged past i) (act : Act ω) {token : Nat}
    {j : Intent ρ α} (hj : (c.perform a act).intent? token = some j) :
    Flagged (past ++ [(c, act)]) j := by
  cases act with
  | request phase =>
      rcases hc.orderly.intent?_request phase hj with ⟨i, hi, _⟩ | ⟨hnone, rfl⟩
      · have htoken := token_of_intent? hi
        subst htoken
        exact (hflagged i.token i hi).request hc.orderly hi phase hj
      · exact flagged_create ((turns_request past c phase token).trans (hc.absent token hnone).1)
          phase
  | turn other world =>
      by_cases hother : token = other
      · subst hother
        cases hi : c.intent? token with
        | none =>
            have hsame : c.turn a token world = c := by simp only [turn, hi]
            rw [Coordinator.perform, hsame, hi] at hj
            cases hj
        | some i =>
            have htoken := token_of_intent? hi
            subst htoken
            obtain ⟨k, hk, hturned⟩ := turned_self a hi world
            rw [Coordinator.perform, hk] at hj
            cases hj
            exact (hflagged i.token i hi).turn hi hturned
      · rw [Coordinator.perform, intent?_turn_of_ne a c hother world] at hj
        have htoken := token_of_intent? hj
        subst htoken
        exact (hflagged j.token j hj).of_turns (turns_turn_of_ne past c hother world)

/-- In every course the flags fit. -/
theorem flagged_course (a : Appliers ω ρ α) (label : Text) (acts : List (Act ω)) {token : Nat}
    {i : Intent ρ α} (hi : (acts.foldl (perform a) (start label)).intent? token = some i) :
    Flagged (history (perform a) (start label) acts) i := by
  have hcourse : Audited a label (history (perform a) (start label) acts)
        (acts.foldl (perform a) (start label)) ∧
      ∀ token i, (acts.foldl (perform a) (start label)).intent? token = some i →
        Flagged (history (perform a) (start label) acts) i := by
    apply course_invariant (I := fun past c => Audited a label past c ∧
      ∀ token i, c.intent? token = some i → Flagged past i)
    · exact ⟨audited_start a label, by simp [start, intent?]⟩
    · rintro past c act ⟨haudited, hflagged⟩
      exact ⟨haudited.perform act, fun _ _ hj => flagged_perform haudited hflagged act hj⟩
  exact hcourse.2 token i hi

end Coordinator

end AttachGate
