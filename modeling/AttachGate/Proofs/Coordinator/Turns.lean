import AttachGate.Proofs.Coordinator.Register
import AttachGate.Proofs.Course

/-!
# Requests and turns

A coordinator's callers request phases and the runners of its intents take
their turns, in any order.  What a runner does in its turn is settled by where
it stands; while its work goes on, that is up to the apply function of its
phase, which may look at the world and at the cancel flag of its own intent,
may go on for as long as it likes, and may return or fail as it likes.

Whatever the order, the registered intent is the newest one, it is not called
off, and its runner has not looked at the register; every other intent is
called off or has its work behind it.
-/

namespace AttachGate

/-- The apply functions of a coordinator as machines.  `ω` is what they see of
the world. -/
structure Appliers (ω ρ α : Type) where
  first : Phase → ρ
  next : Phase → ω → Bool → ρ → ρ ⊕ Except Failure α

namespace Coordinator

variable {ω ρ α : Type}

def turn (a : Appliers ω ρ α) (c : Coordinator ρ α) (token : Nat) (world : ω) :
    Coordinator ρ α :=
  match c.intent? token with
  | none => c
  | some i =>
    match i.runner with
    | .created => c.begin token (a.first i.phase)
    | .working work =>
      match a.next i.phase world i.cancelled work with
      | .inl next => c.move token fun _ => next
      | .inr outcome => c.finish token outcome
    | .returned _ => c.clear token
    | .cleared _ => c.resolve token
    | .resolved _ => c.notify token
    | .notified _ => c

inductive Act (ω : Type)
  | request (phase : Phase)
  | turn (token : Nat) (world : ω)

def perform (a : Appliers ω ρ α) (c : Coordinator ρ α) : Act ω → Coordinator ρ α
  | .request phase => (c.request phase).2
  | .turn token world => c.turn a token world

/-! ## Order -/

theorem turn_eq_after (a : Appliers ω ρ α) (c : Coordinator ρ α) (token : Nat) (world : ω) :
    c.turn a token world = c ∨
      ∃ e : Event ρ α, e.isRequest = false ∧ c.turn a token world = c.after e := by
  cases hi : c.intent? token with
  | none => exact .inl (by simp only [turn, hi])
  | some i =>
      cases hrunner : i.runner with
      | created =>
          exact .inr ⟨.begin token (a.first i.phase), rfl, by simp only [turn, hi, hrunner, after]⟩
      | working work =>
          cases hnext : a.next i.phase world i.cancelled work with
          | inl next =>
              exact .inr ⟨.move token fun _ => next, rfl,
                by simp only [turn, hi, hrunner, hnext, after]⟩
          | inr outcome =>
              exact .inr ⟨.finish token outcome, rfl,
                by simp only [turn, hi, hrunner, hnext, after]⟩
      | returned outcome => exact .inr ⟨.clear token, rfl, by simp only [turn, hi, hrunner, after]⟩
      | cleared outcome => exact .inr ⟨.resolve token, rfl, by simp only [turn, hi, hrunner, after]⟩
      | resolved outcome => exact .inr ⟨.notify token, rfl, by simp only [turn, hi, hrunner, after]⟩
      | notified outcome => exact .inl (by simp only [turn, hi, hrunner])

theorem perform_eq_after (a : Appliers ω ρ α) (c : Coordinator ρ α) (act : Act ω) :
    c.perform a act = c ∨ ∃ e : Event ρ α, c.perform a act = c.after e := by
  cases act with
  | request phase => exact .inr ⟨.request phase, rfl⟩
  | turn token world =>
      rcases c.turn_eq_after a token world with hsame | ⟨e, _, hafter⟩
      · exact .inl hsame
      · exact .inr ⟨e, hafter⟩

theorem Orderly.perform {c : Coordinator ρ α} (hc : c.Orderly) (a : Appliers ω ρ α)
    (act : Act ω) : (c.perform a act).Orderly := by
  rcases c.perform_eq_after a act with hsame | ⟨e, hafter⟩
  · rw [hsame]
    exact hc
  · rw [hafter]
    exact hc.after e

theorem orderly_course (a : Appliers ω ρ α) (label : Text) (acts : List (Act ω)) :
    (acts.foldl (perform a) (start label)).Orderly := by
  apply course_invariant (I := fun _ c => Orderly c)
  · exact orderly_start label
  · intro _ c act hc
    exact hc.perform a act

/-! ## Tokens -/

theorem Numbered.tokens {c : Coordinator ρ α} (hc : c.Numbered) :
    c.intents.map Intent.token = List.range' 1 c.intents.length := by
  apply List.ext_getElem
  · simp
  · intro k hk _
    have hlt : k < c.intents.length := by simpa using hk
    have htoken := hc k c.intents[k] (List.getElem?_eq_getElem hlt)
    rw [List.getElem_map, htoken, List.getElem_range']
    omega

theorem length_le_perform {c : Coordinator ρ α} (hc : c.Orderly) (a : Appliers ω ρ α)
    (act : Act ω) : c.intents.length ≤ (c.perform a act).intents.length := by
  cases act with
  | request phase =>
      rcases hc.request_cases phase with ⟨_, _, _, _, hsame⟩ | ⟨_, hnew⟩
      · simp [Coordinator.perform, hsame]
      · simp [Coordinator.perform, hnew]
  | turn token world =>
      rcases c.turn_eq_after a token world with hsame | ⟨e, he, hafter⟩
      · simp [Coordinator.perform, hsame]
      · obtain ⟨g, _, hintents⟩ := c.intents_after_of_not_request he
        simp [Coordinator.perform, hafter, hintents]

/-- Only the registered intent may be at its work without being called off. -/
theorem Orderly.registered_of_working {c : Coordinator ρ α} (hc : c.Orderly) {i : Intent ρ α}
    (hmem : i ∈ c.intents) (hworking : i.work?.isSome = true) (hkept : i.cancelled = false) :
    c.latest? = some i := by
  have hidle : i.runner.result?.isSome = false := by
    cases hrunner : i.runner <;> simp_all [Intent.work?, Runner.result?]
  by_cases hnewest : i.token = c.intents.length
  · exact hc.numbered.latest?_of_token hmem hnewest
  · have hlt : i.token < c.intents.length :=
      Nat.lt_of_le_of_ne (hc.numbered.token_le hmem).2 hnewest
    rcases hc.earlier i hmem hlt with hcancelled | hresult
    · simp [hkept] at hcancelled
    · simp [hidle] at hresult

/-- In every course of requests and turns: tokens increase in the order of
creation; the registered intent is the newest one, is not called off, and its
runner has not looked at the register; every other intent is called off or its
apply function has returned; so at most one intent that is not called off is at
its work.  A request is answered with the registered intent if that is of the
wanted phase, and with a new intent of a larger token otherwise. -/
theorem newest_registered (a : Appliers ω ρ α) (label : Text) (acts : List (Act ω))
    (c : Coordinator ρ α) (hc : c = acts.foldl (perform a) (start label)) :
    (c.intents.map Intent.token).Pairwise (· < ·) ∧
    (∀ act, c.intents.map Intent.token <+: (c.perform a act).intents.map Intent.token) ∧
    (∀ token, c.registered = some token →
      ∃ i ∈ c.intents, i.token = token ∧ (∀ j ∈ c.intents, j.token ≤ token) ∧
        i.cancelled = false ∧ i.runner.isOutstanding = true) ∧
    (∀ i ∈ c.intents, c.registered ≠ some i.token →
      i.cancelled = true ∨ i.runner.result?.isSome = true) ∧
    (∀ i ∈ c.intents, ∀ j ∈ c.intents, i.work?.isSome = true → i.cancelled = false →
      j.work?.isSome = true → j.cancelled = false → i = j) ∧
    (∀ phase i, c.current? = some i → i.phase = phase → c.request phase = (i.token, c)) ∧
    (∀ phase, (∀ i, c.current? = some i → i.phase ≠ phase) →
      (∀ i ∈ c.intents, i.token < (c.request phase).1) ∧
        (c.request phase).2.current? = some (Intent.create (c.request phase).1 phase)) := by
  have horderly : c.Orderly := hc ▸ orderly_course a label acts
  have htokens := horderly.numbered.tokens
  refine ⟨?_, ?_, ?_, ?_, ?_, ?_, ?_⟩
  · rw [htokens]
    exact List.pairwise_lt_range'
  · intro act
    have hlength := length_le_perform horderly a act
    rw [htokens, (horderly.perform a act).numbered.tokens]
    refine ⟨List.range' (1 + c.intents.length) ((c.perform a act).intents.length - c.intents.length),
      ?_⟩
    rw [List.range'_append_1]
    congr 1
    omega
  · intro token hregistered
    obtain ⟨i, hlatest, htoken, houtstanding⟩ := (horderly.registered_iff token).mp hregistered
    have hmem : i ∈ c.intents := List.mem_of_getLast? hlatest
    have hnewest := horderly.numbered.token_latest hlatest
    refine ⟨i, hmem, htoken, ?_, horderly.latest i hlatest, houtstanding⟩
    intro j hj
    have hbound := (horderly.numbered.token_le hj).2
    omega
  · intro i hmem hother
    by_cases hnewest : i.token = c.intents.length
    · right
      have hlatest := horderly.numbered.latest?_of_token hmem hnewest
      have hdone : ¬ i.runner.isOutstanding = true := fun houtstanding =>
        hother ((horderly.registered_iff _).mpr ⟨i, hlatest, rfl, houtstanding⟩)
      rw [Runner.isSome_result?_iff]
      simp only [Runner.isOutstanding, decide_eq_true_eq] at hdone
      omega
    · have hbound := (horderly.numbered.token_le hmem).2
      exact horderly.earlier i hmem (by omega)
  · intro i hi j hj hiwork hikept hjwork hjkept
    have hilatest := horderly.registered_of_working hi hiwork hikept
    have hjlatest := horderly.registered_of_working hj hjwork hjkept
    rw [hilatest] at hjlatest
    exact Option.some.inj hjlatest
  · intro phase i hcurrent hphase
    simp [request, hcurrent, hphase]
  · intro phase hnone
    rcases horderly.request_cases phase with ⟨i, hlatest, houtstanding, hphase, _⟩ | ⟨_, hnew⟩
    · have hcurrent := horderly.current?_eq_some_iff.mpr ⟨hlatest, houtstanding⟩
      exact (hnone i hcurrent hphase).elim
    · rw [hnew]
      constructor
      · intro i hmem
        have hbound := (horderly.numbered.token_le hmem).2
        simp only [token_supersede]
        omega
      · have hsupersede := horderly.supersede phase
        rw [hsupersede.current?_eq_some_iff]
        simp [Intent.create, Runner.isOutstanding, Runner.progress]

namespace Sample

/-- Work that goes on until the world says what comes of it. -/
def appliers : Appliers (Option (Except Failure Nat)) Unit Nat where
  first _ := ()
  next _ told _ _ :=
    match told with
    | some outcome => .inr outcome
    | none => .inl ()

/-- A start begins its work and is called off by a stop; its work is over after
all, and it is late to look at the register. -/
def late : List (Act (Option (Except Failure Nat))) :=
  [.request .live, .turn 1 none, .request .rest, .turn 1 (some (.ok 7)), .turn 1 none]

end Sample

open Sample in
theorem newest_registered_late :
    (late.foldl (perform appliers) (start [])).registered = some 2 ∧
    ∃ i ∈ (late.foldl (perform appliers) (start [])).intents, i.token = 2 ∧
      (∀ j ∈ (late.foldl (perform appliers) (start [])).intents, j.token ≤ 2) ∧
      i.cancelled = false ∧ i.runner.isOutstanding = true := by
  have hregistered : (late.foldl (perform appliers) (start [])).registered = some 2 := rfl
  obtain ⟨_, _, hnewest, _⟩ := newest_registered appliers [] late _ rfl
  exact ⟨hregistered, hnewest 2 hregistered⟩

end Coordinator

end AttachGate
