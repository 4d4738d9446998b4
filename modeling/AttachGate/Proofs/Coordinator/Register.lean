import AttachGate.Coordinator

/-!
# The register of a coordinator

Requests and runners take their transitions in any order.  Every transition
keeps a coordinator *orderly*: tokens count the intents in the order of their
creation, the registered intent is the newest one as long as its runner has not
looked at the register, the newest intent is never called off, and every
earlier one is called off or has its work behind it.

What has once been said of an intent stays true of it: its token and its phase
do not change, its runner never goes back, and an outcome is never replaced.
-/

namespace AttachGate

/-! ## Runners -/

namespace Runner

variable {ρ α : Type}

/-- How the work has ended, whether or not callers see it. -/
def result? : Runner ρ α → Option (Except Failure α)
  | .returned outcome | .cleared outcome | .resolved outcome | .notified outcome => some outcome
  | _ => none

/-- How many transitions the runner has behind it, the work counted as one. -/
def progress : Runner ρ α → Nat
  | .created => 0
  | .working _ => 1
  | .returned _ => 2
  | .cleared _ => 3
  | .resolved _ => 4
  | .notified _ => 5

/-- Whether the runner has yet to look at the register. -/
def isOutstanding (r : Runner ρ α) : Bool := r.progress ≤ 2

theorem outcome?_eq_some_iff {r : Runner ρ α} {outcome : Except Failure α} :
    r.outcome? = some outcome ↔ r.result? = some outcome ∧ 4 ≤ r.progress := by
  cases r <;> simp [outcome?, result?, progress]

theorem result?_of_outcome? {r : Runner ρ α} {outcome : Except Failure α}
    (houtcome : r.outcome? = some outcome) : r.result? = some outcome :=
  (outcome?_eq_some_iff.mp houtcome).1

theorem isSome_result?_iff {r : Runner ρ α} : r.result?.isSome = true ↔ 2 ≤ r.progress := by
  cases r <;> simp [result?, progress]

end Runner

/-! ## Intents through time -/

namespace Intent

variable {ρ α : Type}

/-- One intent at two times, the second not before the first. -/
structure Precedes (i j : Intent ρ α) : Prop where
  token : j.token = i.token
  phase : j.phase = i.phase
  cancelled : i.cancelled = true → j.cancelled = true
  progress : i.runner.progress ≤ j.runner.progress
  result : ∀ outcome, i.runner.result? = some outcome → j.runner.result? = some outcome

theorem Precedes.refl (i : Intent ρ α) : i.Precedes i :=
  ⟨rfl, rfl, id, Nat.le_refl _, fun _ h => h⟩

theorem Precedes.trans {i j k : Intent ρ α} (hij : i.Precedes j) (hjk : j.Precedes k) :
    i.Precedes k where
  token := hjk.token.trans hij.token
  phase := hjk.phase.trans hij.phase
  cancelled h := hjk.cancelled (hij.cancelled h)
  progress := Nat.le_trans hij.progress hjk.progress
  result outcome h := hjk.result outcome (hij.result outcome h)

theorem Precedes.outcome {i j : Intent ρ α} (hij : i.Precedes j) {outcome : Except Failure α}
    (houtcome : i.runner.outcome? = some outcome) : j.runner.outcome? = some outcome := by
  rw [Runner.outcome?_eq_some_iff] at houtcome ⊢
  exact ⟨hij.result outcome houtcome.1, Nat.le_trans houtcome.2 hij.progress⟩

theorem Precedes.outstanding {i j : Intent ρ α} (hij : i.Precedes j)
    (hj : j.runner.isOutstanding = true) : i.runner.isOutstanding = true := by
  have hprogress := hij.progress
  simp only [Runner.isOutstanding, decide_eq_true_eq] at hj ⊢
  omega

/-- One transition of an intent's own runner. -/
structure Advances (i j : Intent ρ α) : Prop extends i.Precedes j where
  flag : j.cancelled = i.cancelled

theorem Advances.refl (i : Intent ρ α) : i.Advances i := ⟨.refl i, rfl⟩

theorem precedes_cancel (i : Intent ρ α) : i.Precedes i.cancel :=
  ⟨rfl, rfl, fun _ => rfl, Nat.le_refl _, fun _ h => h⟩

/-- A runner that has gone on without losing its outcome. -/
theorem advances_of_runner {i : Intent ρ α} {r : Runner ρ α}
    (hprogress : i.runner.progress ≤ r.progress)
    (hresult : ∀ outcome, i.runner.result? = some outcome → r.result? = some outcome) :
    i.Advances { i with runner := r } :=
  ⟨⟨rfl, rfl, id, hprogress, hresult⟩, rfl⟩

theorem advances_begin (first : ρ) (i : Intent ρ α) : i.Advances (i.begin first) := by
  cases hrunner : i.runner <;> simp only [begin, hrunner]
  case created =>
    apply advances_of_runner <;> simp [hrunner, Runner.progress, Runner.result?]
  all_goals exact Advances.refl i

theorem advances_move (next : ρ → ρ) (i : Intent ρ α) : i.Advances (i.move next) := by
  cases hrunner : i.runner <;> simp only [move, hrunner]
  case working work =>
    apply advances_of_runner <;> simp [hrunner, Runner.progress, Runner.result?]
  all_goals exact Advances.refl i

theorem advances_finish (label : Text) (outcome : Except Failure α) (i : Intent ρ α) :
    i.Advances (i.finish label outcome) := by
  cases hrunner : i.runner <;> simp only [finish, hrunner]
  case working work =>
    apply advances_of_runner <;> simp [hrunner, Runner.progress, Runner.result?]
  all_goals exact Advances.refl i

theorem advances_clear (i : Intent ρ α) : i.Advances i.clear := by
  cases hrunner : i.runner <;> simp only [clear, hrunner]
  case returned outcome =>
    apply advances_of_runner <;> simp [hrunner, Runner.progress, Runner.result?]
  all_goals exact Advances.refl i

theorem advances_resolve (i : Intent ρ α) : i.Advances i.resolve := by
  cases hrunner : i.runner <;> simp only [resolve, hrunner]
  case cleared outcome =>
    apply advances_of_runner <;> simp [hrunner, Runner.progress, Runner.result?]
  all_goals exact Advances.refl i

theorem advances_notify (i : Intent ρ α) : i.Advances i.notify := by
  cases hrunner : i.runner <;> simp only [notify, hrunner]
  case resolved outcome =>
    apply advances_of_runner <;> simp [hrunner, Runner.progress, Runner.result?]
  all_goals exact Advances.refl i

/-! ### Which transitions look at the register -/

theorem isOutstanding_begin (first : ρ) (i : Intent ρ α) :
    (i.begin first).runner.isOutstanding = i.runner.isOutstanding := by
  cases hrunner : i.runner <;>
    simp [begin, hrunner, Runner.isOutstanding, Runner.progress]

theorem isOutstanding_move (next : ρ → ρ) (i : Intent ρ α) :
    (i.move next).runner.isOutstanding = i.runner.isOutstanding := by
  cases hrunner : i.runner <;>
    simp [move, hrunner, Runner.isOutstanding, Runner.progress]

theorem isOutstanding_finish (label : Text) (outcome : Except Failure α) (i : Intent ρ α) :
    (i.finish label outcome).runner.isOutstanding = i.runner.isOutstanding := by
  cases hrunner : i.runner <;>
    simp [finish, hrunner, Runner.isOutstanding, Runner.progress]

theorem isOutstanding_resolve (i : Intent ρ α) :
    i.resolve.runner.isOutstanding = i.runner.isOutstanding := by
  cases hrunner : i.runner <;>
    simp [resolve, hrunner, Runner.isOutstanding, Runner.progress]

theorem isOutstanding_notify (i : Intent ρ α) :
    i.notify.runner.isOutstanding = i.runner.isOutstanding := by
  cases hrunner : i.runner <;>
    simp [notify, hrunner, Runner.isOutstanding, Runner.progress]

theorem isOutstanding_clear {i : Intent ρ α} (hreturned : i.isReturned = true) :
    i.clear.runner.isOutstanding = false := by
  cases hrunner : i.runner <;>
    simp_all [clear, isReturned, Runner.isOutstanding, Runner.progress]

end Intent

/-! ## Transitions of a coordinator -/

namespace Coordinator

variable {ρ α : Type}

inductive Event (ρ α : Type)
  | request (phase : Phase)
  | begin (token : Nat) (first : ρ)
  | move (token : Nat) (next : ρ → ρ)
  | finish (token : Nat) (outcome : Except Failure α)
  | clear (token : Nat)
  | resolve (token : Nat)
  | notify (token : Nat)

def Event.isRequest : Event ρ α → Bool
  | .request _ => true
  | _ => false

def after (c : Coordinator ρ α) : Event ρ α → Coordinator ρ α
  | .request phase => (c.request phase).2
  | .begin token first => c.begin token first
  | .move token next => c.move token next
  | .finish token outcome => c.finish token outcome
  | .clear token => c.clear token
  | .resolve token => c.resolve token
  | .notify token => c.notify token

def latest? (c : Coordinator ρ α) : Option (Intent ρ α) := c.intents.getLast?

/-- A coordinator whose tokens count its intents from one. -/
def Numbered (c : Coordinator ρ α) : Prop :=
  ∀ k i, c.intents[k]? = some i → i.token = k + 1

theorem token_of_intent? {c : Coordinator ρ α} {token : Nat} {i : Intent ρ α}
    (hintent : c.intent? token = some i) : i.token = token := by
  simpa using List.find?_some hintent

theorem mem_of_intent? {c : Coordinator ρ α} {token : Nat} {i : Intent ρ α}
    (hintent : c.intent? token = some i) : i ∈ c.intents :=
  List.mem_of_find?_eq_some hintent

theorem intent?_onIntent (c : Coordinator ρ α) (token : Nat) {f : Intent ρ α → Intent ρ α}
    (hf : ∀ i : Intent ρ α, (f i).token = i.token) (other : Nat) :
    (c.onIntent token f).intent? other =
      (c.intent? other).map fun i => if other = token then f i else i := by
  have hkeep : ∀ i : Intent ρ α, (if i.token = token then f i else i).token = i.token := by
    intro i
    split
    · exact hf i
    · rfl
  simp only [intent?, onIntent, List.find?_map, Function.comp_def, hkeep]
  cases hfound : c.intents.find? (fun i => decide (i.token = other)) with
  | none => rfl
  | some i => simp [token_of_intent? (c := c) hfound]

theorem intent?_onIntent_self {c : Coordinator ρ α} {token : Nat} {i : Intent ρ α}
    (hi : c.intent? token = some i) {f : Intent ρ α → Intent ρ α}
    (hf : ∀ i : Intent ρ α, i.Advances (f i)) :
    (c.onIntent token f).intent? token = some (f i) := by
  simp [intent?_onIntent c token (fun i => (hf i).token) token, hi]

theorem intent?_onIntent_of_ne (c : Coordinator ρ α) {token other : Nat} (hother : other ≠ token)
    {f : Intent ρ α → Intent ρ α} (hf : ∀ i : Intent ρ α, i.Advances (f i)) :
    (c.onIntent token f).intent? other = c.intent? other := by
  simp [intent?_onIntent c token (fun i => (hf i).token) other, hother]

theorem intent?_clear_self {c : Coordinator ρ α} {token : Nat} {i : Intent ρ α}
    (hi : c.intent? token = some i) (hreturned : i.isReturned = true) :
    (c.clear token).intent? token = some i.clear := by
  rw [← intent?_onIntent_self hi Intent.advances_clear]
  simp only [clear, hi, Option.any_some, hreturned, if_true]
  rfl

theorem intent?_clear_of_ne (c : Coordinator ρ α) {token other : Nat} (hother : other ≠ token) :
    (c.clear token).intent? other = c.intent? other := by
  unfold clear
  split
  · exact c.intent?_onIntent_of_ne hother Intent.advances_clear
  · rfl

theorem intent?_notify_self {c : Coordinator ρ α} {token : Nat} {i : Intent ρ α}
    (hi : c.intent? token = some i) (hresolved : i.isResolved = true) :
    (c.notify token).intent? token = some i.notify := by
  rw [← intent?_onIntent_self hi Intent.advances_notify]
  simp only [notify, hi, Option.any_some, hresolved, if_true]
  rfl

theorem intent?_notify_of_ne (c : Coordinator ρ α) {token other : Nat} (hother : other ≠ token) :
    (c.notify token).intent? other = c.intent? other := by
  unfold notify
  split
  · exact c.intent?_onIntent_of_ne hother Intent.advances_notify
  · rfl

namespace Numbered

variable {c : Coordinator ρ α}

theorem intent?_succ (hnumbered : c.Numbered) (k : Nat) :
    c.intent? (k + 1) = c.intents[k]? := by
  cases hfound : c.intent? (k + 1) with
  | some i =>
      obtain ⟨m, hm⟩ := List.mem_iff_getElem?.mp (mem_of_intent? hfound)
      have htoken := hnumbered m i hm
      rw [token_of_intent? hfound] at htoken
      have hindex : m = k := by omega
      rw [← hindex, hm]
  | none =>
      cases hk : c.intents[k]? with
      | none => rfl
      | some i =>
          have hmissing := List.find?_eq_none.mp hfound i (List.mem_of_getElem? hk)
          simp [hnumbered k i hk] at hmissing

theorem intent?_token (hnumbered : c.Numbered) {i : Intent ρ α} (hmem : i ∈ c.intents) :
    c.intent? i.token = some i := by
  obtain ⟨k, hk⟩ := List.mem_iff_getElem?.mp hmem
  rw [hnumbered k i hk, hnumbered.intent?_succ, hk]

theorem token_le (hnumbered : c.Numbered) {i : Intent ρ α} (hmem : i ∈ c.intents) :
    1 ≤ i.token ∧ i.token ≤ c.intents.length := by
  obtain ⟨k, hk⟩ := List.mem_iff_getElem?.mp hmem
  have hlt := (List.getElem?_eq_some_iff.mp hk).1
  rw [hnumbered k i hk]
  omega

theorem token_latest (hnumbered : c.Numbered) {i : Intent ρ α} (hlatest : c.latest? = some i) :
    i.token = c.intents.length := by
  rw [latest?, List.getLast?_eq_getElem?] at hlatest
  have hlt := (List.getElem?_eq_some_iff.mp hlatest).1
  rw [hnumbered _ i hlatest]
  omega

theorem intent?_latest (hnumbered : c.Numbered) {i : Intent ρ α} (hlatest : c.latest? = some i) :
    c.intent? i.token = some i :=
  hnumbered.intent?_token (List.mem_of_getLast? hlatest)

/-- The newest token belongs to the newest intent. -/
theorem latest?_of_token (hnumbered : c.Numbered) {i : Intent ρ α} (hmem : i ∈ c.intents)
    (htoken : i.token = c.intents.length) : c.latest? = some i := by
  obtain ⟨k, hk⟩ := List.mem_iff_getElem?.mp hmem
  have hindex := hnumbered k i hk
  rw [latest?, List.getLast?_eq_getElem?, ← hk]
  congr 1
  omega

end Numbered

/-! ## What a transition leaves alone -/

theorem intents_onIntent (c : Coordinator ρ α) (token : Nat) (f : Intent ρ α → Intent ρ α)
    (hf : ∀ i : Intent ρ α, i.Advances (f i)) :
    ∃ g : Intent ρ α → Intent ρ α, (∀ i : Intent ρ α, i.Advances (g i)) ∧
      (c.onIntent token f).intents = c.intents.map g := by
  refine ⟨fun i => if i.token = token then f i else i, ?_, rfl⟩
  intro i
  by_cases htoken : i.token = token
  · simpa [htoken] using hf i
  · simpa [htoken] using Intent.Advances.refl i

/-- A runner's transition lets intents go on and creates none. -/
theorem intents_after_of_not_request (c : Coordinator ρ α) {e : Event ρ α}
    (hrunner : e.isRequest = false) :
    ∃ g : Intent ρ α → Intent ρ α, (∀ i : Intent ρ α, i.Advances (g i)) ∧
      (c.after e).intents = c.intents.map g := by
  have hsame : ∃ g : Intent ρ α → Intent ρ α, (∀ i : Intent ρ α, i.Advances (g i)) ∧
      c.intents = c.intents.map g :=
    ⟨id, Intent.Advances.refl, (List.map_id _).symm⟩
  cases e with
  | request phase => cases hrunner
  | begin token first => exact c.intents_onIntent token _ (Intent.advances_begin first)
  | move token next => exact c.intents_onIntent token _ (Intent.advances_move next)
  | finish token outcome =>
      exact c.intents_onIntent token _ (Intent.advances_finish c.label outcome)
  | clear token =>
      simp only [after, clear]
      split
      · exact c.intents_onIntent token _ Intent.advances_clear
      · exact hsame
  | resolve token => exact c.intents_onIntent token _ Intent.advances_resolve
  | notify token =>
      simp only [after, notify]
      split
      · exact c.intents_onIntent token _ Intent.advances_notify
      · exact hsame

/-- A runner's transition leaves the newest intent the newest. -/
theorem latest?_after_of_not_request (c : Coordinator ρ α) {e : Event ρ α}
    (hrunner : e.isRequest = false) :
    ∃ g : Intent ρ α → Intent ρ α, (∀ i : Intent ρ α, i.Advances (g i)) ∧
      (c.after e).latest? = c.latest?.map g := by
  obtain ⟨g, hg, hintents⟩ := c.intents_after_of_not_request hrunner
  exact ⟨g, hg, by simp [latest?, hintents, List.getLast?_map]⟩

/-! ## New intents -/

def calledOff (c : Coordinator ρ α) (i : Intent ρ α) : Intent ρ α :=
  if c.registered = some i.token then i.cancel else i

def supersede (c : Coordinator ρ α) (phase : Phase) : Nat × Coordinator ρ α :=
  ({ c with intents := c.intents.map c.calledOff }).register phase

theorem precedes_calledOff (c : Coordinator ρ α) (i : Intent ρ α) :
    i.Precedes (c.calledOff i) := by
  unfold calledOff
  split
  · exact i.precedes_cancel
  · exact .refl i

@[simp] theorem token_supersede (c : Coordinator ρ α) (phase : Phase) :
    (c.supersede phase).1 = c.intents.length + 1 := by
  simp [supersede, register]

@[simp] theorem registered_supersede (c : Coordinator ρ α) (phase : Phase) :
    (c.supersede phase).2.registered = some (c.intents.length + 1) := by
  simp [supersede, register]

theorem intents_supersede (c : Coordinator ρ α) (phase : Phase) :
    (c.supersede phase).2.intents =
      c.intents.map c.calledOff ++ [Intent.create (c.intents.length + 1) phase] := by
  simp [supersede, register]

@[simp] theorem length_supersede (c : Coordinator ρ α) (phase : Phase) :
    (c.supersede phase).2.intents.length = c.intents.length + 1 := by
  simp [intents_supersede]

@[simp] theorem latest?_supersede (c : Coordinator ρ α) (phase : Phase) :
    (c.supersede phase).2.latest? = some (Intent.create (c.intents.length + 1) phase) := by
  simp [latest?, intents_supersede]

/-! ## Order -/

/-- The register and the flags of a coordinator fit its intents. -/
structure Orderly (c : Coordinator ρ α) : Prop where
  numbered : c.Numbered
  registered_iff : ∀ token, c.registered = some token ↔
    ∃ i, c.latest? = some i ∧ i.token = token ∧ i.runner.isOutstanding = true
  latest : ∀ i, c.latest? = some i → i.cancelled = false
  earlier : ∀ i ∈ c.intents, i.token < c.intents.length →
    i.cancelled = true ∨ i.runner.result?.isSome = true

theorem orderly_start (label : Text) : (start label : Coordinator ρ α).Orderly := by
  constructor <;> simp [start, Numbered, latest?]

namespace Orderly

variable {c : Coordinator ρ α}

/-- The intent that requests can share is the newest one while it is
outstanding. -/
theorem current?_eq_some_iff (horderly : c.Orderly) {i : Intent ρ α} :
    c.current? = some i ↔ c.latest? = some i ∧ i.runner.isOutstanding = true := by
  simp only [current?, Option.bind_eq_some_iff]
  constructor
  · rintro ⟨token, hregistered, hintent⟩
    obtain ⟨j, hlatest, rfl, houtstanding⟩ := (horderly.registered_iff token).mp hregistered
    rw [horderly.numbered.intent?_latest hlatest] at hintent
    cases hintent
    exact ⟨hlatest, houtstanding⟩
  · rintro ⟨hlatest, houtstanding⟩
    exact ⟨i.token, (horderly.registered_iff _).mpr ⟨i, hlatest, rfl, houtstanding⟩,
      horderly.numbered.intent?_latest hlatest⟩

/-- A request is served by the newest intent if that is outstanding and of the
wanted phase, and by a new one otherwise. -/
theorem request_cases (horderly : c.Orderly) (phase : Phase) :
    (∃ i, c.latest? = some i ∧ i.runner.isOutstanding = true ∧ i.phase = phase ∧
      c.request phase = (i.token, c)) ∨
    ((∀ i, c.latest? = some i → i.runner.isOutstanding = true → i.phase ≠ phase) ∧
      c.request phase = c.supersede phase) := by
  cases hcurrent : c.current? with
  | none =>
      right
      have hfree : c.registered = none := by
        cases hregistered : c.registered with
        | none => rfl
        | some token =>
            obtain ⟨i, hlatest, _, houtstanding⟩ := (horderly.registered_iff token).mp hregistered
            rw [horderly.current?_eq_some_iff.mpr ⟨hlatest, houtstanding⟩] at hcurrent
            cases hcurrent
      constructor
      · intro i hlatest houtstanding
        rw [horderly.current?_eq_some_iff.mpr ⟨hlatest, houtstanding⟩] at hcurrent
        cases hcurrent
      · have hsame : c.intents.map c.calledOff = c.intents := by
          conv => rhs; rw [← List.map_id c.intents]
          apply List.map_congr_left
          intro i _
          simp [calledOff, hfree]
        simp [request, hcurrent, supersede, hsame]
  | some i =>
      obtain ⟨hlatest, houtstanding⟩ := horderly.current?_eq_some_iff.mp hcurrent
      have hregistered : c.registered = some i.token :=
        (horderly.registered_iff _).mpr ⟨i, hlatest, rfl, houtstanding⟩
      by_cases hphase : i.phase = phase
      · left
        exact ⟨i, hlatest, houtstanding, hphase, by simp [request, hcurrent, hphase]⟩
      · right
        constructor
        · intro j hj _
          rw [hlatest] at hj
          cases hj
          exact hphase
        · simp only [request, hcurrent, hphase, if_false, supersede, onIntent]
          congr 2
          apply List.map_congr_left
          intro j _
          simp [calledOff, hregistered, eq_comm]

/-- A new intent keeps the order. -/
theorem supersede (horderly : c.Orderly) (phase : Phase) : (c.supersede phase).2.Orderly := by
  constructor
  · intro k i hk
    rw [intents_supersede, List.getElem?_append] at hk
    split at hk
    · rw [List.getElem?_map, Option.map_eq_some_iff] at hk
      obtain ⟨j, hj, rfl⟩ := hk
      rw [(c.precedes_calledOff j).token, horderly.numbered k j hj]
    · rename_i hge
      simp only [List.length_map, List.getElem?_singleton] at hge hk
      split at hk
      · cases hk
        simp only [Intent.create]
        omega
      · cases hk
  · intro token
    simp [Intent.create, Runner.isOutstanding, Runner.progress]
  · intro i hi
    simp only [latest?_supersede, Option.some.injEq] at hi
    subst hi
    rfl
  · intro i hmem hlt
    rw [intents_supersede] at hmem
    simp only [List.mem_append, List.mem_map, List.mem_singleton] at hmem
    rcases hmem with ⟨j, hj, rfl⟩ | rfl
    · have hbound := (horderly.numbered.token_le hj).2
      by_cases hregistered : c.registered = some j.token
      · left
        simp [calledOff, hregistered, Intent.cancel]
      · have hsame : c.calledOff j = j := by simp [calledOff, hregistered]
        rw [hsame]
        -- an unregistered newest intent has its work behind it
        by_cases hnewest : j.token = c.intents.length
        · right
          have hlatest := horderly.numbered.latest?_of_token hj hnewest
          have hdone : ¬ j.runner.isOutstanding = true := fun houtstanding =>
            hregistered ((horderly.registered_iff _).mpr ⟨j, hlatest, rfl, houtstanding⟩)
          rw [Runner.isSome_result?_iff]
          simp only [Runner.isOutstanding, decide_eq_true_eq] at hdone
          omega
        · exact horderly.earlier j hj (by omega)
    · simp [Intent.create] at hlt

/-- Intents that go on keep the order as long as the register follows the
newest of them. -/
theorem of_advances {d : Coordinator ρ α} (horderly : c.Orderly)
    {g : Intent ρ α → Intent ρ α} (hg : ∀ i : Intent ρ α, i.Advances (g i))
    (hintents : d.intents = c.intents.map g)
    (hregistered : ∀ token, d.registered = some token ↔
      ∃ i, c.latest? = some i ∧ i.token = token ∧ (g i).runner.isOutstanding = true) :
    d.Orderly := by
  have hlatest : d.latest? = c.latest?.map g := by
    simp [latest?, hintents, List.getLast?_map]
  constructor
  · intro k i hk
    rw [hintents, List.getElem?_map, Option.map_eq_some_iff] at hk
    obtain ⟨j, hj, rfl⟩ := hk
    rw [(hg j).token, horderly.numbered k j hj]
  · intro token
    rw [hregistered, hlatest]
    constructor
    · rintro ⟨i, hi, htoken, houtstanding⟩
      exact ⟨g i, by simp [hi], (hg i).token.trans htoken, houtstanding⟩
    · rintro ⟨j, hj, htoken, houtstanding⟩
      obtain ⟨i, hi, rfl⟩ := Option.map_eq_some_iff.mp hj
      exact ⟨i, hi, (hg i).token.symm.trans htoken, houtstanding⟩
  · intro j hj
    rw [hlatest, Option.map_eq_some_iff] at hj
    obtain ⟨i, hi, rfl⟩ := hj
    rw [(hg i).flag, horderly.latest i hi]
  · intro j hmem hlt
    rw [hintents, List.mem_map] at hmem
    obtain ⟨i, hi, rfl⟩ := hmem
    rw [hintents, List.length_map, (hg i).token] at hlt
    rcases horderly.earlier i hi hlt with hcancelled | hresult
    · exact .inl ((hg i).cancelled hcancelled)
    · right
      rw [Runner.isSome_result?_iff] at hresult ⊢
      exact Nat.le_trans hresult (hg i).progress

/-- The register needs no change while runners stay on their side of it. -/
theorem of_onIntent {d : Coordinator ρ α} (horderly : c.Orderly) (token : Nat)
    {f : Intent ρ α → Intent ρ α} (hf : ∀ i : Intent ρ α, i.Advances (f i))
    (hsteady : ∀ i : Intent ρ α, (f i).runner.isOutstanding = i.runner.isOutstanding)
    (hintents : d.intents = (c.onIntent token f).intents)
    (hregistered : d.registered = c.registered) : d.Orderly := by
  apply horderly.of_advances (g := fun i => if i.token = token then f i else i) _ hintents
  · intro other
    rw [hregistered, horderly.registered_iff]
    constructor
    · rintro ⟨i, hi, htoken, houtstanding⟩
      refine ⟨i, hi, htoken, ?_⟩
      by_cases h : i.token = token <;> simp [h, hsteady, houtstanding]
    · rintro ⟨i, hi, htoken, houtstanding⟩
      refine ⟨i, hi, htoken, ?_⟩
      by_cases h : i.token = token <;> simpa [h, hsteady] using houtstanding
  · intro i
    by_cases h : i.token = token
    · simpa [h] using hf i
    · simpa [h] using Intent.Advances.refl i

/-- Only the runner of the registered intent empties the register. -/
theorem clear (horderly : c.Orderly) (token : Nat) : (c.clear token).Orderly := by
  unfold Coordinator.clear
  split
  · rename_i hreturned
    apply horderly.of_advances (g := fun i => if i.token = token then i.clear else i) _ rfl
    · intro other
      by_cases hregistered : c.registered = some token
      · obtain ⟨i, hlatest, rfl, _⟩ := (horderly.registered_iff token).mp hregistered
        rw [horderly.numbered.intent?_latest hlatest] at hreturned
        simp [hregistered, hlatest, Intent.isOutstanding_clear (by simpa using hreturned)]
      · simp only [hregistered, if_false]
        rw [horderly.registered_iff]
        constructor
        · rintro ⟨i, hi, rfl, houtstanding⟩
          have hother : i.token ≠ token := by
            rintro rfl
            exact hregistered ((horderly.registered_iff _).mpr ⟨i, hi, rfl, houtstanding⟩)
          exact ⟨i, hi, rfl, by simpa [hother] using houtstanding⟩
        · rintro ⟨i, hi, rfl, houtstanding⟩
          refine ⟨i, hi, rfl, ?_⟩
          split at houtstanding
          · exact (Intent.advances_clear i).outstanding houtstanding
          · exact houtstanding
    · intro i
      by_cases h : i.token = token
      · simpa [h] using Intent.advances_clear i
      · simpa [h] using Intent.Advances.refl i
  · exact horderly

/-- Every transition keeps the order. -/
theorem after (horderly : c.Orderly) (e : Event ρ α) : (c.after e).Orderly := by
  cases e with
  | request phase =>
      rcases horderly.request_cases phase with ⟨i, _, _, _, hrequest⟩ | ⟨_, hrequest⟩
      · simpa [Coordinator.after, hrequest] using horderly
      · simpa [Coordinator.after, hrequest] using horderly.supersede phase
  | begin token first =>
      exact horderly.of_onIntent token (Intent.advances_begin first)
        (Intent.isOutstanding_begin first) rfl rfl
  | move token next =>
      exact horderly.of_onIntent token (Intent.advances_move next)
        (Intent.isOutstanding_move next) rfl rfl
  | finish token outcome =>
      exact horderly.of_onIntent token (Intent.advances_finish c.label outcome)
        (Intent.isOutstanding_finish c.label outcome) rfl rfl
  | clear token => exact horderly.clear token
  | resolve token =>
      exact horderly.of_onIntent token Intent.advances_resolve
        Intent.isOutstanding_resolve rfl rfl
  | notify token =>
      simp only [Coordinator.after, notify]
      split
      · exact horderly.of_onIntent token Intent.advances_notify
          Intent.isOutstanding_notify rfl rfl
      · exact horderly

theorem intent?_supersede (horderly : c.Orderly) (phase : Phase) {token : Nat}
    {i : Intent ρ α} (hi : c.intent? token = some i) :
    (c.supersede phase).2.intent? token = some (c.calledOff i) := by
  have hmem : c.calledOff i ∈ (c.supersede phase).2.intents := by
    rw [intents_supersede]
    exact List.mem_append_left _ (List.mem_map_of_mem (mem_of_intent? hi))
  have hfound := (horderly.supersede phase).numbered.intent?_token hmem
  rwa [(c.precedes_calledOff i).token, token_of_intent? hi] at hfound

/-- The intent that gives way to a new one is the newest, and outstanding. -/
theorem calledOff_cases (horderly : c.Orderly) {token : Nat} {i : Intent ρ α}
    (hi : c.intent? token = some i) :
    c.calledOff i = i ∨
      c.calledOff i = i.cancel ∧ c.latest? = some i ∧ i.runner.isOutstanding = true := by
  by_cases hregistered : c.registered = some i.token
  · right
    obtain ⟨j, hlatest, htoken, houtstanding⟩ := (horderly.registered_iff _).mp hregistered
    have hj := horderly.numbered.intent?_latest hlatest
    rw [htoken, token_of_intent? hi, hi] at hj
    cases hj
    exact ⟨by simp [calledOff, hregistered], hlatest, houtstanding⟩
  · exact .inl (by simp [calledOff, hregistered])

/-- No transition loses an intent. -/
theorem intent?_after (horderly : c.Orderly) (e : Event ρ α) {token : Nat} {i : Intent ρ α}
    (hi : c.intent? token = some i) :
    ∃ j, (c.after e).intent? token = some j ∧ i.Precedes j := by
  cases hrequest : e.isRequest with
  | false =>
      obtain ⟨g, hg, hintents⟩ := c.intents_after_of_not_request hrequest
      have hmem : g i ∈ (c.after e).intents := by
        rw [hintents]
        exact List.mem_map_of_mem (mem_of_intent? hi)
      have hfound := (horderly.after e).numbered.intent?_token hmem
      rw [(hg i).token, token_of_intent? hi] at hfound
      exact ⟨g i, hfound, (hg i).toPrecedes⟩
  | true =>
      cases e with
      | request phase =>
          rcases horderly.request_cases phase with ⟨_, _, _, _, hsame⟩ | ⟨_, hnew⟩
          · exact ⟨i, by simpa [Coordinator.after, hsame] using hi, .refl i⟩
          · exact ⟨c.calledOff i,
              by simpa [Coordinator.after, hnew] using horderly.intent?_supersede phase hi,
              c.precedes_calledOff i⟩
      | _ => cases hrequest

end Orderly

end Coordinator

end AttachGate
