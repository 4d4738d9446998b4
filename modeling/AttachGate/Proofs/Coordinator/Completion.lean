import AttachGate.Proofs.Coordinator.Turns
import AttachGate.Session.Runner

/-!
# How intents are completed

What has become of an intent is read off the turns that its runner has taken:
how often its apply function was invoked, what that function saw, how often the
outcome was resolved.  The accounts of an intent fit where its runner stands
and are kept by every request and by every turn, so they hold in every course.
-/

namespace AttachGate

variable {ω ρ α : Type}

/-- What an apply function comes to with what it sees, one look after another. -/
def Appliers.course (a : Appliers ω ρ α) (phase : Phase) (seen : List (ω × Bool)) :
    ρ ⊕ Except Failure α :=
  seen.foldl (fun state look =>
    match state with
    | .inl work => a.next phase look.1 look.2 work
    | .inr outcome => .inr outcome) (.inl (a.first phase))

theorem Appliers.course_concat (a : Appliers ω ρ α) {phase : Phase} {seen : List (ω × Bool)}
    {work : ρ} (hwork : a.course phase seen = .inl work) (world : ω) (flag : Bool) :
    a.course phase (seen ++ [(world, flag)]) = a.next phase world flag work := by
  unfold course at hwork ⊢
  rw [List.foldl_append, hwork]
  rfl

namespace Intent

def isCreated (i : Intent ρ α) : Bool :=
  match i.runner with
  | .created => true
  | _ => false

def look? (i : Intent ρ α) (world : ω) : Option (ω × Bool) :=
  match i.runner with
  | .working _ => some (world, i.cancelled)
  | _ => none

/-- The outcome that callers are made to see in the next turn. -/
def settles? (i : Intent ρ α) : Option (Except Failure α) :=
  match i.runner with
  | .cleared outcome => some outcome
  | _ => none

end Intent

namespace Coordinator

/-! ## Turns -/

inductive Turned (a : Appliers ω ρ α) (label : Text) (world : ω) :
    Intent ρ α → Intent ρ α → Prop
  | invoked (i) (hrunner : i.runner = .created) :
    Turned a label world i { i with runner := .working (a.first i.phase) }
  | went (i) (work next : ρ) (hrunner : i.runner = .working work)
    (hnext : a.next i.phase world i.cancelled work = .inl next) :
    Turned a label world i { i with runner := .working next }
  | returned (i) (work : ρ) (outcome : Except Failure α) (hrunner : i.runner = .working work)
    (hnext : a.next i.phase world i.cancelled work = .inr outcome) :
    Turned a label world i { i with runner := .returned (i.report label outcome) }
  | cleared (i) (outcome : Except Failure α) (hrunner : i.runner = .returned outcome) :
    Turned a label world i { i with runner := .cleared outcome }
  | resolved (i) (outcome : Except Failure α) (hrunner : i.runner = .cleared outcome) :
    Turned a label world i { i with runner := .resolved outcome }
  | notified (i) (outcome : Except Failure α) (hrunner : i.runner = .resolved outcome) :
    Turned a label world i { i with runner := .notified outcome }
  | rested (i) (outcome : Except Failure α) (hrunner : i.runner = .notified outcome) :
    Turned a label world i i

theorem turned_self (a : Appliers ω ρ α) {c : Coordinator ρ α} {token : Nat} {i : Intent ρ α}
    (hi : c.intent? token = some i) (world : ω) :
    ∃ j, (c.turn a token world).intent? token = some j ∧ Turned a c.label world i j := by
  cases hrunner : i.runner with
  | created =>
      refine ⟨_, ?_, .invoked i hrunner⟩
      simp only [turn, hi, hrunner, begin]
      rw [intent?_onIntent_self hi (Intent.advances_begin _)]
      simp only [Intent.begin, hrunner]
  | working work =>
      cases hnext : a.next i.phase world i.cancelled work with
      | inl next =>
          refine ⟨_, ?_, .went i work next hrunner hnext⟩
          simp only [turn, hi, hrunner, hnext, move]
          rw [intent?_onIntent_self hi (Intent.advances_move _)]
          simp only [Intent.move, hrunner]
      | inr outcome =>
          refine ⟨_, ?_, .returned i work outcome hrunner hnext⟩
          simp only [turn, hi, hrunner, hnext, finish]
          rw [intent?_onIntent_self hi (Intent.advances_finish _ _)]
          simp only [Intent.finish, hrunner]
  | returned outcome =>
      refine ⟨_, ?_, .cleared i outcome hrunner⟩
      simp only [turn, hi, hrunner]
      rw [intent?_clear_self hi (by simp [Intent.isReturned, hrunner])]
      simp only [Intent.clear, hrunner]
  | cleared outcome =>
      refine ⟨_, ?_, .resolved i outcome hrunner⟩
      simp only [turn, hi, hrunner, resolve]
      rw [intent?_onIntent_self hi Intent.advances_resolve]
      simp only [Intent.resolve, hrunner]
  | resolved outcome =>
      refine ⟨_, ?_, .notified i outcome hrunner⟩
      simp only [turn, hi, hrunner]
      rw [intent?_notify_self hi (by simp [Intent.isResolved, hrunner])]
      simp only [Intent.notify, hrunner]
  | notified outcome => exact ⟨i, by simp only [turn, hi, hrunner], .rested i outcome hrunner⟩

theorem intent?_turn_of_ne (a : Appliers ω ρ α) (c : Coordinator ρ α) {token other : Nat}
    (hother : other ≠ token) (world : ω) :
    (c.turn a token world).intent? other = c.intent? other := by
  cases hi : c.intent? token with
  | none => simp only [turn, hi]
  | some i =>
      cases hrunner : i.runner with
      | created =>
          simp only [turn, hi, hrunner]
          exact c.intent?_onIntent_of_ne hother (Intent.advances_begin _)
      | working work =>
          cases hnext : a.next i.phase world i.cancelled work with
          | inl next =>
              simp only [turn, hi, hrunner, hnext]
              exact c.intent?_onIntent_of_ne hother (Intent.advances_move _)
          | inr outcome =>
              simp only [turn, hi, hrunner, hnext]
              exact c.intent?_onIntent_of_ne hother (Intent.advances_finish _ _)
      | returned outcome =>
          simp only [turn, hi, hrunner]
          exact c.intent?_clear_of_ne hother
      | cleared outcome =>
          simp only [turn, hi, hrunner]
          exact c.intent?_onIntent_of_ne hother Intent.advances_resolve
      | resolved outcome =>
          simp only [turn, hi, hrunner]
          exact c.intent?_notify_of_ne hother
      | notified outcome => simp only [turn, hi, hrunner]

/-- Only a runner whose outcome is seen gives notice, and of its own intent. -/
theorem notices_turn (a : Appliers ω ρ α) {c : Coordinator ρ α} {token : Nat} {i : Intent ρ α}
    (hi : c.intent? token = some i) (world : ω) :
    (c.turn a token world).notices =
      c.notices ++ if i.isResolved = true then [token] else [] := by
  cases hrunner : i.runner with
  | working work =>
      cases hnext : a.next i.phase world i.cancelled work <;>
        simp [turn, hi, hrunner, hnext, Intent.isResolved, move, finish, onIntent]
  | returned outcome =>
      simp [turn, hi, hrunner, Intent.isResolved, Intent.isReturned, clear, onIntent]
  | resolved outcome => simp [turn, hi, hrunner, Intent.isResolved, notify, onIntent]
  | _ => simp [turn, hi, hrunner, Intent.isResolved, begin, resolve, onIntent]

theorem notices_request (c : Coordinator ρ α) (phase : Phase) :
    (c.request phase).2.notices = c.notices := by
  unfold request
  split
  · rfl
  · split <;> rfl

theorem label_perform (a : Appliers ω ρ α) (c : Coordinator ρ α) (act : Act ω) :
    (c.perform a act).label = c.label := by
  cases act with
  | request phase =>
      simp only [perform, request]
      split
      · rfl
      · split <;> rfl
  | turn token world =>
      cases hi : c.intent? token with
      | none => simp only [perform, turn, hi]
      | some i =>
          cases hrunner : i.runner with
          | working work =>
              cases hnext : a.next i.phase world i.cancelled work <;>
                simp [perform, turn, hi, hrunner, hnext, move, finish, onIntent]
          | returned outcome =>
              simp [perform, turn, hi, hrunner, Intent.isReturned, clear, onIntent]
          | resolved outcome =>
              simp [perform, turn, hi, hrunner, Intent.isResolved, notify, onIntent]
          | _ => simp [perform, turn, hi, hrunner, begin, resolve, onIntent]

/-- A request creates the intent that it is answered with, or leaves all runners
alone; in either case it may call an intent off. -/
theorem Orderly.intent?_request {c : Coordinator ρ α} (hc : c.Orderly) (phase : Phase)
    {token : Nat} {j : Intent ρ α} (hj : (c.request phase).2.intent? token = some j) :
    (∃ i, c.intent? token = some i ∧ (j = i ∨ j = i.cancel)) ∨
      c.intent? token = none ∧ j = Intent.create token phase := by
  rcases hc.request_cases phase with ⟨_, _, _, _, hsame⟩ | ⟨_, hnew⟩
  · rw [hsame] at hj
    exact .inl ⟨j, hj, .inl rfl⟩
  · rw [hnew] at hj
    cases hi : c.intent? token with
    | some i =>
        left
        rw [hc.intent?_supersede phase hi, Option.some.injEq] at hj
        rcases hc.calledOff_cases hi with hsame | ⟨hcancel, _⟩
        · exact ⟨i, rfl, .inl (hj.symm.trans hsame)⟩
        · exact ⟨i, rfl, .inr (hj.symm.trans hcancel)⟩
    | none =>
        right
        have hmem := mem_of_intent? hj
        have htoken := token_of_intent? hj
        rw [intents_supersede] at hmem
        simp only [List.mem_append, List.mem_map, List.mem_singleton] at hmem
        rcases hmem with ⟨i, hi', rfl⟩ | rfl
        · -- an intent that was there before would have been found
          have hfound := hc.numbered.intent?_token hi'
          rw [← (c.precedes_calledOff i).token, htoken, hi] at hfound
          cases hfound
        · rw [← htoken]
          exact ⟨rfl, rfl⟩

/-! ## Accounts -/

abbrev Past (ω ρ α : Type) := List (Coordinator ρ α × Act ω)

def turns (past : Past ω ρ α) (token : Nat) : List (Intent ρ α × ω) :=
  past.filterMap fun entry =>
    match entry.2 with
    | .turn other world =>
      if other = token then (entry.1.intent? token).map fun i => (i, world) else none
    | .request _ => none

def invocations (past : Past ω ρ α) (token : Nat) : Nat :=
  (turns past token).countP fun turn => turn.1.isCreated

/-- What the apply function has seen at its work for an intent: the world, and
the cancel flag of that intent. -/
def looks (past : Past ω ρ α) (token : Nat) : List (ω × Bool) :=
  (turns past token).filterMap fun turn => turn.1.look? turn.2

def resolutions (past : Past ω ρ α) (token : Nat) : List (Except Failure α) :=
  (turns past token).filterMap fun turn => turn.1.settles?

theorem turns_request (past : Past ω ρ α) (c : Coordinator ρ α)
    (phase : Phase) (token : Nat) :
    turns (past ++ [(c, .request phase)]) token = turns past token := by
  simp [turns]

theorem turns_turn_of_ne (past : Past ω ρ α) (c : Coordinator ρ α)
    {token other : Nat} (hother : other ≠ token) (world : ω) :
    turns (past ++ [(c, .turn token world)]) other = turns past other := by
  simp [turns, Ne.symm hother]

theorem turns_turn (past : Past ω ρ α) {c : Coordinator ρ α} {token : Nat}
    {i : Intent ρ α} (hi : c.intent? token = some i) (world : ω) :
    turns (past ++ [(c, .turn token world)]) token = turns past token ++ [(i, world)] := by
  simp [turns, hi]

/-- The accounts of an intent fit where its runner stands. -/
structure Accounted (a : Appliers ω ρ α) (label : Text) (past : Past ω ρ α)
    (notices : List Nat) (i : Intent ρ α) : Prop where
  invoked : invocations past i.token = min 1 i.runner.progress
  paced : i.runner.progress < 5 → (turns past i.token).length =
    (looks past i.token).length + min 1 i.runner.progress + (i.runner.progress - 2)
  fresh : i.runner = .created → looks past i.token = []
  work : ∀ work, i.runner = .working work →
    a.course i.phase (looks past i.token) = .inl work
  result : ∀ outcome, i.runner.result? = some outcome → ∃ raw,
    a.course i.phase (looks past i.token) = .inr raw ∧ outcome = i.report label raw
  resolved : resolutions past i.token = i.runner.outcome?.toList
  noticed : notices.count i.token = if i.runner.progress = 5 then 1 else 0

theorem accounted_create (a : Appliers ω ρ α) (label : Text)
    {past : Past ω ρ α} {notices : List Nat} {token : Nat}
    (hturns : turns past token = []) (hnotices : notices.count token = 0) (phase : Phase) :
    Accounted a label past notices (Intent.create token phase) := by
  constructor <;>
    simp [Intent.create, invocations, looks, resolutions, hturns, hnotices, Runner.progress,
      Runner.result?, Runner.outcome?]

/-- Whether an intent is called off is of no account. -/
theorem Accounted.cancel {a : Appliers ω ρ α} {label : Text}
    {past : Past ω ρ α} {notices : List Nat} {i : Intent ρ α}
    (hi : Accounted a label past notices i) : Accounted a label past notices i.cancel :=
  ⟨hi.invoked, hi.paced, hi.fresh, hi.work, hi.result, hi.resolved, hi.noticed⟩

theorem Accounted.of_turns {a : Appliers ω ρ α} {label : Text}
    {past later : Past ω ρ α} {notices others : List Nat} {i : Intent ρ α}
    (hi : Accounted a label past notices i) (hturns : turns later i.token = turns past i.token)
    (hnotices : others.count i.token = notices.count i.token) :
    Accounted a label later others i := by
  obtain ⟨hinvoked, hpaced, hfresh, hwork, hresult, hresolved, hnoticed⟩ := hi
  unfold invocations at hinvoked
  unfold looks at hpaced hfresh hwork hresult
  unfold resolutions at hresolved
  rw [← hturns] at hinvoked hpaced hfresh hwork hresult hresolved
  rw [← hnotices] at hnoticed
  exact ⟨hinvoked, hpaced, hfresh, hwork, hresult, hresolved, hnoticed⟩

theorem accounts_turn (past : Past ω ρ α) {c : Coordinator ρ α} {token : Nat} {i : Intent ρ α}
    (hi : c.intent? token = some i) (world : ω) :
    invocations (past ++ [(c, .turn token world)]) token =
        invocations past token + i.isCreated.toNat ∧
      looks (past ++ [(c, .turn token world)]) token =
        looks past token ++ (i.look? world).toList ∧
      resolutions (past ++ [(c, .turn token world)]) token =
        resolutions past token ++ i.settles?.toList := by
  simp only [invocations, looks, resolutions, turns_turn past hi world, List.countP_append,
    List.filterMap_append]
  refine ⟨?_, ?_, ?_⟩
  · cases hcreated : i.isCreated <;> simp [hcreated]
  · cases hlook : i.look? world <;> simp [hlook]
  · cases hsettles : i.settles? <;> simp [hsettles]

theorem Turned.fields {a : Appliers ω ρ α} {label : Text} {world : ω} {i j : Intent ρ α}
    (hturned : Turned a label world i j) : j.token = i.token ∧ j.phase = i.phase := by
  cases hturned <;> exact ⟨rfl, rfl⟩

theorem Turned.report {a : Appliers ω ρ α} {label : Text} {world : ω} {i j : Intent ρ α}
    (hturned : Turned a label world i j) (raw : Except Failure α) :
    j.report label raw = i.report label raw := by
  obtain ⟨htoken, hphase⟩ := hturned.fields
  cases raw with
  | ok value => rfl
  | error e => simp only [Intent.report, htoken, hphase]

/-- A turn counts once: as the invocation, as a look, as the resolution, as the
notice, or as a look at the register. -/
theorem Turned.counts {a : Appliers ω ρ α} {label : Text} {world : ω} {i j : Intent ρ α}
    (hturned : Turned a label world i j) :
    min 1 j.runner.progress = min 1 i.runner.progress + i.isCreated.toNat ∧
      j.runner.outcome?.toList = i.runner.outcome?.toList ++ i.settles?.toList ∧
      (if j.runner.progress = 5 then 1 else 0) =
        (if i.runner.progress = 5 then 1 else 0) + i.isResolved.toNat ∧
      (j.runner.progress < 5 → i.runner.progress < 5 ∧
        min 1 i.runner.progress + (i.runner.progress - 2) + 1 =
          (i.look? world).toList.length + min 1 j.runner.progress + (j.runner.progress - 2)) := by
  cases hturned <;>
    simp [Runner.progress, Runner.outcome?, Intent.isCreated, Intent.settles?,
      Intent.isResolved, Intent.look?, *]

/-- The work goes on with what is to be seen in the turn. -/
theorem Turned.course {a : Appliers ω ρ α} {label : Text} {world : ω} {i j : Intent ρ α}
    (hturned : Turned a label world i j) {seen : List (ω × Bool)}
    (hfresh : i.runner = .created → seen = [])
    (hwork : ∀ work, i.runner = .working work → a.course i.phase seen = .inl work)
    (hresult : ∀ outcome, i.runner.result? = some outcome → ∃ raw,
      a.course i.phase seen = .inr raw ∧ outcome = i.report label raw) :
    (∀ work, j.runner = .working work →
      a.course i.phase (seen ++ (i.look? world).toList) = .inl work) ∧
    (∀ outcome, j.runner.result? = some outcome → ∃ raw,
      a.course i.phase (seen ++ (i.look? world).toList) = .inr raw ∧
        outcome = i.report label raw) := by
  cases hturned with
  | invoked hrunner =>
      have hnone := hfresh hrunner
      constructor
      · intro work hworking
        simpa [hnone, Intent.look?, hrunner, Appliers.course] using hworking
      · simp [Runner.result?]
  | went work next hrunner hnext =>
      have hcourse := a.course_concat (hwork work hrunner) world i.cancelled
      constructor
      · intro other hworking
        simpa [Intent.look?, hrunner, hcourse, hnext] using hworking
      · simp [Runner.result?]
  | returned work raw hrunner hnext =>
      have hcourse := a.course_concat (hwork work hrunner) world i.cancelled
      constructor
      · simp
      · intro outcome houtcome
        refine ⟨raw, by simp [Intent.look?, hrunner, hcourse, hnext], ?_⟩
        simpa [Runner.result?, eq_comm] using houtcome
  | cleared outcome hrunner =>
      exact ⟨by simp, by simpa [Runner.result?, Intent.look?, hrunner] using hresult⟩
  | resolved outcome hrunner =>
      exact ⟨by simp, by simpa [Runner.result?, Intent.look?, hrunner] using hresult⟩
  | notified outcome hrunner =>
      exact ⟨by simp, by simpa [Runner.result?, Intent.look?, hrunner] using hresult⟩
  | rested outcome hrunner =>
      exact ⟨by simp [hrunner], by simpa [Intent.look?, hrunner] using hresult⟩

theorem Turned.not_created {a : Appliers ω ρ α} {label : Text} {world : ω} {i j : Intent ρ α}
    (hturned : Turned a label world i j) : j.runner ≠ .created := by
  cases hturned <;> simp [*]

/-- Each turn of its runner moves the accounts of an intent on. -/
theorem Accounted.turn {a : Appliers ω ρ α} {c : Coordinator ρ α} {past : Past ω ρ α}
    {notices : List Nat} {i j : Intent ρ α} (hi : c.intent? i.token = some i) {world : ω}
    (haccounted : Accounted a c.label past notices i) (hturned : Turned a c.label world i j) :
    Accounted a c.label (past ++ [(c, .turn i.token world)])
      (notices ++ if i.isResolved = true then [i.token] else []) j := by
  obtain ⟨hinvoked, hpaced, hfresh, hwork, hresult, hresolved, hnoticed⟩ := haccounted
  obtain ⟨hinvocations, hlooks, hresolutions⟩ := accounts_turn past hi world
  obtain ⟨hinvoked', hresolved', hnoticed', hpaced'⟩ := hturned.counts
  obtain ⟨hwork', hresult'⟩ := hturned.course hfresh hwork hresult
  obtain ⟨htoken, hphase⟩ := hturned.fields
  constructor
  · rw [htoken, hinvocations, hinvoked, hinvoked']
  · intro hgoing
    obtain ⟨hbefore, hcount⟩ := hpaced' hgoing
    have hlength := hpaced hbefore
    rw [htoken, turns_turn past hi world, hlooks, List.length_append, List.length_append,
      List.length_singleton]
    omega
  · intro hcreated
    exact (hturned.not_created hcreated).elim
  · rw [htoken, hphase, hlooks]
    exact hwork'
  · intro outcome houtcome
    obtain ⟨raw, hcourse, hraw⟩ := hresult' outcome houtcome
    refine ⟨raw, ?_, ?_⟩
    · rw [htoken, hphase, hlooks, hcourse]
    · rw [hturned.report, hraw]
  · rw [htoken, hresolutions, hresolved, hresolved']
  · rw [htoken, List.count_append, hnoticed, hnoticed']
    cases hnotice : i.isResolved <;> simp

/-! ## Courses -/

structure Audited (a : Appliers ω ρ α) (label : Text) (past : Past ω ρ α)
    (c : Coordinator ρ α) : Prop where
  orderly : c.Orderly
  labelled : c.label = label
  accounted : ∀ token i, c.intent? token = some i → Accounted a label past c.notices i
  absent : ∀ token, c.intent? token = none → turns past token = [] ∧ c.notices.count token = 0

theorem audited_start (a : Appliers ω ρ α) (label : Text) :
    Audited a label [] (start label) where
  orderly := orderly_start label
  labelled := rfl
  accounted := by simp [start, intent?]
  absent := by simp [start, turns]

namespace Audited

variable {a : Appliers ω ρ α} {label : Text} {past : Past ω ρ α} {c : Coordinator ρ α}

theorem request (hc : Audited a label past c) (phase : Phase) :
    Audited a label (past ++ [(c, .request phase)]) (c.request phase).2 := by
  have horderly := hc.orderly.perform a (.request phase)
  have hlabel := label_perform a c (.request phase)
  refine ⟨horderly, hlabel.trans hc.labelled, ?_, ?_⟩
  · intro token j hj
    rw [notices_request]
    rcases hc.orderly.intent?_request phase hj with ⟨i, hi, hsame⟩ | ⟨hnone, rfl⟩
    · have hold := (hc.accounted token i hi).of_turns
        (turns_request past c phase i.token) rfl
      rcases hsame with rfl | rfl
      · exact hold
      · exact hold.cancel
    · obtain ⟨hturns, hnotices⟩ := hc.absent token hnone
      exact accounted_create a label ((turns_request past c phase token).trans hturns) hnotices
        phase
  · intro token hnone
    rw [notices_request, turns_request]
    apply hc.absent
    cases hi : c.intent? token with
    | none => rfl
    | some i =>
        obtain ⟨j, hj, _⟩ := hc.orderly.intent?_after (.request phase) hi
        rw [Coordinator.after, hnone] at hj
        cases hj

theorem turn (hc : Audited a label past c) (token : Nat) (world : ω) :
    Audited a label (past ++ [(c, .turn token world)]) (c.turn a token world) := by
  have horderly := hc.orderly.perform a (.turn token world)
  have hlabel := label_perform a c (.turn token world)
  cases hi : c.intent? token with
  | none =>
      have hsame : c.turn a token world = c := by simp only [Coordinator.turn, hi]
      have hturns : ∀ other, turns (past ++ [(c, .turn token world)]) other = turns past other := by
        intro other
        by_cases hother : other = token
        · simp [turns, hother, hi]
        · exact turns_turn_of_ne past c hother world
      rw [hsame]
      refine ⟨hc.orderly, hc.labelled, ?_, ?_⟩
      · intro other j hj
        exact (hc.accounted other j hj).of_turns (hturns _) rfl
      · intro other hnone
        rw [hturns]
        exact hc.absent other hnone
  | some i =>
      have htoken := token_of_intent? hi
      subst htoken
      have hnotices := notices_turn a hi world
      -- the notices of other intents are as they were
      have hcount : ∀ other, other ≠ i.token →
          (c.turn a i.token world).notices.count other = c.notices.count other := by
        intro other hother
        rw [hnotices, List.count_append]
        cases i.isResolved <;> simp [Ne.symm hother]
      refine ⟨horderly, hlabel.trans hc.labelled, ?_, ?_⟩
      · intro other j hj
        by_cases hother : other = i.token
        · subst hother
          obtain ⟨k, hk, hturned⟩ := turned_self a hi world
          rw [hj, Option.some.injEq] at hk
          subst hk
          have hbefore := hc.accounted i.token i hi
          rw [← hc.labelled] at hbefore ⊢
          rw [hnotices]
          exact hbefore.turn hi hturned
        · rw [intent?_turn_of_ne a c hother world] at hj
          have hsame := token_of_intent? hj
          subst hsame
          exact (hc.accounted j.token j hj).of_turns (turns_turn_of_ne past c hother world)
            (hcount j.token hother)
      · intro other hnone
        have hother : other ≠ i.token := by
          rintro rfl
          obtain ⟨k, hk, _⟩ := turned_self a hi world
          rw [hnone] at hk
          cases hk
        rw [intent?_turn_of_ne a c hother world] at hnone
        rw [turns_turn_of_ne past c hother world, hcount other hother]
        exact hc.absent other hnone

theorem perform (hc : Audited a label past c) (act : Act ω) :
    Audited a label (past ++ [(c, act)]) (c.perform a act) := by
  cases act with
  | request phase => exact hc.request phase
  | turn token world => exact hc.turn token world

/-- Notice of an intent is given only when its outcome is seen. -/
theorem seen_of_notice (hc : Audited a label past c) (act : Act ω) {token : Nat}
    (hnotice : token ∈ (c.perform a act).notices) : (c.outcome? token).isSome = true := by
  have hpast : token ∈ c.notices → (c.outcome? token).isSome = true := by
    intro hmem
    have hcount := List.count_pos_iff.mpr hmem
    cases hi : c.intent? token with
    | none => rw [(hc.absent token hi).2] at hcount; cases hcount
    | some i =>
        have hnoticed := (hc.accounted token i hi).noticed
        rw [token_of_intent? hi] at hnoticed
        cases hrunner : i.runner <;>
          simp_all [Coordinator.outcome?, Runner.progress, Runner.outcome?]
  cases act with
  | request phase =>
      rw [Coordinator.perform, notices_request] at hnotice
      exact hpast hnotice
  | turn other world =>
      cases hi : c.intent? other with
      | none =>
          simp only [Coordinator.perform, Coordinator.turn, hi] at hnotice
          exact hpast hnotice
      | some i =>
          rw [Coordinator.perform, notices_turn a hi world, List.mem_append] at hnotice
          rcases hnotice with hold | hnew
          · exact hpast hold
          · cases hrunner : i.runner <;>
              simp_all [Intent.isResolved, Coordinator.outcome?, Runner.outcome?]

end Audited

theorem outcome?_perform {c : Coordinator ρ α} (hc : c.Orderly) (a : Appliers ω ρ α)
    (act : Act ω) {token : Nat} {outcome : Except Failure α}
    (hseen : c.outcome? token = some outcome) :
    (c.perform a act).outcome? token = some outcome := by
  rcases c.perform_eq_after a act with hsame | ⟨e, hafter⟩
  · rw [hsame, hseen]
  · simp only [outcome?, Option.bind_eq_some_iff] at hseen ⊢
    obtain ⟨i, hi, hrunner⟩ := hseen
    obtain ⟨j, hj, hprecedes⟩ := hc.intent?_after e hi
    exact ⟨j, by rw [hafter, hj], hprecedes.outcome hrunner⟩

structure Told (a : Appliers ω ρ α) (past : Past ω ρ α) (c : Coordinator ρ α) : Prop where
  handles : ∀ b phase, (b, .request phase) ∈ past →
    ∃ i, c.intent? (b.request phase).1 = some i ∧ i.phase = phase
  outcomes : ∀ b act token outcome, (b, act) ∈ past → b.outcome? token = some outcome →
    c.outcome? token = some outcome
  notices : ∀ b act token, (b, act) ∈ past → token ∈ (b.perform a act).notices →
    (b.outcome? token).isSome = true

theorem intent?_of_request {c : Coordinator ρ α} (hc : c.Orderly) (phase : Phase) :
    ∃ i, (c.request phase).2.intent? (c.request phase).1 = some i ∧ i.phase = phase := by
  rcases hc.request_cases phase with ⟨i, hlatest, _, hphase, hsame⟩ | ⟨_, hnew⟩
  · exact ⟨i, by rw [hsame]; exact hc.numbered.intent?_latest hlatest, hphase⟩
  · have hfound := (hc.supersede phase).numbered.intent?_latest (latest?_supersede c phase)
    rw [hnew, token_supersede]
    exact ⟨_, hfound, rfl⟩

theorem Told.perform {a : Appliers ω ρ α} {label : Text} {past : Past ω ρ α}
    {c : Coordinator ρ α} (htold : Told a past c) (hc : Audited a label past c) (act : Act ω) :
    Told a (past ++ [(c, act)]) (c.perform a act) := by
  constructor
  · intro b phase hmem
    rcases List.mem_append.mp hmem with hold | hnew
    · obtain ⟨i, hi, hphase⟩ := htold.handles b phase hold
      rcases c.perform_eq_after a act with hsame | ⟨e, hafter⟩
      · exact ⟨i, by rw [hsame, hi], hphase⟩
      · obtain ⟨j, hj, hprecedes⟩ := hc.orderly.intent?_after e hi
        exact ⟨j, by rw [hafter, hj], hprecedes.phase.trans hphase⟩
    · cases List.mem_singleton.mp hnew
      exact intent?_of_request hc.orderly phase
  · intro b other token outcome hmem hseen
    rcases List.mem_append.mp hmem with hold | hnew
    · exact outcome?_perform hc.orderly a act (htold.outcomes b other token outcome hold hseen)
    · cases List.mem_singleton.mp hnew
      exact outcome?_perform hc.orderly a act hseen
  · intro b other token hmem hnotice
    rcases List.mem_append.mp hmem with hold | hnew
    · exact htold.notices b other token hold hnotice
    · cases List.mem_singleton.mp hnew
      exact hc.seen_of_notice act hnotice

theorem audited_course (a : Appliers ω ρ α) (label : Text) (acts : List (Act ω)) :
    Audited a label (history (perform a) (start label) acts)
        (acts.foldl (perform a) (start label)) ∧
      Told a (history (perform a) (start label) acts)
        (acts.foldl (perform a) (start label)) := by
  apply course_invariant (I := fun past c => Audited a label past c ∧ Told a past c)
  · refine ⟨audited_start a label, ?_⟩
    constructor <;> simp
  · intro past c act hkept
    obtain ⟨hc, htold⟩ := hkept
    exact ⟨hc.perform act, htold.perform hc act⟩

namespace Accounted

variable {a : Appliers ω ρ α} {label : Text} {past : Past ω ρ α} {notices : List Nat}
  {i : Intent ρ α}

/-- A runner that has had a turn has invoked the apply function. -/
theorem invocations_eq (hi : Accounted a label past notices i) :
    invocations past i.token = min 1 (turns past i.token).length := by
  have hle : invocations past i.token ≤ (turns past i.token).length := List.countP_le_length
  have hinvoked := hi.invoked
  by_cases hcreated : i.runner = .created
  · have hnone := hi.fresh hcreated
    have hpaced := hi.paced (by simp [hcreated, Runner.progress])
    rw [hinvoked, hpaced, hnone, hcreated]
    rfl
  · have hpos : 1 ≤ i.runner.progress := by
      cases hrunner : i.runner <;> simp_all [Runner.progress]
    omega

/-- Four turns besides those of the work bring an intent to its end. -/
theorem progress_of_turns (hi : Accounted a label past notices i)
    (hturns : (looks past i.token).length + 4 ≤ (turns past i.token).length) :
    i.runner.progress = 5 := by
  have hbound : i.runner.progress ≤ 5 := by cases i.runner <;> simp [Runner.progress]
  by_cases hgoing : i.runner.progress < 5
  · have hpaced := hi.paced hgoing
    omega
  · omega

/-- While the work goes on, every turn but the first is one of the work. -/
theorem length_turns_of_working (hi : Accounted a label past notices i) {work : ρ}
    (hwork : a.course i.phase (looks past i.token) = .inl work) :
    (turns past i.token).length ≤ (looks past i.token).length + 1 := by
  have hunfinished : i.runner.result? = none := by
    cases hresult : i.runner.result? with
    | none => rfl
    | some outcome =>
        obtain ⟨raw, hcourse, _⟩ := hi.result outcome hresult
        rw [hwork] at hcourse
        cases hcourse
  have hearly : i.runner.progress ≤ 1 := by
    cases hrunner : i.runner <;> simp_all [Runner.result?, Runner.progress]
  have hpaced := hi.paced (by omega)
  omega

theorem resolutions_eq (hi : Accounted a label past notices i) {c : Coordinator ρ α}
    (hfound : c.intent? i.token = some i) :
    resolutions past i.token = (c.outcome? i.token).toList := by
  rw [hi.resolved]
  simp [outcome?, hfound]

end Accounted

/-- Once its outcome is seen no request is answered with an intent. -/
theorem Orderly.not_registered_of_seen {c : Coordinator ρ α} (hc : c.Orderly) {token : Nat}
    (hseen : (c.outcome? token).isSome = true) :
    c.registered ≠ some token ∧ ∀ phase, (c.request phase).1 ≠ token := by
  obtain ⟨outcome, houtcome⟩ := Option.isSome_iff_exists.mp hseen
  simp only [outcome?, Option.bind_eq_some_iff] at houtcome
  obtain ⟨i, hi, hrunner⟩ := houtcome
  have hdone : i.runner.isOutstanding = false := by
    have hprogress := (Runner.outcome?_eq_some_iff.mp hrunner).2
    simp only [Runner.isOutstanding, decide_eq_false_iff_not]
    omega
  have hother : ∀ j, c.latest? = some j → j.runner.isOutstanding = true → j.token ≠ token := by
    intro j hlatest houtstanding htoken
    have hj := hc.numbered.intent?_latest hlatest
    rw [htoken, hi, Option.some.injEq] at hj
    rw [hj, houtstanding] at hdone
    cases hdone
  constructor
  · intro hregistered
    obtain ⟨j, hlatest, htoken, houtstanding⟩ := (hc.registered_iff token).mp hregistered
    exact hother j hlatest houtstanding htoken
  · intro phase
    rcases hc.request_cases phase with ⟨j, hlatest, houtstanding, _, hsame⟩ | ⟨_, hnew⟩
    · rw [hsame]
      exact hother j hlatest houtstanding
    · have hbound := (hc.numbered.token_le (mem_of_intent? hi)).2
      rw [token_of_intent? hi] at hbound
      rw [hnew, token_supersede]
      omega

/-- In every course of requests and turns, each request is answered with an
intent of its phase, and of each intent holds: its runner invokes the apply
function in its first turn and never again; that function sees the intent's own
cancel flag, and callers are made to see, once at most, what it comes to with
all that it sees, a failure of something called off being told as that of a
superseded intent; an outcome that was seen is seen ever after; notice is given
once at most, and only of an outcome that is seen; turns other than those of the
work are at most four and lead to the outcome and its notice; and once the
outcome is seen, the intent is not registered and answers no request. -/
theorem completed_once (a : Appliers ω ρ α) (label : Text) (acts : List (Act ω))
    (past : Past ω ρ α) (hpast : past = history (perform a) (start label) acts)
    (c : Coordinator ρ α) (hc : c = acts.foldl (perform a) (start label)) :
    (∀ b phase, (b, .request phase) ∈ past →
      ∃ i, c.intent? (b.request phase).1 = some i ∧ i.phase = phase) ∧
    ∀ token i, c.intent? token = some i →
      invocations past token = min 1 (turns past token).length ∧
      resolutions past token = (c.outcome? token).toList ∧
      (∀ outcome, c.outcome? token = some outcome → ∃ raw,
        a.course i.phase (looks past token) = .inr raw ∧
        (∀ value, raw = .ok value → outcome = .ok value) ∧
        ∀ e, raw = .error e → outcome =
          .error (if e.isIn .cancelled then .superseded label i.phase.name token e else e)) ∧
      (∀ b act outcome, (b, act) ∈ past → b.outcome? token = some outcome →
        c.outcome? token = some outcome) ∧
      c.notices.count token ≤ 1 ∧
      (∀ b act, (b, act) ∈ past → token ∈ (b.perform a act).notices →
        (b.outcome? token).isSome = true) ∧
      (∀ work, a.course i.phase (looks past token) = .inl work →
        (turns past token).length ≤ (looks past token).length + 1) ∧
      ((looks past token).length + 4 ≤ (turns past token).length →
        (c.outcome? token).isSome = true ∧ c.notices.count token = 1) ∧
      ((c.outcome? token).isSome = true →
        c.registered ≠ some token ∧ ∀ phase, (c.request phase).1 ≠ token) := by
  obtain ⟨haudited, htold⟩ := audited_course a label acts
  rw [← hpast, ← hc] at haudited htold
  refine ⟨htold.handles, ?_⟩
  intro token i hi
  have haccounted := haudited.accounted token i hi
  have htoken := token_of_intent? hi
  subst htoken
  have houtcome : c.outcome? i.token = i.runner.outcome? := by simp [outcome?, hi]
  refine ⟨haccounted.invocations_eq, haccounted.resolutions_eq hi, ?_, ?_, ?_, ?_, ?_, ?_, ?_⟩
  · intro outcome hseen
    rw [houtcome] at hseen
    obtain ⟨raw, hcourse, hreport⟩ :=
      haccounted.result outcome (Runner.result?_of_outcome? hseen)
    refine ⟨raw, hcourse, ?_, ?_⟩
    · intro value hvalue
      rw [hreport, hvalue]
      rfl
    · intro e he
      rw [hreport, he]
      rfl
  · intro b act outcome hmem hseen
    exact htold.outcomes b act i.token outcome hmem hseen
  · rw [haccounted.noticed]
    split <;> simp
  · intro b act hmem hnotice
    exact htold.notices b act i.token hmem hnotice
  · intro work hwork
    exact haccounted.length_turns_of_working hwork
  · intro hturns
    have hprogress := haccounted.progress_of_turns hturns
    rw [houtcome, haccounted.noticed, if_pos hprogress]
    refine ⟨?_, rfl⟩
    cases hrunner : i.runner <;> simp_all [Runner.progress, Runner.outcome?]
  · intro hseen
    exact haudited.orderly.not_registered_of_seen hseen

/-- A start is called off by a stop while it is at its work, fails for that, and
is carried to its end; the stop is at its work. -/
def Sample.superseded : List (Act (Option (Except Failure Nat))) :=
  [.request .live, .turn 1 none, .turn 1 none, .request .rest, .turn 2 none,
    .turn 1 (some (.error .cancelled)), .turn 1 none, .turn 1 none, .turn 2 none, .turn 1 none]

open Sample in
theorem completed_once_superseded :
    let c := superseded.foldl (perform appliers) (start [])
    let past := history (perform appliers) (start []) superseded
    c.outcome? 1 = some (.error (.superseded [] Phase.live.name 1 .cancelled)) ∧
      invocations past 1 = 1 ∧ resolutions past 1 = (c.outcome? 1).toList ∧
      c.notices.count 1 = 1 ∧ c.registered ≠ some 1 := by
  intro c past
  have hseen : c.outcome? 1 =
      some (.error (.superseded [] Phase.live.name 1 .cancelled)) := by rfl
  obtain ⟨_, hall⟩ := completed_once appliers [] superseded past rfl c rfl
  obtain ⟨hinvocations, hresolutions, _, _, _, _, _, hended, hgone⟩ := hall 1 _ rfl
  have hturns : (looks past 1).length + 4 ≤ (turns past 1).length := by decide
  refine ⟨hseen, ?_, hresolutions, (hended hturns).2, (hgone (by rw [hseen]; rfl)).1⟩
  rw [hinvocations]
  rfl

end Coordinator

/-! ## The runners of a session -/

/-- The changes of a session as apply functions that see the cluster. -/
def Session.appliers (s : Session) : Appliers Cluster Change.Job (Option App.Instance) where
  first phase := .start (s.goal phase)
  next phase cluster flag job :=
    match job.outcome? with
    | some outcome => .inr outcome
    | none => .inl (job.advance (s.goal phase) flag cluster).1

theorem Session.coordinator_run (s : Session) (token : Nat) (cluster : Cluster) :
    (s.run token cluster).1.coordinator = s.coordinator.turn s.appliers token cluster := by
  cases hi : s.coordinator.intent? token with
  | none => simp only [run, Coordinator.turn, hi]
  | some i =>
      cases hrunner : i.runner with
      | working job =>
          cases houtcome : job.outcome? <;>
            simp only [run, Coordinator.turn, hi, hrunner, appliers, houtcome]
      | _ => simp only [run, Coordinator.turn, hi, hrunner, appliers]

end AttachGate
