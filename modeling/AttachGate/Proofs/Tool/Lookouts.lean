import AttachGate.Proofs.Change.Polls
import AttachGate.Proofs.Course
import AttachGate.Tool.Exchange

/-!
# What a look-out delivers

A look-out polls through the tool until it has what it wants, is called off, or fails.
Somebody may call it off at any moment.  What it has delivered by then is settled by
what its polls have come to.
-/

namespace AttachGate.Tool.Lookout

inductive Act
  | goOn
  /-- Somebody calls the watch off. -/
  | callOff

def Act.isGoing : Act → Bool
  | .goOn => true
  | .callOff => false

def perform (goal : Goal) (l : Lookout) : Act → Lookout
  | .goOn => l.step goal
  | .callOff => { l with exchange := { l.exchange with cancelled := true } }

/-! ## Polls -/

def isPolling (goal : Goal) (l : Lookout) : Bool :=
  l.ending.isNone && decide (l.delivered.length < goal.wanted) && decide (l.watch.stage = .polling)

def reply (goal : Goal) (l : Lookout) : Poll :=
  ((Query.readApp goal.settings goal.app).run.run l.exchange).1

def poll? (goal : Goal) (l : Lookout) : Act → Option Poll
  | .goOn => if l.isPolling goal then some (l.reply goal) else none
  | .callOff => none

def polls (goal : Goal) (past : List (Lookout × Act)) : List Poll :=
  past.filterMap fun e => e.1.poll? goal e.2

def goings (past : List (Lookout × Act)) : Nat := past.countP fun e => e.2.isGoing

variable {goal : Goal} {past : List (Lookout × Act)} {l : Lookout}

theorem polls_concat (goal : Goal) (past : List (Lookout × Act)) (l : Lookout) (act : Act) :
    polls goal (past ++ [(l, act)]) = polls goal past ++ (l.poll? goal act).toList := by
  cases hpoll : l.poll? goal act <;> simp [polls, hpoll]

/-! ## One step -/

inductive Turn (goal : Goal) (l : Lookout) : Option Poll → Lookout → Prop
  | over (hover : l.ending ≠ none) : Turn goal l none l
  | takes (hopen : l.ending = none) (hwanted : goal.wanted ≤ l.delivered.length) :
    Turn goal l none { l with ending := some .taken }
  | looks (hopen : l.ending = none) (hstage : l.watch.stage = .looking) :
    Turn goal l none { l with watch := l.watch.look l.exchange.cancelled }
  | stops (hopen : l.ending = none) (hstage : l.watch.stage = .ended) :
    Turn goal l none { l with ending := some .stopped }
  | rests (hopen : l.ending = none) (hstage : l.watch.stage = .resting) (waits : List Number)
    (cancelled : Bool) :
    Turn goal l none
      { l with
        watch := l.watch.wake cancelled
        waits
        exchange := { l.exchange with cancelled } }
  | fails (hopen : l.ending = none) (hstage : l.watch.stage = .polling) (e : Failure)
    (exchange : Exchange) :
    Turn goal l (some (.error e)) { l with exchange, ending := some (.failed e) }
  | polls (hopen : l.ending = none) (hstage : l.watch.stage = .polling) (app : App.Snapshot)
    (exchange : Exchange) :
    Turn goal l (some (.ok app))
      { l with
        exchange
        watch := l.watch.poll app
        delivered := if l.watch.isNews app then l.delivered ++ [app] else l.delivered }

theorem turn_step (goal : Goal) (l : Lookout) : Turn goal l (l.poll? goal .goOn) (l.step goal) := by
  obtain ⟨⟨stage, seen⟩, exchange, delivered, waits, ending⟩ := l
  unfold step poll? isPolling
  cases ending with
  | some ending => exact .over nofun
  | none =>
      by_cases hwanted : goal.wanted ≤ delivered.length
      · simp only [hwanted, Nat.not_lt.mpr hwanted, Option.isNone_none, Option.isSome_none, if_true,
          decide_false, Bool.and_false, Bool.false_and, Bool.false_eq_true, if_false]
        exact .takes rfl hwanted
      · simp only [hwanted, Nat.lt_of_not_le hwanted, Option.isNone_none, Option.isSome_none,
          if_false, decide_true, Bool.true_and, Bool.false_eq_true, decide_eq_true_eq]
        cases stage with
        | looking => exact .looks rfl rfl
        | ended => exact .stops rfl rfl
        | resting => exact .rests rfl rfl _ _
        | polling =>
            simp only [if_true, reply]
            cases (Query.readApp goal.settings goal.app).run.run exchange with
            | mk reply exchange =>
                cases reply with
                | error e => exact .fails rfl rfl e exchange
                | ok app => exact .polls rfl rfl app exchange

/-! ## What is delivered -/

/-- The polls of a look-out have gone well, but for a last one, perhaps, with whose failure
it has ended.  What it has delivered are the changes among their snapshots. -/
def Told (polls : List Poll) (l : Lookout) : Prop :=
  ∃ apps : List App.Snapshot,
    (polls = apps.map .ok ∧ (∀ f, l.ending ≠ some (.failed f)) ∨
      ∃ f, polls = apps.map .ok ++ [.error f] ∧ l.ending = some (.failed f)) ∧
    (Poll.TextVersions polls → l.delivered = Poll.changes apps ∧ l.watch.Recalls apps.getLast?)

section Told

variable {done : List Poll} (htold : Told done l)

include htold

/-- Without a poll nothing is delivered, nothing forgotten, and there is no failure. -/
theorem Told.idle {next : Lookout} (hdelivered : next.delivered = l.delivered)
    (hseen : next.watch.seen = l.watch.seen)
    (hfailed : ∀ f, next.ending = some (.failed f) ↔ l.ending = some (.failed f)) :
    Told done next := by
  obtain ⟨apps, hpolls, hchanges⟩ := htold
  refine ⟨apps, ?_, ?_⟩
  · simpa only [ne_eq, hfailed] using hpolls
  · rw [hdelivered, Watch.Recalls, hseen]
    exact hchanges

/-- As long as it goes on, all its polls have gone well. -/
theorem Told.going (hopen : l.ending = none) :
    ∃ apps : List App.Snapshot, done = apps.map .ok ∧
      (Poll.TextVersions done →
        l.delivered = Poll.changes apps ∧ l.watch.Recalls apps.getLast?) := by
  obtain ⟨apps, ⟨hpolls, _⟩ | ⟨f, _, hfailed⟩, hchanges⟩ := htold
  · exact ⟨apps, hpolls, hchanges⟩
  · rw [hopen] at hfailed
    cases hfailed

theorem Told.fails (hopen : l.ending = none) (e : Failure) (exchange : Exchange) :
    Told (done ++ [.error e]) { l with exchange, ending := some (.failed e) } := by
  obtain ⟨apps, rfl, hchanges⟩ := htold.going hopen
  refine ⟨apps, .inr ⟨e, rfl, rfl⟩, fun htexts => hchanges fun app happ => ?_⟩
  exact htexts app (List.mem_append_left _ happ)

theorem Told.polls (hopen : l.ending = none) (hstage : l.watch.stage = .polling)
    (app : App.Snapshot) (exchange : Exchange) :
    Told (done ++ [.ok app])
      { l with
        exchange
        watch := l.watch.poll app
        delivered := if l.watch.isNews app then l.delivered ++ [app] else l.delivered } := by
  obtain ⟨apps, rfl, hchanges⟩ := htold.going hopen
  refine ⟨apps ++ [app], .inl ⟨by simp, by simp [hopen]⟩, fun htexts => ?_⟩
  obtain ⟨t, ht⟩ := htexts app (by simp)
  obtain ⟨hdelivered, hrecalls⟩ := hchanges fun a ha => htexts a (List.mem_append_left _ ha)
  rw [List.getLast?_concat]
  refine ⟨?_, .poll hstage ht⟩
  rw [hrecalls.isNews_eq ht, Poll.changes_concat, hdelivered]
  cases Poll.isRepeated apps.getLast? app <;> rfl

/-- What is told by the polls stays so with one more turn. -/
theorem Told.turn {poll : Option Poll} {next : Lookout} (hturn : Turn goal l poll next) :
    Told (done ++ poll.toList) next := by
  cases hturn with
  | fails hopen hstage e exchange => exact htold.fails hopen e exchange
  | polls hopen hstage app exchange => exact htold.polls hopen hstage app exchange
  | «over» hover =>
      rw [Option.toList_none, List.append_nil]
      exact htold
  | takes hopen hwanted =>
      rw [Option.toList_none, List.append_nil]
      exact htold.idle rfl rfl (by simp [hopen])
  | stops hopen hstage =>
      rw [Option.toList_none, List.append_nil]
      exact htold.idle rfl rfl (by simp [hopen])
  | looks hopen hstage =>
      rw [Option.toList_none, List.append_nil]
      exact htold.idle rfl (by simp [Watch.look, hstage]) fun _ => .rfl
  | rests hopen hstage waits cancelled =>
      rw [Option.toList_none, List.append_nil]
      exact htold.idle rfl (by simp [Watch.wake, hstage]) fun _ => .rfl

end Told

/-! ## Ends and pace -/

/-- A look-out that has taken enough has been given it. -/
def TakesWanted (goal : Goal) (l : Lookout) : Prop :=
  l.ending = some .taken → goal.wanted ≤ l.delivered.length

theorem TakesWanted.turn (hl : TakesWanted goal l) {poll : Option Poll} {next : Lookout}
    (hturn : Turn goal l poll next) : TakesWanted goal next := by
  cases hturn with
  | «over» hover => exact hl
  | takes hopen hwanted => exact fun _ => hwanted
  | looks hopen hstage => exact hl
  | stops hopen hstage => exact nofun
  | rests hopen hstage waits cancelled => exact hl
  | fails hopen hstage e exchange => exact nofun
  | polls hopen hstage app exchange =>
      intro htaken
      rw [hopen] at htaken
      cases htaken

/-- The watch has come to its end only if it is called off. -/
def EndsCalledOff (l : Lookout) : Prop :=
  l.watch.stage = .ended ∨ l.ending = some .stopped → l.exchange.cancelled = true

theorem EndsCalledOff.turn (hl : EndsCalledOff l) {poll : Option Poll} {next : Lookout}
    (hturn : Turn goal l poll next) : EndsCalledOff next := by
  cases hturn with
  | «over» hover => exact hl
  | takes hopen hwanted =>
      rintro (hended | ⟨⟨⟩⟩)
      exact hl (.inl hended)
  | looks hopen hstage =>
      rintro (hended | hstopped)
      · simpa [Watch.look, hstage] using hended
      · exact hl (.inr hstopped)
  | stops hopen hstage => exact fun _ => hl (.inl hstage)
  | rests hopen hstage waits cancelled =>
      rintro (hended | hstopped)
      · simpa [Watch.wake, hstage] using hended
      · exact absurd hstopped (by simp [hopen])
  | fails hopen hstage e exchange => simp [EndsCalledOff, hstage]
  | polls hopen hstage app exchange => simp [EndsCalledOff, Watch.poll, hstage, hopen]

/-- The steps since the last poll, and one: a poll comes with every third step. -/
def sincePoll : Watch.Stage → Nat
  | .looking => 1
  | .polling => 2
  | _ => 0

/-- As long as it goes on, a look-out polls with every third step. -/
def Paced (steps polled : Nat) (l : Lookout) : Prop :=
  l.ending = none → l.watch.stage ≠ .ended → steps + 1 = 3 * polled + sincePoll l.watch.stage

theorem Paced.turn {steps polled : Nat} (hl : Paced steps polled l) {poll : Option Poll}
    {next : Lookout} (hturn : Turn goal l poll next) :
    Paced (steps + 1) (polled + poll.toList.length) next := by
  intro hopen hgoing
  cases hturn with
  | «over» hover => exact absurd hopen hover
  | takes => cases hopen
  | stops => cases hopen
  | fails => cases hopen
  | looks _ hstage =>
      have hbefore := hl hopen (by simp [hstage])
      have hpolling : (l.watch.look l.exchange.cancelled).stage = .polling := by
        simpa [Watch.look, hstage] using hgoing
      simp only [hpolling, hstage, sincePoll, Option.toList_none, List.length_nil] at hbefore ⊢
      omega
  | rests _ hstage waits cancelled =>
      have hbefore := hl hopen (by simp [hstage])
      have hlooking : (l.watch.wake cancelled).stage = .looking := by
        simpa [Watch.wake, hstage] using hgoing
      simp only [hlooking, hstage, sincePoll, Option.toList_none, List.length_nil] at hbefore ⊢
      omega
  | polls _ hstage app exchange =>
      have hbefore := hl hopen (by simp [hstage])
      have hresting : (l.watch.poll app).stage = .resting := by simp [Watch.poll, hstage]
      simp only [hresting, hstage, sincePoll, Option.toList_some, List.length_singleton]
        at hbefore ⊢
      omega

/-! ## The whole course -/

/-- What has come of a course. -/
structure Followed (goal : Goal) (past : List (Lookout × Act)) (l : Lookout) : Prop where
  told : Told (polls goal past) l
  taken : TakesWanted goal l
  calledOff : EndsCalledOff l
  pace : Paced (goings past) (polls goal past).length l

theorem followed_start (goal : Goal) (exchange : Exchange) : Followed goal [] (start exchange) where
  told := ⟨[], .inl ⟨rfl, nofun⟩, fun _ => ⟨rfl, Watch.recalls_start⟩⟩
  taken := nofun
  calledOff := by rintro (h | h) <;> cases h
  pace := fun _ _ => rfl

theorem Followed.perform (hl : Followed goal past l) (act : Act) :
    Followed goal (past ++ [(l, act)]) (l.perform goal act) := by
  cases act with
  | callOff =>
      have hpolls : polls goal (past ++ [(l, .callOff)]) = polls goal past := by
        simp [polls_concat, poll?]
      have hgoings : goings (past ++ [(l, .callOff)]) = goings past := by
        simp [goings, Act.isGoing]
      constructor
      · rw [hpolls]
        exact hl.told.idle rfl rfl fun _ => .rfl
      · exact hl.taken
      · exact fun _ => rfl
      · rw [hpolls, hgoings]
        exact hl.pace
  | goOn =>
      have hturn : Turn goal l (l.poll? goal .goOn) (l.perform goal .goOn) := turn_step goal l
      have hgoings : goings (past ++ [(l, .goOn)]) = goings past + 1 := by
        simp [goings, Act.isGoing]
      constructor
      · rw [polls_concat]
        exact hl.told.turn hturn
      · exact hl.taken.turn hturn
      · exact hl.calledOff.turn hturn
      · rw [polls_concat, hgoings, List.length_append]
        exact hl.pace.turn hturn

/-- Whatever the tool does, whenever the watch is called off and however much is wanted. -/
theorem followed_course (goal : Goal) (exchange : Exchange) (acts : List Act) :
    Followed goal (history (perform goal) (start exchange) acts)
      (acts.foldl (perform goal) (start exchange)) :=
  course_invariant (followed_start goal exchange) (fun _ _ act hl => hl.perform act) acts

end AttachGate.Tool.Lookout
