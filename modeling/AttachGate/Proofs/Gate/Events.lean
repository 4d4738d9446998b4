import AttachGate.Proofs.Gate.Attendance
import AttachGate.Proofs.Terminal.Output

/-!
# What happens to a stream

A stream has the first message, joins a session, calls it to attach, is told how
that ended, has its command started and ended, has its status found, calls to
detach and is told how that ended.  Where the handler stands says which of these
are behind it, and only three kinds of lists of them lead to a status.
-/

namespace AttachGate

def App.Id.IsPlain (app : App.Id) : Prop := ∃ ns name : Text, app = ⟨.text ns, .text name⟩

theorem App.Id.IsPlain.canLookUp {app : App.Id} (happ : app.IsPlain) :
    Gate.canLookUp app = true := by
  obtain ⟨ns, name, rfl⟩ := happ
  rfl

theorem App.Id.IsPlain.label_of_same {app other : App.Id} (happ : app.IsPlain)
    (hsame : other.same app = true) : other.label = app.label := by
  obtain ⟨ns, name, rfl⟩ := happ
  obtain ⟨ns', name'⟩ := other
  simp only [App.Id.same, Bool.and_eq_true] at hsame
  have htext : ∀ (v : Value) (t : Text), v.same (.text t) = true → v = .text t := by
    intro v t hv
    cases v <;> simp_all [Value.same, Value.isNaN, Value.number?]
  rw [htext ns' ns hsame.1, htext name' name hsame.2]

/-- A message that was decoded and whose app, if it names one, has a plain name,
or the end of a stream, or a failure of the stream. -/
def Terminal.Feed.IsDecoded : Terminal.Feed → Prop
  | .message r => ∀ app, r.app = some app → app.IsPlain
  | .finished => True
  | .broken f => f.isIn .stream = true

namespace Gate

open Session (Purpose)

/-! ## Events -/

inductive Event
  | first (feed : Terminal.Feed)
  | joined (app : App.Id) (session : Nat)
  | called (p : Purpose) (session caller : Nat)
  | answered (p : Purpose) (outcome : Change.Outcome)
  /-- The command is started in the pod of an instance. -/
  | launched (running : App.Instance) (command : List Value)
  | finished (outcome : Except Failure Unit)
  /-- The status is found with this failure of the input on record. -/
  | judged (error : Option Failure)

def handled? (g : Gate) (s : Stream) : Option Event :=
  match s.stage with
  | .awaiting => s.inbox.head?.map .first
  | .admitted o => if canLookUp o.app then some (.joined o.app (g.sessionFor o.app).1) else none
  | .known _ k => (g.sessions[k]?).map fun session => .called .attach k session.callers.length
  | .opening _ k n => (g.outcome? k n).map (.answered .attach)
  | .serving _ _ => none
  | .concluding _ => s.attachment.map fun a => .judged a.reader.error
  | .leaving k _ => (g.sessions[k]?).map fun session => .called .detach k session.callers.length
  | .closing k n _ => (g.outcome? k n).map (.answered .detach)
  | .ended _ => none

/-- The stream whose command starts next, if there is room for it. -/
def next? (g : Gate) : Option Nat :=
  if (g.streams.filter Stream.isRunning).length < g.maxStreams then g.queue.head? else none

def event? (g : Gate) (i : Nat) (m : Move) : Option Event := do
  let s ← g.streams[i]?
  match m with
  | .handle j => if j = i then g.handled? s else none
  | .launch =>
    if g.next? = some i then s.attachment.map fun a => .launched a.running a.command else none
  | .finish j outcome => if j = i ∧ s.isRunning = true then some (.finished outcome) else none
  | _ => none

def events (past : List (Gate × Move)) (i : Nat) : List Event :=
  past.filterMap fun e => e.1.event? i e.2

theorem event?_handle {g : Gate} {i : Nat} {s : Stream} (hs : g.streams[i]? = some s) :
    g.event? i (.handle i) = g.handled? s := by
  simp [event?, hs]

theorem mem_joins_of_events {past : List (Gate × Move)} {i : Nat} {app : App.Id} {k : Nat}
    (hmem : Event.joined app k ∈ events past i) : ⟨i, app, k⟩ ∈ joins past := by
  simp only [events, joins, List.mem_filterMap] at hmem ⊢
  obtain ⟨⟨g, m⟩, hpast, hevent⟩ := hmem
  refine ⟨(g, m), hpast, ?_⟩
  cases hs : g.streams[i]? with
  | none => simp [event?, hs] at hevent
  | some s =>
      cases m with
      | handle j =>
          by_cases hj : j = i
          · subst hj
            rw [event?_handle hs] at hevent
            cases hstage : s.stage <;> simp [handled?, hstage] at hevent
            case admitted o =>
              obtain ⟨hkey, rfl, rfl⟩ := hevent
              simp [join?, hs, hstage, Stage.joins?, hkey]
          · simp [event?, hs, hj] at hevent
      | _ => simp [event?, hs] at hevent

/-- The message of a write that has ended so. -/
def sent (channel : Channel) (data : Bytes) : Option (Except Failure Nat) → Option Response
  | some (.ok _) => some (.ofWrite channel data)
  | _ => none

def written? (g : Gate) (i : Nat) : Move → Option Response
  | .write j channel data =>
    if j = i then sent channel data (g.write j channel data).1 else none
  | _ => none

def written (past : List (Gate × Move)) (i : Nat) : List Response :=
  past.filterMap fun e => e.1.written? i e.2

/-! ## Statuses -/

/-- How a stream ends whose first message starts nothing. -/
inductive TurnsAway : Terminal.Feed → Status → Prop
  | nothing : TurnsAway .finished (.refused .unavailable "stream closed before the first request")
  | lost (f : Failure) (hf : f.isIn .stream = true) :
    TurnsAway (.broken f) (.refused .unavailable f.message)
  | invalid (r : Request) (refusal : Request.Refusal) (hr : r.toOpening = .error refusal) :
    TurnsAway (.message r) (.refused .invalidArgument refusal.message)

/-- The failure of the input on record is that of a malformed message. -/
def IsMalformed (error : Option Failure) (e : Failure) : Prop :=
  error = some e ∧ e.isIn .protocol = true

/-- How a stream ends whose command is over: by the failure of the input on record
if that is of a malformed message, and otherwise by the outcome of the command. -/
inductive Verdict (error : Option Failure) (outcome : Except Failure Unit) : Status → Prop
  | malformed (e : Failure) (he : IsMalformed error e) :
    Verdict error outcome (.refused .invalidArgument e.message)
  | ok (hwell : ∀ e, ¬ IsMalformed error e) (houtcome : outcome = .ok ()) :
    Verdict error outcome .ok
  | exited (code : Int) (hwell : ∀ e, ¬ IsMalformed error e)
    (houtcome : outcome = .error (.exited code)) :
    Verdict error outcome (.refused .aborted (Text.ofInt code))
  | failed (f : Failure) (hwell : ∀ e, ¬ IsMalformed error e) (houtcome : outcome = .error f)
    (hf : ∀ code, f ≠ .exited code) :
    Verdict error outcome (.refused .unavailable f.message)

/-- What happens to a stream with a first message until it is to detach, and the
status that it is to end with. -/
inductive Tells (r : Request) (o : Request.Opening) (k : Nat) : List Event → Status → Prop
  | notStarted (n : Nat) (f : Failure) (ns name : Text) (happ : o.app = ⟨.text ns, .text name⟩)
    (hf : isTold f = true) :
    Tells r o k
      [.first (.message r), .joined o.app k, .called .attach k n, .answered .attach (.error f)]
      (.refused .unavailable ("can't start app " ++ ns ++ "/" ++ name ++ ": " ++ f.message))
  | served (n : Nat) (running : App.Instance) (outcome : Except Failure Unit)
    (error : Option Failure) (status : Status) (hstatus : Verdict error outcome status) :
    Tells r o k
      [.first (.message r), .joined o.app k, .called .attach k n,
        .answered .attach (.ok (some running)),
        .launched running
          ((if running.command.isEmpty then [.text "chroot", .text "/app-root"]
            else running.command) ++ o.command),
        .finished outcome, .judged error]
      status

inductive Ends : List Event → Status → Prop
  | turnedAway (feed : Terminal.Feed) (status : Status) (hfeed : TurnsAway feed status) :
    Ends [.first feed] status
  | detached (r : Request) (o : Request.Opening) (k m : Nat) (events : List Event)
    (status : Status) (outcome : Change.Outcome) (hr : r.toOpening = .ok o)
    (htold : Tells r o k events status) :
    Ends (events ++ [.called .detach k m, .answered .detach outcome]) status

/-! ## Stages -/

def Progress.events (running : App.Instance) (command : List Value) : Progress → List Event
  | .queued => []
  | .running => [.launched running command]
  | .over outcome => [.launched running command, .finished outcome]

/-- There is no command that could write, nor a message of one. -/
def IsIdle (attachment : Option Attachment) : Prop :=
  ∀ a, attachment = some a → a.isDone = true ∧ a.outlet.slot = none

/-- What has happened to a stream that stands so. -/
inductive Stands : List Event → Stage → Option Attachment → Prop
  | awaiting : Stands [] .awaiting none
  | admitted (r : Request) (o : Request.Opening) (hr : r.toOpening = .ok o)
    (happ : o.app.IsPlain) : Stands [.first (.message r)] (.admitted o) none
  | known (r : Request) (o : Request.Opening) (k : Nat) (hr : r.toOpening = .ok o)
    (happ : o.app.IsPlain) :
    Stands [.first (.message r), .joined o.app k] (.known o k) none
  | opening (r : Request) (o : Request.Opening) (k n : Nat) (hr : r.toOpening = .ok o)
    (happ : o.app.IsPlain) :
    Stands [.first (.message r), .joined o.app k, .called .attach k n] (.opening o k n) none
  | serving (r : Request) (o : Request.Opening) (k n : Nat) (a : Attachment)
    (serving : Terminal.Serving) (hr : r.toOpening = .ok o)
    (hcommand : a.command = a.running.commandLine o.command) (hgoing : serving ≠ .over)
    (hemptying : serving = .emptying → a.isDone = true) :
    Stands
      ([.first (.message r), .joined o.app k, .called .attach k n,
        .answered .attach (.ok (some a.running))] ++ a.progress.events a.running a.command)
      (.serving k serving) (some a)
  | concluding (r : Request) (o : Request.Opening) (k n : Nat) (a : Attachment)
    (hr : r.toOpening = .ok o) (hcommand : a.command = a.running.commandLine o.command)
    (hdone : a.isDone = true) (hslot : a.outlet.slot = none) :
    Stands
      ([.first (.message r), .joined o.app k, .called .attach k n,
        .answered .attach (.ok (some a.running))] ++ a.progress.events a.running a.command)
      (.concluding k) (some a)
  | leaving (r : Request) (o : Request.Opening) (k : Nat) (events : List Event) (status : Status)
    (attachment : Option Attachment) (hr : r.toOpening = .ok o)
    (htold : Tells r o k events status) (hidle : IsIdle attachment) :
    Stands events (.leaving k status) attachment
  | closing (r : Request) (o : Request.Opening) (k m : Nat) (events : List Event)
    (status : Status) (attachment : Option Attachment) (hr : r.toOpening = .ok o)
    (htold : Tells r o k events status) (hidle : IsIdle attachment) :
    Stands (events ++ [.called .detach k m]) (.closing k m status) attachment
  | ended (events : List Event) (status : Status) (attachment : Option Attachment)
    (hends : Ends events status) (hidle : IsIdle attachment) :
    Stands events (.ended status) attachment

/-- What has happened does not depend on the terminal, but nothing is written any
more once the command is over. -/
theorem Stands.amend {events : List Event} {stage : Stage} {a b : Attachment}
    (hstands : Stands events stage (some a)) (hrunning : b.running = a.running)
    (hcommand : b.command = a.command) (hprogress : b.progress = a.progress)
    (hslot : a.isDone = true → a.outlet.slot = none → b.outlet.slot = none) :
    Stands events stage (some b) := by
  have hdone : b.isDone = a.isDone := by simp only [Attachment.isDone, hprogress]
  have hidle : IsIdle (some a) → IsIdle (some b) := by
    intro hidle c hc
    cases hc
    obtain ⟨hover, hempty⟩ := hidle a rfl
    exact ⟨hdone.trans hover, hslot hover hempty⟩
  cases hstands with
  | serving r o k n _ serving hr hline hgoing hemptying =>
      rw [← hrunning, ← hcommand, ← hprogress]
      apply Stands.serving r o k n b serving hr _ hgoing
      · exact fun hserving => hdone.trans (hemptying hserving)
      · rw [hcommand, hrunning, hline]
  | concluding r o k n _ hr hline hover hempty =>
      rw [← hrunning, ← hcommand, ← hprogress]
      apply Stands.concluding r o k n b hr _ (hdone.trans hover) (hslot hover hempty)
      rw [hcommand, hrunning, hline]
  | leaving r o k _ status _ hr htold hempty =>
      exact .leaving r o k _ status _ hr htold (hidle hempty)
  | closing r o k m _ status _ hr htold hempty =>
      exact .closing r o k m _ status _ hr htold (hidle hempty)
  | ended _ status _ hends hempty => exact .ended _ status _ hends (hidle hempty)

/-- A command that is not over belongs to a stream that is served. -/
theorem Stands.serving_of_going {events : List Event} {stage : Stage} {a : Attachment}
    (hstands : Stands events stage (some a)) (hgoing : a.isDone = false) :
    ∃ r o k n serving, stage = .serving k serving ∧ r.toOpening = .ok o ∧
      a.command = a.running.commandLine o.command ∧ serving ≠ .over ∧ serving ≠ .emptying ∧
      events = [.first (.message r), .joined o.app k, .called .attach k n,
        .answered .attach (.ok (some a.running))] ++ a.progress.events a.running a.command := by
  have hidle : IsIdle (some a) → False := by
    intro hidle
    rw [(hidle a rfl).1] at hgoing
    cases hgoing
  cases hstands with
  | serving r o k n _ serving hr hline hserving hemptying =>
      refine ⟨r, o, k, n, serving, rfl, hr, hline, hserving, ?_, rfl⟩
      intro hempty
      rw [hemptying hempty] at hgoing
      cases hgoing
  | concluding r o k n _ hr hline hover hempty =>
      rw [hover] at hgoing
      cases hgoing
  | leaving _ _ _ _ _ _ _ _ hempty => exact (hidle hempty).elim
  | closing _ _ _ _ _ _ _ _ _ hempty => exact (hidle hempty).elim
  | ended _ _ _ _ hempty => exact (hidle hempty).elim

theorem Stands.progress {events : List Event} {stage : Stage} {a : Attachment}
    (hstands : Stands events stage (some a)) (hgoing : a.isDone = false) {progress : Progress}
    {event : Event} (hevent : progress.events a.running a.command =
      a.progress.events a.running a.command ++ [event]) :
    Stands (events ++ [event]) stage (some { a with progress }) := by
  obtain ⟨r, o, k, n, serving, rfl, hr, hline, hserving, hemptying, rfl⟩ :=
    hstands.serving_of_going hgoing
  rw [List.append_assoc, ← hevent]
  exact Stands.serving r o k n { a with progress } serving hr hline hserving
    fun hempty => (hemptying hempty).elim

end Gate

end AttachGate
