import AttachGate.Proofs.Gate.Handlers

/-!
# Outcomes of streams

If remote calls fail only as those of the control plane do, every stream that its
client leaves open is recorded in any course, so that what has happened to it leads
to its status; and its handler never gets stuck.
-/

namespace AttachGate.Gate

open Session (Purpose IsRemote)

/-! ## Courses -/

def Move.IsDecoded : Move → Prop
  | .arrive inbox _ => ∀ feed ∈ inbox, feed.IsDecoded
  | .feed _ f => f.IsDecoded
  | _ => True

/-- A stream that its client does not close is recorded in every move. -/
theorem Recorded.after {past : List (Gate × Move)} {g : Gate} {i : Nat} (hg : Recorded past g i)
    (hregular : Regular g) (hbooked : Booked g) (hfiled : Filed (joins past) (calls past) g)
    {m : Move} (hm : m.IsDecoded) (hclose : m ≠ .close i) :
    Recorded (past ++ [(g, m)]) (g.after m) i := by
  have hquiet : ∀ h : Gate, h.streams = g.streams → h.queue = g.queue →
      g.event? i m = none → g.written? i m = none → Recorded (past ++ [(g, m)]) h i := by
    intro h hstreams hqueue hevent hwritten
    exact hg.of_same (by rw [hstreams]) hevent hwritten (Nat.le_of_eq (by rw [hqueue]))
  have hnothing : (∀ j, m ≠ .handle j) ∧ m ≠ .launch ∧ (∀ j outcome, m ≠ .finish j outcome) →
      g.event? i m = none := by
    rintro ⟨hhandle, hlaunch, hfinish⟩
    cases hs : g.streams[i]? <;> cases m <;> simp_all [event?]
  cases m with
  | arrive inbox limit => exact hg.arrive hm limit
  | feed j f => exact hg.feed j hm
  | depart j => exact hg.depart j
  | close j =>
      have hj : j ≠ i := by
        rintro rfl
        exact hclose rfl
      apply hg.of_same (h := g.onStream j Stream.close) _
        (hnothing (by simp)) rfl (Nat.le_refl _)
      exact List.getElem?_modify_ne _ _ hj
  | handle j =>
      by_cases hj : j = i
      · subst hj
        exact hg.handle hregular hbooked hfiled
      · obtain ⟨hstream, hqueue⟩ := g.handle_of_ne hj
        have hevent : g.event? i (.handle j) = none := by
          cases hs : g.streams[i]? <;> simp [event?, hs, hj]
        exact hg.of_same hstream hevent rfl (Nat.le_of_eq hqueue)
  | listen j => exact hg.listen j
  | launch => exact hg.launch
  | read j => exact hg.read j
  | write j channel data => exact hg.write j channel data
  | finish j outcome => exact hg.finish j outcome
  | session k deed =>
      have hsame : SameStreams g (g.onSession k (deed.move g.clock)) := by
        unfold onSession
        split <;> exact ⟨rfl, rfl⟩
      exact hquiet _ hsame.streams hsame.queue (hnothing (by simp)) rfl
  | elsewhere cluster => exact hquiet _ rfl rfl (hnothing (by simp)) rfl
  | pass seconds => exact hquiet _ rfl rfl (hnothing (by simp)) rfl

/-- What every move keeps while remote calls fail as they may and clients send what
they may. -/
structure Kept (past : List (Gate × Move)) (g : Gate) (i : Nat) : Prop where
  booked : Booked g
  filed : Filed (joins past) (calls past) g
  regular : Regular g
  recorded : Recorded past g i

theorem Kept.after {past : List (Gate × Move)} {g : Gate} {i : Nat} (hg : Kept past g i)
    {m : Move} (hreply : ∀ f, g.reply? m = some (.error f) → IsRemote f) (hm : m.IsDecoded)
    (hclose : m ≠ .close i) : Kept (past ++ [(g, m)]) (g.after m) i where
  booked := hg.booked.after m
  filed := by
    rw [joins_snoc, calls_snoc]
    exact hg.filed.step hg.booked (passing_after hg.booked.housed m)
  regular := hg.regular.after hg.booked hreply
  recorded := hg.recorded.after hg.regular hg.booked hg.filed hm hclose

variable {openTimeout : Option Number} {maxStreams : Int} {cluster : Cluster} {first : Gate}

theorem kept_course (hfirst : create openTimeout maxStreams cluster = .ok first)
    (htimeout : ∀ timeout, openTimeout = some timeout → timeout.IsReckonable) {moves : List Move}
    (hreplies : ∀ e ∈ history after first moves, ∀ f,
      e.1.reply? e.2 = some (.error f) → IsRemote f)
    (hdecoded : ∀ m ∈ moves, m.IsDecoded) {i : Nat} (hclose : ∀ m ∈ moves, m ≠ .close i) :
    Kept (history after first moves) (moves.foldl after first) i := by
  have hcourse : (∀ e ∈ history after first moves,
      (∀ f, e.1.reply? e.2 = some (.error f) → IsRemote f) ∧ e.2.IsDecoded ∧ e.2 ≠ .close i) →
      Kept (history after first moves) (moves.foldl after first) i := by
    apply course_invariant (I := fun (past : List (Gate × Move)) g =>
      (∀ e ∈ past, (∀ f, e.1.reply? e.2 = some (.error f) → IsRemote f) ∧
        e.2.IsDecoded ∧ e.2 ≠ .close i) → Kept past g i)
    · intro _
      exact ⟨booked_create hfirst, filed_create hfirst, regular_create hfirst htimeout,
        recorded_create hfirst i⟩
    · intro past g m hg hpast
      have hbefore := hg fun e he => hpast e (List.mem_append_left _ he)
      obtain ⟨hreply, hm, hother⟩ := hpast (g, m) (by simp)
      exact hbefore.after hreply hm hother
  apply hcourse
  intro e he
  have hmem := mem_of_mem_history he
  exact ⟨hreplies e he, hdecoded e.2 hmem, hclose e.2 hmem⟩

/-! ### Progress -/

inductive Waits (g : Gate) (s : Stream) : Prop
  | first (hstage : s.stage = .awaiting) (hinbox : s.inbox = [])
  | opening (o : Request.Opening) (k n : Nat) (hstage : s.stage = .opening o k n)
    (hover : g.outcome? k n = none)
  | command (k : Nat) (serving : Terminal.Serving) (a : Attachment)
    (hstage : s.stage = .serving k serving) (ha : s.attachment = some a)
    (hgoing : a.isDone = false)
  | closing (k n : Nat) (status : Status) (hstage : s.stage = .closing k n status)
    (hover : g.outcome? k n = none)
  | nothing (status : Status) (hstage : s.stage = .ended status)

/-- How many transitions the serving takes once the command is over. -/
def remainingServing : Terminal.Serving → Bool → Nat
  | .checking, true => 6
  | .emptying, true => 5
  | .taking, true => 4
  | .taking, false => 3
  | .checking, false => 2
  | .emptying, false => 1
  | .over, _ => 0

def Stream.remaining (s : Stream) : Nat :=
  match s.stage with
  | .awaiting => 13
  | .admitted _ => 12
  | .known _ _ => 11
  | .opening _ _ _ => 10
  | .serving _ serving => 3 + remainingServing serving (s.attachment.any fun a => a.outlet.slot.isSome)
  | .concluding _ => 3
  | .leaving _ _ => 2
  | .closing _ _ _ => 1
  | .ended _ => 0

theorem remaining_serve {s : Stream} {a : Attachment} (ha : s.attachment = some a)
    (hdone : a.isDone = true) {k : Nat} {serving : Terminal.Serving}
    (hstage : s.stage = .serving k serving) (hgoing : serving ≠ .over) :
    (s.serve k serving).remaining < s.remaining := by
  unfold Stream.serve
  cases hslot : a.outlet.slot <;> cases serving <;>
    simp_all [Stream.remaining, remainingServing, Terminal.Serving.advance, Stream.hangUp,
      Stream.onAttachment]

theorem remaining_takeFirst {s : Stream} (hstage : s.stage = .awaiting) (hinbox : s.inbox ≠ []) :
    s.takeFirst.remaining < s.remaining := by
  unfold Stream.takeFirst
  split
  · contradiction
  · rename_i feed rest _
    cases feed with
    | message r =>
        simp only [afterFirst, Stream.remaining, hstage]
        cases r.toOpening <;> simp
    | finished => simp [Stream.remaining, hstage]
    | broken f => simp [Stream.remaining, hstage]

/-- A handler that waits for nobody comes closer to where it does. -/
theorem Kept.progress {past : List (Gate × Move)} {g : Gate} {i : Nat} (hg : Kept past g i)
    {s : Stream} (hs : g.streams[i]? = some s) (hwaits : ¬ Waits g s) :
    ∃ t, (g.after (.handle i)).streams[i]? = some t ∧ t.remaining < s.remaining := by
  have hstands := (hg.recorded.logged s hs).stands
  generalize events past i = before at hstands
  have haccount : g.account? i = some s.stage.account := by simp [account?, hs]
  have hself : ∀ f : Stream → Stream, (g.onStream i f).streams[i]? = some (f s) := by
    intro f
    simp [Gate.onStream, hs]
  have hhere : SameStreams g g := ⟨rfl, rfl⟩
  simp only [Gate.after, Gate.handle, hs]
  cases hstage : s.stage with
  | awaiting =>
      have hinbox : s.inbox ≠ [] := fun hinbox => hwaits (.first hstage hinbox)
      exact ⟨_, hself _, remaining_takeFirst hstage hinbox⟩
  | admitted o =>
      simp only [lookUp]
      split
      · refine ⟨_, ((g.sameStreams_sessionFor o.app).enter hs _).1, ?_⟩
        simp [Stream.remaining, hstage]
      · refine ⟨_, (hhere.enter hs _).1, ?_⟩
        simp [Stream.remaining, hstage]
  | known o k =>
      refine ⟨_, ((g.sameStreams_call k _ _).enter hs _).1, ?_⟩
      simp [Stream.remaining, hstage]
  | opening o k n =>
      rw [hstage] at haccount
      cases hover : g.outcome? k n with
      | none => exact (hwaits (.opening o k n hstage hover)).elim
      | some outcome =>
          rcases hg.regular.opened hg.booked haccount hover with ⟨running, rfl⟩ | ⟨f, rfl, _⟩
          all_goals simp only [hover, afterOpening]
          · refine ⟨_, hself _, ?_⟩
            simp [Stream.remaining, hstage, remainingServing, Terminal.Outlet.start]
          · refine ⟨_, (hhere.enter hs _).1, ?_⟩
            simp [Stream.remaining, hstage]
  | serving k serving =>
      rw [hstage] at hstands
      generalize hattachment : s.attachment = attachment at hstands
      cases hstands with
      | serving r o _ n a _ _ _ hgoing _ =>
          cases hdone : a.isDone with
          | false => exact (hwaits (.command k serving a hstage hattachment hdone)).elim
          | true => exact ⟨_, hself _, remaining_serve hattachment hdone hstage hgoing⟩
  | concluding k =>
      rw [hstage] at hstands
      generalize hattachment : s.attachment = attachment at hstands
      cases hstands with
      | concluding r o _ n a _ _ _ _ =>
          refine ⟨_, hself _, ?_⟩
          simp [Stream.remaining, Stream.conclude, hattachment, hstage]
  | leaving k status =>
      refine ⟨_, ((g.sameStreams_call k _ _).enter hs _).1, ?_⟩
      simp [Stream.remaining, hstage]
  | closing k n status =>
      cases hover : g.outcome? k n with
      | none => exact (hwaits (.closing k n status hstage hover)).elim
      | some outcome =>
          simp only [hover]
          refine ⟨_, (hhere.enter hs _).1, ?_⟩
          simp [Stream.remaining, hstage]
  | ended status => exact (hwaits (.nothing status hstage)).elim

/-- A handler that is left to itself comes to its end or to where it waits. -/
theorem Kept.comes_to_wait {past : List (Gate × Move)} {g : Gate} {i : Nat} (hg : Kept past g i)
    {s : Stream} (hs : g.streams[i]? = some s) :
    ∃ n ≤ s.remaining, ∃ t,
      ((List.replicate n (Move.handle i)).foldl Gate.after g).streams[i]? = some t ∧
        Waits ((List.replicate n (Move.handle i)).foldl Gate.after g) t := by
  generalize hbound : s.remaining = bound
  induction bound using Nat.strongRecOn generalizing past g s with
  | ind bound ih =>
      by_cases hwaits : Waits g s
      · exact ⟨0, Nat.zero_le _, s, hs, hwaits⟩
      · obtain ⟨t, ht, hless⟩ := hg.progress hs hwaits
        rw [hbound] at hless
        have hnext := hg.after (m := .handle i) nofun trivial nofun
        obtain ⟨n, hn, u, hu, hwaits⟩ := ih t.remaining hless hnext ht rfl
        exact ⟨n + 1, by omega, u, hu, hwaits⟩

theorem Stream.remaining_le (s : Stream) : s.remaining ≤ 13 := by
  have hserving : ∀ serving full, remainingServing serving full ≤ 6 := by
    intro serving full
    cases serving <;> cases full <;> simp [remainingServing]
  unfold Stream.remaining
  split
  case h_5 =>
    have hle := hserving ‹_› (s.attachment.any fun a => a.outlet.slot.isSome)
    omega
  all_goals omega

/-! ### Streams that are turned away -/

structure SameOutside (g h : Gate) : Prop where
  sessions : h.sessions = g.sessions
  cluster : h.cluster = g.cluster
  queue : h.queue = g.queue

theorem sameOutside_call {g : Gate} {k : Nat} (hk : g.sessions[k]? = none)
    (errand : Session.Errand) (cancelled : Bool) (i : Nat) (stage : Stage) :
    SameOutside g ((g.call k errand cancelled).2.enter i stage) := by
  have hnobody : (g.call k errand cancelled).2 = g := by simp only [call, hk]
  rw [hnobody]
  exact ⟨rfl, rfl, rfl⟩

/-- All that a handler does to others goes with an event: it joins or calls a
session, or is told how its call ended. -/
theorem sameOutside_handle {g : Gate} {i : Nat}
    (hevent : ∀ event, g.event? i (.handle i) = some event → ∃ feed, event = .first feed) :
    SameOutside g (g.handle i) := by
  cases hs : g.streams[i]? with
  | none =>
      have hsame : g.handle i = g := by simp only [handle, hs]
      rw [hsame]
      exact ⟨rfl, rfl, rfl⟩
  | some s =>
      rw [event?_handle hs] at hevent
      simp only [handle, hs]
      cases hstage : s.stage with
      | admitted o =>
          by_cases hkey : canLookUp o.app = true
          · simp [handled?, hstage, hkey] at hevent
          · simp only [lookUp, hkey]
            exact ⟨rfl, rfl, rfl⟩
      | known o k =>
          cases hk : g.sessions[k]? with
          | none => exact sameOutside_call hk _ _ i _
          | some session => simp [handled?, hstage, hk] at hevent
      | opening o k n =>
          cases hover : g.outcome? k n with
          | none =>
              simp only [hover]
              exact ⟨rfl, rfl, rfl⟩
          | some outcome => simp [handled?, hstage, hover] at hevent
      | leaving k status =>
          cases hk : g.sessions[k]? with
          | none => exact sameOutside_call hk _ _ i _
          | some session => simp [handled?, hstage, hk] at hevent
      | closing k n status =>
          cases hover : g.outcome? k n with
          | none =>
              simp only [hover]
              exact ⟨rfl, rfl, rfl⟩
          | some outcome => simp [handled?, hstage, hover] at hevent
      | _ => exact ⟨rfl, rfl, rfl⟩

theorem sameOutside_of_events {past : List (Gate × Move)} {i : Nat} {feed : Terminal.Feed}
    (hevents : events past i = [.first feed]) {e : Gate × Move} (he : e ∈ past)
    (hmove : e.2 = .handle i) : SameOutside e.1 (e.1.after e.2) := by
  obtain ⟨g, m⟩ := e
  simp only at hmove
  subst hmove
  apply sameOutside_handle
  intro event hevent
  have hmem : event ∈ events past i := List.mem_filterMap.mpr ⟨(g, .handle i), he, hevent⟩
  rw [hevents, List.mem_singleton] at hmem
  exact ⟨feed, hmem⟩

/-! ### Every stream -/

/-- Suppose that remote calls fail only as those of the control plane do or as
something called off, that what clients send is decoded, with plain names for apps,
and that the timeout, if there is one, can be reckoned with.  Take a stream in any
course in which its client does not close it.

If it has ended, then what has happened to it fits its status, and its client has
been given the message of each write that went through.  If nothing has happened to
it but a first message, its handler has left all sessions, the cluster and the
commands that wait as they were.  And its handler, left to itself, comes within
thirteen transitions to its end, or to where it waits for the first message, a
session or the command. -/
theorem outcomes (hfirst : create openTimeout maxStreams cluster = .ok first)
    (htimeout : ∀ timeout, openTimeout = some timeout → timeout.IsReckonable)
    (moves : List Move) (past : List (Gate × Move)) (hpast : past = history after first moves)
    (g : Gate) (hg : g = moves.foldl after first)
    (hreplies : ∀ e ∈ past, ∀ f, e.1.reply? e.2 = some (.error f) →
      f.isIn .controlPlane = true ∨ f.isIn .cancelled = true)
    (hdecoded : ∀ m ∈ moves, m.IsDecoded) (i : Nat) (hclose : ∀ m ∈ moves, m ≠ .close i)
    (s : Stream) (hs : g.streams[i]? = some s) :
    (∀ status, s.stage = .ended status →
      Ends (events past i) status ∧ s.passed = written past i) ∧
    (∀ feed, events past i = [.first feed] → ∀ e ∈ past, e.2 = .handle i →
      SameOutside e.1 (e.1.after e.2)) ∧
    ∃ n ≤ 13, ∃ t, ((List.replicate n (Move.handle i)).foldl after g).streams[i]? = some t ∧
      Waits ((List.replicate n (Move.handle i)).foldl after g) t := by
  subst hpast
  have hkept := kept_course hfirst htimeout hreplies hdecoded hclose
  rw [← hg] at hkept
  have hlogged := hkept.recorded.logged s hs
  refine ⟨?_, ?_, ?_⟩
  · intro status hstage
    have hstands := hlogged.stands
    rw [hstage] at hstands
    generalize events (history after first moves) i = before at hstands ⊢
    generalize hattachment : s.attachment = attachment at hstands
    cases hstands with
    | ended _ _ _ hends hidle =>
        refine ⟨hends, ?_⟩
        have hheld : s.held = [] := by
          cases attachment with
          | none => simp [Stream.held, hattachment]
          | some a => simp [Stream.held, hattachment, (hidle a rfl).2]
        simpa [hheld] using hlogged.flowing
  · intro feed hevents e he hmove
    exact sameOutside_of_events hevents he hmove
  · obtain ⟨n, hn, hend⟩ := hkept.comes_to_wait hs
    exact ⟨n, Nat.le_trans hn s.remaining_le, hend⟩

namespace Sample

/-- A client is served until its command, which writes once, exits. -/
def serving : List Move :=
  [.arrive [.message opening] none, .handle 0, .handle 0, .handle 0, .session 0 .work,
    .session 0 (.run 1), .session 0 (.run 1), .session 0 (.run 1), .session 0 (.run 1),
    .session 0 (.run 1), .session 0 (.run 1), .session 0 (.run 1), .session 0 (.run 1),
    .session 0 (.run 1), .session 0 (.take 0), .session 0 (.look 0), .handle 0, .launch,
    .write 0 .out [104, 105], .handle 0, .handle 0, .finish 0 (.error (.exited 3)), .handle 0,
    .handle 0, .handle 0, .handle 0, .session 0 .work, .session 0 (.run 2), .session 0 (.run 2),
    .session 0 (.run 2), .session 0 (.run 2), .session 0 (.run 2), .session 0 (.run 2),
    .session 0 (.run 2), .session 0 (.run 2), .session 0 (.run 2), .session 0 (.take 1),
    .session 0 (.look 1), .handle 0]

def silent : List Move := [.arrive [.finished] none, .handle 0]

end Sample

theorem outcomes_served :
    (∃ s, (Sample.serving.foldl after Sample.gate).streams[0]? = some s ∧
      Ends (events (history after Sample.gate Sample.serving) 0)
        (.refused .aborted (Text.ofInt 3)) ∧
      s.passed = [.ofWrite .out [104, 105]]) ∧
    SameOutside (Sample.gate.after (.arrive [.finished] none))
      (Sample.silent.foldl after Sample.gate) := by
  have hfirst : create none 2 Session.Sample.cluster = .ok Sample.gate := rfl
  refine ⟨?_, ?_⟩
  · have hended : ((Sample.serving.foldl after Sample.gate).streams[0]?).any (fun s =>
        match s.stage with
        | .ended status => status == .refused .aborted (Text.ofInt 3)
        | _ => false) = true := by decide +kernel
    obtain ⟨s, hs, hstage⟩ := (Option.any_eq_true _ _).mp hended
    have hanswered : (history after Sample.gate Sample.serving).all
        (fun e => !(e.1.reply? e.2).any fun reply => !reply.isOk) = true := by decide +kernel
    have hwritten : written (history after Sample.gate Sample.serving) 0 =
        [.ofWrite .out [104, 105]] := by decide +kernel
    obtain ⟨hend, _⟩ := outcomes hfirst nofun Sample.serving _ rfl _ rfl
      (by
        intro e he f hf
        have hok := List.all_eq_true.mp hanswered e he
        simp [hf, Except.isOk, Except.toBool] at hok)
      (by simp [Sample.serving, Move.IsDecoded, Terminal.Feed.IsDecoded, Sample.opening,
        Session.Sample.app, App.Id.IsPlain])
      0 (by simp [Sample.serving]) s hs
    split at hstage
    · rename_i status hstatus
      obtain ⟨hends, hpassed⟩ := hend status hstatus
      rw [eq_of_beq hstage] at hends
      exact ⟨s, hs, hends, hpassed.trans hwritten⟩
    · cases hstage
  · obtain ⟨_, hturned, _⟩ := outcomes hfirst nofun Sample.silent _ rfl _ rfl
      (by simp [Sample.silent, history, reply?])
      (by simp [Sample.silent, Move.IsDecoded, Terminal.Feed.IsDecoded])
      0 (by simp [Sample.silent]) _ rfl
    exact hturned .finished rfl _ (.tail _ (.head _)) rfl

end AttachGate.Gate
