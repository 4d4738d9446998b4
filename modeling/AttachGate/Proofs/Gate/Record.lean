import AttachGate.Proofs.Gate.Endings
import AttachGate.Proofs.Gate.Events
import AttachGate.Proofs.Terminal.Transitions

/-!
# The record of a stream

What has happened to a stream agrees with where its handler stands, and what its
client has been given and what is left in the slot are the messages of the writes
that went through.  Every move of a client, a receive loop or a command keeps the
record so.  A command that waits for its turn waits once.
-/

namespace AttachGate.Gate

def Stream.held (s : Stream) : List Response :=
  match s.attachment with
  | some a => a.outlet.slot.toList
  | none => []

/-- A stream that things have happened to and whose command has written. -/
structure Logged (events : List Event) (messages : List Response) (s : Stream) : Prop where
  stands : Stands events s.stage s.attachment
  flowing : s.passed ++ s.held = messages
  decoded : ∀ feed ∈ s.inbox, feed.IsDecoded

structure Recorded (past : List (Gate × Move)) (g : Gate) (i : Nat) : Prop where
  absent : g.streams[i]? = none → events past i = [] ∧ written past i = []
  logged : ∀ s, g.streams[i]? = some s → Logged (events past i) (written past i) s
  queued : i ∈ g.queue → ∃ s a, g.streams[i]? = some s ∧ s.attachment = some a ∧
    a.progress = .queued
  once : g.queue.count i ≤ 1

theorem events_snoc (past : List (Gate × Move)) (g : Gate) (m : Move) (i : Nat) :
    events (past ++ [(g, m)]) i = events past i ++ (g.event? i m).toList := by
  simp only [events, List.filterMap_append, List.filterMap_cons, List.filterMap_nil]
  cases g.event? i m <;> rfl

theorem written_snoc (past : List (Gate × Move)) (g : Gate) (m : Move) (i : Nat) :
    written (past ++ [(g, m)]) i = written past i ++ (g.written? i m).toList := by
  simp only [written, List.filterMap_append, List.filterMap_cons, List.filterMap_nil]
  cases g.written? i m <;> rfl

theorem recorded_create {openTimeout : Option Number} {maxStreams : Int} {cluster : Cluster}
    {g : Gate} (hg : create openTimeout maxStreams cluster = .ok g) (i : Nat) :
    Recorded [] g i := by
  unfold create at hg
  split at hg
  · cases hg
  · cases hg
    constructor <;> simp [events, written]

/-! ## One stream -/

namespace Logged

variable {events : List Event} {messages : List Response} {s : Stream}
  (hs : Logged events messages s)

include hs

theorem amend {a : Attachment} (ha : s.attachment = some a) (b : Attachment)
    {inbox : List Terminal.Feed} (hinbox : inbox ⊆ s.inbox) (message : Option Response)
    (hrunning : b.running = a.running) (hcommand : b.command = a.command)
    (hprogress : b.progress = a.progress)
    (hslot : a.isDone = true → a.outlet.slot = none → b.outlet.slot = none)
    (hflowing : b.outlet.slot.toList = a.outlet.slot.toList ++ message.toList) :
    Logged events (messages ++ message.toList) { s with inbox, attachment := some b } := by
  have hstands := hs.stands
  have hbefore := hs.flowing
  rw [ha] at hstands
  simp only [Stream.held, ha] at hbefore
  constructor
  · exact hstands.amend hrunning hcommand hprogress hslot
  · simp only [Stream.held]
    rw [hflowing, ← List.append_assoc, hbefore]
  · intro feed hfeed
    exact hs.decoded feed (hinbox hfeed)

theorem feed {f : Terminal.Feed} (hf : f.IsDecoded) :
    Logged events messages { s with inbox := s.inbox ++ [f] } := by
  refine ⟨hs.stands, hs.flowing, ?_⟩
  intro feed hfeed
  rcases List.mem_append.mp hfeed with hold | hnew
  · exact hs.decoded feed hold
  · rw [List.mem_singleton] at hnew
    exact hnew ▸ hf

theorem depart : Logged events messages { s with cancelled := true } :=
  ⟨hs.stands, hs.flowing, hs.decoded⟩

theorem listen : Logged events messages (s.listen?.getD s) := by
  cases hattachment : s.attachment with
  | none => simpa [Stream.listen?, hattachment] using hs
  | some a =>
      cases hstep : a.reader.step s.inbox with
      | none => simpa [Stream.listen?, hattachment, hstep] using hs
      | some next =>
          obtain ⟨reader, inbox⟩ := next
          have hinbox := (Terminal.Reader.steps_of_step hstep).frame.2.2.subset
          have hnext := hs.amend hattachment { a with reader } hinbox none rfl rfl rfl
            (fun _ hempty => hempty) (by simp)
          simpa [Stream.listen?, hattachment, hstep] using hnext

theorem read (reader : Terminal.Reader) :
    Logged events messages (s.onAttachment fun a => { a with reader }) := by
  cases ha : s.attachment with
  | none =>
      have hsame : (s.onAttachment fun a => { a with reader }) = s := by
        obtain ⟨_, _, _, _, attachment, _⟩ := s
        cases ha
        rfl
      rw [hsame]
      exact hs
  | some a =>
      have hnext := hs.amend ha { a with reader } (List.Subset.refl _) none rfl rfl rfl
        (fun _ hempty => hempty) (by simp)
      simpa [Stream.onAttachment, ha] using hnext

theorem progress {a : Attachment} (ha : s.attachment = some a) (hgoing : a.isDone = false)
    (progress : Progress) (event : Event) (hevent : progress.events a.running a.command =
      a.progress.events a.running a.command ++ [event]) :
    Logged (events ++ [event]) messages
      (s.onAttachment fun a => { a with progress }) := by
  have hstands := hs.stands
  have hflowing := hs.flowing
  rw [ha] at hstands
  simp only [Stream.held, ha] at hflowing
  simp only [Stream.onAttachment, ha, Option.map_some]
  constructor
  · exact hstands.progress hgoing hevent
  · simpa only [Stream.held] using hflowing
  · exact hs.decoded

end Logged

/-- A write that goes through leaves its message in the slot, and no other leaves any. -/
theorem slot_of_write (channel : Channel) (data : Bytes) (o : Terminal.Outlet) :
    ((Terminal.Writing.looking channel data).run o).2.slot.toList = o.slot.toList ++
      (sent channel data ((Terminal.Writing.looking channel data).run o).1.outcome?).toList := by
  obtain ⟨slot, closed⟩ := o
  cases closed <;> cases slot <;> rfl

/-! ## Clients and commands -/

theorem event?_of_none {g : Gate} {i : Nat} (hnone : g.streams[i]? = none) (m : Move) :
    g.event? i m = none := by
  simp [event?, hnone]

theorem written?_of_none {g : Gate} {i : Nat} (hnone : g.streams[i]? = none) (m : Move) :
    g.written? i m = none := by
  cases m with
  | write j channel data =>
      by_cases hj : j = i
      · subst hj
        simp [written?, write, terminal?, hnone, sent]
      · simp only [written?, if_neg hj]
  | _ => rfl

theorem attachment_of_isRunning {s : Stream} (hrunning : s.isRunning = true) :
    ∃ a, s.attachment = some a ∧ a.progress = .running := by
  unfold Stream.isRunning at hrunning
  split at hrunning
  · rename_i a ha
    split at hrunning
    · rename_i hprogress
      exact ⟨a, ha, hprogress⟩
    · cases hrunning
  · cases hrunning

theorem terminal?_eq_some {g : Gate} {j : Nat} {a : Attachment}
    (ha : g.terminal? j = some a) : ∃ s, g.streams[j]? = some s ∧ s.attachment = some a ∧
      a.progress = .running := by
  unfold terminal? at ha
  split at ha
  · rename_i s hs
    split at ha
    · rename_i hrunning
      obtain ⟨b, hb, hprogress⟩ := attachment_of_isRunning hrunning
      rw [ha, Option.some.injEq] at hb
      exact ⟨s, hs, ha, hb ▸ hprogress⟩
    · cases ha
  · cases ha

theorem launch_of_none {g : Gate} (hnext : g.next? = none) : g.launch = g := by
  unfold next? at hnext
  unfold launch
  split
  · rfl
  · rename_i j rest hqueue
    split
    · rename_i hroom
      simp [hroom, hqueue] at hnext
    · rfl

theorem launch_of_some {g : Gate} {j : Nat} (hnext : g.next? = some j) :
    ∃ rest, g.queue = j :: rest ∧
      g.launch =
        { g.onStream j fun s => s.onAttachment fun a => { a with progress := .running } with
          queue := rest } := by
  unfold next? at hnext
  split at hnext
  · rename_i hroom
    cases hqueue : g.queue with
    | nil => simp [hqueue] at hnext
    | cons k rest =>
        rw [hqueue, List.head?_cons, Option.some.injEq] at hnext
        subst hnext
        exact ⟨rest, rfl, by simp only [launch, hqueue, if_pos hroom]⟩
  · cases hnext

namespace Recorded

variable {past : List (Gate × Move)} {g h : Gate} {i : Nat} (hg : Recorded past g i) {m : Move}

include hg

/-- The stream is where it was, and its command waits if it did. -/
theorem of_same (hstream : h.streams[i]? = g.streams[i]?) (hevent : g.event? i m = none)
    (hwritten : g.written? i m = none) (hqueue : h.queue.count i ≤ g.queue.count i) :
    Recorded (past ++ [(g, m)]) h i := by
  constructor
  · rw [events_snoc, written_snoc, hevent, hwritten, hstream]
    simpa using hg.absent
  · rw [events_snoc, written_snoc, hevent, hwritten, hstream]
    simpa using hg.logged
  · intro hmem
    rw [hstream]
    apply hg.queued
    have hpos := List.count_pos_iff.mpr hmem
    exact List.count_pos_iff.mp (by omega)
  · exact Nat.le_trans hqueue hg.once

/-- Something happens to the stream, and its command waits if it did. -/
theorem of_stream {s t : Stream} (hs : g.streams[i]? = some s) (ht : h.streams[i]? = some t)
    (hlogged : Logged (events past i ++ (g.event? i m).toList)
      (written past i ++ (g.written? i m).toList) t)
    (hqueue : h.queue = g.queue)
    (hwaits : ∀ a, s.attachment = some a → a.progress = .queued →
      ∃ b, t.attachment = some b ∧ b.progress = .queued) :
    Recorded (past ++ [(g, m)]) h i := by
  rw [← events_snoc, ← written_snoc] at hlogged
  constructor
  · intro hnone
    rw [ht] at hnone
    cases hnone
  · intro u hu
    rw [ht, Option.some.injEq] at hu
    exact hu ▸ hlogged
  · intro hmem
    obtain ⟨u, a, hu, ha, hprogress⟩ := hg.queued (hqueue ▸ hmem)
    rw [hs, Option.some.injEq] at hu
    subst hu
    obtain ⟨b, hb, hqueued⟩ := hwaits a ha hprogress
    exact ⟨t, b, ht, hb, hqueued⟩
  · rw [hqueue]
    exact hg.once

/-- A stream moves, this one or another. -/
theorem onStream {j : Nat} {f : Stream → Stream} (hstreams : h.streams = g.streams.modify j f)
    (hqueue : h.queue = g.queue)
    (hother : j ≠ i → g.event? i m = none ∧ g.written? i m = none)
    (hself : ∀ s, j = i → g.streams[i]? = some s →
      Logged (events past i ++ (g.event? i m).toList)
        (written past i ++ (g.written? i m).toList) (f s) ∧
      ∀ a, s.attachment = some a → a.progress = .queued →
        ∃ b, (f s).attachment = some b ∧ b.progress = .queued) :
    Recorded (past ++ [(g, m)]) h i := by
  have hcount : h.queue.count i ≤ g.queue.count i := Nat.le_of_eq (by rw [hqueue])
  by_cases hj : j = i
  · subst hj
    cases hs : g.streams[j]? with
    | none =>
        apply hg.of_same _ (event?_of_none hs m) (written?_of_none hs m) hcount
        rw [hstreams, modify_of_none hs]
    | some s =>
        obtain ⟨hlogged, hwaits⟩ := hself s rfl hs
        apply hg.of_stream hs _ hlogged hqueue hwaits
        rw [hstreams, List.getElem?_modify_eq, hs]
        rfl
  · obtain ⟨hevent, hwritten⟩ := hother hj
    apply hg.of_same _ hevent hwritten hcount
    rw [hstreams, List.getElem?_modify_ne _ _ hj]

/-- A stream moves and nothing is to be noted of it. -/
theorem quiet {j : Nat} {f : Stream → Stream} (hstreams : h.streams = g.streams.modify j f)
    (hqueue : h.queue = g.queue) (hevent : g.event? i m = none) (hwritten : g.written? i m = none)
    (hlogged : ∀ events messages s, Logged events messages s → Logged events messages (f s))
    (hwaits : ∀ s a, s.attachment = some a →
      ∃ b, (f s).attachment = some b ∧ b.progress = a.progress) :
    Recorded (past ++ [(g, m)]) h i := by
  apply hg.onStream hstreams hqueue
  · exact fun _ => ⟨hevent, hwritten⟩
  · intro s _ hs
    rw [hevent, hwritten]
    refine ⟨by simpa using hlogged _ _ s (hg.logged s hs), ?_⟩
    intro a ha hprogress
    obtain ⟨b, hb, hsame⟩ := hwaits s a ha
    exact ⟨b, hb, hsame.trans hprogress⟩

theorem arrive {inbox : List Terminal.Feed} (hinbox : ∀ feed ∈ inbox, feed.IsDecoded)
    (limit : Option Nat) :
    Recorded (past ++ [(g, .arrive inbox limit)]) (g.arrive inbox limit).2 i := by
  have hevent : g.event? i (.arrive inbox limit) = none := by
    cases hs : g.streams[i]? <;> simp [event?, hs]
  by_cases hi : i = g.streams.length
  · have hnone : g.streams[i]? = none := by simp [hi]
    have hnew : (g.arrive inbox limit).2.streams[i]? = some (Stream.start inbox limit) := by
      simp [Gate.arrive, hi]
    obtain ⟨hevents, hwritten⟩ := hg.absent hnone
    have hqueue : i ∉ g.queue := by
      intro hmem
      obtain ⟨s, _, hs, _⟩ := hg.queued hmem
      rw [hnone] at hs
      cases hs
    constructor
    · intro habsent
      rw [hnew] at habsent
      cases habsent
    · intro s hs
      rw [hnew, Option.some.injEq] at hs
      rw [events_snoc, written_snoc, hevents, hwritten, hevent, ← hs]
      exact ⟨.awaiting, rfl, hinbox⟩
    · intro hmem
      exact (hqueue hmem).elim
    · exact hg.once
  · apply hg.of_same (h := (g.arrive inbox limit).2) _ hevent rfl (Nat.le_refl _)
    simp only [Gate.arrive, List.getElem?_append]
    by_cases hlt : i < g.streams.length
    · simp [hlt]
    · have hbeyond : i - g.streams.length ≠ 0 := by omega
      simp [hlt, hbeyond]

theorem feed (j : Nat) {f : Terminal.Feed} (hf : f.IsDecoded) :
    Recorded (past ++ [(g, .feed j f)]) (g.feed j f) i := by
  apply hg.quiet (h := g.feed j f) rfl rfl _ rfl
  · intro events messages s hs
    exact hs.feed hf
  · intro s a ha
    exact ⟨a, ha, rfl⟩
  · cases hs : g.streams[i]? <;> simp [event?, hs]

theorem depart (j : Nat) : Recorded (past ++ [(g, .depart j)]) (g.depart j) i := by
  have hevent : g.event? i (.depart j) = none := by
    cases hs : g.streams[i]? <;> simp [event?, hs]
  have hdeparts : (g.depart j).queue = g.queue ∧ ((g.depart j).streams = g.streams ∨
      (g.depart j).streams = g.streams.modify j fun s => { s with cancelled := true }) := by
    unfold Gate.depart
    split
    · exact ⟨rfl, .inl rfl⟩
    · split
      · split <;> exact ⟨rfl, .inr rfl⟩
      · exact ⟨rfl, .inl rfl⟩
  obtain ⟨hqueue, hsame | hstreams⟩ := hdeparts
  · exact hg.of_same (by rw [hsame]) hevent rfl (Nat.le_of_eq (by rw [hqueue]))
  · apply hg.quiet hstreams hqueue hevent rfl
    · intro events messages s hs
      exact hs.depart
    · intro s a ha
      exact ⟨a, ha, rfl⟩

theorem listen (j : Nat) : Recorded (past ++ [(g, .listen j)]) (g.after (.listen j)) i := by
  apply hg.quiet (h := g.after (.listen j)) rfl rfl _ rfl
  · intro events messages s hs
    exact hs.listen
  · intro s a ha
    cases hstep : a.reader.step s.inbox with
    | none => exact ⟨a, by simp [Stream.listen?, ha, hstep], rfl⟩
    | some next => exact ⟨{ a with reader := next.1 }, by simp [Stream.listen?, ha, hstep], rfl⟩
  · cases hs : g.streams[i]? <;> simp [event?, hs]

theorem read (j : Nat) : Recorded (past ++ [(g, .read j)]) (g.read j).2 i := by
  have hevent : g.event? i (.read j) = none := by
    cases hs : g.streams[i]? <;> simp [event?, hs]
  unfold Gate.read
  split
  · exact hg.of_same rfl hevent rfl (Nat.le_refl _)
  · rename_i a _
    have hreader : ∀ reader : Terminal.Reader, Recorded (past ++ [(g, .read j)])
        (g.onStream j fun s => s.onAttachment fun a => { a with reader }) i := by
      intro reader
      apply hg.quiet (h := g.onStream j _) rfl rfl hevent rfl
      · intro events messages s hs
        exact hs.read reader
      · intro s a ha
        exact ⟨{ a with reader }, by simp [Stream.onAttachment, ha], rfl⟩
    exact hreader _

theorem write (j : Nat) (channel : Channel) (data : Bytes) :
    Recorded (past ++ [(g, .write j channel data)]) (g.write j channel data).2 i := by
  have hevent : g.event? i (.write j channel data) = none := by
    cases hs : g.streams[i]? <;> simp [event?, hs]
  cases hterminal : g.terminal? j with
  | none =>
      have hsame : g.write j channel data = (none, g) := by simp [Gate.write, hterminal]
      rw [hsame]
      exact hg.of_same rfl hevent (by simp [written?, hsame, sent]) (Nat.le_refl _)
  | some a =>
      obtain ⟨s, hs, ha, hrunning⟩ := terminal?_eq_some hterminal
      have hwrite : g.write j channel data =
          (((Terminal.Writing.looking channel data).run a.outlet).1.outcome?,
            g.onStream j fun s => s.onAttachment fun b =>
              { b with outlet := ((Terminal.Writing.looking channel data).run a.outlet).2 }) := by
        simp only [Gate.write, hterminal]
      have hslot := slot_of_write channel data a.outlet
      rw [hwrite]
      apply hg.onStream (h := g.onStream j _) rfl rfl
      · intro hj
        exact ⟨hevent, by simp only [written?, if_neg hj]⟩
      · rintro t rfl ht
        rw [hs, Option.some.injEq] at ht
        subst ht
        rw [hevent]
        refine ⟨?_, ?_⟩
        · have hnext := (hg.logged s hs).amend ha
            { a with outlet := ((Terminal.Writing.looking channel data).run a.outlet).2 }
            (List.Subset.refl _) (g.written? j (.write j channel data)) rfl rfl rfl
            (by simp [Attachment.isDone, hrunning])
            (by simpa only [written?, hwrite, if_true] using hslot)
          simpa [Stream.onAttachment, ha] using hnext
        · intro b hb hqueued
          rw [ha, Option.some.injEq] at hb
          rw [← hb, hrunning] at hqueued
          cases hqueued

theorem finish (j : Nat) (outcome : Except Failure Unit) :
    Recorded (past ++ [(g, .finish j outcome)]) (g.finish j outcome) i := by
  apply hg.onStream (h := g.onStream j _) rfl rfl
  · intro hj
    refine ⟨?_, rfl⟩
    cases hs : g.streams[i]? <;> simp [event?, hs, hj]
  · rintro s rfl hs
    have hevent : g.event? j (.finish j outcome) =
        if s.isRunning = true then some (.finished outcome) else none := by
      simp [event?, hs]
    have hlogged := hg.logged s hs
    rw [hevent]
    simp only [written?, Option.toList_none, List.append_nil]
    split
    · rename_i hrunning
      obtain ⟨a, ha, hprogress⟩ := attachment_of_isRunning hrunning
      refine ⟨?_, ?_⟩
      · exact hlogged.progress ha (by simp [Attachment.isDone, hprogress]) _ _
          (by simp [hprogress, Progress.events])
      · intro b hb hqueued
        rw [ha, Option.some.injEq] at hb
        rw [← hb, hprogress] at hqueued
        cases hqueued
    · refine ⟨by simpa using hlogged, ?_⟩
      intro a ha hqueued
      exact ⟨a, ha, hqueued⟩

theorem launch : Recorded (past ++ [(g, .launch)]) g.launch i := by
  cases hnext : g.next? with
  | none =>
      have hevent : g.event? i .launch = none := by
        cases hs : g.streams[i]? <;> simp [event?, hs, hnext]
      rw [launch_of_none hnext]
      exact hg.of_same rfl hevent rfl (Nat.le_refl _)
  | some j =>
      obtain ⟨rest, hqueue, hlaunch⟩ := launch_of_some hnext
      rw [hlaunch]
      by_cases hj : j = i
      · subst hj
        obtain ⟨s, a, hs, ha, hqueued⟩ := hg.queued (by simp [hqueue])
        have hevent : g.event? j .launch = some (.launched a.running a.command) := by
          simp [event?, hs, hnext, ha]
        have honce := hg.once
        rw [hqueue, List.count_cons_self] at honce
        have hnew := (hg.logged s hs).progress ha (by simp [Attachment.isDone, hqueued])
          .running (.launched a.running a.command) (by simp [hqueued, Progress.events])
        constructor
        · intro hnone
          simp [Gate.onStream, hs] at hnone
        · intro t ht
          simp only [Gate.onStream, List.getElem?_modify_eq, hs] at ht
          cases ht
          rw [events_snoc, written_snoc, hevent]
          simpa [written?] using hnew
        · intro hmem
          have hpos := List.count_pos_iff.mpr hmem
          simp only at hpos
          omega
        · simp only
          omega
      · have hevent : g.event? i .launch = none := by
          cases hs : g.streams[i]? <;> simp [event?, hs, hnext, hj]
        apply hg.of_same (h := { g.onStream j _ with queue := rest }) _ hevent rfl
        · rw [hqueue]
          exact (List.sublist_cons_self j rest).count_le i
        · exact List.getElem?_modify_ne _ _ hj

end Recorded

end AttachGate.Gate
