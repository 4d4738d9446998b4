import AttachGate.Proofs.Gate.Record

/-!
# What handlers do to the records

A handler moves its own stream on, and whatever it does is noted.  It is told of no
failure that it has no status for, since the sessions of a regular gate end no call
with one.
-/

namespace AttachGate.Gate

theorem app_of_toOpening {r : Request} {o : Request.Opening} (hr : r.toOpening = .ok o) :
    r.app = some o.app := by
  unfold Request.toOpening at hr
  split at hr
  · cases hr
  · rename_i app happ
    split at hr
    · cases hr
    · split at hr
      · cases hr
      · split at hr
        · cases hr
        · split at hr
          · cases hr
          · cases hr
            exact happ

/-- Two gates with the same streams and the same queue. -/
structure SameStreams (g h : Gate) : Prop where
  streams : h.streams = g.streams
  queue : h.queue = g.queue

theorem sameStreams_call (g : Gate) (k : Nat) (errand : Session.Errand) (cancelled : Bool) :
    SameStreams g (g.call k errand cancelled).2 := by
  unfold call
  split <;> exact ⟨rfl, rfl⟩

theorem sameStreams_sessionFor (g : Gate) (app : App.Id) : SameStreams g (g.sessionFor app).2 := by
  unfold sessionFor
  split <;> exact ⟨rfl, rfl⟩

theorem SameStreams.enter {g h : Gate} (hsame : SameStreams g h) {i : Nat} {s : Stream}
    (hs : g.streams[i]? = some s) (stage : Stage) :
    (h.enter i stage).streams[i]? = some { s with stage } ∧ (h.enter i stage).queue = g.queue := by
  refine ⟨?_, hsame.queue⟩
  rw [Gate.enter, Gate.onStream, hsame.streams, List.getElem?_modify_eq, hs]
  rfl

/-- A handler moves its own stream on. -/
theorem handle_of_ne (g : Gate) {i j : Nat} (hj : j ≠ i) :
    (g.handle j).streams[i]? = g.streams[i]? ∧ (g.handle j).queue.count i = g.queue.count i := by
  have henter : ∀ (h : Gate) (stage : Stage), SameStreams g h →
      (h.enter j stage).streams[i]? = g.streams[i]? ∧
        (h.enter j stage).queue.count i = g.queue.count i := by
    intro h stage hsame
    refine ⟨?_, congrArg (List.count i) hsame.queue⟩
    rw [Gate.enter, Gate.onStream, hsame.streams, List.getElem?_modify_ne _ _ hj]
  have hself : ∀ f : Stream → Stream, (g.onStream j f).streams[i]? = g.streams[i]? :=
    fun f => List.getElem?_modify_ne _ _ hj
  unfold handle
  split
  · exact ⟨rfl, rfl⟩
  · split
    · exact ⟨hself _, rfl⟩
    · unfold lookUp
      split
      · exact henter _ _ (g.sameStreams_sessionFor _)
      · exact henter g _ ⟨rfl, rfl⟩
    · exact henter _ _ (g.sameStreams_call _ _ _)
    · unfold afterOpening
      split
      · split
        · refine ⟨hself _, ?_⟩
          simp [attach, hj]
        · exact ⟨rfl, rfl⟩
        · exact henter g _ ⟨rfl, rfl⟩
      · exact ⟨rfl, rfl⟩
    · exact ⟨hself _, rfl⟩
    · exact ⟨hself _, rfl⟩
    · exact henter _ _ (g.sameStreams_call _ _ _)
    · split
      · exact henter g _ ⟨rfl, rfl⟩
      · exact ⟨rfl, rfl⟩
    · exact ⟨rfl, rfl⟩

theorem attachment_serve {s : Stream} {a : Attachment} (ha : s.attachment = some a) (k : Nat)
    (serving : Terminal.Serving) :
    ∃ b, (s.serve k serving).attachment = some b ∧ b.progress = a.progress := by
  unfold Stream.serve
  simp only [ha]
  split <;> exact ⟨_, rfl, rfl⟩

theorem outcome_of_isDone {a : Attachment} (hdone : a.isDone = true) :
    ∃ outcome, a.progress = .over outcome := by
  unfold Attachment.isDone at hdone
  split at hdone
  · rename_i outcome hprogress
    exact ⟨outcome, hprogress⟩
  · cases hdone

theorem verdict_status {a : Attachment} {outcome : Except Failure Unit}
    (hprogress : a.progress = .over outcome) : Verdict a.reader.error outcome a.status := by
  have hplain : (∀ e, ¬ IsMalformed a.reader.error e) →
      Verdict a.reader.error outcome (Attachment.status.ofProgress a.progress) := by
    intro hwell
    rw [hprogress]
    cases outcome with
    | ok _ => exact .ok hwell rfl
    | error f =>
        by_cases hf : ∃ code, f = .exited code
        · obtain ⟨code, rfl⟩ := hf
          exact .exited code hwell rfl
        · have hother : ∀ code, f ≠ .exited code := fun code hcode => hf ⟨code, hcode⟩
          have hstatus : Attachment.status.ofProgress (.over (.error f)) =
              .refused .unavailable f.message := by
            unfold Attachment.status.ofProgress
            split <;> simp_all
          rw [hstatus]
          exact .failed f hwell rfl hother
  unfold Attachment.status
  cases herror : a.reader.error with
  | none =>
      rw [herror] at hplain
      apply hplain
      rintro e ⟨he, _⟩
      cases he
  | some e =>
      rw [herror] at hplain
      simp only
      split
      · rename_i hprotocol
        exact .malformed e ⟨rfl, hprotocol⟩
      · rename_i hother
        apply hplain
        rintro _ ⟨⟨⟩, hprotocol⟩
        exact hother hprotocol

namespace Logged

variable {events : List Event} {messages : List Response} {s : Stream}
  (hs : Logged events messages s)

include hs

theorem enter {stage : Stage} {event : List Event}
    (hstands : Stands (events ++ event) stage s.attachment) :
    Logged (events ++ event) messages { s with stage } :=
  ⟨hstands, hs.flowing, hs.decoded⟩

theorem takeFirst (hstage : s.stage = .awaiting) :
    Logged (events ++ (s.inbox.head?.map Event.first).toList) messages s.takeFirst := by
  have hstands := hs.stands
  have hflowing := hs.flowing
  rw [hstage] at hstands
  cases hinbox : s.inbox with
  | nil => simpa [Stream.takeFirst, hinbox] using hs
  | cons feed rest =>
      have hdecoded : ∀ f ∈ feed :: rest, f.IsDecoded := hinbox ▸ hs.decoded
      have hfeed := hdecoded feed (.head rest)
      generalize hattachment : s.attachment = attachment at hstands
      cases hstands
      have hidle : IsIdle none := by
        intro a ha
        cases ha
      simp only [Stream.takeFirst, hinbox]
      refine ⟨?_, hflowing, fun f hf => hdecoded f (.tail feed hf)⟩
      simp only [hattachment]
      cases feed with
      | message r =>
          simp only [afterFirst]
          cases hr : r.toOpening with
          | ok o => exact .admitted r o hr (hfeed o.app (app_of_toOpening hr))
          | error refusal =>
              exact .ended _ _ none (.turnedAway _ _ (.invalid r refusal hr)) hidle
      | finished => exact .ended _ _ none (.turnedAway _ _ .nothing) hidle
      | broken f =>
          have hlost : lostFirst f = .refused .unavailable f.message := by
            simp only [lostFirst, show f.isIn .stream = true from hfeed, if_true]
          simp only [hlost]
          exact .ended _ _ none (.turnedAway _ _ (.lost f hfeed)) hidle

/-- The handler passes output on, and closes the terminal in the end. -/
theorem serve {k : Nat} {serving : Terminal.Serving} (hstage : s.stage = .serving k serving) :
    Logged events messages (s.serve k serving) := by
  have hstands := hs.stands
  have hflowing := hs.flowing
  rw [hstage] at hstands
  generalize hattachment : s.attachment = attachment at hstands
  cases hstands with
  | serving r o _ n a _ hr hcommand hgoing hemptying =>
      obtain ⟨hconserves, _⟩ := serving.advance_conserves a.isDone a.outlet
      simp only [Stream.held, hattachment] at hflowing
      have hpassed : s.passed ++ (serving.advance a.isDone a.outlet).2.1.toList ++
          (serving.advance a.isDone a.outlet).2.2.slot.toList = messages := by
        rw [List.append_assoc, hconserves, hflowing]
      unfold Stream.serve
      simp only [hattachment]
      split
      · rename_i hover
        rcases Terminal.Serving.over_of_advance hover with hbefore | ⟨hbefore, _, hslot⟩
        · exact (hgoing hbefore).elim
        · constructor
          · exact Stands.concluding r o k n
              { a with
                reader := a.reader.close
                outlet := (serving.advance a.isDone a.outlet).2.2.close }
              hr hcommand (hemptying hbefore) hslot
          · exact hpassed
          · exact hs.decoded
      · rename_i next hnext
        constructor
        · apply Stands.serving r o k n
            { a with outlet := (serving.advance a.isDone a.outlet).2.2 } _ hr hcommand hnext
          exact Terminal.Serving.emptying_of_advance
        · exact hpassed
        · exact hs.decoded

theorem conclude {k : Nat} (hstage : s.stage = .concluding k) :
    Logged (events ++ (s.attachment.map fun a => Event.judged a.reader.error).toList) messages
      (s.conclude k) := by
  have hstands := hs.stands
  rw [hstage] at hstands
  generalize hattachment : s.attachment = attachment at hstands
  cases hstands with
  | concluding r o _ n a hr hcommand hdone hslot =>
      obtain ⟨outcome, hprogress⟩ := outcome_of_isDone hdone
      have hcommandLine : a.command =
          (if a.running.command.isEmpty then [.text "chroot", .text "/app-root"]
            else a.running.command) ++ o.command := hcommand
      have hidle : IsIdle (some a) := by
        intro b hb
        cases hb
        exact ⟨hdone, hslot⟩
      have htold := Tells.served (r := r) (o := o) (k := k) n a.running outcome a.reader.error
        a.status (verdict_status hprogress)
      rw [← hcommandLine] at htold
      have hconcluded : s.conclude k = { s with stage := .leaving k a.status } := by
        simp only [Stream.conclude, hattachment]
      rw [hconcluded]
      apply hs.enter
      rw [hattachment, hprogress]
      exact .leaving r o k _ a.status (some a) hr htold hidle

end Logged

namespace Recorded

variable {past : List (Gate × Move)} {g : Gate} {i : Nat} (hg : Recorded past g i) {s : Stream}
  (hs : g.streams[i]? = some s)

include hg hs

/-- The handler moves on and does nothing to its stream. -/
theorem enter {h : Gate} {stage : Stage} (hh : h.streams[i]? = some { s with stage })
    (hqueue : h.queue = g.queue)
    (hstands : Stands (events past i ++ (g.handled? s).toList) stage s.attachment) :
    Recorded (past ++ [(g, .handle i)]) h i := by
  apply hg.of_stream hs hh _ hqueue
  · intro a ha hqueued
    exact ⟨a, ha, hqueued⟩
  · rw [event?_handle hs]
    simpa [written?] using (hg.logged s hs).enter hstands

/-- A handler that stays where it is notes nothing. -/
theorem stay (hnothing : g.handled? s = none) : Recorded (past ++ [(g, .handle i)]) g i :=
  hg.of_same rfl ((event?_handle hs).trans hnothing) rfl (Nat.le_refl _)

theorem alone {f : Stream → Stream}
    (hlogged : Logged (events past i ++ (g.handled? s).toList) (written past i) (f s))
    (hwaits : ∀ a, s.attachment = some a → a.progress = .queued →
      ∃ b, (f s).attachment = some b ∧ b.progress = .queued) :
    Recorded (past ++ [(g, .handle i)]) (g.onStream i f) i := by
  apply hg.of_stream (h := g.onStream i f) hs _ _ rfl hwaits
  · rw [Gate.onStream, List.getElem?_modify_eq, hs]
    rfl
  · rw [event?_handle hs]
    simpa [written?] using hlogged

theorem opened {o : Request.Opening} {k n : Nat} {running : App.Instance}
    (hstage : s.stage = .opening o k n) (hover : g.outcome? k n = some (.ok (some running))) :
    Recorded (past ++ [(g, .handle i)]) (g.attach i o k running) i := by
  have hlogged := hg.logged s hs
  have hstands := hlogged.stands
  have hflowing := hlogged.flowing
  have hevent : g.event? i (.handle i) = some (.answered .attach (.ok (some running))) := by
    rw [event?_handle hs]
    simp [handled?, hstage, hover]
  rw [hstage] at hstands
  generalize hattachment : s.attachment = attachment at hstands
  generalize hevents : events past i = before at hstands
  cases hstands with
  | opening r _ _ _ hr happ =>
      -- a command that waits for its turn has a terminal
      have hqueue : i ∉ g.queue := by
        intro hmem
        obtain ⟨t, a, ht, ha, _⟩ := hg.queued hmem
        rw [hs, Option.some.injEq] at ht
        rw [← ht, hattachment] at ha
        cases ha
      have hattached : (g.attach i o k running).streams[i]? = some { s with
          attachment := some
            { running, command := running.commandLine o.command, reader := .start o.size
              outlet := .start, progress := .queued }
          stage := .serving k .taking } := by
        simp [Gate.attach, Gate.onStream, hs]
      constructor
      · intro hnone
        rw [hattached] at hnone
        cases hnone
      · intro t ht
        rw [hattached, Option.some.injEq] at ht
        rw [events_snoc, written_snoc, hevent, hevents, ← ht]
        refine ⟨?_, ?_, hlogged.decoded⟩
        · exact Stands.serving r o k n
            { running, command := running.commandLine o.command, reader := .start o.size
              outlet := .start, progress := .queued } .taking hr rfl (by simp) (by simp)
        · simpa [Stream.held, hattachment, written?, Terminal.Outlet.start] using hflowing
      · intro _
        exact ⟨_, _, hattached, rfl, rfl⟩
      · have hcount := List.count_eq_zero.mpr hqueue
        simp [Gate.attach, hcount]

end Recorded

/-- The status of a stream whose app does not start names the app. -/
theorem notStarted_eq {app : App.Id} {ns name : Text}
    (happ : app.label = (App.Id.mk (.text ns) (.text name)).label) {f : Failure}
    (hf : isTold f = true) : notStarted app f =
      .refused .unavailable ("can't start app " ++ ns ++ "/" ++ name ++ ": " ++ f.message) := by
  have hlabel : app.label = ns ++ "/" ++ name := happ
  simp [notStarted, hf, hlabel]

theorem Recorded.handle {past : List (Gate × Move)} {g : Gate} {i : Nat} (hg : Recorded past g i)
    (hregular : Regular g) (hbooked : Booked g) (hfiled : Filed (joins past) (calls past) g) :
    Recorded (past ++ [(g, .handle i)]) (g.handle i) i := by
  cases hs : g.streams[i]? with
  | none =>
      have hsame : g.handle i = g := by simp only [Gate.handle, hs]
      rw [hsame]
      exact hg.of_same rfl (event?_of_none hs _) rfl (Nat.le_refl _)
  | some s =>
      have hlogged := hg.logged s hs
      have haccount : g.account? i = some s.stage.account := by simp [account?, hs]
      have hstands := hlogged.stands
      generalize hevents : events past i = before at hstands
      generalize hattachment : s.attachment = attachment at hstands
      generalize hstage : s.stage = stage at hstands haccount
      cases hstands with
      | awaiting =>
          have hhandle : g.handle i = g.onStream i Stream.takeFirst := by
            simp only [Gate.handle, hs, hstage]
          rw [hhandle]
          apply hg.alone hs
          · simpa [handled?, hstage] using hlogged.takeFirst hstage
          · intro a ha
            rw [hattachment] at ha
            cases ha
      | admitted r o hr happ =>
          have hhandle : g.handle i =
              (g.sessionFor o.app).2.enter i (.known o (g.sessionFor o.app).1) := by
            simp only [Gate.handle, hs, hstage, lookUp, happ.canLookUp, if_true]
          obtain ⟨hstream, hqueue⟩ := (g.sameStreams_sessionFor o.app).enter hs
            (.known o (g.sessionFor o.app).1)
          rw [hhandle]
          apply hg.enter hs hstream hqueue
          rw [hevents, hattachment]
          simpa [handled?, hstage, happ.canLookUp] using Stands.known r o _ hr happ
      | known r o k hr happ =>
          obtain ⟨session, hsession⟩ : ∃ session, g.sessions[k]? = some session :=
            ⟨_, List.getElem?_eq_getElem (hbooked.housed i .attach k haccount)⟩
          have hhandle : g.handle i =
              (g.call k (.attach g.openTimeout) s.cancelled).2.enter i
                (.opening o k session.callers.length) := by
            simp only [Gate.handle, hs, hstage, fst_call hsession]
          obtain ⟨hstream, hqueue⟩ := (g.sameStreams_call k (.attach g.openTimeout)
            s.cancelled).enter hs (.opening o k session.callers.length)
          rw [hhandle]
          apply hg.enter hs hstream hqueue
          rw [hevents, hattachment]
          simpa [handled?, hstage, hsession] using Stands.opening r o k _ hr happ
      | opening r o k n hr happ =>
          cases hover : g.outcome? k n with
          | none =>
              have hhandle : g.handle i = g := by simp only [Gate.handle, hs, hstage, hover]
              rw [hhandle]
              exact hg.stay hs (by simp [handled?, hstage, hover])
          | some outcome =>
              rcases hregular.opened hbooked haccount hover with ⟨running, rfl⟩ | ⟨f, rfl, hf⟩
              · have hhandle : g.handle i = g.attach i o k running := by
                  simp only [Gate.handle, hs, hstage, hover, afterOpening]
                rw [hhandle]
                exact hg.opened hs hstage hover
              · obtain ⟨ns, name, hname⟩ := happ
                have hjoin : ⟨i, o.app, k⟩ ∈ joins past := mem_joins_of_events (by simp [hevents])
                obtain ⟨_, session, hsession, hsame⟩ := hfiled.tabled _ hjoin
                have hlabel : session.app.label = (App.Id.mk (.text ns) (.text name)).label := by
                  rw [← hname]
                  exact App.Id.IsPlain.label_of_same ⟨ns, name, hname⟩ hsame
                have hhandle : g.handle i =
                    g.enter i (.leaving k (.refused .unavailable
                      ("can't start app " ++ ns ++ "/" ++ name ++ ": " ++ f.message))) := by
                  simp only at hsession
                  simp only [Gate.handle, hs, hstage, hover, afterOpening, hsession,
                    Option.map_some, Option.getD_some, notStarted_eq hlabel hf]
                obtain ⟨hstream, hqueue⟩ := (⟨rfl, rfl⟩ : SameStreams g g).enter hs
                  (.leaving k (.refused .unavailable
                    ("can't start app " ++ ns ++ "/" ++ name ++ ": " ++ f.message)))
                have hidle : IsIdle none := by
                  intro a ha
                  cases ha
                rw [hhandle]
                apply hg.enter hs hstream hqueue
                rw [hevents, hattachment]
                simpa [handled?, hstage, hover] using
                  Stands.leaving r o k _ _ none hr (.notStarted n f ns name hname hf) hidle
      | serving r o k n a serving hr hcommand hgoing hemptying =>
          have hhandle : g.handle i = g.onStream i fun s => s.serve k serving := by
            simp only [Gate.handle, hs, hstage]
          rw [hhandle]
          apply hg.alone hs
          · simpa [handled?, hstage] using hlogged.serve hstage
          · intro b hb hqueued
            obtain ⟨c, hc, hprogress⟩ := attachment_serve hb k serving
            exact ⟨c, hc, hprogress.trans hqueued⟩
      | concluding r o k n a hr hcommand hdone hslot =>
          have hhandle : g.handle i = g.onStream i fun s => s.conclude k := by
            simp only [Gate.handle, hs, hstage]
          rw [hhandle]
          apply hg.alone hs
          · simpa [handled?, hstage] using hlogged.conclude hstage
          · intro b hb hqueued
            exact ⟨b, by simp [Stream.conclude, hb], hqueued⟩
      | leaving r o k _ status _ hr htold hidle =>
          obtain ⟨session, hsession⟩ : ∃ session, g.sessions[k]? = some session :=
            ⟨_, List.getElem?_eq_getElem (hbooked.housed i .detach k haccount)⟩
          have hhandle : g.handle i =
              (g.call k .detach false).2.enter i (.closing k session.callers.length status) := by
            simp only [Gate.handle, hs, hstage, fst_call hsession]
          obtain ⟨hstream, hqueue⟩ := (g.sameStreams_call k .detach false).enter hs
            (.closing k session.callers.length status)
          rw [hhandle]
          apply hg.enter hs hstream hqueue
          rw [hattachment, hevents]
          simpa [handled?, hstage, hsession] using
            Stands.closing r o k session.callers.length _ status _ hr htold hidle
      | closing r o k m ending status _ hr htold hidle =>
          cases hover : g.outcome? k m with
          | none =>
              have hhandle : g.handle i = g := by simp only [Gate.handle, hs, hstage, hover]
              rw [hhandle]
              exact hg.stay hs (by simp [handled?, hstage, hover])
          | some outcome =>
              have hstatus : afterClosing status outcome = status := by
                cases outcome with
                | ok found => rfl
                | error f =>
                    simp only [afterClosing, hregular.closed hbooked haccount hover, if_true]
              have hhandle : g.handle i = g.enter i (.ended status) := by
                simp only [Gate.handle, hs, hstage, hover, hstatus]
              obtain ⟨hstream, hqueue⟩ := (⟨rfl, rfl⟩ : SameStreams g g).enter hs (.ended status)
              have hends := Ends.detached r o k m ending status outcome hr htold
              rw [hhandle]
              apply hg.enter hs hstream hqueue
              rw [hattachment, hevents]
              simpa [handled?, hstage, hover] using Stands.ended _ status _ hends hidle
      | ended _ status _ hends hidle =>
          have hhandle : g.handle i = g := by simp only [Gate.handle, hs, hstage]
          rw [hhandle]
          exact hg.stay hs (by simp [handled?, hstage])

end AttachGate.Gate
