import AttachGate.Proofs.Gate.Moves

/-!
# What moves do outside the streams

A move of a gate leaves its sessions as they are, has one made for an app, or makes
one of them move.  The cluster changes with a session only or from elsewhere, and
the clock only as time passes.
-/

namespace AttachGate.Gate

/-- The moves that a move of the gate can bring a session to. -/
inductive Brings (g : Gate) (m : Move) (k : Nat) : Session.Move → Prop
  | attach (cancelled : Bool) : Brings g m k (.call (.attach g.openTimeout) cancelled)
  | detach : Brings g m k (.call .detach false)
  | leave (caller : Nat) : Brings g m k (.leave caller)
  | deed (deed : Deed) (hm : m = .session k deed) : Brings g m k (deed.move g.clock)

/-- The gate after a move, whatever becomes of its streams. -/
inductive Effect (g : Gate) (m : Move) : Gate → Prop
  | streams (streams : List Stream) (queue : List Nat) : Effect g m { g with streams, queue }
  | created (app : App.Id) (streams : List Stream) :
    Effect g m { g with streams, sessions := g.sessions ++ [.create app] }
  | moved (k : Nat) (s : Session) (move : Session.Move) (streams : List Stream)
    (hs : g.sessions[k]? = some s) (hmove : Brings g m k move) :
    Effect g m
      { g with
        streams
        sessions := g.sessions.set k (Session.Scene.after ⟨s, g.cluster⟩ move).session
        cluster := (Session.Scene.after ⟨s, g.cluster⟩ move).cluster }
  | elsewhere (cluster : Cluster) (hm : m = .elsewhere cluster) : Effect g m { g with cluster }
  | pass (seconds : Number) (hm : m = .pass seconds) : Effect g m (g.pass seconds)

theorem session_of_created {g : Gate} {app : App.Id} {k : Nat} {t : Session}
    (ht : (g.sessions ++ [Session.create app])[k]? = some t) :
    g.sessions[k]? = some t ∨ t = .create app := by
  rw [List.getElem?_append] at ht
  split at ht
  · exact .inl ht
  · rw [List.getElem?_singleton] at ht
    split at ht
    · exact .inr (Option.some.inj ht).symm
    · cases ht

theorem Effect.none (g : Gate) (m : Move) : Effect g m g := .streams g.streams g.queue

theorem Effect.onStream (g : Gate) (m : Move) (i : Nat) (f : Stream → Stream) :
    Effect g m (g.onStream i f) := .streams _ g.queue

theorem effect_call {g : Gate} {m : Move} {k : Nat} {errand : Session.Errand} {cancelled : Bool}
    (hmove : Brings g m k (.call errand cancelled)) (i : Nat) (stage : Stage) :
    Effect g m ((g.call k errand cancelled).2.enter i stage) := by
  unfold call
  split
  · rename_i s hs
    exact .moved k s (.call errand cancelled) _ hs hmove
  · exact .onStream g m i _

theorem effect_lookUp (g : Gate) (m : Move) (i : Nat) (o : Request.Opening) :
    Effect g m (g.lookUp i o) := by
  unfold lookUp
  split
  · cases hfound : g.sessions.findIdx? fun s => s.app.same o.app with
    | none =>
        simp only [sessionFor, hfound]
        exact .created o.app _
    | some k =>
        simp only [sessionFor, hfound]
        exact .onStream g m i _
  · exact .onStream g m i _

theorem effect_handle (g : Gate) (m : Move) (i : Nat) : Effect g m (g.handle i) := by
  unfold handle
  split
  · exact .none g m
  · split
    · exact .onStream g m i _
    · exact g.effect_lookUp m i _
    · exact effect_call (.attach _) i _
    · unfold afterOpening
      split
      · split
        · exact .streams _ _
        · exact .none g m
        · exact .onStream g m i _
      · exact .none g m
    · exact .onStream g m i _
    · exact .onStream g m i _
    · exact effect_call .detach i _
    · split
      · exact .onStream g m i _
      · exact .none g m
    · exact .none g m

theorem effect_depart (g : Gate) (m : Move) (i : Nat) : Effect g m (g.depart i) := by
  unfold depart
  split
  · exact .none g m
  · split
    · simp only
      split
      · rename_i k caller _
        cases hs : g.sessions[k]? with
        | none =>
            have hsame : g.sessions.modify k (fun s => s.leave caller) = g.sessions :=
              modify_of_none hs _
            simp only [Gate.onStream, hsame]
            exact .streams _ g.queue
        | some s =>
            have hset : g.sessions.modify k (fun s => s.leave caller) =
                g.sessions.set k (s.leave caller) := modify_of_some hs _
            simp only [Gate.onStream, hset]
            exact .moved k s (.leave caller) _ hs (.leave caller)
      · exact .onStream g m i _
    · exact .none g m

theorem effect_after (g : Gate) (m : Move) : Effect g m (g.after m) := by
  cases m with
  | handle i => exact g.effect_handle _ i
  | depart i => exact g.effect_depart _ i
  | launch =>
      simp only [after, launch]
      split
      · exact .none g _
      · split
        · exact .streams _ _
        · exact .none g _
  | read i =>
      simp only [after, read]
      split
      · exact .none g _
      · exact .onStream g _ i _
  | write i channel data =>
      simp only [after, write]
      split
      · exact .none g _
      · exact .onStream g _ i _
  | session k deed =>
      simp only [after]
      cases hs : g.sessions[k]? with
      | none =>
          rw [onSession_of_none hs]
          exact .none g _
      | some s =>
          rw [onSession_of_some hs]
          exact .moved k s (deed.move g.clock) g.streams hs (.deed deed rfl)
  | elsewhere cluster => exact .elsewhere cluster rfl
  | pass seconds => exact .pass seconds rfl
  | arrive inbox limit => exact .streams _ g.queue
  | feed i f => exact .onStream g _ i _
  | close i => exact .onStream g _ i _
  | listen i => exact .onStream g _ i _
  | finish i outcome => exact .onStream g _ i _

end AttachGate.Gate
