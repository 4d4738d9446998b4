import AttachGate.Proofs.Gate.Effects
import AttachGate.Proofs.Gate.Roster

/-!
# Nobody detaches once too often

A session refuses to detach a client while none is attached.  Since a stream
calls to detach only while it attends, no session of a gate ever does; and as no
change fails that way by itself, no stream is told of it as long as the
cluster's own calls do not fail that way either.
-/

namespace AttachGate.Gate

/-! ## Handlers and clients -/

/-- No change goes on: the intents of a session are as they were, or it has none. -/
structure Spares (g h : Gate) : Prop where
  cluster : h.cluster = g.cluster
  intents : ∀ (k : Nat) (t : Session), h.sessions[k]? = some t →
    (∃ s, g.sessions[k]? = some s ∧ t.coordinator = s.coordinator) ∨ t.coordinator.intents = []

theorem Spares.of_same {g h : Gate} (hcluster : h.cluster = g.cluster)
    (hsessions : h.sessions = g.sessions) : Spares g h := by
  refine ⟨hcluster, ?_⟩
  intro k t ht
  exact .inl ⟨t, hsessions ▸ ht, rfl⟩

theorem Spares.of_set {g h : Gate} (hcluster : h.cluster = g.cluster) {k : Nat} {s t : Session}
    (hs : g.sessions[k]? = some s) (hsessions : h.sessions = g.sessions.set k t)
    (hcoordinator : t.coordinator = s.coordinator) : Spares g h := by
  refine ⟨hcluster, ?_⟩
  intro j u hu
  rw [hsessions, Booked.sessions_set hs] at hu
  split at hu
  · rename_i hj
    cases hu
    exact .inl ⟨s, hj ▸ hs, hcoordinator⟩
  · exact .inl ⟨u, hu, rfl⟩

/-- Handlers and clients leave all changes as they are. -/
theorem spares_after (g : Gate) {m : Move} (hsession : ∀ k deed, m ≠ .session k deed)
    (helsewhere : ∀ cluster, m ≠ .elsewhere cluster) : Spares g (g.after m) := by
  have heffect := g.effect_after m
  generalize g.after m = h at heffect
  cases heffect with
  | streams => exact .of_same rfl rfl
  | created app streams =>
      refine ⟨rfl, ?_⟩
      intro k t ht
      rcases session_of_created ht with hold | rfl
      · exact .inl ⟨t, hold, rfl⟩
      · exact .inr rfl
  | moved k s move streams hs hmove =>
      cases hmove with
      | attach cancelled => exact .of_set rfl hs rfl rfl
      | detach => exact .of_set rfl hs rfl rfl
      | leave caller => exact .of_set rfl hs rfl rfl
      | deed deed hm => exact (hsession k deed hm).elim
  | elsewhere cluster hm => exact (helsewhere cluster hm).elim
  | pass seconds => exact .of_same rfl rfl

/-! ## Failures of the cluster -/

/-- A failure that is not that of a client that detaches once too often. -/
def IsOther (f : Failure) : Prop := f.isIn .overClosed = false

theorem admits_isOther : Change.Admits fun _ => IsOther where
  own := by
    intro _ e he
    simp only [Change.ownKinds, List.mem_cons, List.not_mem_nil, or_false] at he
    rcases he with h | h | h | h | h | h <;>
      simp [IsOther, Failure.isIn, h, Kind.isIn, Kind.family?]
  calledOff := by
    intro e he
    simp [IsOther, Failure.isIn, he, Kind.isIn, Kind.family?]
  superseded := by
    intro _ e _ _ _ _ _
    rfl
  mono := by
    intro e he
    exact he

/-- No call of the cluster fails in that way. -/
def Move.IsFair : Move → Prop
  | .session _ (.fail _ f) => IsOther f
  | .elsewhere cluster => cluster.FailsAs IsOther
  | _ => True

/-- No change has failed in that way. -/
structure Fair (g : Gate) : Prop where
  cluster : g.cluster.FailsAs IsOther
  intents : ∀ (k : Nat) (s : Session), g.sessions[k]? = some s →
    ∀ i ∈ s.coordinator.intents, Session.Traced (fun _ => IsOther) i

theorem fair_create {openTimeout : Option Number} {maxStreams : Int} {cluster : Cluster}
    {g : Gate} (hg : create openTimeout maxStreams cluster = .ok g)
    (hcluster : cluster.FailsAs IsOther) : Fair g := by
  obtain ⟨hsessions, _⟩ := account?_of_create hg
  constructor
  · unfold create at hg
    split at hg
    · cases hg
    · cases hg
      exact hcluster
  · simp [hsessions]

theorem Fair.of_spares {g h : Gate} (hg : Fair g) (hspares : Spares g h) : Fair h := by
  constructor
  · exact hspares.cluster ▸ hg.cluster
  · intro k t ht i hi
    rcases hspares.intents k t ht with ⟨s, hs, hcoordinator⟩ | hnone
    · exact hg.intents k s hs i (hcoordinator ▸ hi)
    · rw [hnone] at hi
      cases hi

theorem Fair.session {g : Gate} (hg : Fair g) (hbooked : Booked g) {k : Nat} {deed : Deed}
    (hm : (Move.session k deed).IsFair) : Fair (g.after (.session k deed)) := by
  have hfails : (deed.move g.clock).FailsAs IsOther := by
    cases deed with
    | fail token f => exact hm
    | _ => trivial
  rw [after]
  cases hs : g.sessions[k]? with
  | none =>
      rw [onSession_of_none hs]
      exact hg
  | some s =>
      rw [onSession_of_some hs]
      constructor
      · exact hfails.after (w := ⟨s, g.cluster⟩) hg.cluster
      · intro j t ht
        rw [Booked.sessions_set hs] at ht
        split at ht
        · cases ht
          have hsane := hbooked.sane k s hs
          exact Session.traced_after (w := ⟨s, g.cluster⟩) admits_isOther hsane.consistent
            hg.cluster hfails (hg.intents k s hs)
        · exact hg.intents j t ht

theorem Fair.after {g : Gate} (hg : Fair g) (hbooked : Booked g) {m : Move} (hm : m.IsFair) :
    Fair (g.after m) := by
  cases m with
  | session k deed => exact hg.session hbooked hm
  | elsewhere cluster => exact ⟨hm, hg.intents⟩
  | _ => exact hg.of_spares (g.spares_after nofun nofun)

/-- No call is refused, and none ends as a call that was refused would. -/
theorem Fair.outcome {g : Gate} (hg : Fair g) (hbooked : Booked g) {k n : Nat} {f : Failure}
    (hover : g.outcome? k n = some (.error f)) : IsOther f := by
  simp only [outcome?, Option.bind_eq_some_iff] at hover
  obtain ⟨c, ⟨s, hs, hc⟩, houtcome⟩ := hover
  have hstanding := Session.Caller.standing_of_outcome? houtcome
  rcases (hbooked.sane k s hs).unrefused.cause hc hstanding with ⟨token, hintent⟩ | hgivesUp
  · simp only [Coordinator.outcome?, Option.bind_eq_some_iff] at hintent
    obtain ⟨i, hi, hresult⟩ := hintent
    have htraced := hg.intents k s hs i (Coordinator.mem_of_intent? hi)
    exact htraced.result _ (Runner.result?_of_outcome? hresult) f rfl
  · cases hgivesUp <;> rfl

end AttachGate.Gate
