import AttachGate.Gate.Schedule
import AttachGate.Proofs.Course
import AttachGate.Proofs.Session.Run

/-!
# Moves of the gate

The clients, the handlers, the receive loops and the commands of a gate's
streams, and the workers, the runners and the waiting callers of its sessions,
take their transitions in any order.  The gate's schedule is one such order.
-/

namespace AttachGate.Gate

inductive Deed
  | work
  | run (token : Nat)
  /-- The remote call that an intent is at fails. -/
  | fail (token : Nat) (f : Failure)
  /-- A caller sees the worker's answer. -/
  | take (caller : Nat)
  /-- A caller looks for the outcome. -/
  | look (caller : Nat)
  /-- A caller considers whether to give up. -/
  | doubt (caller : Nat)

def Deed.move (clock : Number) : Deed → Session.Move
  | .work => .work
  | .run token => .run token
  | .fail token f => .fail token f
  | .take caller => .take caller clock
  | .look caller => .look caller
  | .doubt caller => .doubt caller clock

inductive Move
  /-- A client opens a stream. -/
  | arrive (inbox : List Terminal.Feed) (limit : Option Nat)
  /-- A client sends something. -/
  | feed (i : Nat) (f : Terminal.Feed)
  /-- A client goes away. -/
  | depart (i : Nat)
  /-- A client closes its stream. -/
  | close (i : Nat)
  /-- The handler of a stream takes its next transition. -/
  | handle (i : Nat)
  /-- The receive loop of a stream takes its next transition. -/
  | listen (i : Nat)
  /-- The next command starts, if there is room for it. -/
  | launch
  /-- The command of a stream reads. -/
  | read (i : Nat)
  /-- The command of a stream writes. -/
  | write (i : Nat) (channel : Channel) (data : Bytes)
  /-- The command of a stream ends. -/
  | finish (i : Nat) (outcome : Except Failure Unit)
  | session (k : Nat) (deed : Deed)
  /-- Somebody else changes the cluster. -/
  | elsewhere (cluster : Cluster)
  /-- Time passes. -/
  | pass (seconds : Number)

def onSession (g : Gate) (k : Nat) (m : Session.Move) : Gate :=
  match g.sessions[k]? with
  | none => g
  | some s =>
    let w := Session.Scene.after ⟨s, g.cluster⟩ m
    { g with sessions := g.sessions.set k w.session, cluster := w.cluster }

def after (g : Gate) : Move → Gate
  | .arrive inbox limit => (g.arrive inbox limit).2
  | .feed i f => g.feed i f
  | .depart i => g.depart i
  | .close i => g.onStream i Stream.close
  | .handle i => g.handle i
  | .listen i => g.onStream i fun s => s.listen?.getD s
  | .launch => g.launch
  | .read i => (g.read i).2
  | .write i channel data => (g.write i channel data).2
  | .finish i outcome => g.finish i outcome
  | .session k deed => g.onSession k (deed.move g.clock)
  | .elsewhere cluster => { g with cluster }
  | .pass seconds => g.pass seconds

/-! ## Schedules -/

def Turn.moves : Turn → List Move
  | .session k .worker => [.session k .work]
  | .session k (.runner token) => [.session k (.run token)]
  | .reader i => [.listen i]
  | .command => [.launch]
  | .client i => [.close i]
  | .handler i => [.handle i]
  | .caller k n => [.session k (.take n), .session k (.look n), .session k (.doubt n)]

theorem onSession_of_some {g : Gate} {k : Nat} {s : Session} (hs : g.sessions[k]? = some s)
    (m : Session.Move) :
    g.onSession k m =
      { g with
        sessions := g.sessions.set k (Session.Scene.after ⟨s, g.cluster⟩ m).session
        cluster := (Session.Scene.after ⟨s, g.cluster⟩ m).cluster } := by
  simp only [onSession, hs]

theorem onSession_of_none {g : Gate} {k : Nat} (hs : g.sessions[k]? = none) (m : Session.Move) :
    g.onSession k m = g := by
  simp only [onSession, hs]

/-- A caller that goes on sees its answer, looks and considers whether to give up. -/
theorem attend_eq_play (w : Session.Scene) (caller : Nat) (clock : Number) :
    { w with session := w.session.attend caller clock } =
      w.play [.take caller clock, .look caller, .doubt caller clock] := by
  simp only [Session.Scene.play, Session.Scene.after, Session.attend, Session.onCaller,
    List.modify_modify_eq]
  rfl

/-- Moves of one session made one after another. -/
theorem onSession_foldl {g : Gate} {k : Nat} {s : Session} (hs : g.sessions[k]? = some s)
    (moves : List Session.Move) :
    moves.foldl (fun g m => g.onSession k m) g =
      { g with
        sessions := g.sessions.set k (Session.Scene.play ⟨s, g.cluster⟩ moves).session
        cluster := (Session.Scene.play ⟨s, g.cluster⟩ moves).cluster } := by
  induction moves generalizing g s with
  | nil =>
      have hsame : g.sessions.set k s = g.sessions := by
        obtain ⟨hlt, rfl⟩ := List.getElem?_eq_some_iff.mp hs
        exact List.set_getElem_self hlt
      simp [Session.Scene.play, hsame]
  | cons m rest ih =>
      have hlt := (List.getElem?_eq_some_iff.mp hs).1
      have hnext : (g.onSession k m).sessions[k]? =
          some (Session.Scene.after ⟨s, g.cluster⟩ m).session := by
        rw [onSession_of_some hs]
        simp [hlt]
      rw [List.foldl_cons, ih hnext, onSession_of_some hs]
      simp [Session.Scene.play]

theorem modify_of_some {α : Type} {l : List α} {k : Nat} {a : α} (ha : l[k]? = some a)
    (f : α → α) : l.modify k f = l.set k (f a) := by
  apply List.ext_getElem?
  intro j
  by_cases hj : k = j
  · subst hj
    obtain ⟨hlt, rfl⟩ := List.getElem?_eq_some_iff.mp ha
    simp [hlt]
  · simp [hj]

theorem modify_of_none {α : Type} {l : List α} {k : Nat} (hk : l[k]? = none) (f : α → α) :
    l.modify k f = l := by
  apply List.ext_getElem?
  intro j
  by_cases hj : k = j
  · subst hj
    simp [hk]
  · simp [hj]

theorem takeTurn_caller (g : Gate) (k caller : Nat) :
    g.takeTurn (.caller k caller) = (Turn.caller k caller).moves.foldl after g := by
  have hmoves : (Turn.caller k caller).moves.foldl after g =
      [.take caller g.clock, .look caller, .doubt caller g.clock].foldl
        (fun g m => g.onSession k m) g := by
    have hclock : ∀ (h : Gate) (m : Session.Move), (h.onSession k m).clock = h.clock := by
      intro h m
      unfold onSession
      split <;> rfl
    simp [Turn.moves, after, Deed.move, hclock]
  rw [hmoves]
  cases hs : g.sessions[k]? with
  | none => simp [takeTurn, modify_of_none hs, onSession_of_none hs]
  | some s =>
      rw [onSession_foldl hs, ← attend_eq_play]
      simp [takeTurn, modify_of_some hs]

theorem takeTurn_eq (g : Gate) (turn : Turn) : g.takeTurn turn = turn.moves.foldl after g := by
  cases turn with
  | session k turn =>
      cases hs : g.sessions[k]? <;> cases turn <;>
        simp only [takeTurn, Turn.moves, List.foldl_cons, List.foldl_nil, after, onSession, hs] <;>
        rfl
  | caller k caller => exact g.takeTurn_caller k caller
  | _ => rfl

/-- A schedule is an order of moves. -/
theorem exists_moves_iterate (n : Nat) (g : Gate) :
    ∃ moves : List Move, iterate n g = moves.foldl after g := by
  induction n generalizing g with
  | zero => exact ⟨[], rfl⟩
  | succ n ih =>
      cases hturn : g.turn? with
      | none => exact ⟨[], by simp only [iterate, hturn, List.foldl_nil]⟩
      | some turn =>
          obtain ⟨moves, hmoves⟩ := ih (g.takeTurn turn)
          refine ⟨turn.moves ++ moves, ?_⟩
          simp only [iterate, hturn, hmoves]
          rw [List.foldl_append, takeTurn_eq]

theorem exists_moves_settle (g : Gate) :
    ∃ moves : List Move, g.settle = moves.foldl after g :=
  exists_moves_iterate g.turnBound g

end AttachGate.Gate
