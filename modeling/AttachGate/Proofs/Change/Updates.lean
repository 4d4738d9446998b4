import AttachGate.Proofs.Change.Attempts
import Mathlib.Data.List.Basic
import AttachGate.Proofs.Course

/-!
# No update is lost

Any number of changes of one app go on beside each other and beside whoever else
writes to it, on a store that accepts an object only under the version of the one
it holds and stores every object under a version that it never used before.  An
object that a change has read and that still carries the version of the stored
one is the stored one; so a write that is accepted replaces the very object that
it was made from, and what it changes is the wanted phase.
-/

namespace AttachGate

/-! ## Objects with one field replaced -/

namespace App

theorem specification_retarget (object : Members) (phase : Phase) :
    specification (retarget object phase) =
      (specification object).set "targetPhase" (.text phase.name) := by
  have hspec : (retarget object phase).get? "spec" =
      some (.object ((specification object).set "targetPhase" (.text phase.name))) :=
    Members.get?_set_self _ _ _
  unfold specification at hspec ⊢
  rw [hspec]

/-- What an object with another wanted phase has in common with the one it was
made from: everything else. -/
theorem retarget_frame (object : Members) (phase : Phase) :
    (∀ key : Text, key ≠ "spec" → (retarget object phase).get? key = object.get? key) ∧
    (∀ key : Text, key ≠ "targetPhase" →
      (specification (retarget object phase)).get? key = (specification object).get? key) ∧
    (specification (retarget object phase)).get? "targetPhase" = some (.text phase.name) := by
  refine ⟨fun key hkey => Members.get?_set_of_ne hkey _ _, fun key hkey => ?_, ?_⟩
  · rw [specification_retarget]
    exact Members.get?_set_of_ne hkey _ _
  · rw [specification_retarget]
    exact Members.get?_set_self _ _ _

end App

namespace Cluster

def stamp (v : Value) (object : Members) : Members :=
  merge "metadata" [(Text.ofString "resourceVersion", v)] object

theorem version_stamp (v : Value) (object : Members) : version (stamp v object) = v := by
  have hmetadata : (stamp v object).get? "metadata" =
      some (.object ((part object "metadata").set (Text.ofString "resourceVersion") v)) :=
    Members.get?_set_self _ _ _
  have hpart : part (stamp v object) "metadata" =
      (part object "metadata").set (Text.ofString "resourceVersion") v := by
    rw [part, hmetadata]
  have hversion : ((part object "metadata").set (Text.ofString "resourceVersion") v).get?
      "resourceVersion" = some v := Members.get?_set_self _ _ _
  rw [version, hpart, hversion]
  rfl

end Cluster

namespace Change

/-! ## The world -/

inductive Contact
  | begun
  | got (reply : Except Failure App.Snapshot)
  /-- Its write was accepted, or was not. -/
  | put (object : Members) (accepted : Bool)

structure Actor where
  phase : Phase
  plan : Flip.Plan
  stage : Stage
  log : List Contact

structure World where
  stored : Option Members
  /-- The versions that the app was ever stored under. -/
  used : List Value
  actors : List Actor

inductive Move
  | begin (phase : Phase) (plan : Flip.Plan)
  /-- A change looks whether it is called off, or its delay ends. -/
  | turn (k : Nat) (cancelled : Bool)
  /-- A read is answered: with a failure, or as the store is. -/
  | read (k : Nat) (fault : Option Failure)
  /-- A write is accepted and its object stored under a version.  The answer may get
  lost on its way. -/
  | accept (k : Nat) (v : Value) (reply : Except Failure App.Snapshot)
  | reject (k : Nat) (f : Failure)
  | hear (k : Nat) (news : Except Failure (Option App.Snapshot))
  /-- Somebody else stores an object, or deletes the one that is there. -/
  | elsewhere (object : Option Members) (v : Value)

/-- What a look at whether to give up does at the store. -/
def Stage.begins (cancelled : Bool) : Stage → List Contact
  | .flipping (.due _) => if cancelled then [] else [.begun]
  | _ => []

namespace Actor

variable (app : App.Id)

def goal (a : Actor) : Goal := ⟨app, a.phase, a.plan⟩

def start (phase : Phase) (plan : Flip.Plan) : Actor :=
  { phase, plan, stage := Change.start ⟨app, phase, plan⟩, log := [] }

def turn (cancelled : Bool) (a : Actor) : Actor :=
  match a.stage.ask with
  | .flag =>
    { a with
      stage := a.stage.look (a.goal app) cancelled
      log := a.log ++ a.stage.begins cancelled }
  | .pause _ => { a with stage := a.stage.wake (a.goal app) cancelled }
  | _ => a

def read (reply : Except Failure App.Snapshot) (a : Actor) : Actor :=
  match a.stage.ask with
  | .read => { a with stage := a.stage.answer (a.goal app) reply, log := a.log ++ [.got reply] }
  | _ => a

def written (accepted : Bool) (reply : Except Failure App.Snapshot) (a : Actor) : Actor :=
  match a.stage.ask with
  | .write object =>
    { a with
      stage := a.stage.answer (a.goal app) reply
      log := a.log ++ [.put object accepted] }
  | _ => a

def hear (news : Except Failure (Option App.Snapshot)) (a : Actor) : Actor :=
  match a.stage.ask with
  | .next => { a with stage := a.stage.deliver (a.goal app) news }
  | _ => a

end Actor

namespace World

def start (stored : Option Members) : World :=
  { stored, used := stored.toList.map Cluster.version, actors := [] }

variable (app : App.Id)

def reply (w : World) (fault : Option Failure) : Except Failure App.Snapshot :=
  match fault, w.stored with
  | some f, _ => .error f
  | none, none => .error (Cluster.notFound app)
  | none, some object => App.Snapshot.ofObject (.object object)

def writing? (w : World) (k : Nat) : Option (Actor × Members) :=
  match w.actors[k]? with
  | none => none
  | some a =>
    match a.stage.ask with
    | .write object => some (a, object)
    | _ => none

def isFresh (w : World) (v : Value) : Bool := w.used.all fun u => !u.equal v

def accepts (w : World) (object : Members) (v : Value) : Bool :=
  match w.stored with
  | none => false
  | some current => (Cluster.version object).equal (Cluster.version current) && w.isFresh v

def store (w : World) (v : Value) (object : Members) : World :=
  { w with stored := some (Cluster.stamp v object), used := w.used ++ [v] }

def onActor (w : World) (k : Nat) (f : Actor → Actor) : World :=
  { w with actors := w.actors.modify k f }

def step (w : World) : Move → World
  | .begin phase plan => { w with actors := w.actors ++ [.start app phase plan] }
  | .turn k cancelled => w.onActor k (.turn app cancelled)
  | .read k fault => w.onActor k (.read app (w.reply app fault))
  | .accept k v reply =>
    match w.writing? k with
    | none => w
    | some (_, object) =>
      if w.accepts object v then (w.onActor k (.written app true reply)).store v object else w
  | .reject k f => w.onActor k (.written app false (.error f))
  | .hear k news => w.onActor k (.hear app news)
  | .elsewhere none _ => { w with stored := none }
  | .elsewhere (some object) v => if w.isFresh v then w.store v object else w

/-! ## Where a change stands -/

/-- An object that was stored once, and is the stored one as long as that carries
its version. -/
def Holds (w : World) (object : Members) : Prop :=
  Cluster.version object ∈ w.used ∧
    ∀ current ∈ w.stored,
      (Cluster.version object).equal (Cluster.version current) = true → object = current

end World

def Stage.isTrying : Stage → Bool
  | .flipping (.trying _ _) => true
  | _ => false

/-- What an attempt has done so far, and what it has in hand. -/
inductive Attempt (holds : Members → Prop) (phase : Phase) : Stage → List Contact → Prop
  | idle {s : Stage} {log : List Contact} (hs : s.isTrying = false) : Attempt holds phase s log
  | entered (earlier : List Contact) (delays : List Number) :
    Attempt holds phase (.flipping (.trying .entered delays)) (earlier ++ [.begun])
  | reading (earlier : List Contact) (delays : List Number) :
    Attempt holds phase (.flipping (.trying .reading delays)) (earlier ++ [.begun])
  | fetched (earlier : List Contact) (app : App.Snapshot) (delays : List Number)
    (hholds : holds app.object) :
    Attempt holds phase (.flipping (.trying (.fetched app) delays))
      (earlier ++ [.begun, .got (.ok app)])
  | writing (earlier : List Contact) (app : App.Snapshot) (delays : List Number)
    (hholds : holds app.object) :
    Attempt holds phase (.flipping (.trying (.writing (App.retarget app.object phase)) delays))
      (earlier ++ [.begun, .got (.ok app)])

/-- Every write was made of what the read just before it in the same attempt
brought. -/
def Logged (phase : Phase) (log : List Contact) : Prop :=
  ∀ before object accepted after, log = before ++ .put object accepted :: after →
    ∃ earlier read, before = earlier ++ [.begun, .got (.ok read)] ∧
      object = App.retarget read.object phase

structure Actor.Sound (holds : Members → Prop) (a : Actor) : Prop where
  attempt : Attempt holds a.phase a.stage a.log
  logged : Logged a.phase a.log

structure World.Sound (w : World) : Prop where
  current : ∀ current ∈ w.stored, Cluster.version current ∈ w.used
  actors : ∀ a ∈ w.actors, a.Sound w.Holds

/-! ## What every move keeps -/

theorem Attempt.mono {holds holds' : Members → Prop} (hmono : ∀ o, holds o → holds' o)
    {phase : Phase} {s : Stage} {log : List Contact} (hs : Attempt holds phase s log) :
    Attempt holds' phase s log := by
  cases hs with
  | idle hs => exact .idle hs
  | entered earlier delays => exact .entered earlier delays
  | reading earlier delays => exact .reading earlier delays
  | fetched earlier app delays hholds => exact .fetched earlier app delays (hmono _ hholds)
  | writing earlier app delays hholds => exact .writing earlier app delays (hmono _ hholds)

theorem logged_nil (phase : Phase) : Logged phase [] := by
  intro before object accepted after hlog
  simp at hlog

/-- A log grows by a contact that, if it is a write, follows its read. -/
theorem Logged.concat {phase : Phase} {log : List Contact} (hlog : Logged phase log) {c : Contact}
    (hc : ∀ object accepted, c = .put object accepted →
      ∃ earlier read, log = earlier ++ [.begun, .got (.ok read)] ∧
        object = App.retarget read.object phase) :
    Logged phase (log ++ [c]) := by
  intro before object accepted after hsplit
  rcases List.eq_nil_or_concat after with rfl | ⟨init, last, rfl⟩
  · obtain ⟨rfl, hlast⟩ := List.append_inj' hsplit rfl
    exact hc object accepted (List.cons.inj hlast).1
  · rw [List.concat_eq_append, ← List.cons_append, ← List.append_assoc] at hsplit
    obtain ⟨hinit, _⟩ := List.append_inj' hsplit rfl
    exact hlog before object accepted init hinit

theorem Stage.isTrying_of_isPastFlip {s : Stage} (hs : s.isPastFlip = true) :
    s.isTrying = false := by
  cases s with
  | flipping run => cases hs
  | _ => rfl

theorem isTrying_settle (goal : Goal) (attempt : Flip.Stage) (delays : List Number)
    (outcome : Except Failure App.Snapshot) :
    (ofFlip goal (Flip.settle goal.plan (.trying attempt delays) outcome)).isTrying = false := by
  cases outcome with
  | ok app => exact Stage.isTrying_of_isPastFlip (isPastFlip_afterFlip goal (.ok app))
  | error e =>
      simp only [Flip.settle, Retry.Stage.settle]
      split
      · cases delays <;> rfl
      · rfl

theorem Stage.isTrying_of_ask {s : Stage}
    (hask : s.ask = .read ∨ ∃ object, s.ask = .write object) : s.isTrying = true := by
  rcases hask with hread | ⟨object, hwrite⟩
  · obtain ⟨delays, rfl⟩ := Stage.eq_of_read hread
    rfl
  · obtain ⟨delays, rfl⟩ := Stage.eq_of_write hwrite
    rfl

section Attempt

variable {holds : Members → Prop} {phase : Phase} {s : Stage} {log : List Contact}

theorem Attempt.of_read (hs : Attempt holds phase s log) (hask : s.ask = .read) :
    ∃ earlier delays, s = .flipping (.trying .reading delays) ∧ log = earlier ++ [.begun] := by
  cases hs with
  | reading earlier delays => exact ⟨earlier, delays, rfl, rfl⟩
  | idle hidle =>
      rw [Stage.isTrying_of_ask (.inl hask)] at hidle
      cases hidle
  | _ => cases hask

theorem Attempt.of_write (hs : Attempt holds phase s log) {object : Members}
    (hask : s.ask = .write object) :
    ∃ earlier read delays, s = .flipping (.trying (.writing object) delays) ∧
      log = earlier ++ [.begun, .got (.ok read)] ∧ object = App.retarget read.object phase ∧
      holds read.object := by
  cases hs with
  | writing earlier read delays hholds =>
      cases hask
      exact ⟨earlier, read, delays, rfl, rfl, rfl, hholds⟩
  | idle hidle =>
      rw [Stage.isTrying_of_ask (.inr ⟨object, hask⟩)] at hidle
      cases hidle
  | _ => cases hask

/-- An attempt begins, goes on or is given up. -/
theorem Attempt.look (goal : Goal) (hs : Attempt holds goal.phase s log) (hask : s.ask = .flag)
    (cancelled : Bool) :
    Attempt holds goal.phase (s.look goal cancelled) (log ++ s.begins cancelled) := by
  cases hs with
  | entered earlier delays =>
      cases cancelled with
      | true => exact .idle (isTrying_settle goal .entered delays (.error .cancelled))
      | false =>
          simp only [Stage.begins, List.append_nil]
          exact .reading earlier delays
  | fetched earlier read delays hholds =>
      cases cancelled with
      | true => exact .idle (isTrying_settle goal (.fetched read) delays (.error .cancelled))
      | false =>
          simp only [Stage.begins, List.append_nil]
          exact .writing earlier read delays hholds
  | idle hidle =>
      cases s with
      | flipping run =>
          cases run with
          | due delays =>
              cases cancelled with
              | true => exact .idle rfl
              | false => exact .entered log delays
          | trying attempt delays => cases hidle
          | _ => cases hask
      | _ => cases hask
  | _ => cases hask

theorem Stage.isTrying_wake {goal : Goal} {delay : Number} (hask : s.ask = .pause delay)
    (cancelled : Bool) : (s.wake goal cancelled).isTrying = false := by
  obtain ⟨delays, rfl⟩ := Stage.eq_of_pause hask
  cases cancelled <;> rfl

theorem Stage.isTrying_deliver {goal : Goal} (hask : s.ask = .next)
    (news : Except Failure (Option App.Snapshot)) : (s.deliver goal news).isTrying = false := by
  cases Stage.eq_of_next hask
  exact Stage.isTrying_of_isPastFlip (Stage.isPastFlip_deliver rfl goal news)

end Attempt

section Actor

variable {holds : Members → Prop} {a : Actor} (app : App.Id)

theorem Actor.sound_start (phase : Phase) (plan : Flip.Plan) :
    (Actor.start app phase plan).Sound holds := by
  refine ⟨.idle ?_, logged_nil _⟩
  simp only [Actor.start, Change.start, Flip.start, Retry.start]
  split <;> rfl

theorem Actor.Sound.turn (ha : a.Sound holds) (cancelled : Bool) :
    (a.turn app cancelled).Sound holds := by
  obtain ⟨hattempt, hlogged⟩ := ha
  unfold Actor.turn
  split
  · rename_i hask
    refine ⟨Attempt.look (a.goal app) hattempt hask cancelled, ?_⟩
    unfold Stage.begins
    split
    · cases cancelled with
      | true => simpa using hlogged
      | false => exact hlogged.concat (by simp)
    · simpa using hlogged
  · rename_i hask
    exact ⟨.idle (Stage.isTrying_wake hask cancelled), hlogged⟩
  · exact ⟨hattempt, hlogged⟩

theorem Actor.Sound.read (ha : a.Sound holds) {reply : Except Failure App.Snapshot}
    (hreply : ∀ read, reply = .ok read → holds read.object) : (a.read app reply).Sound holds := by
  unfold Actor.read
  split
  · rename_i hask
    obtain ⟨hattempt, hlogged⟩ := ha
    obtain ⟨earlier, delays, hstage, hlog⟩ := hattempt.of_read hask
    refine ⟨?_, hlogged.concat (by simp)⟩
    simp only [hstage, hlog, List.append_assoc, List.cons_append, List.nil_append]
    cases reply with
    | error e => exact .idle (isTrying_settle (a.goal app) _ _ _)
    | ok read =>
        simp only [Stage.answer, Flip.answer]
        split
        · exact .idle (isTrying_settle (a.goal app) _ _ _)
        · exact .fetched earlier read delays (hreply read rfl)
  · exact ha

theorem Actor.Sound.written (ha : a.Sound holds) (accepted : Bool)
    (reply : Except Failure App.Snapshot) : (a.written app accepted reply).Sound holds := by
  unfold Actor.written
  split
  · rename_i object hask
    obtain ⟨hattempt, hlogged⟩ := ha
    obtain ⟨earlier, read, delays, hstage, hlog, hobject, _⟩ := hattempt.of_write hask
    refine ⟨?_, hlogged.concat ?_⟩
    · simp only [hstage]
      exact .idle (isTrying_settle (a.goal app) _ _ _)
    · rintro other accepted ⟨⟩
      exact ⟨earlier, read, hlog, hobject⟩
  · exact ha

theorem Actor.Sound.hear (ha : a.Sound holds) (news : Except Failure (Option App.Snapshot)) :
    (a.hear app news).Sound holds := by
  unfold Actor.hear
  split
  · rename_i hask
    exact ⟨.idle (Stage.isTrying_deliver hask news), ha.logged⟩
  · exact ha

end Actor

theorem forall_mem_modify {P : Actor → Prop} {f : Actor → Actor} (hf : ∀ a, P a → P (f a))
    {actors : List Actor} (hactors : ∀ a ∈ actors, P a) (k : Nat) :
    ∀ a ∈ actors.modify k f, P a := by
  intro a ha
  obtain ⟨i, hi⟩ := List.getElem?_of_mem ha
  rw [List.getElem?_modify] at hi
  obtain ⟨b, hb, rfl⟩ := Option.map_eq_some_iff.mp hi
  have hbefore := hactors b (List.mem_of_getElem? hb)
  split
  · exact hf b hbefore
  · exact hbefore

namespace World

variable {w : World} {app : App.Id}

/-- What is stored under a version never used before is nothing that anybody has
read. -/
theorem Holds.store {object : Members} (hholds : w.Holds object) {v : Value}
    (hfresh : w.isFresh v = true) (other : Members) : (w.store v other).Holds object := by
  obtain ⟨hused, _⟩ := hholds
  refine ⟨List.mem_append_left _ hused, ?_⟩
  rintro current ⟨⟩ hequal
  have hdiffers := List.all_eq_true.mp hfresh _ hused
  rw [Cluster.version_stamp] at hequal
  simp [hequal] at hdiffers

theorem stored_of_reply {fault : Option Failure} {read : App.Snapshot}
    (hreply : w.reply app fault = .ok read) : w.stored = some read.object := by
  unfold reply at hreply
  split at hreply
  · cases hreply
  · cases hreply
  · rename_i object hstored
    rw [hstored, (Cluster.of_ofObject hreply).1]

theorem Sound.holds_of_reply (hw : w.Sound) {fault : Option Failure} {read : App.Snapshot}
    (hreply : w.reply app fault = .ok read) : w.Holds read.object := by
  have hstored := stored_of_reply hreply
  refine ⟨hw.current _ hstored, fun current hcurrent _ => ?_⟩
  exact Option.some.inj (hstored.symm.trans hcurrent)

theorem sound_start (stored : Option Members) : (start stored).Sound := by
  refine ⟨?_, by simp [start]⟩
  rintro current hcurrent
  obtain rfl : stored = some current := hcurrent
  exact List.mem_singleton.mpr rfl

theorem Sound.onActor (hw : w.Sound) {f : Actor → Actor}
    (hf : ∀ a, a.Sound w.Holds → (f a).Sound w.Holds) (k : Nat) : (w.onActor k f).Sound :=
  ⟨hw.current, forall_mem_modify hf hw.actors k⟩

theorem Sound.store (hw : w.Sound) {v : Value} (hfresh : w.isFresh v = true) (object : Members) :
    (w.store v object).Sound := by
  refine ⟨?_, fun a ha => ?_⟩
  · rintro current ⟨⟩
    rw [Cluster.version_stamp]
    exact List.mem_append_right _ (List.mem_singleton.mpr rfl)
  · have hbefore := hw.actors a ha
    exact ⟨hbefore.attempt.mono fun o ho => ho.store hfresh object, hbefore.logged⟩

theorem Sound.delete (hw : w.Sound) : ({ w with stored := none } : World).Sound := by
  refine ⟨by simp, fun a ha => ?_⟩
  have hbefore := hw.actors a ha
  exact ⟨hbefore.attempt.mono fun o ho => ⟨ho.1, by simp⟩, hbefore.logged⟩

theorem Sound.step (hw : w.Sound) (m : Move) : (w.step app m).Sound := by
  cases m with
  | begin phase plan =>
      refine ⟨hw.current, fun a ha => ?_⟩
      rcases List.mem_append.mp ha with hold | hnew
      · exact hw.actors a hold
      · rw [List.mem_singleton] at hnew
        rw [hnew]
        exact Actor.sound_start app phase plan
  | turn k cancelled => exact hw.onActor (fun _ ha => ha.turn app cancelled) k
  | read k fault =>
      exact hw.onActor (fun _ ha => ha.read app fun _ hreply => hw.holds_of_reply hreply) k
  | accept k v reply =>
      simp only [World.step]
      split
      · exact hw
      · rename_i object _
        split
        · rename_i haccepts
          have hfresh : w.isFresh v = true := by
            unfold accepts at haccepts
            split at haccepts
            · cases haccepts
            · exact (Bool.and_eq_true_iff.mp haccepts).2
          exact (hw.onActor (fun _ ha => ha.written app true reply) k).store hfresh object
        · exact hw
  | reject k f => exact hw.onActor (fun _ ha => ha.written app false (.error f)) k
  | hear k news => exact hw.onActor (fun _ ha => ha.hear app news) k
  | elsewhere object v =>
      cases object with
      | none => exact hw.delete
      | some object =>
          simp only [World.step]
          split
          · rename_i hfresh
            exact hw.store hfresh object
          · exact hw

/-- A write that is accepted was made from the stored object. -/
theorem Sound.of_accepts (hw : w.Sound) {k : Nat} {a : Actor} {object : Members} {v : Value}
    (hwriting : w.writing? k = some (a, object)) (haccepts : w.accepts object v = true) :
    ∃ current, w.stored = some current ∧ object = App.retarget current a.phase := by
  unfold writing? at hwriting
  split at hwriting
  · cases hwriting
  · rename_i ha
    split at hwriting
    · rename_i hask
      cases hwriting
      obtain ⟨_, read, _, _, _, hobject, hholds⟩ :=
        (hw.actors a (List.mem_of_getElem? ha)).attempt.of_write hask
      unfold accepts at haccepts
      split at haccepts
      · cases haccepts
      · rename_i current hcurrent
        have hequal := (Bool.and_eq_true_iff.mp haccepts).1
        rw [hobject, Cluster.version_retarget] at hequal
        exact ⟨current, hcurrent, by rw [hobject, hholds.2 current hcurrent hequal]⟩
    · cases hwriting

theorem sound_foldl (app : App.Id) (stored : Option Members) (moves : List Move) :
    (∀ e ∈ history (step app) (start stored) moves, e.1.Sound) ∧
      (moves.foldl (step app) (start stored)).Sound := by
  refine course_invariant (I := fun past w => (∀ e ∈ past, World.Sound e.1) ∧ w.Sound) ?_ ?_ moves
  · exact ⟨by simp, sound_start stored⟩
  · rintro past w m ⟨hpast, hw⟩
    refine ⟨fun e he => ?_, hw.step m⟩
    rcases List.mem_append.mp he with hold | hnew
    · exact hpast e hold
    · rw [List.mem_singleton] at hnew
      rw [hnew]
      exact hw

/-- Changes of an app are begun at any time and in any number, and go on beside
each other, beside others who store and delete the app as they like, and beside
failures of any kind.  Whenever a write of a change is accepted, it is the object
stored at that moment with the wanted phase of the change and everything else as
it was, and that is stored under the new version.  A write that is not accepted
leaves the store as it is.  Every write, accepted or not, was made of what a read
in the same attempt, begun just before it, brought; and a read brings the object
that is stored. -/
theorem stored_of_accepted (app : App.Id) (stored : Option Members) (moves : List Move) :
    (∀ e ∈ history (step app) (start stored) moves, ∀ k v reply a object,
      e.2 = .accept k v reply → e.1.writing? k = some (a, object) → e.1.accepts object v = true →
      ∃ current, e.1.stored = some current ∧ object = App.retarget current a.phase ∧
        (∀ key : Text, key ≠ "spec" → object.get? key = current.get? key) ∧
        (∀ key : Text, key ≠ "targetPhase" →
          (App.specification object).get? key = (App.specification current).get? key) ∧
        (App.specification object).get? "targetPhase" = some (.text a.phase.name) ∧
        (e.1.step app e.2).stored = some (Cluster.stamp v object)) ∧
    (∀ e ∈ history (step app) (start stored) moves, ∀ k f, e.2 = .reject k f →
      (e.1.step app e.2).stored = e.1.stored ∧ (e.1.step app e.2).used = e.1.used) ∧
    (∀ e ∈ history (step app) (start stored) moves, ∀ fault read,
      e.1.reply app fault = .ok read → e.1.stored = some read.object) ∧
    (∀ a ∈ (moves.foldl (step app) (start stored)).actors, ∀ before object accepted after,
      a.log = before ++ .put object accepted :: after →
      ∃ earlier read, before = earlier ++ [.begun, .got (.ok read)] ∧
        object = App.retarget read.object a.phase) := by
  obtain ⟨hpast, hfinal⟩ := sound_foldl app stored moves
  refine ⟨?_, ?_, fun e _ fault read => stored_of_reply, fun a ha => (hfinal.actors a ha).logged⟩
  · rintro ⟨w, m⟩ he k v reply a object rfl hwriting haccepts
    obtain ⟨current, hcurrent, rfl⟩ := (hpast _ he).of_accepts hwriting haccepts
    obtain ⟨houter, hinner, htarget⟩ := App.retarget_frame current a.phase
    refine ⟨current, hcurrent, rfl, houter, hinner, htarget, ?_⟩
    simp only at hwriting haccepts
    simp [step, hwriting, haccepts, store]
  · rintro ⟨w, m⟩ _ k f rfl
    exact ⟨rfl, rfl⟩

namespace Sample

def goal : App.Id := ⟨.text "default", .text "shell"⟩

/-- An app at Rest with some replicas. -/
def object (replicas : Int) : Members :=
  [("metadata", .object [("resourceVersion", .text "1")]),
    ("spec", .object [("targetPhase", .text Phase.rest.name), ("replicas", .int replicas)])]

def replicas? (object : Members) : Option Int :=
  match (App.specification object).get? "replicas" with
  | some (.int n) => some n
  | _ => none

/-- A start reads the app, and somebody changes the replicas before it writes; its
write is rejected, and it comes to the write of its next attempt. -/
def moves : List Move :=
  [.begin .live ⟨2, [.int 0]⟩, .turn 0 false, .turn 0 false, .read 0 none,
    .elsewhere (some (object 2)) (.text "2"), .turn 0 false, .reject 0 Cluster.modified,
    .turn 0 false, .turn 0 false, .turn 0 false, .read 0 none, .turn 0 false]

def world : World := moves.foldl (step goal) (start (some (object 1)))

end Sample

open Sample in
theorem stored_of_accepted_second :
    ∃ current, world.stored = some current ∧ replicas? current = some 2 ∧
      (world.step goal (.accept 0 (.text "3") (.error .toolMissing))).stored =
        some (Cluster.stamp (.text "3") (App.retarget current .live)) := by
  obtain ⟨hstored, _⟩ := stored_of_accepted goal (some (object 1))
    (moves ++ [.accept 0 (.text "3") (.error .toolMissing)])
  have hmade : (world.writing? 0).any (fun (a, made) =>
      a.phase = .live && world.accepts made (.text "3")) = true := by decide +kernel
  have hwriting : (world.writing? 0).isSome = true := by decide +kernel
  obtain ⟨⟨a, made⟩, hwriting⟩ := Option.isSome_iff_exists.mp hwriting
  obtain ⟨hphase, haccepts⟩ : a.phase = .live ∧ world.accepts made (.text "3") = true := by
    simpa [hwriting] using hmade
  obtain ⟨current, hcurrent, rfl, _, _, _, hafter⟩ :=
    hstored _ (mem_history_append _ _ _ _ _) 0 _ _ a made rfl hwriting haccepts
  have hreplicas : world.stored.bind replicas? = some 2 := by decide +kernel
  have hworld : world.stored = some current := hcurrent
  rw [hworld] at hreplicas
  rw [hphase] at hafter
  exact ⟨current, hworld, hreplicas, hafter⟩

end World

end Change

end AttachGate
