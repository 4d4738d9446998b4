import Mathlib.Data.List.Chain
import AttachGate.Change.Job
import AttachGate.Proofs.Value.Members

/-!
# Polls

A watch that polls delivers a snapshot whose version is another than the one it
delivered last.  Where versions are texts, the one it delivered last is always that
of the poll before: it delivers exactly the snapshots that differ from the one right
before them.
-/

namespace AttachGate

/-- What a poll comes to: a snapshot, or the failure of the read. -/
abbrev Poll := Except Failure App.Snapshot

namespace Poll

/-- All snapshots that were polled have texts for versions. -/
def TextVersions (polls : List Poll) : Prop :=
  ∀ app, .ok app ∈ polls → ∃ t, app.version = .text t

/-- Wherever two polls one after the other find the same version, they find equal
objects. -/
def Steady (polls : List Poll) : Prop :=
  polls.IsChain fun poll next => ∀ a b, poll = .ok a → next = .ok b → a.version = b.version →
    (Value.object b.object).equal (.object a.object) = true

def isRepeated (before : Option App.Snapshot) (app : App.Snapshot) : Bool :=
  before.any fun b => app.version.equal b.version

/-- The snapshots that do not have the version of the one right before, where the first
comes after `before`. -/
def changesAfter : Option App.Snapshot → List App.Snapshot → List App.Snapshot
  | _, [] => []
  | before, app :: rest =>
    if isRepeated before app then changesAfter (some app) rest
    else app :: changesAfter (some app) rest

def changes (apps : List App.Snapshot) : List App.Snapshot := changesAfter none apps

theorem changesAfter_concat (before : Option App.Snapshot) (apps : List App.Snapshot)
    (app : App.Snapshot) :
    changesAfter before (apps ++ [app]) =
      changesAfter before apps ++
        if isRepeated (apps.getLast?.or before) app then [] else [app] := by
  induction apps generalizing before with
  | nil => rfl
  | cons first rest ih =>
      have hlast : (first :: rest).getLast?.or before = rest.getLast?.or (some first) := by
        rw [List.getLast?_cons]
        cases rest.getLast? <;> rfl
      rw [List.cons_append, changesAfter, changesAfter, ih, hlast]
      split <;> simp

theorem changes_concat (apps : List App.Snapshot) (app : App.Snapshot) :
    changes (apps ++ [app]) =
      if isRepeated apps.getLast? app then changes apps else changes apps ++ [app] := by
  rw [changes, changesAfter_concat, Option.or_none]
  split
  · rw [List.append_nil, changes]
  · rw [changes]

end Poll

namespace Watch

/-- The version that a watch goes by is that of the last snapshot it has polled, if there
is one. -/
def Recalls (w : Watch) (last : Option App.Snapshot) : Prop :=
  w.seen = (last.map App.Snapshot.version).getD .null

variable {w : Watch} {last : Option App.Snapshot} {app : App.Snapshot}

theorem recalls_start : start.Recalls none := rfl

theorem Recalls.look (hw : w.Recalls last) (cancelled : Bool) :
    (w.look cancelled).Recalls last := by
  unfold Watch.look
  split <;> exact hw

theorem Recalls.wake (hw : w.Recalls last) (cancelled : Bool) :
    (w.wake cancelled).Recalls last := by
  unfold Watch.wake
  split <;> exact hw

/-- A snapshot is news just if it has another version than the one polled before. -/
theorem Recalls.isNews_eq (hw : w.Recalls last) {t : Text} (ht : app.version = .text t) :
    w.isNews app = !Poll.isRepeated last app := by
  unfold isNews
  rw [hw]
  cases last with
  | some before => rfl
  | none =>
      have hnone : app.version.equal .null = false := by
        rw [ht, ← Bool.not_eq_true, Value.text_equal_iff]
        nofun
      simp [hnone, Poll.isRepeated]

/-- Delivered or not, the snapshot is the one that the watch goes by from then on. -/
theorem Recalls.poll (hstage : w.stage = .polling) {t : Text} (ht : app.version = .text t) :
    (w.poll app).Recalls (some app) := by
  simp only [Watch.poll, hstage, Recalls, Option.map_some, Option.getD_some]
  split
  · rfl
  · rename_i hold
    have hsame : app.version.equal w.seen = true := by simpa [isNews] using hold
    rw [ht] at hsame ⊢
    exact Value.text_equal_iff.mp hsame

end Watch

end AttachGate
