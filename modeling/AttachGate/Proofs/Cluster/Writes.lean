import AttachGate.Cluster
import AttachGate.Proofs.Value.Members

/-!
# Writes

A write is accepted only if it carries the version of the stored object, and an
accepted write stores the wanted phase that it was given.  The object that a
flip writes back carries the version under which it was read and the wanted
phase of the flip.
-/

namespace AttachGate

/-! ## Phases -/

theorem isText_name (p q : Phase) : (Value.text p.name).isText q.name = true ↔ p = q := by
  cases p <;> cases q <;> decide

/-! ## Reading an object -/

/-- A reply that fails, if it does, because a value has another shape. -/
def ShapeOnly {α : Type} (reply : Except Failure α) : Prop :=
  ∀ e, reply = .error e → e = .notARecord ∨ e = .wrongType

theorem shapeOnly_ok {α : Type} (a : α) : ShapeOnly (.ok a) := by
  intro e he
  cases he

theorem ShapeOnly.bind {α β : Type} {reply : Except Failure α} (hreply : ShapeOnly reply)
    {f : α → Except Failure β} (hf : ∀ a, ShapeOnly (f a)) : ShapeOnly (reply >>= f) := by
  cases reply with
  | error e =>
      intro other hother
      cases hother
      exact hreply e rfl
  | ok a => exact hf a

theorem shapeOnly_members (v : Value) : ShapeOnly v.members := by
  cases v with
  | object members => exact shapeOnly_ok _
  | _ =>
      intro e he
      cases he
      exact .inl rfl

theorem shapeOnly_field (v : Value) (key : Text) (default : Value) :
    ShapeOnly (v.field key default) :=
  (shapeOnly_members v).bind fun _ => shapeOnly_ok _

theorem shapeOnly_itemsOrNone (v : Value) : ShapeOnly v.itemsOrNone := by
  unfold Value.itemsOrNone
  split
  · exact shapeOnly_ok _
  · cases v with
    | array items => exact shapeOnly_ok _
    | text t => exact shapeOnly_ok _
    | object members => exact shapeOnly_ok _
    | _ =>
        intro e he
        cases he
        exact .inr rfl

theorem shapeOnly_ofObject (object : Value) : ShapeOnly (App.Snapshot.ofObject object) := by
  unfold App.Snapshot.ofObject
  refine (shapeOnly_members _).bind fun _ => ?_
  refine (shapeOnly_field _ _ _).bind fun _ => ?_
  refine (shapeOnly_field _ _ _).bind fun _ => ?_
  refine (shapeOnly_field _ _ _).bind fun _ => ?_
  refine (shapeOnly_field _ _ _).bind fun _ => ?_
  refine (shapeOnly_field _ _ _).bind fun _ => ?_
  refine (shapeOnly_field _ _ _).bind fun _ => ?_
  refine (shapeOnly_itemsOrNone _).bind fun _ => ?_
  refine (shapeOnly_field _ _ _).bind fun _ => ?_
  refine (shapeOnly_field _ _ _).bind fun _ => ?_
  exact shapeOnly_ok _

/-! ## Parts of objects -/

namespace Cluster

theorem specification_of_spec {object other : Members}
    (hspec : other.get? "spec" = object.get? "spec") :
    App.specification other = App.specification object := by
  unfold App.specification
  rw [hspec]

theorem wantedPhase_of_spec {object other : Members}
    (hspec : other.get? "spec" = object.get? "spec") :
    wantedPhase other = wantedPhase object := by
  unfold wantedPhase
  rw [specification_of_spec hspec]

theorem version_retarget (object : Members) (phase : Phase) :
    version (App.retarget object phase) = version object := by
  have hmetadata : (App.retarget object phase).get? "metadata" = object.get? "metadata" :=
    Members.get?_set_of_ne (by decide) _ _
  unfold version part
  rw [hmetadata]

theorem wantedPhase_retarget (object : Members) (phase : Phase) :
    wantedPhase (App.retarget object phase) = .text phase.name := by
  have hspec : (App.retarget object phase).get? "spec" =
      some (.object ((App.specification object).set "targetPhase" (.text phase.name))) :=
    Members.get?_set_self _ _ _
  unfold wantedPhase App.specification
  rw [hspec]
  simp only
  rw [Members.get?_set_self]
  rfl

theorem wantedPhase_accepted (c : Cluster) (app : App.Id) (stored object : Members) :
    wantedPhase (c.accepted app stored object) = wantedPhase object := by
  apply wantedPhase_of_spec
  unfold accepted bump merge
  rw [Members.get?_set_of_ne (by decide), Members.get?_set_of_ne (by decide)]

/-- What is read of an object is the object and its wanted phase. -/
theorem of_ofObject {object : Members} {app : App.Snapshot}
    (hread : App.Snapshot.ofObject (.object object) = .ok app) :
    app.object = object ∧ app.targetPhase = wantedPhase object := by
  unfold App.Snapshot.ofObject at hread
  obtain ⟨members, hmembers, hread⟩ := bind_eq_ok.mp hread
  cases hmembers
  obtain ⟨_, _, hread⟩ := bind_eq_ok.mp hread
  obtain ⟨_, _, hread⟩ := bind_eq_ok.mp hread
  obtain ⟨targetPhase, hphase, hread⟩ := bind_eq_ok.mp hread
  obtain ⟨_, _, hread⟩ := bind_eq_ok.mp hread
  obtain ⟨_, _, hread⟩ := bind_eq_ok.mp hread
  obtain ⟨_, _, hread⟩ := bind_eq_ok.mp hread
  obtain ⟨_, _, hread⟩ := bind_eq_ok.mp hread
  obtain ⟨_, _, hread⟩ := bind_eq_ok.mp hread
  obtain ⟨_, _, hread⟩ := bind_eq_ok.mp hread
  cases hread
  refine ⟨rfl, ?_⟩
  obtain ⟨spec, hspec, htarget⟩ := bind_eq_ok.mp hphase
  cases htarget
  unfold wantedPhase App.specification
  cases hget : object.get? "spec" with
  | none =>
      rw [hget] at hspec
      cases hspec
      rfl
  | some v =>
      rw [hget] at hspec
      cases v with
      | object members =>
          cases hspec
          rfl
      | _ => cases hspec

/-! ## Calls -/

section Single

variable {c : Cluster} {id : App.Id} {o : Members}

theorem object?_of_single (hsingle : c.apps = [(id, o)]) {app : App.Id}
    (hid : id.same app = true) : c.object? app = some o := by
  simp [object?, hsingle, hid]

theorem of_read (hsingle : c.apps = [(id, o)]) {goal : App.Id} {app : App.Snapshot}
    (hread : c.read goal = .ok app) : app.object = o ∧ app.targetPhase = wantedPhase o := by
  unfold read look at hread
  split at hread
  · cases hread
  · split at hread
    · cases hread
    · rename_i object hobject
      simp only [object?, hsingle, List.find?_cons, List.find?_nil] at hobject
      split at hobject
      · cases hobject
        exact of_ofObject hread
      · cases hobject

/-- A write to the only object of a cluster fails and leaves it alone, or carries
its version and stores the wanted phase that it was given. -/
theorem write_cases (hsingle : c.apps = [(id, o)]) (hconflicts : c.conflicts = 0)
    (object : Members) :
    ((c.write object).2 = c ∧ ∃ e, (c.write object).1 = .error e) ∨
    ∃ stored, (c.write object).2.apps = [(id, stored)] ∧
      (version object).equal (version o) = true ∧ wantedPhase stored = wantedPhase object ∧
      (c.write object).2.conflicts = 0 ∧
      (c.write object).2.flips.length = c.flips.length + 1 ∧
      ShapeOnly (c.write object).1 := by
  unfold write
  simp only
  split
  · exact .inl ⟨rfl, _, rfl⟩
  · split
    · exact .inl ⟨rfl, _, rfl⟩
    · rename_i found hfound
      have hinterfere : c.interfere (identity object) = c := by simp [interfere, hconflicts]
      have hsame : id.same (identity object) = true ∧ o = found := by
        simp only [object?, hsingle, List.find?_cons, List.find?_nil] at hfound
        split at hfound
        · rename_i hid
          exact ⟨hid, by simpa using hfound⟩
        · cases hfound
      obtain ⟨hid, rfl⟩ := hsame
      simp only [hinterfere, hfound, Option.getD_some]
      split
      · rename_i hversion
        right
        refine ⟨c.accepted (identity object) o object, ?_, hversion,
          wantedPhase_accepted _ _ _ _, hconflicts, ?_, shapeOnly_ofObject _⟩
        · simp [onObject, hsingle, hid]
        · simp
      · exact .inl ⟨rfl, _, rfl⟩

end Single

end Cluster

end AttachGate
