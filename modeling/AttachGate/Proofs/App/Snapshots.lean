import AttachGate.App.Snapshot
import AttachGate.Proofs.Value.Members

/-!
# Snapshots and their objects

An app object has metadata, a specification and a status that are objects where they are
not missing; the status may also be blank.  A snapshot is made of these parts and of
nothing else in the object, and can be taken if the command can be listed.
-/

namespace AttachGate.App.Snapshot

structure Parts where
  object : Members
  metadata : Members
  spec : Members
  status : Members

namespace Parts

/-- A value is an app object with these parts. -/
structure Of (p : Parts) (v : Value) : Prop where
  object : v = .object p.object
  metadata : (p.object.get? "metadata").getD (.object []) = .object p.metadata
  spec : (p.object.get? "spec").getD (.object []) = .object p.spec
  status : ((p.object.get? "status").getD (.object [])).orElse (.object []) = .object p.status

def command (p : Parts) : Value := (p.spec.get? "command").getD .null

def snapshot (p : Parts) (command : List Value) : Snapshot where
  id := ⟨(p.metadata.get? "namespace").getD empty, (p.metadata.get? "name").getD empty⟩
  targetPhase := (p.spec.get? "targetPhase").getD empty
  phase := (p.status.get? "phase").getD empty
  pod := (p.status.get? "podName").getD empty
  command
  error := (p.status.get? "error").getD empty
  version := (p.metadata.get? "resourceVersion").getD empty
  object := p.object

theorem Of.ofObject {p : Parts} {v : Value} (hp : p.Of v) :
    Snapshot.ofObject v = p.command.itemsOrNone.map p.snapshot := by
  unfold Snapshot.ofObject
  rw [hp.object]
  simp only [Value.members, bind, Except.bind, hp.metadata, hp.spec, hp.status,
    Value.field_object]
  rw [show (p.spec.get? "command").getD .null = p.command from rfl]
  cases p.command.itemsOrNone <;> rfl

/-- The specification is a member of the object, if it is not missing. -/
theorem Of.spec_cases {p : Parts} {members : Members} (hp : p.Of (.object members)) :
    p.spec = [] ∨ (Text.ofString "spec", .object p.spec) ∈ members := by
  obtain rfl : members = p.object := Value.object.inj hp.object
  have hspec := hp.spec
  cases hfound : p.object.get? "spec" with
  | none =>
      rw [hfound] at hspec
      exact .inl (Value.object.inj hspec).symm
  | some v =>
      rw [hfound] at hspec
      obtain rfl : v = .object p.spec := hspec
      exact .inr (Members.mem_of_get? hfound)

end Parts

theorem object_or_members (v : Value) :
    (∃ members : Members, v = .object members) ∨ v.members = .error .notARecord := by
  cases v with
  | object members => exact .inl ⟨members, rfl⟩
  | _ => exact .inr rfl

/-- Whatever is no app object lacks a record where one is needed. -/
theorem ofObject_of_not {v : Value} (hv : ¬ ∃ p : Parts, p.Of v) :
    ofObject v = .error .notARecord := by
  unfold ofObject
  rcases object_or_members v with ⟨members, rfl⟩ | hnone
  · simp only [Value.members, bind, Except.bind]
    rcases object_or_members ((members.get? "metadata").getD (.object [])) with
      ⟨metadata, hmetadata⟩ | hnone
    · rcases object_or_members ((members.get? "spec").getD (.object [])) with
        ⟨spec, hspec⟩ | hnone
      · rcases object_or_members (((members.get? "status").getD (.object [])).orElse (.object []))
          with ⟨status, hstatus⟩ | hnone
        · exact absurd ⟨⟨members, metadata, spec, status⟩, rfl, hmetadata, hspec, hstatus⟩ hv
        · simp only [hmetadata, hspec, Value.field, hnone, bind, Except.bind]
          rfl
      · simp only [hmetadata, Value.field, hnone, bind, Except.bind]
        rfl
    · simp only [Value.field, hnone, bind, Except.bind]
  · simp only [hnone, bind, Except.bind]

theorem ofObject_eq_ok {v : Value} {app : Snapshot} :
    ofObject v = .ok app ↔
      ∃ (p : Parts) (command : List Value), p.Of v ∧ p.command.itemsOrNone = .ok command ∧
        app = p.snapshot command := by
  constructor
  · intro hread
    by_cases hv : ∃ p : Parts, p.Of v
    · obtain ⟨p, hp⟩ := hv
      rw [hp.ofObject] at hread
      obtain ⟨command, hcommand, rfl⟩ := map_eq_ok.mp hread
      exact ⟨p, command, hp, hcommand, rfl⟩
    · rw [ofObject_of_not hv] at hread
      cases hread
  · rintro ⟨p, command, hp, hcommand, rfl⟩
    rw [hp.ofObject, hcommand]
    rfl

/-! ## Snapshots of equal objects -/

/-- A snapshot shows its app Live if the object says so in its status. -/
theorem Parts.Of.isLive_iff {p : Parts} {v : Value} (hp : p.Of v) (command : List Value) :
    (p.snapshot command).isLive = true ↔
      ∃ status : Members, p.object.get? "status" = some (.object status) ∧
        status.get? "phase" = some (.text Phase.live.name) := by
  have hphase : (p.snapshot command).isLive = true ↔
      p.status.get? "phase" = some (.text Phase.live.name) := by
    change ((p.status.get? "phase").getD empty).isText Phase.live.name = true ↔ _
    cases p.status.get? "phase" with
    | none => exact iff_of_false (by decide) nofun
    | some w => cases w <;> simp [Value.isText]
  rw [hphase]
  have hstatus := hp.status
  constructor
  · intro hlive
    refine ⟨p.status, ?_, hlive⟩
    cases hfound : p.object.get? "status" with
    | none =>
        rw [hfound] at hstatus
        rw [← Value.object.inj hstatus] at hlive
        cases hlive
    | some w =>
        rw [hfound, Option.getD_some, Value.orElse] at hstatus
        split at hstatus
        · rw [← Value.object.inj hstatus] at hlive
          cases hlive
        · rw [hstatus]
  · rintro ⟨status, hfound, hlive⟩
    rw [hfound, Option.getD_some, Value.orElse] at hstatus
    split at hstatus
    · rename_i hblank
      rw [List.isEmpty_iff.mp hblank] at hlive
      cases hlive
    · rw [← Value.object.inj hstatus]
      exact hlive

/-- What a snapshot says of its app being Live, a snapshot of an equal object says too. -/
theorem isLive_of_equal {v w : Value} {a b : Snapshot} (ha : ofObject v = .ok a)
    (hb : ofObject w = .ok b)
    (hequal : (Value.object a.object).equal (.object b.object) = true)
    (hlive : a.isLive = true) : b.isLive = true := by
  obtain ⟨p, pcommand, hp, _, rfl⟩ := ofObject_eq_ok.mp ha
  obtain ⟨q, qcommand, hq, _, rfl⟩ := ofObject_eq_ok.mp hb
  obtain ⟨status, hstatus, hphase⟩ := (hp.isLive_iff pcommand).mp hlive
  simp only [Value.equal, Bool.and_eq_true] at hequal
  obtain ⟨n, hn, hmembers⟩ := Value.object_of_same hequal.2
  obtain rfl : q.object = n := Value.object.inj hn
  obtain ⟨_, hstatus', hsame⟩ := hmembers _ _ hstatus
  obtain ⟨status', rfl, hparts⟩ := Value.object_of_same hsame
  obtain ⟨_, hphase', hname⟩ := hparts _ _ hphase
  rw [Value.eq_text_of_same hname] at hphase'
  exact (hq.isLive_iff qcommand).mpr ⟨status', hstatus', hphase'⟩

end AttachGate.App.Snapshot
