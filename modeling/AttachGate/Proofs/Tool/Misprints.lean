import AttachGate.Proofs.Tool.Replies
import AttachGate.Proofs.Tool.Rewriting

/-!
# Misprints

Whoever asks the tool for an app is ready for failures of the control plane.  The tool
being missing or too slow, a command that fails and output that is no document are told
as such failures.  Other output that no snapshot can be taken of is not: an object of
another shape, an integer of too many digits and brackets nested too deep each fail in a
way of their own.  Nor is an argument that no program can be launched with.
-/

namespace AttachGate

theorem Json.readText_ne_undecodable (room : Nat) (t : Text) :
    readText room t ≠ .error .undecodable := by
  have hread : ∀ t : Text, read room t ≠ .error .undecodable := by
    intro t hstop
    unfold read at hstop
    cases hall : readAll room t with
    | ok v =>
        rw [hall] at hstop
        cases hstop
    | error stop =>
        rw [hall] at hstop
        cases stop <;> cases hstop
  unfold readText
  split
  · split
    · simp
    · exact hread _
  · exact hread _

theorem Value.eq_wrongType_of_itemsOrNone {v : Value} {f : Failure}
    (hlist : v.itemsOrNone = .error f) : f = .wrongType := by
  unfold itemsOrNone at hlist
  split at hlist
  · cases hlist
  · cases v <;> cases hlist <;> rfl

namespace Tool

/-- Output that a failure of another family than the control plane's comes from. -/
inductive Misprint (room : Nat) (out : Text) : Failure → Prop
  | misshapen {v : Value} (hread : Json.readText room out = .ok v)
    (hparts : ¬ ∃ p : App.Snapshot.Parts, p.Of v) : Misprint room out .notARecord
  | unlistable {v : Value} {p : App.Snapshot.Parts} (hread : Json.readText room out = .ok v)
    (hparts : p.Of v) (hcommand : p.command.itemsOrNone = .error .wrongType) :
    Misprint room out .wrongType
  | longInteger {fault : Numeral.Fault} (hread : Json.readText room out = .error (.numeral fault)) :
    Misprint room out (.badNumeral fault)
  | tooDeep (hread : Json.readText room out = .error .tooDeep) : Misprint room out .tooDeep

/-- The command is not launched, or ends well and prints such output. -/
inductive Outcome.Misleads (room : Nat) : Outcome → Failure → Prop
  | misprints {result : Completed} {f : Failure} (hcode : result.code = 0)
    (hmisprint : Misprint room result.out f) : Misleads room (.completed result) f
  | unlaunched (fault : LaunchFault) : Misleads room (.unlaunched fault) fault.failure

def Exchange.outcome (x : Exchange) : Outcome :=
  (x.script.head?.map Scripted.outcome).getD .missing

theorem Exchange.run_fst (i : Invocation) (x : Exchange) : (x.run i).1 = x.outcome := by
  unfold run outcome
  cases x.script <;> rfl

/-- A failure of another family than the control plane's. -/
def Strays (reply : Except Failure App.Snapshot) (f : Failure) : Prop :=
  reply = .error f ∧ f.isIn .controlPlane = false

theorem not_strays_of_isIn {reply : Except Failure App.Snapshot} {e : Failure}
    (hreply : reply = .error e) (he : e.isIn .controlPlane = true) (f : Failure) :
    ¬ Strays reply f := by
  rintro ⟨hf, hother⟩
  rw [hreply] at hf
  cases hf
  rw [he] at hother
  cases hother

theorem isIn_complaint (err : Text) : (complaint err).isIn .controlPlane = true := by
  have hall : ∀ kind ∈ complaintKinds, kind.isIn .controlPlane = true := by decide
  exact hall _ (kind_complaint err)

theorem strays_parse_iff {room : Nat} {out : Text} {f : Failure} :
    Strays (parse room out) f ↔ Misprint room out f := by
  constructor
  · rintro ⟨hparse, hother⟩
    cases hread : Json.readText room out with
    | ok v =>
        rw [parse_of_readText hread] at hparse
        by_cases hparts : ∃ p : App.Snapshot.Parts, p.Of v
        · obtain ⟨p, hp⟩ := hparts
          rw [hp.ofObject] at hparse
          cases hcommand : p.command.itemsOrNone with
          | ok command =>
              rw [hcommand] at hparse
              cases hparse
          | error e =>
              obtain rfl := Value.eq_wrongType_of_itemsOrNone hcommand
              rw [hcommand] at hparse
              cases hparse
              exact .unlistable hread hp hcommand
        · rw [App.Snapshot.ofObject_of_not hparts] at hparse
          cases hparse
          exact .misshapen hread hparts
    | error e =>
        rw [parse_of_readError hread] at hparse
        cases e with
        | malformed fault =>
            cases hparse
            cases hother
        | numeral fault =>
            cases hparse
            exact .longInteger hread
        | undecodable => exact absurd hread (Json.readText_ne_undecodable room out)
        | tooDeep =>
            cases hparse
            exact .tooDeep hread
  · intro hmisprint
    cases hmisprint with
    | misshapen hread hparts =>
        exact ⟨(parse_of_readText hread).trans (App.Snapshot.ofObject_of_not hparts), rfl⟩
    | unlistable hread hparts hcommand =>
        refine ⟨?_, rfl⟩
        rw [parse_of_readText hread, hparts.ofObject, hcommand]
        rfl
    | longInteger hread => exact ⟨parse_of_readError hread, rfl⟩
    | tooDeep hread => exact ⟨parse_of_readError hread, rfl⟩

theorem isIn_launchFault (fault : LaunchFault) : fault.failure.isIn .controlPlane = false := by
  cases fault <;> rfl

theorem strays_reply_iff {room : Nat} (i : Invocation) {outcome : Outcome} {f : Failure} :
    Strays (reply room i outcome) f ↔ outcome.Misleads room f := by
  cases outcome with
  | timedOut => exact ⟨fun h => absurd h (not_strays_of_isIn rfl rfl f), nofun⟩
  | missing => exact ⟨fun h => absurd h (not_strays_of_isIn rfl rfl f), nofun⟩
  | unlaunched fault =>
      constructor
      · rintro ⟨⟨⟩, _⟩
        exact .unlaunched fault
      · rintro ⟨⟩
        exact ⟨rfl, isIn_launchFault fault⟩
  | completed result =>
      by_cases hcode : result.code = 0
      · have hreply : reply room i (.completed result) = parse room result.out := by
          simp [reply, judge, hcode, bind, Except.bind]
        rw [hreply, strays_parse_iff]
        constructor
        · exact .misprints hcode
        · rintro ⟨_, hmisprint⟩
          exact hmisprint
      · have hreply : reply room i (.completed result) = .error (complaint result.err) := by
          simp [reply, judge, hcode, bind, Except.bind]
        constructor
        · intro hstrays
          exact absurd hstrays (not_strays_of_isIn hreply (isIn_complaint _) f)
        · rintro ⟨hwell, _⟩
          exact absurd hwell hcode

namespace Query

variable (s : Settings)

theorem strays_readApp_iff {app : App.Id} {arguments : List Text}
    (harguments : readArguments app = .ok arguments) (x : Exchange) (f : Failure) :
    Strays ((readApp s app).run.run x).1 f ↔ x.outcome.Misleads s.room f := by
  rw [run_readApp s harguments, Exchange.run_fst]
  exact strays_reply_iff _

theorem strays_replaceApp_iff {object : Value} (hfits : object.fits = true) (x : Exchange)
    (f : Failure) : Strays ((replaceApp s object).run.run x).1 f ↔ x.outcome.Misleads s.room f := by
  have hinput : Document.toText object = .ok (Json.write object) := if_pos hfits
  rw [run_replaceApp s hinput, Exchange.run_fst]
  exact strays_reply_iff _

/-- However the command ends, to read an app or to replace one fails in another way than
as the control plane does just if the command could not be launched, or has ended well and
printed output that no snapshot can be taken of, though it may be a document; and the
failure tells which kind of output it was.  Any app that was read can be written with
another wanted phase. -/
theorem strays_iff (namespaceName name : Text) {object : Value} (hfits : object.fits = true)
    (x : Exchange) :
    (∀ f, Strays ((readApp s ⟨.text namespaceName, .text name⟩).run.run x).1 f ↔
      x.outcome.Misleads s.room f) ∧
    (∀ f, Strays ((replaceApp s object).run.run x).1 f ↔ x.outcome.Misleads s.room f) ∧
    ∀ out app phase, parse s.room out = .ok app →
      (Value.object (App.retarget app.object phase)).fits = true := by
  refine ⟨strays_readApp_iff s rfl x, strays_replaceApp_iff s hfits x, ?_⟩
  intro out app phase hparse
  obtain ⟨v, hread, hobject⟩ := parse_eq_ok.mp hparse
  obtain ⟨p, command, hp, _, rfl⟩ := App.Snapshot.ofObject_eq_ok.mp hobject
  obtain rfl : v = .object p.object := hp.object
  exact Json.fits_retarget hp (Json.fits_of_readText hread) phase

end Query

namespace Sample

/-- An app object whose specification is null. -/
def hollow : Text := "\x7b\"spec\": null\x7d"

/-- The tool prints that object and ends well. -/
def printingHollow : Exchange := .start [⟨false, .completed ⟨0, hollow, []⟩⟩]

theorem misprint_hollow : Misprint defaults.room hollow .notARecord := by
  have hwhole : Text.IsWhole "spec" := Json.isWhole_of_isScalar (by decide)
  have hplain : Json.Plain defaults.room (.object [("spec", .null)]) := by
    refine .object (by simp) ?_ ?_
    · simpa using hwhole
    · simpa using .null 989
  have hwritten : Json.write (.object [("spec", .null)]) = hollow := by decide +kernel
  have hread := Json.readText_write hplain
  rw [hwritten] at hread
  refine .misshapen hread ?_
  rintro ⟨p, hp⟩
  have hspec := hp.spec
  rw [← Value.object.inj hp.object] at hspec
  cases hspec

end Sample

namespace Query

open Sample

theorem strays_iff_hollow :
    (Value.object object).fits = true ∧
      Strays ((replaceApp defaults (.object object)).run.run printingHollow).1 .notARecord := by
  have hfits : (Value.object object).fits = true := Json.fits_of_plain plain_object
  obtain ⟨_, hreplace, _⟩ := strays_iff defaults "app" "ctr" hfits printingHollow
  exact ⟨hfits, (hreplace .notARecord).mpr (.misprints rfl misprint_hollow)⟩

/-- The tool can end well, print an object, and have an app read in vain with a failure
that is not the control plane's. -/
theorem hollow_strays :
    Failure.notARecord.isIn .controlPlane = false ∧
      ((readApp defaults ⟨.text "app", .text "ctr"⟩).run.run printingHollow).1 =
        .error .notARecord := by
  have harguments : readArguments ⟨.text "app", .text "ctr"⟩ =
      .ok ["get", resource, "ctr", "-n", "app", "-o", "json"] := rfl
  have hmisleads : printingHollow.outcome.Misleads defaults.room .notARecord :=
    .misprints rfl misprint_hollow
  obtain ⟨hread, hother⟩ := (strays_readApp_iff defaults harguments printingHollow _).mpr hmisleads
  exact ⟨hother, hread⟩

end Query

end Tool

end AttachGate
