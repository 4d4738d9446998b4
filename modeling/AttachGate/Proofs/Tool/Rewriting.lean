import AttachGate.Proofs.App.Snapshots
import AttachGate.Proofs.Json.Reading
import AttachGate.Proofs.Tool.Exchanges

/-!
# Writing back what the tool printed

An app that was read through the tool is written back as it was printed, but for its
wanted phase.  What is written is another text: escapes may be spelt otherwise, blanks
be set otherwise, repeated members be gone.  Read again, it is the same object.
-/

namespace AttachGate

namespace App

/-- The parts of an object with another wanted phase: those that it had, but for that
phase. -/
theorem parts_retarget {p : Snapshot.Parts} {members : Members} (hp : p.Of (.object members))
    (phase : Phase) :
    Members.Sets "targetPhase" (.text phase.name) p.spec
        (p.spec.set "targetPhase" (.text phase.name)) ∧
      Members.Sets "spec" (.object (p.spec.set "targetPhase" (.text phase.name))) members
        (retarget members phase) ∧
      ({ p with
          object := retarget members phase
          spec := p.spec.set "targetPhase" (.text phase.name) } : Snapshot.Parts).Of
        (.object (retarget members phase)) := by
  obtain rfl : members = p.object := Value.object.inj hp.object
  have hspecification : specification p.object = p.spec := by
    have hspec := hp.spec
    unfold specification
    cases hfound : p.object.get? "spec" with
    | none =>
        rw [hfound] at hspec
        exact Value.object.inj hspec
    | some v =>
        rw [hfound] at hspec
        obtain rfl : v = .object p.spec := hspec
        rfl
  have hretarget : retarget p.object phase =
      p.object.set "spec" (.object (p.spec.set "targetPhase" (.text phase.name))) := by
    rw [retarget, hspecification]
  have hother : ∀ key : Text, key ≠ "spec" →
      (retarget p.object phase).get? key = p.object.get? key :=
    fun key hkey => Members.get?_set_of_ne hkey _ _
  refine ⟨Members.sets_set _ _ _, hretarget ▸ Members.sets_set _ _ _, rfl, ?_, ?_, ?_⟩
  · rw [hother _ (by decide)]
    exact hp.metadata
  · rw [hretarget, Members.get?_set_self]
    rfl
  · rw [hother _ (by decide)]
    exact hp.status

end App

namespace Json

/-- An object that survives being written still does with one member set. -/
theorem Plain.sets {room : Nat} {key : Text} {v : Value} {m n : Members}
    (hsets : Members.Sets key v m n) (hm : Plain (room + 1) (.object m)) (hkey : key.IsWhole)
    (hv : Plain room v) : Plain (room + 1) (.object n) := by
  cases hm with
  | object hdistinct hkeys hvalues =>
      refine .object (hsets.nodup hdistinct) ?_ ?_
      · intro member hmem
        rcases hsets.mem hmem with rfl | hold
        · exact hkey
        · exact hkeys member hold
      · intro member hmem
        rcases hsets.mem hmem with rfl | hold
        · exact hv
        · exact hvalues member hold

theorem Plain.mono {room room' : Nat} (hroom : room ≤ room') {v : Value} (hv : Plain room v) :
    Plain room' v := by
  induction hv generalizing room' with
  | null => exact .null room'
  | bool _ b => exact .bool room' b
  | int _ hn => exact .int room' hn
  | text _ ht => exact .text room' ht
  | array _ ih =>
      obtain ⟨below, rfl⟩ := Nat.exists_eq_add_of_le' (Nat.le_of_add_left_le hroom)
      exact .array fun v hmem => ih v hmem (Nat.le_of_add_le_add_right hroom)
  | object hdistinct hkeys _ ih =>
      obtain ⟨below, rfl⟩ := Nat.exists_eq_add_of_le' (Nat.le_of_add_left_le hroom)
      exact .object hdistinct hkeys fun m hmem => ih m hmem (Nat.le_of_add_le_add_right hroom)

/-- An app object that survives being written still does with another wanted phase, if
there is room for the specification. -/
theorem plain_retarget {p : App.Snapshot.Parts} {members : Members} {room : Nat}
    (hp : p.Of (.object members)) (hplain : Plain (room + 2) (.object members)) (phase : Phase) :
    Plain (room + 2) (.object (App.retarget members phase)) := by
  obtain ⟨htarget, hspec, _⟩ := App.parts_retarget hp phase
  have hinner : Plain (room + 1) (.object p.spec) := by
    rcases hp.spec_cases with hnone | hmem
    · rw [hnone]
      exact .object (by simp) (by simp) (by simp)
    · cases hplain with
      | object _ _ hvalues => exact hvalues _ hmem
  have hname : phase.name.IsScalar := by cases phase <;> decide
  have hkeys : Text.IsScalar "targetPhase" ∧ Text.IsScalar "spec" := by decide
  have hinner' := hinner.sets htarget (isWhole_of_isScalar hkeys.1)
    (.text _ (isWhole_of_isScalar hname))
  exact hplain.sets hspec (isWhole_of_isScalar hkeys.2) hinner'

theorem fits_of_sets {key : Text} {v : Value} {m n : Members} (hsets : Members.Sets key v m n)
    (hm : (Value.object m).fits = true) (hv : v.fits = true) : (Value.object n).fits = true := by
  refine membersFit_iff.mpr fun member hmem => ?_
  rcases hsets.mem hmem with rfl | hold
  · exact hv
  · exact membersFit_iff.mp hm member hold

/-- An app object that can be written still can with another wanted phase. -/
theorem fits_retarget {p : App.Snapshot.Parts} {members : Members}
    (hp : p.Of (.object members)) (hfits : (Value.object members).fits = true) (phase : Phase) :
    (Value.object (App.retarget members phase)).fits = true := by
  obtain ⟨htarget, hspec, _⟩ := App.parts_retarget hp phase
  have hinner : (Value.object p.spec).fits = true := by
    rcases hp.spec_cases with hnone | hmem
    · rw [hnone]
      rfl
    · exact membersFit_iff.mp hfits _ hmem
  exact fits_of_sets hspec hfits (fits_of_sets htarget hinner rfl)

end Json

namespace Tool

/-- A read yields a snapshot if its command ends well and prints an object that the
snapshot can be taken of. -/
theorem Query.readApp_eq_ok {s : Settings} {app : App.Id} {x : Exchange} {cancels : Bool}
    {result : Completed} {later : List Scripted}
    (hscript : x.script = ⟨cancels, .completed result⟩ :: later) {read : App.Snapshot} :
    ((readApp s app).run.run x).1 = .ok read ↔
      (∃ arguments, readArguments app = .ok arguments) ∧ result.code = 0 ∧
        parse s.room result.out = .ok read := by
  cases harguments : readArguments app with
  | error e => simp [run_readApp_of_error s harguments]
  | ok arguments =>
      rw [run_readApp s harguments]
      simp only [Exchange.run, hscript, reply, bind_eq_ok, judge]
      by_cases hcode : result.code = 0
      · simp [hcode]
      · simp [hcode]

/-- Let the tool print an app object without surrogates and without fractions, and let a
snapshot be read from that.  What is written to have the app in another phase is a text
that stands for the very object that was printed, but for the wanted phase: that member of
the specification is set in its place or added at its end, and so is the specification if
there was none.  A snapshot of it differs in nothing else.  To read that text takes no more
room than to read what was printed, or else room for the specification. -/
theorem Query.input_of_replaceApp (s : Settings) (app : App.Id) (phase : Phase) {x : Exchange}
    {cancels : Bool} {result : Completed} {later : List Scripted}
    (hscript : x.script = ⟨cancels, .completed result⟩ :: later)
    (hscalar : result.out.IsScalar) {read : App.Snapshot}
    (hread : ((readApp s app).run.run x).1 = .ok read)
    (hintegral : Json.Integral (.object read.object)) :
    Document.ofText s.room result.out = .ok (.object read.object) ∧
    ∃ (input : Text) (spec spec' new : Members),
      (read.object.get? "spec").getD (.object []) = .object spec ∧
      Members.Sets "targetPhase" (.text phase.name) spec spec' ∧
      Members.Sets "spec" (.object spec') read.object new ∧
      (∀ y : Exchange,
        ((replaceApp s (.object (App.retarget read.object phase))).run.run y).2.calls =
          y.calls ++ [invocation s writeArguments (some input)]) ∧
      (∀ room, s.room ≤ room → 2 ≤ room →
        Document.ofText room input = .ok (.object new) ∧
        parse room input = .ok { read with targetPhase := .text phase.name, object := new }) ∧
      new.get? "metadata" = read.object.get? "metadata" ∧
      new.get? "status" = read.object.get? "status" := by
  obtain ⟨v, hprinted, hobject⟩ := parse_eq_ok.mp ((readApp_eq_ok hscript).mp hread).2.2
  obtain ⟨p, command, hp, hcommand, rfl⟩ := App.Snapshot.ofObject_eq_ok.mp hobject
  obtain rfl : v = .object p.object := hp.object
  obtain ⟨htarget, hspec, hnew⟩ := App.parts_retarget hp phase
  have hplain := Json.plain_of_readText hscalar hprinted hintegral
  refine ⟨?_, Json.write (.object (App.retarget p.object phase)), p.spec, _, _, hp.spec, htarget,
    hspec, ?_, ?_, ?_, ?_⟩
  · rw [Document.ofText, hprinted]
    rfl
  · intro y
    have hfits := Json.fits_retarget hp (Json.fits_of_plain hplain) phase
    have hrun := run_replaceApp s (if_pos hfits) y
    rw [show (p.snapshot command).object = p.object from rfl, hrun]
    simp only [Exchange.run]
    split <;> rfl
  · intro room hroom htwo
    obtain ⟨below, rfl⟩ := Nat.exists_eq_add_of_le' htwo
    have hwritten := Json.readText_write (Json.plain_retarget hp (hplain.mono hroom) phase)
    have hlisted : ((p.spec.set "targetPhase" (.text phase.name)).get? "command").getD .null =
        p.command := by
      rw [Members.get?_set_of_ne (by decide)]
      rfl
    refine ⟨by rw [Document.ofText, hwritten]; rfl, ?_⟩
    rw [parse_of_readText hwritten, hnew.ofObject, App.Snapshot.Parts.command, hlisted, hcommand]
    simp only [Except.map, App.Snapshot.Parts.snapshot, Members.get?_set_self]
    rfl
  · exact Members.get?_set_of_ne (by decide) _ _
  · exact Members.get?_set_of_ne (by decide) _ _

namespace Sample

/-- An app object without a wanted phase, with half a surrogate pair in it. -/
def object : Members :=
  [("spec", .object [("replicas", .int 2)]),
    ("metadata", .object [("namespace", .text "app"), ("name", .text "ctr"),
      ("resourceVersion", .text [CodePoint.ofNat 0xD83D])])]

def snapshot : App.Snapshot where
  id := ⟨.text "app", .text "ctr"⟩
  targetPhase := .text []
  phase := .text []
  pod := .text []
  command := []
  error := .text []
  version := .text [CodePoint.ofNat 0xD83D]
  object := object

def defaults : Settings := .make none none none

/-- The tool prints the object and ends well. -/
def printing : Exchange := .start [⟨false, .completed ⟨0, Json.write (.object object), []⟩⟩]

theorem plain_object : Json.Plain Json.maxDepth (.object object) := by
  have hword : ∀ t : Text, t.IsScalar → Json.Plain 988 (.text t) :=
    fun t ht => .text 988 (Json.isWhole_of_isScalar ht)
  have hspec : Json.Plain (988 + 1) (.object [("replicas", .int 2)]) := by
    refine .object (by decide) ?_ ?_
    · simpa using Json.isWhole_of_isScalar (by decide)
    · simpa using .int 988 (by decide +kernel)
  have hmetadata : Json.Plain (988 + 1) (.object [("namespace", .text "app"),
      ("name", .text "ctr"), ("resourceVersion", .text [CodePoint.ofNat 0xD83D])]) := by
    refine .object (by decide) ?_ ?_
    · simpa using ⟨Json.isWhole_of_isScalar (by decide), Json.isWhole_of_isScalar (by decide),
        Json.isWhole_of_isScalar (by decide)⟩
    · simpa using ⟨hword "app" (by decide), hword "ctr" (by decide),
        .text 988 (List.isChain_singleton _)⟩
  refine .object (by decide) ?_ ?_
  · simpa [object] using
      ⟨Json.isWhole_of_isScalar (by decide), Json.isWhole_of_isScalar (by decide)⟩
  · simpa [object] using ⟨hspec, hmetadata⟩

theorem integral_object : Json.Integral (.object object) := by
  have hspec : Json.Integral (.object [("replicas", .int 2)]) :=
    .object (by simpa using .int 2)
  refine .object ?_
  simp only [object, List.forall_mem_cons, List.not_mem_nil, false_implies, implies_true, and_true]
  exact ⟨hspec, .object (by simpa using ⟨.text _, .text _, .text _⟩)⟩

end Sample

open Sample in
theorem Query.input_of_replaceApp_printing :
    ∃ (input : Text) (new : Members),
      (∀ y : Exchange, ((replaceApp defaults (.object
          (App.retarget snapshot.object .live))).run.run y).2.calls =
        y.calls ++ [invocation defaults writeArguments (some input)]) ∧
      Document.ofText defaults.room input = .ok (.object new) ∧
      parse defaults.room input =
        .ok { snapshot with targetPhase := .text "Live", object := new } ∧
      new.get? "metadata" = object.get? "metadata" := by
  have hparse : parse defaults.room (Json.write (.object object)) = .ok snapshot :=
    (parse_of_readText (Json.readText_write plain_object)).trans rfl
  have hscript : printing.script =
      [⟨false, .completed ⟨0, Json.write (.object object), []⟩⟩] := rfl
  have hread : ((readApp defaults snapshot.id).run.run printing).1 = .ok snapshot :=
    (readApp_eq_ok hscript).mpr ⟨⟨_, rfl⟩, rfl, hparse⟩
  have hscalar : (Json.write (.object object)).IsScalar := by
    intro c hc
    have hascii := plain_object.legible.ascii c hc
    simp only [CodePoint.isSurrogate, Bool.and_eq_false_iff, decide_eq_false_iff_not]
    omega
  obtain ⟨_, input, spec, spec', new, _, _, _, hcalls, hreread, hmetadata, _⟩ :=
    input_of_replaceApp defaults snapshot.id .live hscript hscalar hread integral_object
  obtain ⟨hinput, hparsed⟩ := hreread defaults.room le_rfl (by decide)
  exact ⟨input, new, hcalls, hinput, hparsed, hmetadata⟩

end Tool

end AttachGate
