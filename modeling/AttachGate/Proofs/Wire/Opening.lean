import AttachGate.Wire.Request
import AttachGate.Proofs.Value.Members

/-!
# First messages

What a document must hold for the message it stands for to open a stream.  The
fields are taken as they come: a name may be any value that conditions take for
true, and the command is whatever the value under its key can be gone through for,
the items of an array, the characters of a text or the keys of an object.
-/

namespace AttachGate

namespace Request

/-- Just these messages open a stream. -/
theorem toOpening_eq_ok {r : Request} {o : Opening} :
    r.toOpening = .ok o ↔
      r.app = some o.app ∧ o.app.name.isBlank = false ∧ o.app.namespaceName.isBlank = false ∧
        r.command = o.command ∧ o.command ≠ [] ∧ r.size = some o.size := by
  constructor
  · intro hopening
    unfold toOpening at hopening
    split at hopening
    · cases hopening
    · rename_i app happ
      split at hopening
      · cases hopening
      · rename_i hname
        split at hopening
        · cases hopening
        · rename_i hnamespace
          split at hopening
          · cases hopening
          · rename_i hcommand
            split at hopening
            · cases hopening
            · rename_i size hsize
              cases hopening
              simp_all
  · rintro ⟨happ, hname, hnamespace, hcommand, hnonempty, hsize⟩
    simp [toOpening, happ, hname, hnamespace, hcommand, hnonempty, hsize]

/-- The members of a document ask for what an opening says. -/
structure Asks (members : Members) (o : Opening) : Prop where
  app : ∃ fields : Members, members.get? "app" = some (.object fields) ∧
    (fields.get? "namespace").getD (.text []) = o.app.namespaceName ∧
    (fields.get? "name").getD (.text []) = o.app.name
  named : o.app.name.isBlank = false
  namespaced : o.app.namespaceName.isBlank = false
  command : ∃ v, members.get? "command" = some v ∧ v.isBlank = false ∧ v.items = .ok o.command
  commanded : o.command ≠ []
  size : ∃ fields : Members, members.get? "terminalSize" = some (.object fields) ∧
    ((fields.get? "width").getD (.int 0)).toInteger = .ok o.size.width ∧
    ((fields.get? "height").getD (.int 0)).toInteger = .ok o.size.height
  input : ∃ chunks input, ((members.get? "stdin").getD .null).itemsOrNone = .ok chunks ∧
    chunks.mapM readBase64 = .ok input

/-- What a message is that a document stands for, field by field. -/
structure Reads (members : Members) (r : Request) : Prop where
  app : readApp ((members.get? "app").getD .null) = .ok r.app
  command : ((members.get? "command").getD .null).itemsOrNone = .ok r.command
  size : readSize ((members.get? "terminalSize").getD .null) = .ok r.size
  input : ∃ chunks, ((members.get? "stdin").getD .null).itemsOrNone = .ok chunks ∧
    chunks.mapM readBase64 = .ok r.input

theorem ofDocument_eq_ok {doc : Value} {r : Request} :
    ofDocument doc = .ok r ↔ ∃ members : Members, doc = .object members ∧ Reads members r := by
  cases doc with
  | object members =>
      simp only [ofDocument, Value.field_object, bind_eq_ok, pure, Except.pure, Except.ok.injEq,
        exists_eq_left', Value.object.injEq]
      constructor
      · intro hread
        obtain ⟨app, happ, command, hcommand, size, hsize, chunks, hchunks, input, hinput, rfl⟩ :=
          hread
        exact ⟨happ, hcommand, hsize, chunks, hchunks, hinput⟩
      · intro hreads
        obtain ⟨chunks, hchunks, hinput⟩ := hreads.input
        exact ⟨r.app, hreads.app, r.command, hreads.command, r.size, hreads.size, chunks, hchunks,
          r.input, hinput, rfl⟩
  | _ =>
      simp only [reduceCtorEq, false_and, exists_false, iff_false]
      intro hread
      cases hread

theorem readApp_eq_some {v : Value} {app : App.Id} :
    readApp v = .ok (some app) ↔
      ∃ fields : Members, v = .object fields ∧
        (fields.get? "namespace").getD (.text []) = app.namespaceName ∧
        (fields.get? "name").getD (.text []) = app.name := by
  cases v with
  | object fields =>
      cases app
      simp [readApp, Value.isNull, Value.field_object, bind_eq_ok, pure, Except.pure]
  | null => simp [readApp, Value.isNull, pure, Except.pure]
  | _ =>
      simp only [reduceCtorEq, false_and, exists_false, iff_false]
      intro hread
      cases hread

theorem readSize_eq_some {v : Value} {size : Geometry} :
    readSize v = .ok (some size) ↔
      ∃ fields : Members, v = .object fields ∧
        ((fields.get? "width").getD (.int 0)).toInteger = .ok size.width ∧
        ((fields.get? "height").getD (.int 0)).toInteger = .ok size.height := by
  cases v with
  | object fields =>
      cases size
      simp [readSize, Value.isNull, Value.field_object, bind_eq_ok, pure, Except.pure]
  | null => simp [readSize, Value.isNull, pure, Except.pure]
  | _ =>
      simp only [reduceCtorEq, false_and, exists_false, iff_false]
      intro hread
      cases hread

theorem getD_null_eq_object {found : Option Value} {fields : Members} :
    found.getD .null = .object fields ↔ found = some (.object fields) := by
  cases found <;> simp

/-- Items that there are come from a value that is not blank. -/
theorem itemsOrNone_eq_cons {found : Option Value} {items : List Value} (hitems : items ≠ []) :
    (found.getD .null).itemsOrNone = .ok items ↔
      ∃ v, found = some v ∧ v.isBlank = false ∧ v.items = .ok items := by
  cases found with
  | none =>
      simp [Value.itemsOrNone, Value.isBlank, hitems.symm]
  | some v =>
      cases hblank : v.isBlank <;> simp [Value.itemsOrNone, hblank, hitems.symm]

/-- What an object asks for is read off it. -/
theorem asks_iff {members : Members} {o : Opening} :
    Asks members o ↔
      ∃ r, Reads members r ∧ r.toOpening = .ok o := by
  constructor
  · intro hasks
    obtain ⟨appFields, happ, hparts⟩ := hasks.app
    obtain ⟨sizeFields, hsize, hextent⟩ := hasks.size
    obtain ⟨chunks, input, hchunks, hinput⟩ := hasks.input
    refine ⟨⟨some o.app, o.command, some o.size, input⟩, ⟨?_, ?_, ?_, chunks, hchunks, hinput⟩, ?_⟩
    · rw [readApp_eq_some]
      exact ⟨appFields, getD_null_eq_object.mpr happ, hparts⟩
    · rw [itemsOrNone_eq_cons hasks.commanded]
      exact hasks.command
    · rw [readSize_eq_some]
      exact ⟨sizeFields, getD_null_eq_object.mpr hsize, hextent⟩
    · rw [toOpening_eq_ok]
      exact ⟨rfl, hasks.named, hasks.namespaced, rfl, hasks.commanded, rfl⟩
  · intro hread
    obtain ⟨r, hreads, hopening⟩ := hread
    obtain ⟨happ, hnamed, hnamespaced, hcommand, hcommanded, hsize⟩ := toOpening_eq_ok.mp hopening
    have hreadApp := hreads.app
    have hreadCommand := hreads.command
    have hreadSize := hreads.size
    rw [happ, readApp_eq_some] at hreadApp
    rw [hcommand, itemsOrNone_eq_cons hcommanded] at hreadCommand
    rw [hsize, readSize_eq_some] at hreadSize
    simp only [getD_null_eq_object] at hreadApp hreadSize
    obtain ⟨chunks, hchunks, hinput⟩ := hreads.input
    exact ⟨hreadApp, hnamed, hnamespaced, hreadCommand, hcommanded, hreadSize, chunks, r.input,
      hchunks, hinput⟩

def opening? (room : Nat) (octets : Bytes) : Option Opening :=
  match decode room octets with
  | .ok r => r.toOpening.toOption
  | .error _ => none

theorem opening?_eq_some {room : Nat} {octets : Bytes} {o : Opening} :
    opening? room octets = some o ↔ ∃ r, decode room octets = .ok r ∧ r.toOpening = .ok o := by
  unfold opening?
  cases decode room octets with
  | error f => simp
  | ok r => cases hopening : r.toOpening <;> simp [hopening, Except.toOption]

/-- The octets that open something are those of an object that asks for it. -/
theorem opening?_iff_asks {room : Nat} {octets : Bytes} {o : Opening} :
    opening? room octets = some o ↔
      ∃ members, Document.ofBytes room octets = .ok (.object members) ∧ Asks members o := by
  simp only [opening?_eq_some, decode, bind_eq_ok, ofDocument_eq_ok, asks_iff]
  constructor
  · intro hdecoded
    obtain ⟨r, ⟨doc, hdocument, members, hobject, hreads⟩, hopening⟩ := hdecoded
    exact ⟨members, hobject ▸ hdocument, r, hreads, hopening⟩
  · intro hasks
    obtain ⟨members, hdocument, r, hreads, hopening⟩ := hasks
    exact ⟨r, ⟨_, hdocument, members, rfl, hreads⟩, hopening⟩

/-! ## The grammar -/

def IsText (v : Value) : Prop := ∃ t, v = .text t

/-- The fields that a document has for the app and the command are of the types that
the grammar gives them. -/
structure Typed (members : Members) : Prop where
  app : ∀ fields : Members, members.get? "app" = some (.object fields) →
    ∀ key ∈ [Text.ofString "namespace", Text.ofString "name"], ∀ v,
      fields.get? key = some v → IsText v
  command : ∀ v, members.get? "command" = some v → ∃ words, v = .array words ∧ ∀ w ∈ words, IsText w

/-- What is opened is what the grammar says: texts that are not empty for the parts of
the app's name, and for the command the array in the document, of texts. -/
structure Grammatical (members : Members) (o : Opening) : Prop where
  namespaceName : ∃ t ≠ [], o.app.namespaceName = .text t
  name : ∃ t ≠ [], o.app.name = .text t
  command : members.get? "command" = some (.array o.command)
  commanded : o.command ≠ []
  words : ∀ w ∈ o.command, IsText w

/-- A part of a name that is not blank is a text just if the field for it is one. -/
theorem isText_part {fields : Members} {key : Text} {part : Value}
    (hpart : (fields.get? key).getD (.text []) = part) (hblank : part.isBlank = false) :
    (∃ t ≠ [], part = .text t) ↔ ∀ v, fields.get? key = some v → IsText v := by
  cases hfield : fields.get? key with
  | none =>
      rw [hfield] at hpart
      subst hpart
      simp [Value.isBlank] at hblank
  | some v =>
      rw [hfield, Option.getD_some] at hpart
      subst hpart
      simp only [Option.some.injEq, forall_eq']
      constructor
      · intro htext
        obtain ⟨t, _, ht⟩ := htext
        exact ⟨t, ht⟩
      · intro htext
        obtain ⟨t, rfl⟩ := htext
        refine ⟨t, ?_, rfl⟩
        rintro rfl
        simp [Value.isBlank] at hblank

/-- Nobody looks at the types.  What is opened is what the grammar says just if the
document keeps to the grammar by itself. -/
theorem Asks.grammatical_iff {members : Members} {o : Opening} (hasks : Asks members o) :
    Grammatical members o ↔ Typed members := by
  obtain ⟨fields, happ, hnamespace, hname⟩ := hasks.app
  obtain ⟨v, hcommand, _, hitems⟩ := hasks.command
  constructor
  · intro hgrammar
    constructor
    · intro others hothers key hkey
      rw [happ] at hothers
      cases hothers
      simp only [List.mem_cons, List.not_mem_nil, or_false] at hkey
      cases hkey with
      | inl hkey => exact hkey ▸ (isText_part hnamespace hasks.namespaced).mp hgrammar.namespaceName
      | inr hkey => exact hkey ▸ (isText_part hname hasks.named).mp hgrammar.name
    · intro u hu
      rw [hgrammar.command] at hu
      cases hu
      exact ⟨o.command, rfl, hgrammar.words⟩
  · intro htyped
    obtain ⟨words, rfl, hwords⟩ := htyped.command v hcommand
    cases hitems
    have hparts := htyped.app fields happ
    exact
      { namespaceName := (isText_part hnamespace hasks.namespaced).mpr (hparts _ (by simp))
        name := (isText_part hname hasks.named).mpr (hparts _ (by simp))
        command := hcommand
        commanded := hasks.commanded
        words := hwords }

end Request

end AttachGate
