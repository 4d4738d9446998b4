import AttachGate.Wire.Response
import AttachGate.Proofs.Json.RoundTrip
import AttachGate.Proofs.Wire.Base64
import AttachGate.Proofs.Wire.Opening

/-!
# Messages survive the wire

What has been sent is read as it was: a message is written as a document in ASCII, and
the octets of that document are read as the message.
-/

namespace AttachGate

def Text.toBytes (t : Text) : Except Failure Bytes :=
  (Utf8.encode? t).elim (.error .unencodableText) .ok

def Request.toBytes (r : Request) : Except Failure Bytes := r.encode.bind Text.toBytes

def Response.toBytes (x : Response) : Except Failure Bytes := x.encode.bind Text.toBytes

/-- A plain document is read from the octets that it is sent as. -/
theorem Document.exists_octets {room : Nat} {v : Value} (hv : Json.Plain room v) :
    ∃ octets, (toText v).bind Text.toBytes = .ok octets ∧ ofBytes room octets = .ok v := by
  obtain ⟨hwrite, hoctets, hread⟩ := ofBytes_octets hv
  refine ⟨_, ?_, hread⟩
  simp only [hwrite, Except.bind, Text.toBytes, hoctets, Option.elim_some]

theorem Value.integerFits_of_lt {n : Int} {digits : Nat} (hdigits : digits ≤ maxIntegerDigits)
    (hn : n.natAbs < 10 ^ digits) : Value.integerFits n = true := by
  unfold Value.integerFits
  generalize maxIntegerDigits = most at *
  exact decide_eq_true (Nat.lt_of_lt_of_le hn (Nat.pow_le_pow_right (by omega) hdigits))

def Value.IsWholeText (v : Value) : Prop := ∃ t : Text, v = .text t ∧ t.IsWhole

theorem Text.isWhole_of_lt {t : Text} (ht : ∀ c ∈ t, c.val < 0x80) : t.IsWhole := by
  induction t with
  | nil => exact .nil
  | cons c t ih =>
      have hc := ht c (.head _)
      refine List.isChain_cons.mpr ⟨?_, ih fun d hd => ht d (.tail _ hd)⟩
      intro d _ hpair
      simp only [CodePoint.isHighSurrogate, Bool.and_eq_true, decide_eq_true_eq] at hpair
      omega

namespace Json

theorem plain_of_isWholeText (room : Nat) {v : Value} (hv : v.IsWholeText) : Plain room v := by
  obtain ⟨t, rfl, ht⟩ := hv
  exact .text room ht

theorem plain_base64 (room : Nat) (bytes : Bytes) : Plain room (.text (Base64.encode bytes)) :=
  .text room (Text.isWhole_of_lt fun _ hc => Base64.lt_of_mem_encode hc)

/-- The members that a document has of those that it may have. -/
def present (parts : List (Text × Option Value)) : Members :=
  parts.filterMap fun part => part.2.map fun v => (part.1, v)

theorem keys_present (parts : List (Text × Option Value)) :
    ((present parts).map Prod.fst).Sublist (parts.map Prod.fst) := by
  induction parts with
  | nil => exact .slnil
  | cons part parts ih =>
      obtain ⟨key, value⟩ := part
      cases value with
      | none => exact ih.cons key
      | some v => exact ih.cons_cons key

theorem plain_present {room : Nat} {parts : List (Text × Option Value)} (keys : List Text)
    (hparts : parts.map Prod.fst = keys)
    (hkeys : keys.Nodup ∧ ∀ key ∈ keys, key.IsAscii)
    (hvalues : ∀ part ∈ parts, ∀ v, part.2 = some v → Plain room v) :
    Plain (room + 1) (.object (present parts)) := by
  have hsome := keys_present parts
  rw [hparts] at hsome
  refine .object (hkeys.1.sublist hsome) ?_ ?_
  · intro member hmember
    have hascii := hkeys.2 _ (hsome.subset (List.mem_map_of_mem hmember))
    exact Text.isWhole_of_lt fun c hc => (hascii c hc).2
  · intro member hmember
    obtain ⟨part, hpart, hmember⟩ := List.mem_filterMap.mp hmember
    obtain ⟨v, hv, rfl⟩ := Option.map_eq_some_iff.mp hmember
    exact hvalues part hpart v hv

end Json

namespace Request

open Json

/-- A message of texts, with a size that can be written. -/
structure Sendable (r : Request) : Prop where
  app : ∀ app, r.app = some app → app.namespaceName.IsWholeText ∧ app.name.IsWholeText
  command : ∀ word ∈ r.command, word.IsWholeText
  size : ∀ size, r.size = some size →
    Value.integerFits size.width = true ∧ Value.integerFits size.height = true

/-! ## Documents of messages -/

/-- Each part of a message is found under its key, or nothing is where it is left out. -/
theorem fields_toDocument (r : Request) :
    r.toDocument.field "app" .null = .ok ((r.app.map appDocument).getD .null) ∧
      (∃ words, r.toDocument.field "command" .null = .ok words ∧
        words.itemsOrNone = .ok r.command) ∧
      r.toDocument.field "terminalSize" .null = .ok ((r.size.map sizeDocument).getD .null) ∧
      ∃ chunks, r.toDocument.field "stdin" .null = .ok chunks ∧
        chunks.itemsOrNone = .ok (r.input.map fun chunk => .text (Base64.encode chunk)) := by
  obtain ⟨app, command, size, input⟩ := r
  cases app <;> cases command <;> cases size <;> cases input <;>
    exact ⟨rfl, ⟨_, rfl, rfl⟩, rfl, ⟨_, rfl, rfl⟩⟩

theorem readApp_document (app : Option App.Id) :
    readApp ((app.map appDocument).getD .null) = .ok app := by
  cases app with
  | none => rfl
  | some app => rfl

theorem readSize_document (size : Option Geometry) :
    readSize ((size.map sizeDocument).getD .null) = .ok size := by
  cases size with
  | none => rfl
  | some size => rfl

theorem readBase64_encode (chunk : Bytes) :
    readBase64 (.text (Base64.encode chunk)) = .ok chunk := by
  have hplain : (Base64.encode chunk).any CodePoint.isSurrogate = false := by
    rw [List.any_eq_false]
    intro c hc
    have hlt := Base64.lt_of_mem_encode hc
    simp only [CodePoint.isSurrogate, Bool.and_eq_true, decide_eq_true_eq]
    omega
  simp only [readBase64, hplain, Bool.false_eq_true, if_false, Base64.decode_encode]
  rfl

theorem mapM_readBase64 (input : List Bytes) :
    (input.map fun chunk => Value.text (Base64.encode chunk)).mapM readBase64 = .ok input := by
  induction input with
  | nil => rfl
  | cons chunk input ih =>
      rw [List.map_cons, List.mapM_cons, readBase64_encode, ih]
      rfl

/-- A message is what its document says. -/
theorem ofDocument_toDocument (r : Request) : ofDocument r.toDocument = .ok r := by
  obtain ⟨happ, ⟨words, hwords, hcommand⟩, hsize, chunks, hchunks, hinput⟩ := fields_toDocument r
  simp only [ofDocument, happ, hwords, hcommand, hsize, hchunks, hinput, readApp_document,
    readSize_document, mapM_readBase64, bind, Except.bind]
  rfl

theorem toDocument_eq (r : Request) :
    r.toDocument = .object (present
      [("app", r.app.map appDocument),
        ("command", if r.command.isEmpty then none else some (.array r.command)),
        ("terminalSize", r.size.map sizeDocument),
        ("stdin", if r.input.isEmpty then none
          else some (.array (r.input.map fun chunk => .text (Base64.encode chunk))))]) := by
  obtain ⟨app, command, size, input⟩ := r
  cases app <;> cases command <;> cases size <;> cases input <;> rfl

theorem plain_app (room : Nat) {app : App.Id}
    (happ : app.namespaceName.IsWholeText ∧ app.name.IsWholeText) :
    Plain (room + 1) (appDocument app) := by
  obtain ⟨hnamespace, hname⟩ := happ
  have hparts : appDocument app =
      .object (present [("namespace", some app.namespaceName), ("name", some app.name)]) := rfl
  rw [hparts]
  apply plain_present ["namespace", "name"] rfl (by decide)
  simp only [List.forall_mem_cons, Option.some.injEq, forall_eq']
  exact ⟨plain_of_isWholeText room hnamespace, plain_of_isWholeText room hname, by simp⟩

theorem plain_size (room : Nat) {size : Geometry}
    (hsize : Value.integerFits size.width = true ∧ Value.integerFits size.height = true) :
    Plain (room + 1) (sizeDocument size) := by
  have hparts : sizeDocument size =
      .object (present [("width", some (.int size.width)), ("height", some (.int size.height))]) :=
    rfl
  rw [hparts]
  apply plain_present ["width", "height"] rfl (by decide)
  simp only [List.forall_mem_cons, Option.some.injEq, forall_eq']
  exact ⟨.int room hsize.1, .int room hsize.2, by simp⟩

theorem plain_toDocument (room : Nat) {r : Request} (hr : r.Sendable) :
    Plain (room + 2) r.toDocument := by
  rw [toDocument_eq]
  apply plain_present ["app", "command", "terminalSize", "stdin"] rfl (by decide)
  simp only [List.forall_mem_cons, Option.map_eq_some_iff, forall_exists_index, and_imp,
    Option.ite_none_left_eq_some]
  refine ⟨?_, ?_, ?_, ?_, by simp⟩
  · rintro _ app happ rfl
    exact plain_app room (hr.app app happ)
  · rintro _ _ ⟨⟩
    exact .array fun word hword => plain_of_isWholeText room (hr.command word hword)
  · rintro _ size hsize rfl
    exact plain_size room (hr.size size hsize)
  · rintro _ _ ⟨⟩
    refine .array fun v hv => ?_
    obtain ⟨chunk, _, rfl⟩ := List.mem_map.mp hv
    exact plain_base64 room chunk

theorem decode_sent (room : Nat) {r : Request} (hr : r.Sendable) :
    ∃ octets, r.toBytes = .ok octets ∧ decode (room + 2) octets = .ok r := by
  obtain ⟨octets, hsend, hread⟩ := Document.exists_octets (plain_toDocument room hr)
  refine ⟨octets, hsend, ?_⟩
  simp only [decode, hread, bind, Except.bind, ofDocument_toDocument]

end Request

namespace Response

open Json

theorem toDocument_eq (x : Response) :
    x.toDocument = .object (present
      [("stdout", if x.out.isEmpty then none else some (.text (Base64.encode x.out))),
        ("stderr", if x.err.isEmpty then none else some (.text (Base64.encode x.err)))]) := by
  obtain ⟨out, err⟩ := x
  cases out <;> cases err <;> rfl

theorem plain_toDocument (room : Nat) (x : Response) : Plain (room + 1) x.toDocument := by
  rw [toDocument_eq]
  apply plain_present ["stdout", "stderr"] rfl (by decide)
  simp only [List.forall_mem_cons, Option.ite_none_left_eq_some, and_imp]
  refine ⟨?_, ?_, by simp⟩
  · rintro _ _ ⟨⟩
    exact plain_base64 room x.out
  · rintro _ _ ⟨⟩
    exact plain_base64 room x.err

/-- Either stream is found under its key; an empty one is left out and read as empty. -/
theorem fields_toDocument (x : Response) :
    x.toDocument.field "stdout" (.text []) = .ok (.text (Base64.encode x.out)) ∧
      x.toDocument.field "stderr" (.text []) = .ok (.text (Base64.encode x.err)) := by
  obtain ⟨out, err⟩ := x
  cases out <;> cases err <;> exact ⟨rfl, rfl⟩

theorem decode_sent (room : Nat) (x : Response) :
    ∃ octets, x.toBytes = .ok octets ∧ decode (room + 1) octets = .ok x := by
  obtain ⟨octets, hsend, hread⟩ := Document.exists_octets (plain_toDocument room x)
  obtain ⟨hout, herr⟩ := fields_toDocument x
  refine ⟨octets, hsend, ?_⟩
  simp only [decode, hread, hout, herr, Request.readBase64_encode, bind, Except.bind]
  rfl

end Response

/-! ## Reading what was sent -/

theorem eq_of_decoded {α : Type} {send : α → Except Failure Bytes}
    {decode : Bytes → Except Failure α} {a b : α}
    (ha : ∃ octets, send a = .ok octets ∧ decode octets = .ok a)
    (hb : ∃ octets, send b = .ok octets ∧ decode octets = .ok b) (hsame : send a = send b) :
    a = b := by
  obtain ⟨octets, hsend, hread⟩ := ha
  obtain ⟨octets', hsend', hread'⟩ := hb
  rw [hsend, hsend'] at hsame
  cases hsame
  rw [hread] at hread'
  exact Except.ok.inj hread'

/-- Every message is read as it was sent, in both directions and with room for no more
brackets than it needs, so no two messages are sent as the same octets. -/
theorem Wire.read_as_sent (room : Nat) :
    (∀ r : Request, r.Sendable →
      ∃ octets, r.toBytes = .ok octets ∧ Request.decode (room + 2) octets = .ok r) ∧
    (∀ x : Response,
      ∃ octets, x.toBytes = .ok octets ∧ Response.decode (room + 1) octets = .ok x) ∧
    (∀ r s : Request, r.Sendable → s.Sendable → r.toBytes = s.toBytes → r = s) ∧
    ∀ x y : Response, x.toBytes = y.toBytes → x = y := by
  refine ⟨fun r => Request.decode_sent room, Response.decode_sent room, ?_, ?_⟩
  · intro r s hr hs
    exact eq_of_decoded (Request.decode_sent room hr) (Request.decode_sent room hs)
  · intro x y
    exact eq_of_decoded (Response.decode_sent room x) (Response.decode_sent room y)

namespace Sample

/-- A message whose texts hold a supplementary character, both halves of a pair in the
wrong order and nothing at all, and whose size and chunks are out of the ordinary. -/
def odd : Request where
  app := some ⟨.text [], .text [CodePoint.ofNat 0x1F600, CodePoint.ofNat 0x22]⟩
  command := [.text [CodePoint.ofNat 0xDC00, CodePoint.ofNat 0xD800], .text []]
  size := some ⟨-1, 0⟩
  input := [[], [0xFF, 0x00]]

theorem sendable_odd : odd.Sendable where
  app := by
    rintro _ ⟨⟩
    exact ⟨⟨_, rfl, by unfold Text.IsWhole; decide⟩, _, rfl, by unfold Text.IsWhole; decide⟩
  command := by
    simp only [odd, List.forall_mem_cons]
    exact ⟨⟨_, rfl, by unfold Text.IsWhole; decide⟩, ⟨_, rfl, .nil⟩, by simp⟩
  size := by
    rintro _ ⟨⟩
    have hdigits : 1 ≤ maxIntegerDigits := by decide
    exact ⟨Value.integerFits_of_lt hdigits (by decide), Value.integerFits_of_lt hdigits (by decide)⟩

end Sample

theorem Wire.read_as_sent_odd :
    Sample.odd.Sendable ∧
    (∃ octets, Sample.odd.toBytes = .ok octets ∧
      Request.decode Json.maxDepth octets = .ok Sample.odd) ∧
    Sample.odd.toBytes ≠ Request.nothing.toBytes := by
  obtain ⟨hread, _, hinjective, _⟩ := Wire.read_as_sent (Json.maxDepth - 2)
  have hnothing : Request.nothing.Sendable := by
    constructor <;> simp [Request.nothing]
  refine ⟨Sample.sendable_odd, hread _ Sample.sendable_odd, ?_⟩
  intro hsame
  have hequal := congrArg Request.input (hinjective _ _ Sample.sendable_odd hnothing hsame)
  cases hequal

end AttachGate
