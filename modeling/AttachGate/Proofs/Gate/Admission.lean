import AttachGate.Proofs.Gate.Attendance
import AttachGate.Proofs.Wire.Opening

/-!
# Who is let in

The first message of a stream is read and looked at before anything is done for
the stream.  If it asks for nothing that can be opened, the stream ends there and
then, and its handler never does anything for it.
-/

namespace AttachGate.Gate

/-- What the octets of a message bring to a stream. -/
def feedOf (room : Nat) (octets : Bytes) : Terminal.Feed :=
  match Request.decode room octets with
  | .ok r => .message r
  | .error f => .broken f

/-- How a stream ends whose first message cannot be read or does not do. -/
inductive Dismisses (room : Nat) (octets : Bytes) : Status → Prop
  | unread (f : Failure) (hread : Request.decode room octets = .error f) :
    Dismisses room octets (lostFirst f)
  | unfit (r : Request) (refusal : Request.Refusal) (hread : Request.decode room octets = .ok r)
    (hopening : r.toOpening = .error refusal) :
    Dismisses room octets (.refused .invalidArgument refusal.message)

/-- A stream that is gone stays so. -/
theorem gone_after {g : Gate} (hhoused : Housed g) {i : Nat}
    (hgone : g.account? i = some .gone) (m : Move) : (g.after m).account? i = some .gone := by
  have hothers : ∀ {j : Nat} {a : Account}, g.account? j ≠ some .gone →
      Marks g (g.after m) j a → (g.after m).account? i = some .gone := by
    intro j a hj hmarks
    have hne : i ≠ j := by
      intro hsame
      exact hj (hsame ▸ hgone)
    rw [hmarks i, if_neg hne, hgone]
  have hpassing := passing_after hhoused m
  generalize g.call? m = call at hpassing
  generalize g.join? m = join at hpassing
  cases hpassing with
  | idle haccounts => rw [haccounts, hgone]
  | arrived haccounts => exact hothers (by simp [account?]) haccounts
  | turnedAway j hfrom haccounts => exact hothers (by simp [hfrom]) haccounts
  | joined j app hkey hfrom haccounts => exact hothers (by simp [hfrom]) haccounts
  | called j errand cancelled k s hfrom hs haccounts => exact hothers (by simp [hfrom]) haccounts
  | answered j p k n outcome hfrom hover haccounts => exact hothers (by simp [hfrom]) haccounts
  | moved k s move hm hs haccounts => rw [haccounts, hgone]

/-- The handler of a stream that is gone has nothing to do. -/
theorem handle_of_gone {g : Gate} {i : Nat} (hgone : g.account? i = some .gone) :
    g.handle i = g := by
  cases hs : g.streams[i]? with
  | none => simp only [handle, hs]
  | some s =>
      simp only [account?, hs, Option.map_some, Option.some.injEq] at hgone
      cases hstage : s.stage with
      | ended status => simp only [handle, hs, hstage]
      | _ =>
          rw [hstage] at hgone
          cases hgone

/-- From where a stream is gone its handler does nothing in any course. -/
theorem idle_of_gone {g : Gate} (hbooked : Booked g) {i : Nat}
    (hgone : g.account? i = some .gone) (moves : List Move) :
    ∀ e ∈ history after g moves, e.2 = .handle i → e.1.after e.2 = e.1 := by
  induction moves generalizing g with
  | nil => simp [history]
  | cons m rest ih =>
      intro e he hm
      rw [history, List.mem_cons] at he
      cases he with
      | inl hnow =>
          rw [hnow] at hm ⊢
          simp only at hm
          rw [hm]
          exact handle_of_gone hgone
      | inr hlater =>
          exact ih (hbooked.after m) (gone_after hbooked.housed hgone m) e hlater hm

theorem onStream_congr {g : Gate} {i : Nat} {s : Stream} (hs : g.streams[i]? = some s)
    {f f' : Stream → Stream} (hf : f s = f' s) : g.onStream i f = g.onStream i f' := by
  simp only [onStream, modify_of_some hs, hf]

variable {openTimeout : Option Number} {maxStreams : Int} {cluster : Cluster} {first : Gate}

/-- Take a stream in any course of a gate as its handler takes its first message.  If
the octets of the message are those of an object that asks for something, the stream is
let in for just that, and what it is let in for keeps to the grammar just if the object
does.  Otherwise the stream ends there, with nothing else of the gate changed, and its
handler does nothing in any course from there on. -/
theorem admitted_or_turned_away (hfirst : create openTimeout maxStreams cluster = .ok first)
    (before : List Move) {g : Gate} (hg : g = before.foldl after first) {i : Nat} {s : Stream}
    (hs : g.streams[i]? = some s) (hstage : s.stage = .awaiting) {room : Nat} {octets : Bytes}
    {inbox : List Terminal.Feed} (hinbox : s.inbox = feedOf room octets :: inbox) :
    (∃ members o, Document.ofBytes room octets = .ok (.object members) ∧
      Request.Asks members o ∧
      g.handle i = g.onStream i (fun s => { s with inbox, stage := .admitted o }) ∧
      (Request.Grammatical members o ↔ Request.Typed members)) ∨
    ((¬ ∃ members o, Document.ofBytes room octets = .ok (.object members) ∧
        Request.Asks members o) ∧
      ∃ status, Dismisses room octets status ∧
        g.handle i = g.onStream i (fun s => { s with inbox, stage := .ended status }) ∧
        ∀ moves, ∀ e ∈ history after (g.handle i) moves,
          e.2 = .handle i → e.1.after e.2 = e.1) := by
  have hbooked : Booked g := by
    rw [hg]
    exact (filed_course hfirst before).1
  have hhandle : g.handle i = g.onStream i Stream.takeFirst := by simp only [handle, hs, hstage]
  have hidle : ∀ status,
      g.handle i = g.onStream i (fun s => { s with inbox, stage := .ended status }) →
      ∀ moves, ∀ e ∈ history after (g.handle i) moves, e.2 = .handle i → e.1.after e.2 = e.1 := by
    intro status hended
    apply idle_of_gone (hbooked.after (.handle i))
    change (g.handle i).account? i = _
    rw [hended, account?_onStream, if_pos rfl, hs]
    rfl
  have hunasked : Request.opening? room octets = none →
      ¬ ∃ members o, Document.ofBytes room octets = .ok (.object members) ∧
        Request.Asks members o := by
    intro hnone hasks
    obtain ⟨members, o, hdocument, hasks⟩ := hasks
    have hsome := Request.opening?_iff_asks.mpr ⟨members, hdocument, hasks⟩
    simp [hnone] at hsome
  cases hread : Request.decode room octets with
  | error f =>
      right
      have hended : g.handle i =
          g.onStream i (fun s => { s with inbox, stage := .ended (lostFirst f) }) := by
        rw [hhandle]
        exact onStream_congr hs (by simp [Stream.takeFirst, hinbox, feedOf, hread])
      exact ⟨hunasked (by simp [Request.opening?, hread]), _, .unread f hread, hended,
        hidle _ hended⟩
  | ok r =>
      cases hopening : r.toOpening with
      | ok o =>
          left
          obtain ⟨members, hdocument, hasks⟩ :=
            Request.opening?_iff_asks.mp (Request.opening?_eq_some.mpr ⟨r, hread, hopening⟩)
          refine ⟨members, o, hdocument, hasks, ?_, hasks.grammatical_iff⟩
          rw [hhandle]
          exact onStream_congr hs
            (by simp [Stream.takeFirst, hinbox, feedOf, hread, afterFirst, hopening])
      | error refusal =>
          right
          have hended : g.handle i = g.onStream i (fun s =>
              { s with inbox, stage := .ended (.refused .invalidArgument refusal.message) }) := by
            rw [hhandle]
            exact onStream_congr hs
              (by simp [Stream.takeFirst, hinbox, feedOf, hread, afterFirst, hopening])
          exact ⟨hunasked (by simp [Request.opening?, hread, hopening, Except.toOption]), _,
            .unfit r refusal hread hopening, hended, hidle _ hended⟩

namespace Sample

def octetsOf (s : String) : Bytes := s.toList.map fun c => UInt8.ofNat c.toNat

def asking : Bytes :=
  octetsOf "\x7b\"app\": \x7b\"namespace\": \"app\", \"name\": \"ctr\"\x7d, \"command\": [\"sh\"], \"terminalSize\": \x7b\"width\": 80, \"height\": 24\x7d\x7d"

/-- A client asks for something that is no list of words. -/
def askingLoosely : Bytes :=
  octetsOf "\x7b\"app\": \x7b\"namespace\": \"app\", \"name\": \"ctr\"\x7d, \"command\": \"ls\", \"terminalSize\": \x7b\"width\": 80, \"height\": 24\x7d\x7d"

end Sample

theorem admitted_asking :
    ∃ members o, Document.ofBytes Json.maxDepth Sample.asking = .ok (.object members) ∧
      Request.Asks members o ∧
      ((Sample.gate.arrive [feedOf Json.maxDepth Sample.asking] none).2.handle 0).streams.map
        Stream.stage = [.admitted o] := by
  have hfirst : create none 2 Session.Sample.cluster = .ok Sample.gate := rfl
  have hopens : (Request.opening? Json.maxDepth Sample.asking).isSome = true := by decide +kernel
  obtain ⟨o, ho⟩ := Option.isSome_iff_exists.mp hopens
  obtain ⟨members, hdocument, hasks⟩ := Request.opening?_iff_asks.mp ho
  obtain hadmitted | hdismissed := admitted_or_turned_away hfirst
    [.arrive [feedOf Json.maxDepth Sample.asking] none] rfl (i := 0) rfl rfl rfl
  · obtain ⟨members, o, hdocument, hasks, hhandle, _⟩ := hadmitted
    exact ⟨members, o, hdocument, hasks, congrArg (fun g => g.streams.map Stream.stage) hhandle⟩
  · exact (hdismissed.1 ⟨members, o, hdocument, hasks⟩).elim

/-- A message is let in though it has a text for its command, and what is run for it
are the letters of that text. -/
theorem admitted_letters :
    ∃ (members : Members) (o : Request.Opening),
      Document.ofBytes Json.maxDepth Sample.askingLoosely = .ok (.object members) ∧
      Request.opening? Json.maxDepth Sample.askingLoosely = some o ∧
      members.get? "command" = some (.text "ls") ∧ o.command = [.text "l", .text "s"] ∧
      ¬ Request.Grammatical members o := by
  have hopens : (Request.opening? Json.maxDepth Sample.askingLoosely).isSome = true := by decide +kernel
  have hloose : (Document.ofBytes Json.maxDepth Sample.askingLoosely).toOption.any (fun doc =>
      (doc.field "command" .null).toOption.any fun v => v.isText "ls") = true := by
    decide +kernel
  obtain ⟨o, ho⟩ := Option.isSome_iff_exists.mp hopens
  obtain ⟨members, hdocument, hasks⟩ := Request.opening?_iff_asks.mp ho
  obtain ⟨v, hv, _, hitems⟩ := hasks.command
  have hcommand : Members.get? "command" members = some (.text "ls") := by
    rw [hdocument] at hloose
    simp only [Except.toOption, Value.field_object, Option.any_some, hv, Option.getD_some] at hloose
    cases v with
    | text t =>
        simp only [Value.isText, decide_eq_true_eq] at hloose
        rw [hv, hloose]
    | _ => cases hloose
  rw [hcommand, Option.some.injEq] at hv
  refine ⟨members, o, hdocument, ho, hcommand, ?_, ?_⟩
  · rw [← hv] at hitems
    exact (Except.ok.inj hitems).symm
  · intro hgrammar
    have harray := hgrammar.command
    rw [hcommand] at harray
    cases harray

end AttachGate.Gate
