import AttachGate.Proofs.Wire.Opening
import AttachGate.Tool.Drive

/-!
# What a client has the cluster tool read

The commands that are run for a change read the app or replace it.  A command
that reads it has the name of the app, as the client gave it, right behind the
resource type, where the tool expects the name of an object.  The tool takes an
argument with a dash in front for an option, though, so what it makes of the
command depends on how the name begins.
-/

namespace AttachGate.Tool

/-! ## Operands -/

def isDashed (argument : Text) : Bool := argument.head? == some (CodePoint.ofChar '-')

/-- The operands among the arguments of a command: an argument with a dash in front
is an option, and some options take the next argument for their value. -/
def operands (takesValue : Text → Bool) : List Text → List Text
  | [] => []
  | [argument] => if isDashed argument then [] else [argument]
  | argument :: next :: rest =>
    if isDashed argument then
      if takesValue argument then operands takesValue rest else operands takesValue (next :: rest)
    else argument :: operands takesValue (next :: rest)

/-- The options that the gate gives the tool all take a value. -/
structure Reads (takesValue : Text → Bool) : Prop where
  context : takesValue "--context" = true
  namespaceName : takesValue "-n" = true
  output : takesValue "-o" = true
  file : takesValue "-f" = true

section Operands

variable {takesValue : Text → Bool}

theorem operands_option {option value : Text} {rest : List Text}
    (hdashed : isDashed option = true) (htakes : takesValue option = true) :
    operands takesValue (option :: value :: rest) = operands takesValue rest := by
  simp [operands, hdashed, htakes]

theorem operands_cons {argument : Text} (rest : List Text) (hplain : isDashed argument = false) :
    operands takesValue (argument :: rest) = argument :: operands takesValue rest := by
  cases rest <;> simp [operands, hplain]

theorem not_dashed_of_mem_operands {arguments : List Text} {argument : Text}
    (hmem : argument ∈ operands takesValue arguments) : isDashed argument = false := by
  induction arguments using operands.induct takesValue with
  | case1 => cases hmem
  | case2 first hdashed => simp [operands, hdashed] at hmem
  | case3 first hplain =>
      simp only [operands, hplain, Bool.false_eq_true, if_false, List.mem_singleton] at hmem
      rw [hmem]
      simpa using hplain
  | case4 first next rest hdashed htakes ih =>
      exact ih (by simpa [operands, hdashed, htakes] using hmem)
  | case5 first next rest hdashed htakes ih =>
      exact ih (by simpa [operands, hdashed, htakes] using hmem)
  | case6 first next rest hplain ih =>
      simp only [operands, hplain, Bool.false_eq_true, if_false, List.mem_cons] at hmem
      cases hmem with
      | inl hsame =>
          rw [hsame]
          simpa using hplain
      | inr hmem => exact ih hmem

/-- The options in front of a command do not change its operands. -/
theorem operands_commandLine (hreads : Reads takesValue) (s : Settings) (arguments : List Text) :
    operands takesValue (commandLine s arguments).tail = operands takesValue arguments := by
  cases hcontext : s.context with
  | none => simp [commandLine, hcontext]
  | some context =>
      cases hempty : context.isEmpty with
      | true => simp [commandLine, hcontext, hempty]
      | false =>
          simp only [commandLine, hcontext, hempty, Bool.false_eq_true, if_false]
          exact operands_option rfl hreads.context

theorem operands_write (hreads : Reads takesValue) :
    operands takesValue writeArguments = [Text.ofString "replace"] := by
  unfold writeArguments
  rw [operands_cons _ rfl, operands_option rfl hreads.output, operands_option rfl hreads.file]
  rfl

def readWords (namespaceName name : Text) : List Text :=
  ["get", resource, name, "-n", namespaceName, "-o", "json"]

/-- The name is an operand of the command that reads the app, right behind the
resource type, unless it has a dash in front: then it is an option. -/
theorem operands_read (hreads : Reads takesValue) (namespaceName name : Text) :
    operands takesValue (readWords namespaceName name) = [Text.ofString "get", resource, name] ↔
      isDashed name = false := by
  constructor
  · intro hoperands
    have hmem : name ∈ operands takesValue (readWords namespaceName name) := by
      rw [hoperands]
      simp
    exact not_dashed_of_mem_operands hmem
  · intro hplain
    unfold readWords
    rw [operands_cons _ rfl, operands_cons _ (by decide), operands_cons _ hplain,
      operands_option rfl hreads.namespaceName, operands_option rfl hreads.output]
    rfl

end Operands

/-! ## Commands of a query -/

/-- Besides what has been run already, a query runs only commands of a kind. -/
def Query.Only {α : Type} (kind : Invocation → Prop) (q : Query α) : Prop :=
  ∀ x : Exchange, ∃ ran, (q.run.run x).2.calls = x.calls ++ ran ∧ ∀ i ∈ ran, kind i

section Queries

variable {α β : Type} {kind : Invocation → Prop}

theorem Query.run_bind (q : Query α) (next : α → Query β) (x : Exchange) :
    (q >>= next).run.run x =
      match q.run.run x with
      | (.ok a, y) => (next a).run.run y
      | (.error e, y) => (.error e, y) := by
  unfold ExceptT.run StateT.run
  simp only [bind, ExceptT.bind, ExceptT.mk, StateT.bind, ExceptT.bindCont]
  cases q x with
  | mk reply y => cases reply <;> rfl

theorem Query.Only.bind {q : Query α} {next : α → Query β} (hq : q.Only kind)
    (hnext : ∀ a, (next a).Only kind) : (q >>= next).Only kind := by
  intro x
  obtain ⟨ran, hcalls, hran⟩ := hq x
  rw [Query.run_bind]
  cases hreply : q.run.run x with
  | mk reply y =>
      rw [hreply] at hcalls
      cases reply with
      | error e => exact ⟨ran, hcalls, hran⟩
      | ok a =>
          obtain ⟨more, hmore, hkind⟩ := hnext a y
          refine ⟨ran ++ more, ?_, ?_⟩
          · rw [← List.append_assoc, ← hcalls]
            exact hmore
          · exact List.forall_mem_append.mpr ⟨hran, hkind⟩

theorem Query.only_of_unasked {q : Query α} (hq : ∀ x, (q.run.run x).2 = x) : q.Only kind := by
  intro x
  exact ⟨[], by rw [hq, List.append_nil], by simp⟩

theorem Query.only_command {s : Settings} {arguments : List Text} {check : Bool}
    {input : Option Text} (hkind : kind (invocation s arguments input)) :
    (Query.command s arguments check input).Only kind := by
  unfold Query.command
  apply Query.Only.bind
  · intro x
    refine ⟨[invocation s arguments input], ?_, by simpa using hkind⟩
    change (Exchange.run _ x).2.calls = _
    unfold Exchange.run
    split <;> rfl
  · intro outcome
    apply Query.only_of_unasked
    intro x
    cases judge (invocation s arguments input) check outcome <;> rfl

/-- A query that runs one command and reads what it printed. -/
theorem Query.only_parsed {s : Settings} {arguments : List Text} {input : Option Text}
    (hkind : kind (invocation s arguments input)) :
    Query.Only kind (do
      let result ← Query.command s arguments true input
      match parse s.room result.out with
      | .ok snapshot => pure snapshot
      | .error e => throw e) := by
  apply (Query.only_command hkind).bind
  intro result
  apply Query.only_of_unasked
  intro x
  cases parse s.room result.out <;> rfl

theorem Query.only_readApp {s : Settings} {app : App.Id}
    (hkind : ∀ arguments, readArguments app = .ok arguments → kind (invocation s arguments none)) :
    (Query.readApp s app).Only kind := by
  unfold Query.readApp
  cases harguments : readArguments app with
  | error e => exact Query.only_of_unasked fun x => rfl
  | ok arguments => exact Query.only_parsed (hkind arguments harguments)

theorem Query.only_replaceApp {s : Settings} {object : Value}
    (hkind : ∀ input, kind (invocation s writeArguments (some input))) :
    (Query.replaceApp s object).Only kind := by
  unfold Query.replaceApp
  cases Document.toText object with
  | error e => exact Query.only_of_unasked fun x => rfl
  | ok input => exact Query.only_parsed (hkind input)

end Queries

/-! ## Commands of a change -/

/-- What is run for a change: its app is read, or replaced. -/
inductive Serves (s : Settings) (app : App.Id) : Invocation → Prop
  | read {arguments : List Text} (harguments : readArguments app = .ok arguments) :
      Serves s app (invocation s arguments none)
  | write (object : Text) : Serves s app (invocation s writeArguments (some object))

namespace Drive

theorem calls_query {α : Type} {kind : Invocation → Prop} {q : Query α} (hq : q.Only kind)
    (resume : Except Failure α → Change.Job) (d : Drive) :
    ∃ ran, (d.query q resume).exchange.calls = d.exchange.calls ++ ran ∧ ∀ i ∈ ran, kind i :=
  hq d.exchange

theorem calls_step (s : Settings) (goal : Change.Goal) (cancelled : Bool) (d : Drive) :
    ∃ ran, (d.step s goal cancelled).exchange.calls = d.exchange.calls ++ ran ∧
      ∀ i ∈ ran, Serves s goal.app i := by
  have hreads : (Query.readApp s goal.app).Only (Serves s goal.app) :=
    Query.only_readApp fun _ harguments => .read harguments
  have hidle : ∃ ran, d.exchange.calls = d.exchange.calls ++ ran ∧
      ∀ i ∈ ran, Serves s goal.app i := ⟨[], by simp, by simp⟩
  unfold step
  cases d.job.stage.ask with
  | flag => exact hidle
  | read => exact calls_query hreads _ d
  | write object => exact calls_query (Query.only_replaceApp .write) _ d
  | pause delay => exact hidle
  | next =>
      simp only [pull]
      cases d.job.watch.stage with
      | polling => exact calls_query hreads _ d
      | looking => exact hidle
      | resting => exact hidle
      | ended => exact hidle
  | nothing => exact hidle

/-- Whatever the tool answers and whenever the change is called off, all that is run
for it reads its app or replaces it. -/
theorem serves_run (s : Settings) (goal : Change.Goal) (script : List Scripted)
    (looks : List Bool) :
    ∀ i ∈ ((start goal script).run s goal looks).exchange.calls, Serves s goal.app i := by
  have hkept : ∀ d : Drive, (∀ i ∈ d.exchange.calls, Serves s goal.app i) →
      ∀ i ∈ (d.run s goal looks).exchange.calls, Serves s goal.app i := by
    induction looks with
    | nil => exact fun d hd => hd
    | cons cancelled looks ih =>
        intro d hd
        obtain ⟨ran, hcalls, hran⟩ := d.calls_step s goal cancelled
        apply ih
        rw [hcalls]
        exact List.forall_mem_append.mpr ⟨hd, hran⟩
  exact hkept _ (by simp [start, Exchange.start])

/-- Let a first message with texts for its fields open a stream.  Each command that
is run for a change of its app replaces the app, with nothing of the client's among
the arguments, or reads it.  One that reads it has the name, which is not empty, right
behind the resource type; and the tool takes it for the operand that it is meant to
be just if it does not begin with a dash. -/
theorem name_operand_iff {takesValue : Text → Bool} (hreads : Reads takesValue) {r : Request}
    {o : Request.Opening} (hopening : r.toOpening = .ok o) {namespaceName name : Text}
    (happ : o.app = ⟨.text namespaceName, .text name⟩) (s : Settings) (goal : Change.Goal)
    (hgoal : goal.app = o.app) (script : List Scripted) (looks : List Bool) :
    name ≠ [] ∧
      ∀ i ∈ ((start goal script).run s goal looks).exchange.calls,
        (i.arguments = commandLine s writeArguments ∧
          operands takesValue i.arguments.tail = [Text.ofString "replace"]) ∨
        (i.arguments = commandLine s (readWords namespaceName name) ∧
          (operands takesValue i.arguments.tail = [Text.ofString "get", resource, name] ↔
            isDashed name = false)) := by
  obtain ⟨_, hnamed, _⟩ := Request.toOpening_eq_ok.mp hopening
  constructor
  · rintro rfl
    simp [happ, Value.isBlank] at hnamed
  · intro i hi
    have hserves := serves_run s goal script looks i hi
    cases hserves with
    | write object =>
        left
        exact ⟨rfl, by rw [invocation, operands_commandLine hreads, operands_write hreads]⟩
    | read harguments =>
        right
        rw [hgoal, happ] at harguments
        cases harguments
        refine ⟨rfl, ?_⟩
        rw [invocation, operands_commandLine hreads]
        exact operands_read hreads namespaceName name

namespace Sample

/-- Just the options that the gate gives take values. -/
def takesValue (option : Text) : Bool :=
  option == "--context" || option == "-n" || option == "-o" || option == "-f"

def message (name : Text) : Request :=
  { app := some ⟨.text "app", .text name⟩, command := [.text "sh"], size := some ⟨80, 24⟩
    input := [] }

def opening (name : Text) : Request.Opening :=
  { app := ⟨.text "app", .text name⟩, command := [.text "sh"], size := ⟨80, 24⟩ }

def settings : Settings := .make none none none

def goal (name : Text) : Change.Goal :=
  { app := (opening name).app, phase := .live, plan := .standard }

def calls (name : Text) : List Invocation :=
  ((start (goal name) []).run settings (goal name) [false, false, false]).exchange.calls

end Sample

theorem name_operand_iff_plain :
    (Sample.calls "ctr").map Invocation.arguments =
        [commandLine Sample.settings (readWords "app" "ctr")] ∧
      ∀ i ∈ Sample.calls "ctr",
        operands Sample.takesValue i.arguments.tail =
          [Text.ofString "get", resource, Text.ofString "ctr"] := by
  have hcalls : (Sample.calls "ctr").map Invocation.arguments =
      [commandLine Sample.settings (readWords "app" "ctr")] := by decide +kernel
  have hreads : Reads Sample.takesValue :=
    ⟨by decide +kernel, by decide +kernel, by decide +kernel, by decide +kernel⟩
  obtain ⟨_, hall⟩ := name_operand_iff hreads (r := Sample.message "ctr")
    (o := Sample.opening "ctr") rfl rfl Sample.settings (Sample.goal "ctr") rfl []
    [false, false, false]
  refine ⟨hcalls, ?_⟩
  intro i hi
  have hread : i.arguments = commandLine Sample.settings (readWords "app" "ctr") := by
    have hmem := List.mem_map_of_mem (f := Invocation.arguments) hi
    rw [hcalls, List.mem_singleton] at hmem
    exact hmem
  cases hall i hi with
  | inl hwrite =>
      rw [hread] at hwrite
      exact absurd hwrite.1 (by decide +kernel)
  | inr hnamed => exact hnamed.2.mpr (by decide +kernel)

/-- A client can give a name that opens a stream and that the tool takes for an option,
in the first command that is run for its app. -/
theorem name_read_as_option :
    (Sample.message "--all-namespaces").toOpening = .ok (Sample.opening "--all-namespaces") ∧
      (Sample.calls "--all-namespaces").map Invocation.arguments =
        [commandLine Sample.settings (readWords "app" "--all-namespaces")] ∧
      isDashed "--all-namespaces" = true ∧
      (Sample.calls "--all-namespaces").map (fun i =>
        operands Sample.takesValue i.arguments.tail) = [[Text.ofString "get", resource]] :=
  ⟨rfl, by decide +kernel, rfl, by decide +kernel⟩

end Drive

end AttachGate.Tool
