import AttachGate.CommandLine.Run

/-!
# Options over the environment

An option that is given takes the place of an environment variable.  But all variables are
read first, and what a numeric one is refused for ends the command, whether its option is
given or not.
-/

namespace AttachGate

inductive Setting
  | address
  | namespaceName
  | context
  | maxWorkers
  | openTimeout
  | logLevel

namespace Setting

def variableName : Setting → Text
  | .address => "SESSIONGATE_ADDR"
  | .namespaceName => "SESSIONGATE_NAMESPACE"
  | .context => "SESSIONGATE_CONTEXT"
  | .maxWorkers => "SESSIONGATE_MAX_WORKERS"
  | .openTimeout => "SESSIONGATE_OPEN_TIMEOUT"
  | .logLevel => "SESSIONGATE_LOG_LEVEL"

def isGiven (o : CommandLine.ServeOptions) : Setting → Bool
  | .address => o.address.isSome
  | .namespaceName => o.namespaceName.isSome
  | .context => o.context.isSome
  | .maxWorkers => o.maxWorkers.isSome
  | .openTimeout => o.openTimeout.isSome
  | .logLevel => o.logLevel.isSome

/-- What is wrong with the text of a variable: of the two numeric ones, that it is no
numeral, and of the number of workers, that it is not positive. -/
def fault? (t : Text) : Setting → Option Failure
  | .maxWorkers =>
    match Numeral.readInteger t with
    | .error fault => some (.badSetting (.badNumeral fault))
    | .ok n => if n < 1 then some .tooFewWorkers else none
  | .openTimeout =>
    match Numeral.readFloat t with
    | .error fault => some (.badSetting (.badNumeral fault))
    | .ok _ => none
  | _ => none

def faultIn? (env : Environment) (setting : Setting) : Option Failure :=
  (env.get? setting.variableName).bind fun t => setting.fault? t

end Setting

namespace Environment

/-- What an environment is refused for.  That there are too few workers is found last. -/
def refusal? (env : Environment) : Option Failure :=
  match Setting.maxWorkers.faultIn? env with
  | some .tooFewWorkers => (Setting.openTimeout.faultIn? env).or (some .tooFewWorkers)
  | some f => some f
  | none => Setting.openTimeout.faultIn? env

/-- Two environments differ at most in variables whose option is given. -/
def AgreeBut (o : CommandLine.ServeOptions) (env env' : Environment) : Prop :=
  ∀ name, (∀ setting : Setting, setting.isGiven o = true → name ≠ setting.variableName) →
    env.get? name = env'.get? name

variable {env env' : Environment} {o : CommandLine.ServeOptions}

def workers (env : Environment) : Except Failure Int :=
  Settings.numeric env "SESSIONGATE_MAX_WORKERS" Numeral.readInteger Settings.standard.maxWorkers

def timeout (env : Environment) : Except Failure Number :=
  Settings.numeric env "SESSIONGATE_OPEN_TIMEOUT" (fun t => (Numeral.readFloat t).map Number.float)
    Settings.standard.openTimeout

def settings (env : Environment) (workers : Int) (timeout : Number) : Settings :=
  { Settings.standard with
    address := (env.get? "SESSIONGATE_ADDR").getD Settings.standard.address
    namespaceName := env.nonempty? "SESSIONGATE_NAMESPACE"
    context := env.nonempty? "SESSIONGATE_CONTEXT"
    maxWorkers := workers
    openTimeout := timeout
    logLevel := ((env.get? "SESSIONGATE_LOG_LEVEL").getD Settings.standard.logLevel).upper }

theorem ofEnvironment_eq_ok {s : Settings} :
    Settings.ofEnvironment env = .ok s ↔
      ∃ n x, env.workers = .ok n ∧ env.timeout = .ok x ∧ 1 ≤ n ∧ s = env.settings n x := by
  unfold Settings.ofEnvironment
  rw [← workers, ← timeout]
  cases env.workers with
  | error f => simp [bind, Except.bind]
  | ok n =>
      cases env.timeout with
      | error f => simp [bind, Except.bind]
      | ok x =>
          by_cases hn : n < 1
          · simp [bind, Except.bind, hn, Int.not_le.mpr hn]
          · simp [bind, Except.bind, pure, Except.pure, hn, settings, eq_comm, Int.not_lt.mp hn]

theorem faultIn?_maxWorkers (env : Environment) :
    Setting.maxWorkers.faultIn? env =
      match env.workers with
      | .error f => some f
      | .ok n => if n < 1 then some .tooFewWorkers else none := by
  unfold workers Settings.numeric Setting.faultIn?
  rw [Setting.variableName]
  cases env.get? "SESSIONGATE_MAX_WORKERS" with
  | none => rfl
  | some t =>
      simp only [Option.bind_some, Setting.fault?]
      cases Numeral.readInteger t <;> rfl

theorem faultIn?_openTimeout (env : Environment) :
    Setting.openTimeout.faultIn? env =
      match env.timeout with
      | .error f => some f
      | .ok _ => none := by
  unfold timeout Settings.numeric Setting.faultIn?
  rw [Setting.variableName]
  cases env.get? "SESSIONGATE_OPEN_TIMEOUT" with
  | none => rfl
  | some t =>
      simp only [Option.bind_some, Setting.fault?]
      cases Numeral.readFloat t <;> rfl

theorem ne_tooFewWorkers {f : Failure} (hworkers : env.workers = .error f) :
    f ≠ .tooFewWorkers := by
  unfold workers Settings.numeric at hworkers
  split at hworkers
  · cases hworkers
  · rename_i t _
    cases hread : Numeral.readInteger t <;> rw [hread] at hworkers <;> cases hworkers
    nofun

/-- An environment is refused for what is wrong with its numeric variables, and for nothing
else. -/
theorem ofEnvironment_eq_error {f : Failure} :
    Settings.ofEnvironment env = .error f ↔ env.refusal? = some f := by
  unfold Settings.ofEnvironment refusal?
  rw [← workers, ← timeout, faultIn?_maxWorkers, faultIn?_openTimeout]
  cases hworkers : env.workers with
  | error e =>
      dsimp only
      split
      · rename_i hfew
        exact absurd (Option.some.inj hfew) (ne_tooFewWorkers hworkers)
      · rename_i hmisread
        cases hmisread
        simp [bind, Except.bind]
      · rename_i hnone
        cases hnone
  | ok n =>
      by_cases hn : n < 1
      · cases env.timeout <;> simp [bind, Except.bind, hn]
      · cases env.timeout <;> simp [bind, Except.bind, pure, Except.pure, hn]

/-- One numeric variable at fault is enough. -/
theorem exists_refusal {setting : Setting} (hfault : setting.faultIn? env ≠ none) :
    ∃ f, env.refusal? = some f := by
  unfold refusal?
  cases setting with
  | maxWorkers =>
      split
      · cases Setting.openTimeout.faultIn? env <;> exact ⟨_, rfl⟩
      · exact ⟨_, rfl⟩
      · contradiction
  | openTimeout =>
      obtain ⟨f, hf⟩ := Option.ne_none_iff_exists'.mp hfault
      rw [hf]
      split <;> exact ⟨_, rfl⟩
  | _ => simp [Setting.faultIn?, Setting.fault?] at hfault

/-! ## Two environments -/

theorem nonempty?_eq {name : Text} (hsame : env.get? name = env'.get? name) :
    env.nonempty? name = env'.nonempty? name := by
  rw [nonempty?, hsame, nonempty?]

theorem numeric_eq {name : Text} (hsame : env.get? name = env'.get? name) {α : Type}
    (read : Text → Except Numeral.Fault α) (default : α) :
    Settings.numeric env name read default = Settings.numeric env' name read default := by
  rw [Settings.numeric, hsame, Settings.numeric]

section Agree

variable (hagree : AgreeBut o env env')

include hagree

/-- A variable whose option is not given is the same in both. -/
theorem AgreeBut.get?_eq (setting : Setting) (hfree : setting.isGiven o = false) :
    env.get? setting.variableName = env'.get? setting.variableName := by
  apply hagree
  intro other hother hname
  have hsame : setting = other := by
    cases setting <;> cases other <;> first | rfl | exact absurd hname (by decide)
  rw [hsame, hother] at hfree
  cases hfree

/-- If its variable is at fault in neither, a setting is at fault in both for the same. -/
theorem AgreeBut.faultIn?_eq (setting : Setting)
    (hsound : setting.isGiven o = true →
      setting.faultIn? env = none ∧ setting.faultIn? env' = none) :
    setting.faultIn? env = setting.faultIn? env' := by
  cases hgiven : setting.isGiven o with
  | true =>
      obtain ⟨hnone, hnone'⟩ := hsound hgiven
      rw [hnone, hnone']
  | false => rw [Setting.faultIn?, hagree.get?_eq _ hgiven, Setting.faultIn?]

/-- If no overridden variable is at fault in either, both are refused for the same. -/
theorem AgreeBut.refusal?_eq
    (hsound : ∀ setting : Setting, setting.isGiven o = true →
      setting.faultIn? env = none ∧ setting.faultIn? env' = none) :
    env.refusal? = env'.refusal? := by
  rw [refusal?, hagree.faultIn?_eq .maxWorkers (hsound _),
    hagree.faultIn?_eq .openTimeout (hsound _), refusal?]

/-- With the options put over them, both come to the same settings. -/
theorem AgreeBut.applyOptions_eq {s s' : Settings} (hs : Settings.ofEnvironment env = .ok s)
    (hs' : Settings.ofEnvironment env' = .ok s') :
    CommandLine.applyOptions s o = CommandLine.applyOptions s' o := by
  obtain ⟨n, x, hn, hx, -, rfl⟩ := ofEnvironment_eq_ok.mp hs
  obtain ⟨n', x', hn', hx', -, rfl⟩ := ofEnvironment_eq_ok.mp hs'
  obtain ⟨address, namespaceName, context, maxWorkers, openTimeout, logLevel⟩ := o
  simp only [CommandLine.applyOptions, settings, Settings.mk.injEq, true_and]
  refine ⟨?_, ?_, ?_, ?_, ?_, ?_⟩
  · cases address with
    | some _ => rfl
    | none =>
        have hsame := hagree.get?_eq .address rfl
        rw [Setting.variableName] at hsame
        rw [hsame]
  · cases namespaceName with
    | some _ => rfl
    | none => exact nonempty?_eq (hagree.get?_eq .namespaceName rfl)
  · cases context with
    | some _ => rfl
    | none => exact nonempty?_eq (hagree.get?_eq .context rfl)
  · cases maxWorkers with
    | some _ => rfl
    | none =>
        have hsame : env.workers = env'.workers :=
          numeric_eq (hagree.get?_eq .maxWorkers rfl) _ _
        rw [hsame, hn'] at hn
        exact (Except.ok.inj hn).symm
  · cases openTimeout with
    | some _ => rfl
    | none =>
        have hsame : env.timeout = env'.timeout :=
          numeric_eq (hagree.get?_eq .openTimeout rfl) _ _
        rw [hsame, hx'] at hx
        exact (Except.ok.inj hx).symm
  · cases logLevel with
    | some _ => rfl
    | none =>
        have hsame := hagree.get?_eq .logLevel rfl
        rw [Setting.variableName] at hsame
        rw [hsame]

end Agree

end Environment

namespace CommandLine

def errorLine (f : Failure) : Text := onErrorOutput (printed ("Error: " ++ f.message))

theorem complain_empty (f : Failure) :
    complain .empty f = { Result.empty with exitCode := 1, err := errorLine f } := rfl

variable (world : World) {env : Environment} {o : ServeOptions}

theorem exists_settings (hsound : env.refusal? = none) :
    ∃ s, Settings.ofEnvironment env = .ok s := by
  cases hs : Settings.ofEnvironment env with
  | ok s => exact ⟨s, rfl⟩
  | error f =>
      rw [Environment.ofEnvironment_eq_error.mp hs] at hsound
      cases hsound

theorem runServe_of_refused (o : ServeOptions) {f : Failure}
    (hrefused : world.env.refusal? = some f) : runServe world o = complain .empty f := by
  rw [runServe, Environment.ofEnvironment_eq_error.mpr hrefused]

/-- Unless its environment is refused, a run serves or fails with an unknown level. -/
theorem runServe_ne_complain (o : ServeOptions) (hsound : world.env.refusal? = none)
    (f : Failure) : runServe world o ≠ complain .empty f := by
  obtain ⟨s, hs⟩ := exists_settings hsound
  intro heq
  rw [runServe, hs] at heq
  dsimp only at heq
  split at heq
  · exact absurd (congrArg Result.raised heq) (by simp [escape, complain, Result.empty])
  · have hserved := congrArg Result.served heq
    cases hfault : world.serveFault with
    | none => simp [hfault, complain, Result.empty] at hserved
    | some g =>
        rw [hfault] at hserved
        dsimp only at hserved
        split at hserved <;> simp [complain, escape, Result.empty] at hserved

/-- Two runs whose environments agree come to the same just if they are refused for what is
told the same. -/
theorem runServe_eq_iff (hagree : world.env.AgreeBut o env) :
    runServe world o = runServe { world with env } o ↔
      world.env.refusal?.map errorLine = env.refusal?.map errorLine := by
  cases hrefused : world.env.refusal? with
  | some f =>
      rw [runServe_of_refused world o hrefused]
      cases hrefused' : env.refusal? with
      | some g =>
          rw [runServe_of_refused { world with env } o hrefused', complain_empty, complain_empty]
          simp
      | none =>
          have hne := runServe_ne_complain { world with env } o hrefused' f
          simpa using hne.symm
  | none =>
      cases hrefused' : env.refusal? with
      | some g =>
          rw [runServe_of_refused { world with env } o hrefused']
          simpa using runServe_ne_complain world o hrefused g
      | none =>
          obtain ⟨s, hs⟩ := exists_settings hrefused
          obtain ⟨s', hs'⟩ := exists_settings hrefused'
          simp only [runServe, hs, hs', hagree.applyOptions_eq hs hs']

/-- Let a command line be read as one to serve, by whatever reader, and let two environments
differ at most in variables whose option it gives.  The command does the same in both just if
both are refused alike, by the same line, or neither is; so it does if none of the overridden
variables is at fault.  But one that is makes the command fail, though its option is given. -/
theorem run_overridden {read : List Text → Option Command} {arguments : List Text}
    (hserve : read arguments = some (.serve o)) (hagree : world.env.AgreeBut o env) :
    (runBy read world arguments = runBy read { world with env } arguments ↔
      world.env.refusal?.map errorLine = env.refusal?.map errorLine) ∧
    ((∀ setting : Setting, setting.isGiven o = true →
        setting.faultIn? world.env = none ∧ setting.faultIn? env = none) →
      runBy read world arguments = runBy read { world with env } arguments) ∧
    ∀ setting : Setting, setting.isGiven o = true → setting.faultIn? world.env ≠ none →
      ∃ f, world.env.refusal? = some f ∧ runBy read world arguments = complain .empty f := by
  have hrun : ∀ w : World, runBy read w arguments = runServe w o := by
    intro w
    rw [runBy, hserve]
  rw [hrun, hrun]
  refine ⟨runServe_eq_iff world hagree, fun hsound => ?_, fun setting _ hfault => ?_⟩
  · exact (runServe_eq_iff world hagree).mpr (congrArg _ (hagree.refusal?_eq hsound))
  · obtain ⟨f, hrefused⟩ := Environment.exists_refusal hfault
    exact ⟨f, hrefused, runServe_of_refused world o hrefused⟩

namespace Sample

def giving : List Text := ["serve", "--max-workers", "4"]

def given : ServeOptions :=
  { address := none
    namespaceName := none
    context := none
    maxWorkers := some 4
    openTimeout := none
    logLevel := none }

/-- Serving goes well. -/
def worldWith (env : Environment) : World :=
  { env, tool := [], account := none, serveFault := none }

def asking (count : Text) : Environment :=
  [("SESSIONGATE_MAX_WORKERS", count), ("SESSIONGATE_ADDR", "[::]:7000")]

def askingNothing : Environment := [("SESSIONGATE_ADDR", "[::]:7000")]

theorem readCommand_giving : readCommand giving = some (.serve given) := rfl

theorem agreeBut_asking (count : Text) : (asking count).AgreeBut given askingNothing := by
  intro name hname
  have hother : ("SESSIONGATE_MAX_WORKERS" : Text) ≠ name := (hname .maxWorkers rfl).symm
  simp [asking, askingNothing, Environment.get?, hother]

end Sample

open Sample in
theorem run_overridden_asking :
    readCommand giving = some (.serve given) ∧ (asking "8").AgreeBut given askingNothing ∧
      run (worldWith (asking "8")) giving = run (worldWith askingNothing) giving := by
  obtain ⟨-, hsame, -⟩ :=
    run_overridden (worldWith (asking "8")) readCommand_giving (agreeBut_asking "8")
  refine ⟨readCommand_giving, agreeBut_asking "8", hsame fun setting hgiven => ?_⟩
  cases setting with
  | maxWorkers => exact ⟨rfl, rfl⟩
  | _ => cases hgiven

open Sample in
/-- The variable of the number of workers can make a command fail that gives that number. -/
theorem overridden_variable_fails :
    readCommand giving = some (.serve given) ∧ (asking "many").AgreeBut given askingNothing ∧
      (run (worldWith (asking "many")) giving).exitCode = 1 ∧
      (run (worldWith (asking "many")) giving).served = [] ∧
      (run (worldWith askingNothing) giving).exitCode = 0 ∧
      (run (worldWith askingNothing) giving).served.map (fun s => s.maxWorkers) = [4] :=
  ⟨readCommand_giving, agreeBut_asking "many", rfl, rfl, rfl, rfl⟩

end CommandLine

end AttachGate
