import AttachGate.Proofs.Exec.Framing

/-!
# Verdicts on exit statuses

What an exec comes to whose status is known in full.  The code is a number that the first
cause tells, in whatever form; where none can be read the exec fails as such.  Two
statuses are not ready for: a code that is an infinite number, and a document nested too
deep.
-/

namespace AttachGate.Exec

/-! ## What a status document tells -/

def Succeeds (doc : Value) : Prop :=
  ∃ members status, doc = .object members ∧ Members.get? "status" members = some status ∧
    status.isText "Success" = true

/-- It tells no success, and this is the message of the first cause. -/
inductive Blames : Value → Value → Prop
  | intro {members details cause : Members} {others : List Value} {status message : Value}
    (hstatus : Members.get? "status" members = some status)
    (hfailed : status.isText "Success" = false)
    (hdetails : Members.get? "details" members = some (.object details))
    (hcauses : Members.get? "causes" details = some (.array (.object cause :: others)))
    (hmessage : Members.get? "message" cause = some message) : Blames (.object members) message

def Reports (doc : Value) (code : Int) : Prop :=
  (Succeeds doc ∧ code = 0) ∨ ∃ message, Blames doc message ∧ message.toInteger = .ok code

theorem part_eq_ok {v w : Value} {key : Text} :
    part v key = .ok w ↔ ∃ members, v = .object members ∧ Members.get? key members = some w := by
  cases v with
  | object members =>
      cases hget : Members.get? key members <;> simp [part, hget]
  | _ => simp [part]

theorem first_eq_ok {v w : Value} (hfirst : first v = .ok w) :
    (∃ others, v = .array (w :: others)) ∨ ∃ t, w = .text t := by
  cases v with
  | array items =>
      cases items with
      | nil => cases hfirst
      | cons item items =>
          cases hfirst
          exact .inl ⟨items, rfl⟩
  | text t =>
      cases t with
      | nil => cases hfirst
      | cons c t =>
          cases hfirst
          exact .inr ⟨[c], rfl⟩
  | _ => cases hfirst

theorem isStatusFault_part {v : Value} {key : Text} {f : Failure} (hpart : part v key = .error f) :
    isStatusFault f = true := by
  unfold part at hpart
  split at hpart
  · split at hpart <;> cases hpart
    rfl
  · cases hpart
    rfl

theorem isStatusFault_first {v : Value} {f : Failure} (hfirst : first v = .error f) :
    isStatusFault f = true := by
  unfold first at hfirst
  split at hfirst <;> cases hfirst <;> rfl

theorem isNaN_of_isInfinite {x : Binary64} (hx : x.isInfinite = true) : x.isNaN = false := by
  simp only [Binary64.isInfinite, Binary64.isNaN, decide_eq_true_eq, decide_eq_false_iff_not] at *
  omega

/-- Only an infinite number is no integer in a way that a status is not ready for. -/
theorem toInteger_error {v : Value} {f : Failure} (hv : v.toInteger = .error f) :
    isStatusFault f = true ∨ ∃ x, v = .float x ∧ x.isInfinite = true ∧ f = .infiniteNumber := by
  cases v with
  | float x =>
      simp only [Value.toInteger] at hv
      split at hv
      · cases hv
        exact .inl rfl
      · split at hv
        · rename_i hinfinite
          cases hv
          exact .inr ⟨x, rfl, hinfinite, rfl⟩
        · cases hv
  | text t =>
      simp only [Value.toInteger] at hv
      cases hread : Numeral.readInteger t with
      | ok n =>
          rw [hread] at hv
          cases hv
      | error fault =>
          rw [hread] at hv
          cases hv
          exact .inl rfl
  | null | array | object =>
      cases hv
      exact .inl rfl
  | bool | int => cases hv

theorem toInteger_infinite {x : Binary64} (hx : x.isInfinite = true) :
    (Value.float x).toInteger = .error .infiniteNumber := by
  simp [Value.toInteger, isNaN_of_isInfinite hx, hx]

theorem codeOfStatus_of_succeeds {doc : Value} (hdoc : Succeeds doc) :
    codeOfStatus doc = .ok 0 := by
  obtain ⟨members, status, rfl, hstatus, hsuccess⟩ := hdoc
  have hpart := part_eq_ok.mpr ⟨members, rfl, hstatus⟩
  simp only [codeOfStatus, hpart, bind, Except.bind, hsuccess, if_true]
  rfl

theorem codeOfStatus_of_blames {doc message : Value} (hdoc : Blames doc message) :
    codeOfStatus doc = message.toInteger := by
  obtain ⟨hstatus, hfailed, hdetails, hcauses, hmessage⟩ := hdoc
  simp [codeOfStatus, part, hstatus, hfailed, hdetails, hcauses, hmessage, first, bind,
    Except.bind]

/-- A step on the way to the code is taken, or fails as a status does that is none. -/
theorem step_or_fault {α β : Type} {x : Except Failure α} (next : α → Except Failure β)
    (hx : ∀ f, x = .error f → isStatusFault f = true) :
    (∃ a, x = .ok a ∧ x >>= next = next a) ∨
      ∃ f, x >>= next = .error f ∧ isStatusFault f = true := by
  cases x with
  | ok a => exact .inl ⟨a, rfl, rfl⟩
  | error f => exact .inr ⟨f, rfl, hx f rfl⟩

/-- A document tells success, blames a message, or is no status. -/
theorem codeOfStatus_cases (doc : Value) :
    Succeeds doc ∨ (∃ message, Blames doc message) ∨
      ∃ f, codeOfStatus doc = .error f ∧ isStatusFault f = true := by
  unfold codeOfStatus
  rcases step_or_fault _ fun _ => isStatusFault_part with ⟨status, hpart, hnext⟩ | hfault
  case inr => exact .inr (.inr hfault)
  rw [hnext]
  obtain ⟨members, rfl, hstatus⟩ := part_eq_ok.mp hpart
  cases hsuccess : status.isText "Success" with
  | true => exact .inl ⟨members, status, rfl, hstatus, hsuccess⟩
  | false =>
      refine .inr ?_
      simp only [Bool.false_eq_true, if_false]
      rcases step_or_fault _ fun _ => isStatusFault_part with ⟨details, hpart, hnext⟩ | hfault
      case inr => exact .inr hfault
      rw [hnext]
      obtain ⟨_, ⟨⟩, hdetails⟩ := part_eq_ok.mp hpart
      rcases step_or_fault _ fun _ => isStatusFault_part with ⟨causes, hpart, hnext⟩ | hfault
      case inr => exact .inr hfault
      rw [hnext]
      obtain ⟨details, rfl, hcauses⟩ := part_eq_ok.mp hpart
      rcases step_or_fault _ fun _ => isStatusFault_first with ⟨cause, hcause, hnext⟩ | hfault
      case inr => exact .inr hfault
      rw [hnext]
      rcases step_or_fault _ fun _ => isStatusFault_part with ⟨message, hpart, _⟩ | hfault
      case inr => exact .inr hfault
      obtain ⟨cause, rfl, hmessage⟩ := part_eq_ok.mp hpart
      rcases first_eq_ok hcause with ⟨others, rfl⟩ | ⟨t, ⟨⟩⟩
      exact .inl ⟨message, ⟨hstatus, hsuccess, hdetails, hcauses, hmessage⟩⟩

theorem codeOfStatus_eq_ok {doc : Value} {code : Int} :
    codeOfStatus doc = .ok code ↔ Reports doc code := by
  constructor
  · intro hcode
    rcases codeOfStatus_cases doc with hsuccess | ⟨message, hblames⟩ | ⟨f, hfault, _⟩
    · rw [codeOfStatus_of_succeeds hsuccess] at hcode
      cases hcode
      exact .inl ⟨hsuccess, rfl⟩
    · rw [codeOfStatus_of_blames hblames] at hcode
      exact .inr ⟨message, hblames, hcode⟩
    · rw [hfault] at hcode
      cases hcode
  · rintro (⟨hsuccess, rfl⟩ | ⟨message, hblames, hcode⟩)
    · exact codeOfStatus_of_succeeds hsuccess
    · rw [codeOfStatus_of_blames hblames, hcode]

theorem codeOfStatus_eq_error {doc : Value} {f : Failure} (hdoc : codeOfStatus doc = .error f) :
    isStatusFault f = true ∨
      ∃ x, Blames doc (.float x) ∧ x.isInfinite = true ∧ f = .infiniteNumber := by
  rcases codeOfStatus_cases doc with hsuccess | ⟨message, hblames⟩ | ⟨g, hfault, hg⟩
  · rw [codeOfStatus_of_succeeds hsuccess] at hdoc
    cases hdoc
  · rw [codeOfStatus_of_blames hblames] at hdoc
    rcases toInteger_error hdoc with hf | ⟨x, rfl, hinfinite, rfl⟩
    · exact .inl hf
    · exact .inr ⟨x, hblames, hinfinite, rfl⟩
  · rw [hfault] at hdoc
    cases hdoc
    exact .inl hg

/-! ## What a status tells -/

/-- The exit code that a status reports. -/
def Reported (room : Nat) (status : Bytes) (code : Int) : Prop :=
  ∃ doc, Document.ofBytes room status = .ok doc ∧ Reports doc code

/-- The statuses that reading an exit code is not ready for, and how it fails on them. -/
inductive Unready (room : Nat) (status : Bytes) : Failure → Prop
  | infinite {doc : Value} {x : Binary64} (hread : Document.ofBytes room status = .ok doc)
    (hblames : Blames doc (.float x)) (hinfinite : x.isInfinite = true) :
    Unready room status .infiniteNumber
  | tooDeep (hread : Document.ofBytes room status = .error .tooDeep) : Unready room status .tooDeep

/-- No document is a fault of the status, unless it is one nested too deep. -/
theorem ofBytes_error {room : Nat} {status : Bytes} {f : Failure}
    (hread : Document.ofBytes room status = .error f) :
    isStatusFault f = true ∨ f = .tooDeep := by
  unfold Document.ofBytes at hread
  cases hjson : Json.readBytes room status with
  | ok doc =>
      rw [hjson] at hread
      cases hread
  | error e =>
      rw [hjson] at hread
      cases hread
      cases e with
      | tooDeep => exact .inr rfl
      | malformed | numeral | undecodable => exact .inl rfl

theorem exitCode_eq_ok {room : Nat} {status : Bytes} {code : Int} :
    exitCode room status = .ok code ↔ Reported room status code := by
  unfold exitCode Reported
  cases hread : Document.ofBytes room status with
  | error f => simp [bind, Except.bind]
  | ok doc => simp [bind, Except.bind, codeOfStatus_eq_ok]

theorem exitCode_of_unready {room : Nat} {status : Bytes} {f : Failure}
    (hstatus : Unready room status f) : exitCode room status = .error f := by
  cases hstatus with
  | infinite hread hblames hinfinite =>
      simp [exitCode, hread, bind, Except.bind, codeOfStatus_of_blames hblames,
        toInteger_infinite hinfinite]
  | tooDeep hread => simp [exitCode, hread, bind, Except.bind]

theorem exitCode_eq_error {room : Nat} {status : Bytes} {f : Failure}
    (hstatus : exitCode room status = .error f) : isStatusFault f = true ∨ Unready room status f := by
  unfold exitCode at hstatus
  cases hread : Document.ofBytes room status with
  | error g =>
      rw [hread] at hstatus
      cases hstatus
      rcases ofBytes_error hread with hf | rfl
      · exact .inl hf
      · exact .inr (.tooDeep hread)
  | ok doc =>
      rw [hread] at hstatus
      rcases codeOfStatus_eq_error hstatus with hf | ⟨x, hblames, hinfinite, rfl⟩
      · exact .inl hf
      · exact .inr (.infinite hread hblames hinfinite)

theorem Unready.kind {room : Nat} {status : Bytes} {f : Failure} (hf : Unready room status f) :
    isStatusFault f = false ∧ f.isIn .exec = false := by
  cases hf <;> exact ⟨rfl, rfl⟩

/-! ## What an exec comes to -/

/-- How an exec may end by its status. -/
inductive JudgedAs (room : Nat) (pod : Text) (status : Bytes) : Except Failure Unit → Prop
  | success (hreported : Reported room status 0) : JudgedAs room pod status (.ok ())
  | failure {code : Int} (hreported : Reported room status code) (hcode : code ≠ 0) :
    JudgedAs room pod status (.error (.exited code))
  | missing {f : Failure} (hmissing : exitCode room status = .error f)
    (hf : isStatusFault f = true) : JudgedAs room pod status (.error (.noExitStatus pod f))
  | unready {f : Failure} (hunready : Unready room status f) : JudgedAs room pod status (.error f)

theorem judgedAs_judge (room : Nat) (pod : Text) (status : Bytes) :
    JudgedAs room pod status (judge room pod status) := by
  unfold judge
  cases hcode : exitCode room status with
  | ok code =>
      have hreported := exitCode_eq_ok.mp hcode
      by_cases hzero : code = 0
      · subst hzero
        exact .success hreported
      · simp only [hzero, if_false]
        exact .failure hreported hzero
  | error f =>
      rcases exitCode_eq_error hcode with hf | hunready
      · simpa only [hf, if_true] using .missing hcode hf
      · simpa only [hunready.kind.1, Bool.false_eq_true, if_false] using .unready hunready

variable {room : Nat} {pod : Text} {status : Bytes}

theorem judge_eq_ok : judge room pod status = .ok () ↔ Reported room status 0 := by
  constructor
  · intro hjudge
    have hjudged := judgedAs_judge room pod status
    rw [hjudge] at hjudged
    cases hjudged with
    | success hreported => exact hreported
  · intro hreported
    simp [judge, exitCode_eq_ok.mpr hreported]

theorem judge_eq_exited {code : Int} :
    judge room pod status = .error (.exited code) ↔ Reported room status code ∧ code ≠ 0 := by
  constructor
  · intro hjudge
    have hjudged := judgedAs_judge room pod status
    rw [hjudge] at hjudged
    cases hjudged with
    | failure hreported hcode => exact ⟨hreported, hcode⟩
    | unready hunready => cases hunready
  · rintro ⟨hreported, hcode⟩
    simp [judge, exitCode_eq_ok.mpr hreported, hcode]

theorem judge_of_unready {f : Failure} (hunready : Unready room status f) :
    judge room pod status = .error f := by
  simp [judge, exitCode_of_unready hunready, hunready.kind.1]

theorem judge_eq_missing :
    (∃ f, judge room pod status = .error (.noExitStatus pod f)) ↔
      (∀ code, ¬ Reported room status code) ∧ ∀ f, ¬ Unready room status f := by
  constructor
  · rintro ⟨f, hjudge⟩
    have hjudged := judgedAs_judge room pod status
    rw [hjudge] at hjudged
    cases hjudged with
    | unready hunready => cases hunready
    | missing hmissing hf =>
        constructor
        · intro code hreported
          rw [exitCode_eq_ok.mpr hreported] at hmissing
          cases hmissing
        · intro g hunready
          rw [exitCode_of_unready hunready] at hmissing
          cases hmissing
          simp [hunready.kind.1] at hf
  · rintro ⟨hnone, hready⟩
    have hjudged := judgedAs_judge room pod status
    generalize judge room pod status = result at hjudged
    cases hjudged with
    | success hreported | failure hreported => exact absurd hreported (hnone _)
    | missing hmissing hf => exact ⟨_, rfl⟩
    | unready hunready => exact absurd hunready (hready _)

/-- An exec that nothing disturbs ends by its status: well if the status reports the code
zero, with the code if it reports another, and with a status that is missing if it reports
none, however it is malformed.  Reading the code is not ready for two kinds of statuses, and
there the exec ends with a failure that is none of an exec. -/
theorem verdict_of_status (job : Job) (env : Surroundings) (hopened : env.openFault = none)
    (hcalm : env.Undisturbed env.arrivals) :
    let status := Arrival.wholeStatus (env.used env.arrivals)
    let result := (run job env).1
    (result = .ok () ↔ Reported job.room status 0) ∧
    (∀ code, result = .error (.exited code) ↔ Reported job.room status code ∧ code ≠ 0) ∧
    ((∃ f, result = .error (.noExitStatus job.pod f)) ↔
      (∀ code, ¬ Reported job.room status code) ∧ ∀ f, ¬ Unready job.room status f) ∧
    (∀ f, Unready job.room status f → result = .error f ∧ f.isIn .exec = false) ∧
    ∀ f, result = .error f →
      (∃ code, f = .exited code) ∨ (∃ e, f = .noExitStatus job.pod e) ∨
        Unready job.room status f := by
  intro status result
  have hresult : result = judge job.room job.pod status := by
    simp only [result, run_eq_relayed job hopened]
    exact (relayed_of_undisturbed hcalm).2
  rw [hresult]
  refine ⟨judge_eq_ok, fun _ => judge_eq_exited, judge_eq_missing, ?_, ?_⟩
  · intro f hunready
    exact ⟨judge_of_unready hunready, hunready.kind.2⟩
  · intro f hjudge
    have hjudged := judgedAs_judge job.room job.pod status
    rw [hjudge] at hjudged
    cases hjudged with
    | failure => exact .inl ⟨_, rfl⟩
    | missing => exact .inr (.inl ⟨_, rfl⟩)
    | unready hunready => exact .inr (.inr hunready)

namespace Sample

/-- A failure whose code is told as an infinite number. -/
def endless : Bytes :=
  octets ("\x7b\"status\": \"Failure\", \"details\": " ++
    "\x7b\"causes\": [\x7b\"message\": Infinity\x7d]\x7d\x7d")

def brings (status : Bytes) : Surroundings := quiet [update [] status true]

theorem undisturbed_brings (status : Bytes) :
    (brings status).Undisturbed (brings status).arrivals :=
  undisturbed_quiet (by simp [isPlain_update])

end Sample

open Sample in
theorem verdict_of_status_success :
    (brings success).openFault = none ∧ (run shell (brings success)).1 = .ok () ∧
      Reported shell.room
        (Arrival.wholeStatus ((brings success).used (brings success).arrivals)) 0 := by
  have hverdict := verdict_of_status shell (brings success) rfl (undisturbed_brings success)
  have hrun : (run shell (brings success)).1 = .ok () := by decide +kernel
  exact ⟨rfl, hrun, hverdict.1.mp hrun⟩

open Sample in
theorem endless_escapes :
    ¬ ∀ (job : Job) (env : Surroundings), env.openFault = none →
      env.Undisturbed env.arrivals →
      ∀ f, (run job env).1 = .error f → f.isIn .exec = true := by
  intro hcaught
  have hrun : (run shell (brings endless)).1 = .error .infiniteNumber := by decide +kernel
  exact absurd (hcaught shell (brings endless) rfl (undisturbed_brings endless) _ hrun)
    (by decide)

end AttachGate.Exec
