import AttachGate.Exec.Relay
import AttachGate.Proofs.Exec.Conduct

/-!
# Framing

The socket of a command may cut the command's output and its status anywhere, and may
bring the parts in any updates, alone or together.  What the client is given and how the
exec ends depend on the parts put together, not on the cuts.
-/

namespace AttachGate.Exec

/-! ## What an update brings -/

namespace Payload

def bytes (p : Payload) : Bytes := p.toBytes.toOption.getD []

def IsLegible (p : Payload) : Prop := ∃ data, p.toBytes = .ok data

theorem IsLegible.toBytes_eq {p : Payload} (hp : p.IsLegible) : p.toBytes = .ok p.bytes := by
  obtain ⟨data, hdata⟩ := hp
  simp [bytes, hdata, Except.toOption]

theorem toBytes_error {p : Payload} {f : Failure} (hp : p.toBytes = .error f) :
    f = .unencodableText ∧ ¬ p.IsLegible := by
  constructor
  · cases p with
    | octets data => cases hp
    | text t =>
        simp only [toBytes] at hp
        split at hp <;> cases hp
        rfl
  · rintro ⟨data, hdata⟩
    rw [hp] at hdata
    cases hdata

theorem encodePoint_ne_nil (c : CodePoint) : Utf8.encodePoint c ≠ [] := by
  simp only [Utf8.encodePoint]
  split <;> [simp; split] <;> [simp; split] <;> simp

theorem bytes_of_isEmpty {p : Payload} (hp : p.isEmpty = true) : p.bytes = [] := by
  cases p with
  | octets data => exact List.isEmpty_iff.mp hp
  | text t =>
      obtain rfl : t = [] := by simpa [isEmpty] using hp
      rfl

/-- A payload is blank just if it amounts to no octets. -/
theorem IsLegible.isEmpty_eq {p : Payload} (hp : p.IsLegible) : p.isEmpty = p.bytes.isEmpty := by
  cases p with
  | octets data => rfl
  | text t =>
      have hbytes := hp.toBytes_eq
      simp only [toBytes, Utf8.encode?] at hbytes
      split at hbytes
      · rename_i data hdata
        split at hdata
        · cases hdata
        · cases hdata
          rw [← Except.ok.inj hbytes]
          cases t with
          | nil => rfl
          | cons c t => simp [isEmpty, encodePoint_ne_nil]
      · cases hbytes

end Payload

/-- An update, and what the client fails with if it is given output then. -/
structure Arrival where
  update : Update
  outFault : Option Failure

namespace Arrival

def out (a : Arrival) : Bytes := a.update.out.bytes

def status (a : Arrival) : Bytes := a.update.status.bytes

/-- The exec is not called off, nothing fails, and both payloads amount to octets. -/
structure IsPlain (a : Arrival) : Prop where
  wanted : a.update.cancels = false
  sound : a.update.failure = none
  welcome : a.outFault = none
  out : a.update.out.IsLegible
  status : a.update.status.IsLegible

/-- A failure that an arrival may break the relay with. -/
inductive FailsWith (a : Arrival) : Failure → Prop
  | socket {f : Failure} (hfailure : a.update.failure = some f) : FailsWith a f
  | client {f : Failure} (hfault : a.outFault = some f) : FailsWith a f
  | payload (hcut : ¬ (a.update.out.IsLegible ∧ a.update.status.IsLegible)) :
    FailsWith a .unencodableText

theorem IsPlain.not_failsWith {a : Arrival} (ha : a.IsPlain) (f : Failure) : ¬ a.FailsWith f := by
  intro hf
  cases hf with
  | socket hfailure => simp [ha.sound] at hfailure
  | client hfault => simp [ha.welcome] at hfault
  | payload hcut => exact hcut ⟨ha.out, ha.status⟩

def upToClose : List Arrival → List Arrival
  | [] => []
  | a :: rest => if a.update.closes then [a] else a :: upToClose rest

def outputs (arrivals : List Arrival) : List Bytes :=
  (arrivals.map out).filter fun data => !data.isEmpty

def wholeStatus (arrivals : List Arrival) : Bytes := (arrivals.map status).flatten

theorem outputs_append (before after : List Arrival) :
    outputs (before ++ after) = outputs before ++ outputs after := by
  simp [outputs]

theorem flatten_outputs (arrivals : List Arrival) :
    (outputs arrivals).flatten = (arrivals.map out).flatten := by
  induction arrivals with
  | nil => rfl
  | cons a rest ih =>
      cases hout : a.out with
      | nil => simpa [outputs, hout] using ih
      | cons octet data => simpa [outputs, hout] using ih

end Arrival

/-! ## The relay -/

namespace Relay

open Arrival (upToClose outputs wholeStatus)

def take (r : Relay) (a : Arrival) : Relay := r.update a.outFault a.update

def follow (r : Relay) (arrivals : List Arrival) : Relay := arrivals.foldl take r

/-- Whether the relay takes in nothing more. -/
def isOver (r : Relay) : Bool := r.broken.isSome || !r.isOpen || r.cancelled

variable {r : Relay} {a : Arrival}

inductive Takes (r : Relay) (a : Arrival) : Relay → Prop
  | past (hover : r.isOver = true) : Takes r a r
  | broke (f : Failure) (status : Bytes) (hgoing : r.isOver = false) (hfails : a.FailsWith f) :
    Takes r a
      { isOpen := !a.update.closes, cancelled := a.update.cancels, status, log := r.log
        broken := some f }
  | passed (hgoing : r.isOver = false) :
    Takes r a
      { isOpen := !a.update.closes, cancelled := a.update.cancels
        status := r.status ++ a.status
        log := r.log ++ (outputs [a]).map .printed
        broken := none }

theorem takes_take (r : Relay) (a : Arrival) : Takes r a (r.take a) := by
  cases hover : r.isOver with
  | true =>
      have hsame : r.take a = r := if_pos hover
      rw [hsame]
      exact .past hover
  | false =>
      have hunbroken : r.broken = none := by simp_all [isOver]
      simp only [isOver] at hover
      simp only [take, update, hover, Bool.false_eq_true, if_false]
      cases hfailure : a.update.failure with
      | some f => exact .broke f _ hover (.socket hfailure)
      | none =>
          cases hstatus : a.update.status.toBytes with
          | error f =>
              obtain ⟨rfl, hcut⟩ := Payload.toBytes_error hstatus
              exact .broke _ _ hover (.payload fun hboth => hcut hboth.2)
          | ok part =>
              have hpart : part = a.status := by
                simp [Arrival.status, Payload.bytes, hstatus, Except.toOption]
              simp only [print]
              cases hempty : a.update.out.isEmpty with
              | true =>
                  have hnone : outputs [a] = [] := by
                    simp [outputs, Arrival.out, Payload.bytes_of_isEmpty hempty]
                  simpa [hpart, hnone, hunbroken] using @Takes.passed r a hover
              | false =>
                  cases hout : a.update.out.toBytes with
                  | error f =>
                      obtain ⟨rfl, hcut⟩ := Payload.toBytes_error hout
                      exact .broke _ _ hover (.payload fun hboth => hcut hboth.1)
                  | ok data =>
                      cases hfault : a.outFault with
                      | some f => exact .broke f _ hover (.client hfault)
                      | none =>
                          have hdata : data = a.out := by
                            simp [Arrival.out, Payload.bytes, hout, Except.toOption]
                          have hsome : outputs [a] = [a.out] := by
                            have hlegible : a.update.out.IsLegible := ⟨data, hout⟩
                            rw [hlegible.isEmpty_eq] at hempty
                            simp [outputs, Arrival.out, hempty]
                          simpa [hpart, hdata, hsome, hunbroken]
                            using @Takes.passed r a hover

/-- The client is given octets and nothing else happens. -/
theorem log_follow (r : Relay) (arrivals : List Arrival) :
    ∃ printed : List Bytes, (r.follow arrivals).log = r.log ++ printed.map .printed := by
  induction arrivals generalizing r with
  | nil => exact ⟨[], by simp [follow]⟩
  | cons a rest ih =>
      obtain ⟨later, hlater⟩ := ih (r.take a)
      have hfirst : ∃ printed : List Bytes, (r.take a).log = r.log ++ printed.map .printed := by
        have htakes := takes_take r a
        generalize r.take a = next at htakes
        cases htakes with
        | past hover => exact ⟨[], by simp⟩
        | broke f status hgoing hfails => exact ⟨[], by simp⟩
        | passed hgoing => exact ⟨_, rfl⟩
      obtain ⟨first, hfirst⟩ := hfirst
      exact ⟨first ++ later, by simpa [follow, hfirst] using hlater⟩

theorem follow_of_isOver (hover : r.isOver = true) (arrivals : List Arrival) :
    r.follow arrivals = r := by
  induction arrivals with
  | nil => rfl
  | cons a rest ih =>
      have hsame : r.take a = r := if_pos hover
      simpa [follow, hsame] using ih

/-- The relay breaks off with a failure that an arrival has brought. -/
theorem failsWith_of_broken {arrivals : List Arrival} {f : Failure} (hr : r.broken = none)
    (hbroken : (r.follow arrivals).broken = some f) : ∃ a ∈ arrivals, a.FailsWith f := by
  induction arrivals generalizing r with
  | nil => simp [follow, hr] at hbroken
  | cons a rest ih =>
      have hrest : ((r.take a).follow rest).broken = some f := hbroken
      have htakes := takes_take r a
      generalize r.take a = next at htakes hrest
      cases htakes with
      | past hover =>
          obtain ⟨b, hb, hfails⟩ := ih hr hrest
          exact ⟨b, List.mem_cons_of_mem _ hb, hfails⟩
      | passed hgoing =>
          obtain ⟨b, hb, hfails⟩ := ih rfl hrest
          exact ⟨b, List.mem_cons_of_mem _ hb, hfails⟩
      | broke g status hgoing hfails =>
          rw [follow_of_isOver (by simp [isOver])] at hrest
          cases hrest
          exact ⟨a, List.mem_cons_self, hfails⟩

/-- While nothing goes wrong the relay takes in all up to the closing of the socket. -/
theorem follow_plain {arrivals : List Arrival} (hgoing : r.isOver = false)
    (hplain : ∀ a ∈ upToClose arrivals, a.IsPlain) :
    (r.follow arrivals).broken = none ∧ (r.follow arrivals).cancelled = false ∧
      (r.follow arrivals).status = r.status ++ wholeStatus (upToClose arrivals) ∧
      (r.follow arrivals).log = r.log ++ (outputs (upToClose arrivals)).map .printed := by
  induction arrivals generalizing r with
  | nil => simp_all [follow, upToClose, wholeStatus, outputs, isOver]
  | cons a rest ih =>
      have ha : a.IsPlain := by
        apply hplain
        unfold upToClose
        split <;> simp
      have htakes := takes_take r a
      have hstep : r.follow (a :: rest) = (r.take a).follow rest := rfl
      rw [hstep]
      generalize r.take a = next at htakes
      cases htakes with
      | past hover => simp [hgoing] at hover
      | broke f status hgoing hfails => exact absurd hfails (ha.not_failsWith f)
      | passed hgoing =>
          cases hcloses : a.update.closes with
          | true =>
              rw [follow_of_isOver (by simp [isOver])]
              simp [upToClose, hcloses, wholeStatus, ha.wanted]
          | false =>
              have hused : upToClose (a :: rest) = a :: upToClose rest := by
                simp [upToClose, hcloses]
              rw [hused] at hplain ⊢
              have hrest := fun b hb => hplain b (List.mem_cons_of_mem a hb)
              have houtputs := Arrival.outputs_append [a] (upToClose rest)
              rw [List.singleton_append] at houtputs
              rw [ha.wanted, Bool.not_false]
              obtain ⟨hbroken, hcancelled, hstatus, hlog⟩ :=
                ih (r := ⟨true, false, r.status ++ a.status, _, none⟩) rfl hrest
              refine ⟨hbroken, hcancelled, ?_, ?_⟩
              · simpa [wholeStatus] using hstatus
              · simpa [houtputs] using hlog

end Relay

/-! ## The exec -/

open Arrival (upToClose outputs wholeStatus)

namespace Surroundings

def script (env : Surroundings) : Script :=
  { faults := env.pumpFaults
    openChecks := if env.isOpen then none else some 0
    cancelled := env.cancelled
    sizes := env.sizes
    chunks := env.chunks }

def relay (env : Surroundings) : Relay :=
  { isOpen := env.isOpen
    cancelled := env.script.run.cancelled
    status := []
    log := .opened :: env.script.run.log
    broken := none }

def arrivals (env : Surroundings) : List Arrival := env.updates.map fun u => ⟨u, env.outFault⟩

end Surroundings

/-- The socket has nothing more to bring and closes. -/
def lastArrival : Arrival := ⟨Relay.lastUpdate, none⟩

/-- An exec as `run` has it, whose client may fail at any output and not at the first alone. -/
def relayed (job : Job) (env : Surroundings) (arrivals : List Arrival) :
    Except Failure Unit × List Event :=
  let r := env.relay.follow (arrivals ++ [lastArrival])
  (r.outcome job, r.log ++ [.closed])

theorem run_eq_relayed (job : Job) {env : Surroundings} (hopened : env.openFault = none) :
    run job env = relayed job env env.arrivals := by
  have hlast : ∀ (outFault : Option Failure) (r : Relay),
      r.update outFault Relay.lastUpdate = r.take lastArrival := fun _ _ => rfl
  simp only [run, hopened, relayed, Surroundings.arrivals, Relay.run, Relay.follow,
    List.foldl_append, List.foldl_map, List.foldl_cons, List.foldl_nil, hlast]
  rfl

def printed (log : List Event) : List Bytes :=
  log.filterMap fun
    | .printed data => some data
    | _ => none

theorem printed_map (outputs : List Bytes) : printed (outputs.map .printed) = outputs := by
  simp [printed, List.filterMap_map]

theorem printed_append (before after : List Event) :
    printed (before ++ after) = printed before ++ printed after := List.filterMap_append

/-- The pump neither gives the client anything nor closes the socket. -/
theorem Script.log_run (s : Script) : printed s.run.log = [] ∧ s.run.log.count .closed = 0 := by
  have hseen : ∀ e ∈ s.run.log, e ≠ .closed ∧ ∀ data, e ≠ .printed data := by
    intro e he
    rw [(kept_conduct s).faithful.log] at he
    obtain ⟨a, _, ha⟩ := List.mem_filterMap.mp he
    cases a with
    | resize size f | give data f =>
        cases f with
        | some f => cases ha
        | none =>
            cases ha
            simp
    | read result =>
        cases ha
        simp
    | check | poll => cases ha
  constructor
  · refine List.filterMap_eq_nil_iff.mpr fun e he => ?_
    cases e with
    | printed data => exact absurd rfl ((hseen _ he).2 data)
    | _ => rfl
  · exact List.count_eq_zero.mpr fun hclosed => (hseen _ hclosed).1 rfl

theorem isPlain_lastArrival : lastArrival.IsPlain := ⟨rfl, rfl, rfl, ⟨[], rfl⟩, ⟨[], rfl⟩⟩

theorem Arrival.upToClose_prefix (arrivals : List Arrival) : upToClose arrivals <+: arrivals := by
  induction arrivals with
  | nil => exact List.prefix_refl _
  | cons a rest ih =>
      unfold upToClose
      split
      · exact List.cons_prefix_cons.mpr ⟨rfl, List.nil_prefix⟩
      · exact List.cons_prefix_cons.mpr ⟨rfl, ih⟩

theorem Arrival.upToClose_snoc (arrivals : List Arrival) :
    upToClose (arrivals ++ [lastArrival]) = upToClose arrivals ∨
      upToClose (arrivals ++ [lastArrival]) = upToClose arrivals ++ [lastArrival] := by
  induction arrivals with
  | nil => exact .inr rfl
  | cons a rest ih =>
      cases hcloses : a.update.closes with
      | true => exact .inl (by simp [upToClose, hcloses])
      | false =>
          rcases ih with hsame | hmore
          · exact .inl (by simp [upToClose, hcloses, hsame])
          · exact .inr (by simp [upToClose, hcloses, hmore])

/-- The closing that ends a script brings nothing. -/
theorem Arrival.plain_snoc {arrivals : List Arrival}
    (hplain : ∀ a ∈ upToClose arrivals, a.IsPlain) :
    (∀ a ∈ upToClose (arrivals ++ [lastArrival]), a.IsPlain) ∧
      wholeStatus (upToClose (arrivals ++ [lastArrival])) = wholeStatus (upToClose arrivals) ∧
      outputs (upToClose (arrivals ++ [lastArrival])) = outputs (upToClose arrivals) := by
  rcases Arrival.upToClose_snoc arrivals with hsame | hmore
  · rw [hsame]
    exact ⟨hplain, rfl, rfl⟩
  · rw [hmore]
    refine ⟨?_, ?_, ?_⟩
    · simp only [List.mem_append, List.mem_singleton]
      rintro a (ha | rfl)
      · exact hplain a ha
      · exact isPlain_lastArrival
    · simp [wholeStatus]
      rfl
    · rw [Arrival.outputs_append]
      exact List.append_nil _

/-- The arrivals that the relay takes in, if nothing goes wrong. -/
def Surroundings.used (env : Surroundings) (arrivals : List Arrival) : List Arrival :=
  if env.isOpen then upToClose arrivals else []

/-- The exec is not called off, and nothing fails until the socket closes. -/
structure Surroundings.Undisturbed (env : Surroundings) (arrivals : List Arrival) : Prop where
  wanted : env.script.run.cancelled = false
  plain : ∀ a ∈ env.used arrivals, a.IsPlain

variable {job : Job} {env : Surroundings} {arrivals : List Arrival}

theorem count_closed_relayed (job : Job) (env : Surroundings) (arrivals : List Arrival) :
    (relayed job env arrivals).2.count .closed = 1 ∧
      (relayed job env arrivals).2.getLast? = some .closed := by
  obtain ⟨outputs, houtputs⟩ := env.relay.log_follow (arrivals ++ [lastArrival])
  have hpump := env.script.log_run.2
  have hnone : (outputs.map Event.printed).count .closed = 0 :=
    List.count_eq_zero.mpr (by simp)
  constructor
  · have hrelay : env.relay.log = .opened :: env.script.run.log := rfl
    simp only [relayed]
    rw [houtputs, hrelay]
    simp [hpump, hnone]
  · simp [relayed]

/-- The relay of an undisturbed exec has passed on all the output and has the status whole. -/
theorem relay_of_undisturbed (hcalm : env.Undisturbed arrivals) :
    let r := env.relay.follow (arrivals ++ [lastArrival])
    r.broken = none ∧ r.cancelled = false ∧
      r.status = wholeStatus (env.used arrivals) ∧
      r.log = env.relay.log ++ (outputs (env.used arrivals)).map .printed := by
  obtain ⟨hwanted, hplain⟩ := hcalm
  cases hopen : env.isOpen with
  | false =>
      have hover : env.relay.isOver = true := by simp [Relay.isOver, Surroundings.relay, hopen]
      rw [Relay.follow_of_isOver hover]
      simp [Surroundings.used, hopen, Surroundings.relay, hwanted, wholeStatus, outputs]
  | true =>
      have hused : env.used arrivals = upToClose arrivals := by simp [Surroundings.used, hopen]
      rw [hused] at hplain ⊢
      have hgoing : env.relay.isOver = false := by
        simp [Relay.isOver, Surroundings.relay, hopen, hwanted]
      obtain ⟨hallPlain, hstatus, houtputs⟩ := Arrival.plain_snoc hplain
      obtain ⟨hbroken, hcancelled, hstatus', hlog⟩ := Relay.follow_plain hgoing hallPlain
      rw [hstatus] at hstatus'
      rw [houtputs] at hlog
      exact ⟨hbroken, hcancelled, hstatus', hlog⟩

theorem relayed_of_undisturbed (hcalm : env.Undisturbed arrivals) :
    printed (relayed job env arrivals).2 = outputs (env.used arrivals) ∧
      (relayed job env arrivals).1 = judge job.room job.pod (wholeStatus (env.used arrivals)) := by
  obtain ⟨hbroken, hcancelled, hstatus, hlog⟩ := relay_of_undisturbed hcalm
  constructor
  · have hrelay : printed env.relay.log = [] := env.script.log_run.1
    simp only [relayed]
    rw [hlog, printed_append, printed_append, hrelay, printed_map, List.nil_append]
    exact List.append_nil _
  · simp [relayed, Relay.outcome, hbroken, hcancelled, hstatus]

theorem relayed_of_cancelled
    (hcancelled : (env.relay.follow (arrivals ++ [lastArrival])).cancelled = true) :
    (relayed job env arrivals).1 = .ok () ∨
      ∃ a ∈ arrivals, ∃ f, a.FailsWith f ∧
        (relayed job env arrivals).1 =
          .error (if f.isIn .socket then .execBroken job.pod f else f) := by
  cases hbroken : (env.relay.follow (arrivals ++ [lastArrival])).broken with
  | none => exact .inl (by simp [relayed, Relay.outcome, hbroken, hcancelled])
  | some f =>
      obtain ⟨a, ha, hfails⟩ := Relay.failsWith_of_broken rfl hbroken
      rw [List.mem_append, List.mem_singleton] at ha
      rcases ha with ha | rfl
      · refine .inr ⟨a, ha, f, hfails, ?_⟩
        simp only [relayed, Relay.outcome, hbroken]
        split <;> rfl
      · exact absurd hfails (isPlain_lastArrival.not_failsWith f)

/-- Once the socket of an exec is open, it is closed once and last, however the exec goes.
An exec that is called off ends well, or as an update or its client failed; its status is
not looked at.  If the exec is not called off and nothing fails, the client is given the
output of every update up to the closing one, as it comes and without the empty parts, and
the status decides the result, put together from the same updates; so neither the output
as a whole nor the result depends on how they were cut. -/
theorem outcome_of_arrivals (job : Job) (env : Surroundings) (hopened : env.openFault = none) :
    run job env = relayed job env env.arrivals ∧
    ∀ arrivals : List Arrival,
      let exec := relayed job env arrivals
      (exec.2.count .closed = 1 ∧ exec.2.getLast? = some .closed) ∧
      ((env.relay.follow (arrivals ++ [lastArrival])).cancelled = true →
        exec.1 = .ok () ∨
          ∃ a ∈ arrivals, ∃ f, a.FailsWith f ∧
            exec.1 = .error (if f.isIn .socket then .execBroken job.pod f else f)) ∧
      (env.Undisturbed arrivals →
        printed exec.2 = outputs (env.used arrivals) ∧
        exec.1 = judge job.room job.pod (wholeStatus (env.used arrivals))) ∧
      ∀ (env' : Surroundings) (arrivals' : List Arrival),
        env.Undisturbed arrivals → env'.Undisturbed arrivals' →
        ((env.used arrivals).map Arrival.out).flatten =
          ((env'.used arrivals').map Arrival.out).flatten →
        wholeStatus (env.used arrivals) = wholeStatus (env'.used arrivals') →
        (printed exec.2).flatten = (printed (relayed job env' arrivals').2).flatten ∧
          exec.1 = (relayed job env' arrivals').1 := by
  refine ⟨run_eq_relayed job hopened, fun arrivals => ⟨count_closed_relayed job env arrivals,
    relayed_of_cancelled, relayed_of_undisturbed, ?_⟩⟩
  intro env' arrivals' hcalm hcalm' hout hstatus
  obtain ⟨hprinted, hresult⟩ := @relayed_of_undisturbed job env arrivals hcalm
  obtain ⟨hprinted', hresult'⟩ := @relayed_of_undisturbed job env' arrivals' hcalm'
  rw [hprinted, hprinted', hresult, hresult', Arrival.flatten_outputs, Arrival.flatten_outputs]
  exact ⟨hout, congrArg (judge job.room job.pod) hstatus⟩

namespace Sample

def octets (t : Text) : Bytes := t.map fun c => UInt8.ofNat c.val

def success : Bytes := octets "\x7b\"status\": \"Success\"\x7d"

def shell : Job := ⟨"app", "ctr-pod", defaultContainer, [], Json.maxDepth⟩

/-- Nobody has input for the command, and the socket brings such updates. -/
def quiet (updates : List Update) : Surroundings :=
  { openFault := none
    isOpen := true
    cancelled := false
    pumpFaults := calm
    sizes := [none]
    chunks := []
    outFault := none
    updates }

def update (out status : Bytes) (closes : Bool) : Update :=
  ⟨.octets out, .octets status, closes, false, none⟩

theorem isPlain_update (out status : Bytes) (closes : Bool) :
    Arrival.IsPlain ⟨update out status closes, none⟩ :=
  ⟨rfl, rfl, rfl, ⟨out, rfl⟩, ⟨status, rfl⟩⟩

/-- An e with an acute accent and the status are cut in two, or come as a whole. -/
def cut : List Update :=
  [update [0xC3] [] false, update [0xA9] (success.take 5) false, update [] (success.drop 5) true]

def whole : List Update := [update [0xC3, 0xA9] success true]

theorem undisturbed_quiet {updates : List Update}
    (hplain : ∀ u ∈ updates, Arrival.IsPlain ⟨u, none⟩) :
    (quiet updates).Undisturbed (quiet updates).arrivals := by
  refine ⟨rfl, fun a ha => ?_⟩
  obtain ⟨u, hu, rfl⟩ := List.mem_map.mp ((Arrival.upToClose_prefix _).subset ha)
  exact hplain u hu

theorem undisturbed_cut : (quiet cut).Undisturbed (quiet cut).arrivals :=
  undisturbed_quiet (by simp [cut, isPlain_update])

theorem undisturbed_whole : (quiet whole).Undisturbed (quiet whole).arrivals :=
  undisturbed_quiet (by simp [whole, isPlain_update])

end Sample

open Sample in
theorem outcome_of_arrivals_cut :
    (quiet cut).openFault = none ∧
      (printed (run shell (quiet cut)).2).flatten = [0xC3, 0xA9] ∧
      (run shell (quiet cut)).1 = .ok () ∧
      (run shell (quiet cut)).1 = (relayed shell (quiet whole) (quiet whole).arrivals).1 := by
  obtain ⟨hrun, hall⟩ := outcome_of_arrivals shell (quiet cut) rfl
  obtain ⟨_, _, hdone, hsame⟩ := hall (quiet cut).arrivals
  obtain ⟨hprinted, hresult⟩ := hdone undisturbed_cut
  obtain ⟨_, hagree⟩ :=
    hsame _ _ undisturbed_cut undisturbed_whole (by decide +kernel) (by decide +kernel)
  rw [hrun, hprinted]
  exact ⟨rfl, by decide +kernel, hresult.trans (by decide +kernel), hagree⟩

end AttachGate.Exec
