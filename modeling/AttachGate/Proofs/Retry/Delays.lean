import AttachGate.Change.Flip
import AttachGate.Proofs.Value.Members
import AttachGate.Retry.Wait

/-!
# The delays of a schedule

A schedule has one delay less than it has attempts, however the delays are
lengthened; so a flip on the standard schedule is tried five times.  A schedule of
double-precision numbers has delays that can be reckoned.  Whoever waits to be called
off can wait any delay that the clock can count.
-/

namespace AttachGate

namespace Backoff

variable {b : Backoff}

theorem length_delaysFrom {count : Nat} {delay : Number} {noise delays : List Number}
    (hdelays : b.delaysFrom delay count noise = .ok delays) : delays.length = count := by
  induction count generalizing delay noise delays with
  | zero =>
      cases hdelays
      rfl
  | succ count ih =>
      unfold delaysFrom at hdelays
      obtain ⟨_, _, hdelays⟩ := bind_eq_ok.mp hdelays
      obtain ⟨_, _, hdelays⟩ := bind_eq_ok.mp hdelays
      obtain ⟨_, _, hdelays⟩ := bind_eq_ok.mp hdelays
      obtain ⟨_, _, hdelays⟩ := bind_eq_ok.mp hdelays
      obtain ⟨rest, hrest, hdelays⟩ := bind_eq_ok.mp hdelays
      cases hdelays
      rw [List.length_cons, ih hrest]

theorem length_delays {noise delays : List Number} (hdelays : b.delays noise = .ok delays) :
    delays.length = (b.steps - 1).toNat :=
  length_delaysFrom hdelays

/-! ## Delays that cannot be reckoned -/

/-- A computation that fails, if it does, on an integer beyond double precision. -/
def Overflows {α : Type} (r : Except Failure α) : Prop :=
  ∀ fault, r = .error fault → fault = .integerTooLarge

theorem Overflows.bind {α β : Type} {r : Except Failure α} (hr : Overflows r)
    {next : α → Except Failure β} (hnext : ∀ a, Overflows (next a)) : Overflows (r >>= next) := by
  cases r with
  | ok a => exact hnext a
  | error e =>
      intro fault hfault
      cases hfault
      exact hr _ rfl

theorem overflows_pure {α : Type} (a : α) : Overflows (pure a) := by
  intro fault hfault
  cases hfault

theorem overflows_operand (n : Number) : Overflows n.operand := by
  intro fault hfault
  unfold Number.operand at hfault
  split at hfault
  · cases hfault
  · split at hfault <;> cases hfault
    rfl

theorem overflows_rounded (f : Binary64 → Binary64 → Binary64) (m n : Number) :
    Overflows (do pure (Number.float (f (← m.operand) (← n.operand)))) :=
  (overflows_operand m).bind fun _ => (overflows_operand n).bind fun _ => overflows_pure _

theorem overflows_add (m n : Number) : Overflows (m.add n) := by
  unfold Number.add
  split
  · exact overflows_pure _
  · exact overflows_rounded Binary64.add _ _

theorem overflows_sub (m n : Number) : Overflows (m.sub n) := by
  unfold Number.sub
  split
  · exact overflows_pure _
  · exact overflows_rounded Binary64.sub _ _

theorem overflows_mul (m n : Number) : Overflows (m.mul n) := by
  unfold Number.mul
  split
  · exact overflows_pure _
  · exact overflows_rounded Binary64.mul _ _

theorem overflows_delaysFrom (delay : Number) (count : Nat) (noise : List Number) :
    Overflows (b.delaysFrom delay count noise) := by
  induction count generalizing delay noise with
  | zero => exact overflows_pure []
  | succ count ih =>
      unfold delaysFrom between
      refine Overflows.bind ?_ fun fraction => ?_
      · exact (overflows_sub _ _).bind fun _ => (overflows_mul _ _).bind fun _ => overflows_add _ _
      refine (overflows_add _ _).bind fun sum => (overflows_mul _ _).bind fun lengthened => ?_
      refine (overflows_mul _ _).bind fun next => ?_
      exact (ih next noise.tail).bind fun rest => overflows_pure _

theorem delays_eq_error {noise : List Number} {fault : Failure}
    (hfault : b.delays noise = .error fault) : fault = .integerTooLarge :=
  overflows_delaysFrom _ _ _ fault hfault

end Backoff

/-! ## Schedules of double-precision numbers -/

def Number.IsFloat (n : Number) : Prop := ∃ x, n = .float x

namespace Number

theorem IsFloat.mul {m n : Number} (hm : m.IsFloat) (hn : n.IsFloat) :
    ∃ product, m.mul n = .ok product ∧ product.IsFloat := by
  obtain ⟨x, rfl⟩ := hm
  obtain ⟨y, rfl⟩ := hn
  exact ⟨_, rfl, _, rfl⟩

theorem IsFloat.sub {m : Number} (hm : m.IsFloat) {n : Int} {y : Binary64}
    (hn : (Number.int n).operand = .ok y) :
    ∃ difference, m.sub (.int n) = .ok difference ∧ difference.IsFloat := by
  obtain ⟨x, rfl⟩ := hm
  refine ⟨.float (x.sub y), ?_, _, rfl⟩
  rw [Number.sub, hn]
  · rfl
  · simp

theorem IsFloat.add {n : Number} (hn : n.IsFloat) {m : Int} {x : Binary64}
    (hm : (Number.int m).operand = .ok x) :
    ∃ sum, (Number.int m).add n = .ok sum ∧ sum.IsFloat := by
  obtain ⟨y, rfl⟩ := hn
  refine ⟨.float (x.add y), ?_, _, rfl⟩
  rw [Number.add, hm]
  · rfl
  · simp

theorem exists_operand {n : Int} (hn : (Binary64.ofInt? n).isSome = true) :
    ∃ x, (Number.int n).operand = .ok x := by
  obtain ⟨x, hx⟩ := Option.isSome_iff_exists.mp hn
  exact ⟨x, by rw [operand, hx]⟩

end Number

namespace Backoff

/-- A schedule whose delays are reckoned in double precision throughout. -/
structure IsFloating (b : Backoff) : Prop where
  duration : b.duration.IsFloat
  factor : b.factor.IsFloat
  jitter : b.jitter.IsFloat

theorem exists_between {jitter u : Number} (hjitter : jitter.IsFloat) (hu : u.IsFloat) :
    ∃ fraction, between (.int 0) jitter u = .ok fraction ∧ fraction.IsFloat := by
  obtain ⟨zero, hzero⟩ := Number.exists_operand (n := 0) (by decide +kernel)
  obtain ⟨width, hwidth, hfloat⟩ := hjitter.sub hzero
  obtain ⟨part, hpart, hfloat⟩ := hfloat.mul hu
  obtain ⟨fraction, hfraction, hfloat⟩ := hfloat.add hzero
  refine ⟨fraction, ?_, hfloat⟩
  unfold between
  exact bind_eq_ok.mpr ⟨width, hwidth, bind_eq_ok.mpr ⟨part, hpart, hfraction⟩⟩

/-- Double-precision delays can always be reckoned. -/
theorem exists_delaysFrom {b : Backoff} (hb : b.IsFloating) {delay : Number}
    (hdelay : delay.IsFloat) (count : Nat) {noise : List Number}
    (hnoise : ∀ u ∈ noise, u.IsFloat) : ∃ delays, b.delaysFrom delay count noise = .ok delays := by
  induction count generalizing delay noise with
  | zero => exact ⟨[], rfl⟩
  | succ count ih =>
      have hfirst : (noise.headD (.float (Binary64.ofMagnitudeBits false 0))).IsFloat := by
        cases noise with
        | nil => exact ⟨_, rfl⟩
        | cons u noise => exact hnoise u List.mem_cons_self
      obtain ⟨one, hone⟩ := Number.exists_operand (n := 1) (by decide +kernel)
      obtain ⟨fraction, hfraction, hfloat⟩ := exists_between hb.jitter hfirst
      obtain ⟨sum, hsum, hfloat⟩ := hfloat.add hone
      obtain ⟨lengthened, hlengthened, _⟩ := hdelay.mul hfloat
      obtain ⟨next, hnext, hfloat⟩ := hdelay.mul hb.factor
      obtain ⟨rest, hrest⟩ := ih hfloat fun u hu => hnoise u (List.mem_of_mem_tail hu)
      refine ⟨lengthened :: rest, ?_⟩
      unfold delaysFrom
      refine bind_eq_ok.mpr ⟨fraction, hfraction, bind_eq_ok.mpr ⟨sum, hsum, ?_⟩⟩
      refine bind_eq_ok.mpr ⟨lengthened, hlengthened, bind_eq_ok.mpr ⟨next, hnext, ?_⟩⟩
      exact bind_eq_ok.mpr ⟨rest, hrest, rfl⟩

end Backoff

/-! ## Delays that cannot be waited -/

/-- A retry that waits to be called off refuses a delay only because it is too long: a
negative one and one that is no number are over at once. -/
theorem Retry.waitFault?_of_listens {delay : Number} {fault : Failure}
    (hfault : waitFault? true delay = some fault) :
    fault = .delayTooLong ∧ isBeyondClock delay = true := by
  unfold waitFault? at hfault
  cases hpositive : (Binary64.ofMagnitudeBits false 0).lt delay.toBinary64 with
  | false => simp [hpositive] at hfault
  | true =>
      obtain ⟨⟨-, hnumber⟩, hrank⟩ : (_ ∧ delay.toBinary64.isNaN = false) ∧
          (Binary64.ofMagnitudeBits false 0).rank < delay.toBinary64.rank := by
        simpa [Binary64.lt] using hpositive
      have hsign : delay.toBinary64.lt (Binary64.ofMagnitudeBits false 0) = false := by
        simp [Binary64.lt, Int.le_of_lt hrank]
      cases hbeyond : isBeyondClock delay with
      | false => simp [hpositive, hnumber, hbeyond, hsign] at hfault
      | true =>
          simp only [hpositive, hnumber, hbeyond] at hfault
          cases hfault
          exact ⟨rfl, rfl⟩

/-! ## The standard schedule -/

namespace Flip.Plan

/-- The standard schedule, its delays lengthened by some random numbers. -/
structure IsStandard (plan : Plan) : Prop where
  steps : plan.steps = Backoff.standard.steps
  delays : ∃ noise, Backoff.standard.delays noise = .ok plan.delays

theorem IsStandard.length_delays {plan : Plan} (hplan : plan.IsStandard) :
    plan.delays.length = 4 := by
  obtain ⟨noise, hdelays⟩ := hplan.delays
  exact Backoff.length_delays hdelays

theorem isStandard_standard : standard.IsStandard := by
  refine ⟨rfl, [], ?_⟩
  unfold standard
  cases hdelays : Backoff.standard.delays [] with
  | ok delays => rfl
  | error e =>
      have hsome : (Backoff.standard.delays []).toOption.isSome = true := by decide +kernel
      rw [hdelays] at hsome
      cases hsome

end Flip.Plan

end AttachGate
