import AttachGate.Number.Arithmetic

/-!
# Back-off schedules

How often an update is tried and how long to wait between two attempts.  The
delays grow by a constant factor, and each is lengthened by a random fraction.
-/

namespace AttachGate

structure Backoff where
  steps : Int
  /-- The first delay, in seconds. -/
  duration : Number
  /-- What each delay is multiplied by to give the next. -/
  factor : Number
  /-- The largest fraction that is added to a delay. -/
  jitter : Number

namespace Backoff

/-- Five attempts, ten milliseconds apart. -/
def standard : Backoff :=
  { steps := 5
    duration := .float (Binary64.ofDecimal false 1 (-2))
    factor := .float (Binary64.ofDecimal false 1 0)
    jitter := .float (Binary64.ofDecimal false 1 (-1)) }

/-- A number between two bounds, at `noise` of the way from the first. -/
def between (low high noise : Number) : Except Failure Number := do
  low.add (← (← high.sub low).mul noise)

/-- `count` delays from `delay` on, with the random numbers of `noise` and zero
when they are used up. -/
def delaysFrom (b : Backoff) (delay : Number) : Nat → List Number → Except Failure (List Number)
  | 0, _ => pure []
  | count + 1, noise => do
    let zero : Number := .float (Binary64.ofMagnitudeBits false 0)
    let fraction ← between (.int 0) b.jitter (noise.headD zero)
    let lengthened ← delay.mul (← (Number.int 1).add fraction)
    let next ← delay.mul b.factor
    pure (lengthened :: (← delaysFrom b next count noise.tail))

/-- The delays between consecutive attempts, one fewer than there are
attempts. -/
def delays (b : Backoff) (noise : List Number) : Except Failure (List Number) :=
  b.delaysFrom b.duration (b.steps - 1).toNat noise

end Backoff

end AttachGate
