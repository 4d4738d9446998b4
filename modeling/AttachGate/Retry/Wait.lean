import AttachGate.Number.Arithmetic

/-!
# Waiting a delay

A delay is a number of seconds, and not every number is one that can be waited.
To sleep, the delay must be a number that is not negative; a retry that waits to
be called off takes any other for no delay at all.  Neither can wait longer than
the clock counts, in nanoseconds of sixty-four bits.
-/

namespace AttachGate.Retry

def nanosecondsPerSecond : Nat := Nat.pow 10 9

/-- The nanoseconds that a clock counts, and as many before its zero. -/
def clockRange : Nat := Nat.pow 2 63

/-- Whether a delay is beyond the clock; a double-precision delay is rounded once
more when it is turned into nanoseconds. -/
def isBeyondClock : Number → Bool
  | .int n =>
    let elapsed := n * nanosecondsPerSecond
    !(-(clockRange : Int) ≤ elapsed && elapsed < clockRange)
  | .float x =>
    let elapsed := x.mul (Binary64.ofRatio false nanosecondsPerSecond 1)
    !((Binary64.ofRatio true clockRange 1).le elapsed &&
      elapsed.lt (Binary64.ofRatio false clockRange 1))

/-- What waiting a delay fails with, if it cannot be waited: by a retry that waits
to be called off, or by one that sleeps. -/
def waitFault? (listens : Bool) (delay : Number) : Option Failure :=
  let x := delay.toBinary64
  let zero := Binary64.ofMagnitudeBits false 0
  if listens && !zero.lt x then none
  else if x.isNaN then some .delayNotANumber
  else if isBeyondClock delay then some .delayTooLong
  else if x.lt zero then some .negativeDelay
  else none

end AttachGate.Retry
