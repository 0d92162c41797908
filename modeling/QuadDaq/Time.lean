/-!
# Time

Durations, the pace of the ticks, and a clock that is moved by hand.

Time is counted in whole nanoseconds. A duration is representable up to
`Duration.longest`; sums beyond it do not exist, and an operation that needs one
cannot go on. The pace is derived from the tick rate with integer division in
microseconds, never below one microsecond for a period and one tick for a polling
interval.
-/

namespace QuadDaq

/-- A length of time in nanoseconds. -/
abbrev Duration := Nat

namespace Duration

/-- The longest duration: all of a 64-bit count of seconds and the nanoseconds
that do not make up another second. -/
def longest : Duration := UInt64.size * 1000000000 - 1

/-- So many microseconds. -/
def micros (n : Nat) : Duration := n * 1000

/-- So many milliseconds. -/
def millis (n : Nat) : Duration := n * 1000000

/-- The sum, if it is representable. -/
def add? (a b : Duration) : Option Duration :=
  if a + b ≤ longest then some (a + b) else none

/-- A multiple, if it is representable. -/
def times? (a : Duration) (n : Nat) : Option Duration :=
  if a * n ≤ longest then some (a * n) else none

end Duration

namespace Pace

/-- Largest value of an unsigned 64-bit word, at which products saturate. -/
def wordLimit : Nat := UInt64.size - 1

/-- Microseconds between ticks. A rate of zero counts as one. -/
def periodMicros (hz : Nat) : Nat := max (1000000 / max hz 1) 1

/-- Time between ticks. -/
def period (hz : Nat) : Duration := .micros (periodMicros hz)

/-- Ticks that cover so many milliseconds. -/
def ticksForMillis (ms hz : Nat) : Nat := max (min (ms * hz) wordLimit / 1000) 1

/-- How long stopping a stream waits for a worker: one read and four periods, and
not less than 20 milliseconds; `none` if that is not representable. -/
def stopGrace? (readTimeout : Duration) (hz : Nat) : Option Duration := do
  let periods ← Duration.times? (period hz) 4
  let wait ← Duration.add? readTimeout periods
  return max wait (.millis 20)

/-- The deadline after the one at `deadline`, and whether the schedule starts over
at `now` because the tick ended more than a period late. -/
def nextDeadline (deadline now : Nat) (period : Duration) : Nat × Bool :=
  let next := deadline + period
  if next + period < now then (now, true) else (next, false)

end Pace

/-- A clock that shows the time since its start and moves only when told to. -/
structure ManualClock where
  elapsed : Duration := 0
  deriving Repr, DecidableEq

namespace ManualClock

/-- Moves the clock forward, at most to the longest duration. -/
def advance (c : ManualClock) (d : Duration) : ManualClock :=
  ⟨min (c.elapsed + d) Duration.longest⟩

/-- Sleeping moves the clock by the length of the sleep. -/
def sleep (c : ManualClock) (d : Duration) : ManualClock := c.advance d

/-- Sleeping until an instant that has passed already takes no time. -/
def sleepUntil (c : ManualClock) (instant : Nat) : ManualClock :=
  c.sleep (instant - c.elapsed)

end ManualClock

end QuadDaq
