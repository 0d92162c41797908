import QuadDaq.Board.Fault
import QuadDaq.Time

/-!
# Waiting for the ready line

**Polling a line until it is raised or time is up.** Before every sleep the line is
checked first and the deadline second, so the line is checked at least once, and
once more after every sleep: a line that was raised during the last sleep is never
taken for a timeout.

The line is a function of the number of checks made before, and the clock one of
the number of sleeps. Nothing bounds the number of rounds but the clock, so `run`
takes a bound and gives no answer if it is too small.
-/

namespace QuadDaq.Board.ReadyWait

/-- How a wait ended, and after how many checks of the line. -/
inductive Verdict
  | ready (checks : Nat)
  | timedOut (checks : Nat)
  deriving Repr, DecidableEq

/-- Goes on with a wait after so many checks, for at most so many more. Instants are numbers
without a bound, so the deadline always exists: that the sum of now and a timeout overflows, and
that the wait panics, is not modelled. -/
def run (ready : Nat → Bool) (now : Nat → Nat) (deadline : Nat) : Nat → Nat → Option Verdict
  | 0, _ => none
  | bound + 1, checks =>
    if ready checks then some (.ready (checks + 1))
    else if deadline ≤ now checks then some (.timedOut (checks + 1))
    else run ready now deadline bound (checks + 1)

/-- The number of checks that suffices if every sleep takes at least so long. -/
def enough (timeout interval : Duration) : Nat := (timeout + interval - 1) / interval + 1

/-- A wait in which every sleep takes exactly the polling interval, and a
microsecond if the interval is zero. -/
def evenly (ready : Nat → Bool) (timeout interval : Duration) : Option Verdict :=
  let sleep := if interval = 0 then Duration.micros 1 else interval
  run ready (fun sleeps => sleeps * sleep) timeout (enough timeout sleep) 0

end QuadDaq.Board.ReadyWait
