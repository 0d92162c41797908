/-!
# The push button

The level of the button is polled at a fixed interval and **debounced**: a new
level is accepted once it was seen at so many polls in a row. Each accepted change
is a transition with a running number, so presses carry odd numbers and releases
even ones.
-/

namespace QuadDaq

/-- An accepted change of the button's level. -/
structure Transition where
  pressed : Bool
  /-- Number of accepted changes so far, this one included. -/
  counter : Nat
  deriving Repr, DecidableEq

/-- The longest run of polls that is told from longer ones. -/
def longestRun : Nat := 255

/-- The state of debouncing. -/
structure Debouncer where
  /-- Equal polls in a row that a new level needs. -/
  needed : Nat
  /-- The accepted level. -/
  pressed : Bool := false
  /-- The level of the latest poll that differed from the accepted one. -/
  candidate : Bool := false
  /-- Latest polls in a row at the candidate level, none after one at the accepted level. -/
  run : Nat := 0
  /-- Number of accepted changes. -/
  counter : Nat := 0
  deriving Repr, DecidableEq

namespace Debouncer

/-- A released button. A level needs at least one poll. -/
def ofCount (polls : Nat) : Debouncer where
  needed := max polls 1

/-- Counts a poll at another level than the accepted one. -/
def counted (d : Debouncer) (level : Bool) : Debouncer :=
  if level = d.candidate ∧ 0 < d.run then { d with run := min (d.run + 1) longestRun }
  else { d with candidate := level, run := 1 }

/-- Takes one polled level, and gives the transition if the level is accepted
with this poll. -/
def poll (d : Debouncer) (level : Bool) : Debouncer × Option Transition :=
  if level = d.pressed then ({ d with run := 0 }, none)
  else
    let d := d.counted level
    if d.run < d.needed then (d, none)
    else
      ({ d with pressed := level, run := 0, counter := d.counter + 1 },
        some ⟨level, d.counter + 1⟩)

/-- Takes several polled levels. The transitions come with the position of the
poll that brought them, counted from the given one. -/
def pollAll (d : Debouncer) (start : Nat) : List Bool → Debouncer × List (Nat × Transition)
  | [] => (d, [])
  | level :: rest =>
    let (d, t?) := d.poll level
    let (d, later) := d.pollAll (start + 1) rest
    (d, (t?.map ((start, ·))).toList ++ later)

end Debouncer

end QuadDaq
