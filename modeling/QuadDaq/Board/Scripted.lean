import QuadDaq.Board.Basic

/-!
# The scripted board

A board that replays a script of rows and faults and then repeats its last row for
ever. It records what it was asked for.
-/

namespace QuadDaq.Board

/-- A board that follows a script. -/
structure Scripted where
  /-- Rows and fault texts still to come. -/
  script : List (Except String Row) := []
  /-- The latest row read. -/
  last : Option Row := none
  /-- Every selection made, in order. -/
  bridges : List Bridge := []
  measuring : Bool := false
  /-- Number of reads. -/
  reads : Nat := 0

namespace Scripted

/-- A board with entries appended to its script. -/
def feed (s : Scripted) (entries : List (Except String Row)) : Scripted :=
  { s with script := s.script ++ entries }

/-- Reads the next entry of the script. -/
def read (s : Scripted) : Scripted × ReadOutcome :=
  let s := { s with reads := s.reads + 1 }
  match s.script with
  | .ok row :: rest => ({ s with script := rest, last := some row }, .row row)
  | .error text :: rest => ({ s with script := rest }, .fault (.other text))
  | [] =>
    match s.last with
    | some row => (s, .row row)
    | none => (s, .fault (.other "script exhausted"))

instance : Board Scripted where
  setMeasuring on s := ({ s with measuring := on }, .ok ())
  selectBridge b s := ({ s with bridges := s.bridges ++ [b] }, .ok ())
  read _ s := s.read
  level s := (s, false)

end Scripted

end QuadDaq.Board
