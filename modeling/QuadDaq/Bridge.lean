/-!
# Bridge selection

The measuring bridge is either routed to the inputs or not. Outside the library
the selection is a number, `0` for off and `1` for on; every other number names
no selection.
-/

namespace QuadDaq

/-- Routing of the measuring bridge. -/
inductive Bridge
  | off
  | on
  deriving Repr, DecidableEq, Inhabited

namespace Bridge

/-- The number that stands for a selection in documents and files. -/
def toInt : Bridge → Int
  | off => 0
  | on => 1

/-- The selection that a number stands for. -/
def ofInt? (n : Int) : Option Bridge :=
  if n = 0 then some off else if n = 1 then some on else none

/-- How the selection is called in reports. -/
def name : Bridge → String
  | off => "Off"
  | on => "On"

/-- Text of the refusal of a number that names no selection. -/
def unknownMessage (n : Int) : String :=
  s!"unknown bridge selection {n} (expected 0 or 1)"

@[simp] theorem ofInt?_toInt (b : Bridge) : ofInt? b.toInt = some b := by
  cases b <;> rfl

theorem ofInt?_eq_some_iff {n : Int} {b : Bridge} : ofInt? n = some b ↔ n = b.toInt := by
  cases b <;> simp only [ofInt?, toInt] <;> grind

end Bridge

end QuadDaq
