/-!
# JSON values

Settings documents and machine-readable reports are JSON. A number is either a
whole number or a double: documents keep the two apart, and a setting that wants
an integer refuses `1.0`. Objects hold their entries in the order of the text.
-/

namespace QuadDaq

/-- A JSON value. -/
inductive Json
  | null
  | bool (b : Bool)
  | int (n : Int)
  | float (x : Float)
  | str (s : String)
  | arr (items : List Json)
  | obj (entries : List (String × Json))
  deriving Inhabited

namespace Json

/-- The whole number, if it fits a signed 64-bit word. -/
def asInt64? : Json → Option Int
  | int n => if -Int.pow 2 63 ≤ n ∧ n < Int.pow 2 63 then some n else none
  | _ => none

/-- The whole number, if it fits an unsigned word of so many bits. -/
def asNat? (bits : Nat) : Json → Option Nat
  | int n => if 0 ≤ n ∧ n < Int.pow 2 bits then some n.toNat else none
  | _ => none

/-- The number as a double, a whole number rounded to the nearest. -/
def asFloat? : Json → Option Float
  | int n => some (Float.ofInt n)
  | float x => some x
  | _ => none

end Json

end QuadDaq
