/-!
# TOML values

What a configuration file says. A date or time is recognised but its content is
not kept: no setting is one.
-/

namespace QuadDaq

/-- A TOML value. -/
inductive Toml
  | str (s : String)
  | int (n : Int)
  | float (x : Float)
  | bool (b : Bool)
  | datetime
  | arr (items : List Toml)
  | table (entries : List (String × Toml))
  deriving Inhabited

end QuadDaq
