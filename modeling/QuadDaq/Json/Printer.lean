import QuadDaq.Decimal.Layout
import QuadDaq.Json.Value

/-!
# Printing JSON

The compact form: no blanks, entries in the order in which the value holds them,
text outside ASCII as it is. A double that is not finite has no JSON number and
is written `null`.
-/

namespace QuadDaq.Json

/-- The two lower-case hexadecimal digits of a byte. -/
def hexPair (n : Nat) : List Char := [Nat.digitChar (n / 16 % 16), Nat.digitChar (n % 16)]

/-- A character inside a quoted string. -/
def escape (c : Char) : List Char :=
  if c = '"' then ['\\', '"']
  else if c = '\\' then ['\\', '\\']
  else if c = '\n' then ['\\', 'n']
  else if c = '\r' then ['\\', 'r']
  else if c = '\t' then ['\\', 't']
  else if c.toNat = 8 then ['\\', 'b']
  else if c.toNat = 12 then ['\\', 'f']
  else if c.toNat < 32 then ['\\', 'u', '0', '0'] ++ hexPair c.toNat
  else [c]

/-- A text as a quoted string. -/
def quote (s : String) : String :=
  String.ofList ('"' :: s.toList.flatMap escape ++ ['"'])

/-- The text of a double. -/
def numberText (x : Float) : String :=
  if x.isFinite then Decimal.Layout.json.render x else "null"

mutual

/-- The compact text of a value. -/
def render : Json → String
  | null => "null"
  | bool b => if b then "true" else "false"
  | int n => toString n
  | float x => numberText x
  | str s => quote s
  | arr items => "[" ++ renderItems items ++ "]"
  | obj entries => "\x7b" ++ renderEntries entries ++ "\x7d"

/-- The items of an array, separated by commas. -/
def renderItems : List Json → String
  | [] => ""
  | [v] => render v
  | v :: rest => render v ++ "," ++ renderItems rest

/-- The entries of an object, separated by commas. -/
def renderEntries : List (String × Json) → String
  | [] => ""
  | [(k, v)] => quote k ++ ":" ++ render v
  | (k, v) :: rest => quote k ++ ":" ++ render v ++ "," ++ renderEntries rest

end

end QuadDaq.Json
