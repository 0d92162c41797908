import QuadDaq.Board.Fault
import QuadDaq.Text.Blank

/-!
# Board commands

The text protocol of the board's variables: `X<value` writes a variable and `X>`
asks for it, each ended by a line feed. An answer that starts with an exclamation
mark is a refusal.
-/

namespace QuadDaq.Board.Command

/-- The variable that switches the conversions on and off. -/
def measuringVariable : String := "EnableADmes"

/-- Writes a variable. -/
def write (variable_ value : String) : String := variable_ ++ "<" ++ value ++ "\n"

/-- Asks for a variable. -/
def query (variable_ : String) : String := variable_ ++ ">\n"

/-- A character that only fills up the end of an answer. -/
def isFill (c : Char) : Bool := c = '\n' || c.toNat = 0

/-- The content of an answer, or the refusal that it is. -/
def answer (raw : String) : Except BoardFault String :=
  match Text.dropEndWhile isFill raw.toList with
  | '!' :: detail => .error (.rejected (String.ofList detail))
  | content => .ok (String.ofList content)

/-- Whether a variable reads back as it was written, blanks around the answer
aside. -/
def checkReadback (variable_ expected answer : String) : Except BoardFault Unit :=
  if Text.trim answer = expected then .ok () else .error (.readback variable_ expected answer)

end QuadDaq.Board.Command
