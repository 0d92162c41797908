import QuadDaq.Board.Fault
import QuadDaq.Bridge
import QuadDaq.Channel
import QuadDaq.Time

/-!
# Boards

**What the driver asks of a board**: switch conversions on and off, route the
bridge, deliver one row, and show the level of the button. A board is a value, and
every operation gives the board as it is afterwards, whether it succeeded or not.
-/

namespace QuadDaq

/-- How a read of one row ends. -/
inductive ReadOutcome
  | row (raw : Row)
  | fault (f : BoardFault)
  /-- The read takes the sampling thread down with it. -/
  | crash

/-- The operations of a board. -/
class Board (β : Type) where
  /-- Switches conversions on or off. -/
  setMeasuring : Bool → β → β × Except BoardFault Unit
  /-- Routes the bridge. -/
  selectBridge : Bridge → β → β × Except BoardFault Unit
  /-- Reads one row and waits for it at most so long. -/
  read : Duration → β → β × ReadOutcome
  /-- The level of the button, `true` when pressed. -/
  level : β → β × Bool

end QuadDaq
