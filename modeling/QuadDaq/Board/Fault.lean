import QuadDaq.Error
import QuadDaq.Text.Quoted
import QuadDaq.Text.Search

/-!
# Faults of a board

What can go wrong between the driver and a board, and how the driver reports it.
Every fault becomes an acquisition fault; faults that mean that no data came in
time share one wording, so that a reader of the report need not know the cause.
-/

namespace QuadDaq

/-- A fault of a board. -/
inductive BoardFault
  | gpio (detail : String)
  | spi (detail : String)
  /-- The board answered a command with an error. -/
  | rejected (detail : String)
  /-- A variable does not read back as it was written. -/
  | readback (variable_ expected got : String)
  /-- The board did not deliver a row in time. -/
  | timeout
  /-- The ready line was not raised in time. -/
  | notReady
  /-- The board raised its failure line. -/
  | failLine
  /-- A fault made by a simulation. -/
  | simulated (detail : String)
  | io (detail : String)
  /-- A fault of a front end that tells nothing but a text. -/
  | other (text : String)
  deriving Repr, DecidableEq

namespace BoardFault

/-- The text of a fault. -/
def message : BoardFault → String
  | gpio detail => "gpio error: " ++ detail
  | spi detail => "spi error: " ++ detail
  | rejected detail => "board rejected command: " ++ detail
  | readback v expected got =>
    s!"{v} reads back " ++ Text.quoted got ++ ", expected " ++ Text.quoted expected
  | timeout => "board read timeout"
  | notReady => "PI_OK data-ready timeout"
  | failLine => "board signalled FAIL"
  | simulated detail => "simulated fault: " ++ detail
  | io detail => "io: " ++ detail
  | other text => text

/-- The reason that the driver gives for data that did not come in time. -/
def timedOut : String := "read timed out"

/-- The reason that the driver gives for a fault. A fault that is only a text
counts as a timeout if it says so; no letter outside ASCII folds onto one of that
word. -/
def reason : BoardFault → String
  | timeout => timedOut
  | notReady => timedOut
  | failLine => "board FAIL line asserted"
  | other text => if Text.holdsIgnoringCase text "timeout" then timedOut else text
  | fault => fault.message

/-- The failure that the driver reports for a fault. -/
def toError (fault : BoardFault) : DriverError := .acquisitionFault fault.reason

end BoardFault

end QuadDaq
