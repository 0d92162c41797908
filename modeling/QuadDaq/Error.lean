/-!
# Failures of the driver

What a driver command answers when it fails, and what the error consumer is told
about. The text of a failure starts with its class.
-/

namespace QuadDaq

/-- A failure, by class. -/
inductive DriverError
  /-- A setting or an argument was refused. -/
  | invalidArgument (reason : String)
  /-- A row cannot be calibrated yet. -/
  | configurationIncomplete (reason : String)
  /-- The board failed. -/
  | acquisitionFault (reason : String)
  /-- The command needs a stopped stream. -/
  | alreadyRunning
  /-- The command needs a running stream. -/
  | notRunning
  deriving Repr, DecidableEq

namespace DriverError

/-- The whole text of a failure. -/
def message : DriverError → String
  | invalidArgument reason => "invalid argument: " ++ reason
  | configurationIncomplete reason => "configuration incomplete: " ++ reason
  | acquisitionFault reason => "acquisition fault: " ++ reason
  | alreadyRunning => "stream is already running"
  | notRunning => "stream is not running"

/-- The name of the class. -/
def kind : DriverError → String
  | invalidArgument _ => "InvalidArgument"
  | configurationIncomplete _ => "ConfigurationIncomplete"
  | acquisitionFault _ => "AcquisitionFault"
  | alreadyRunning => "AlreadyRunning"
  | notRunning => "NotRunning"

end DriverError

end QuadDaq
