import QuadDaq.Cli.Files
import QuadDaq.Cli.LogFilter
import QuadDaq.Config.Types

/-!
# The log file

Which settings of the logging section cannot be used. A log file has to have a name,
it must be possible to create it, and its filters have to be in order.
-/

namespace QuadDaq.Cli

/-- The parts of a path that name something. -/
def namedParts (path : String) : List String :=
  (path.splitOn "/").filter fun p => p ≠ "" && p ≠ "."

/-- The name at the end of a path, unless the path ends in the root, in the working
directory or in a step up. -/
def fileName? (path : String) : Option String :=
  (namedParts path).getLast?.filter (· ≠ "..")

/-- What rotation adds to the name of a log file: the date, and the hour if it rotates
by the hour. Every date is as long as this one. -/
def rotationMark (rotation : Option String) : String :=
  if rotation = some "daily" then ".2000-01-01"
  else if rotation = some "hourly" then ".2000-01-01-00"
  else ""

/-- Where a log file is written. -/
def logPath (path : String) (rotation : Option String) : String :=
  (if path.startsWith "/" then "/" else "") ++ "/".intercalate (namedParts path)
    ++ rotationMark rotation

/-- Why the program cannot log. -/
inductive LogProblem
  | noName (path : String)
  | filter (p : FilterProblem)
  /-- The system does not let the file be written. -/
  | unwritable
  deriving Repr, DecidableEq

/-- What is wrong with the logging section. -/
def logProblem? (files : Files) (l : Config.Logging) : Option LogProblem :=
  l.file.bind fun path =>
    if (fileName? path).isNone then some (.noName path)
    else if files.writable (logPath path l.rotation) then
      (filterProblem? (l.level.getD "info")).map .filter
    else some .unwritable

end QuadDaq.Cli
