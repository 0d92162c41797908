import QuadDaq.Driver.Build
import QuadDaq.Json.Printer
import QuadDaq.Text.Search

/-!
# Failures of a command

**What a person or a program is told when a command fails.** A failure has a cause
and, around it, what was attempted. The class of a typed cause alone decides the
exit code, the name of the reason and the advice; what was attempted around it does
not matter. Any other cause is judged by the words of the whole text.
-/

namespace QuadDaq

/-- The exit code of a class of driver failures. -/
def DriverError.exitCode : DriverError → Nat
  | acquisitionFault _ => 3
  | configurationIncomplete _ => 4
  | invalidArgument _ => 5
  | alreadyRunning | notRunning => 6

namespace Cli

/-- What a failure comes from. -/
inductive Cause
  | driver (e : DriverError)
  | missingBoard
  | invalidConfig (reason : String)
  /-- Anything else is a text only. -/
  | other (text : String)
  deriving Repr, DecidableEq

/-- The text of a cause. -/
def Cause.message : Cause → String
  | driver e => e.message
  | missingBoard => BuildError.missingBoard.message
  | invalidConfig reason => "invalid config: " ++ reason
  | other text => text

/-- A failure. -/
structure Failure where
  cause : Cause
  /-- What was attempted, the outermost first. -/
  contexts : List String := []
  deriving Repr, DecidableEq

namespace Failure

/-- A failure that is a text only. -/
def ofText (text : String) : Failure := { cause := .other text }

/-- A failure of the driver. -/
def ofDriver (e : DriverError) : Failure := { cause := .driver e }

/-- A failure to build a driver. -/
def ofBuild : BuildError → Failure
  | .missingBoard => { cause := .missingBoard }
  | .invalidConfig limit => { cause := .invalidConfig limit.message }
  | .invalidCalibration refusal =>
    { cause := .driver (.invalidArgument refusal.message), contexts := ["invalid calibration"] }

/-- The failure inside of a further attempt. -/
def within (context : String) (f : Failure) : Failure :=
  { f with contexts := context :: f.contexts }

/-- The whole text, from the outermost attempt to the cause. -/
def text (f : Failure) : String := ": ".intercalate (f.contexts ++ [f.cause.message])

/-- Lines of an explanation. -/
def lines (parts : List String) : String := "\n".intercalate parts

/-- The explanation of a driver failure. -/
def ofDriverExplained : DriverError → String
  | .acquisitionFault reason =>
    if Text.holds reason "timed out" then
      lines [
        s!"What happened: The board did not deliver data in time ({reason}).",
        "Likely causes: Board not powered, PI_OK never asserted, or wrong data/clock pins.",
        "How to fix: Check [hardware.pins], power and the ribbon cable, then run "
          ++ "`timeswipe self-check`."]
    else
      lines [
        s!"What happened: Acquisition fault ({reason}).",
        "Likely causes: Board command rejected, GPIO permissions, or a bus error.",
        "How to fix: Re-run with --log-level=debug and check the board's FAIL line."]
  | .configurationIncomplete reason =>
    lines [
      s!"What happened: Calibration is incomplete ({reason}).",
      "Likely causes: [calibration] lacks gains or transmissions and no input profile was "
        ++ "selected.",
      "How to fix: Set them in the config, pass --input NAME or --calibration FILE."]
  | .invalidArgument reason =>
    lines [
      s!"What happened: Invalid argument ({reason}).",
      "How to fix: Check the settings document; writable keys are Bridge, Offset, Gain and "
        ++ "Transmission."]
  | e =>
    lines [
      s!"What happened: {e.message}.",
      "How to fix: Re-run with --log-level=debug for details."]

/-- The explanation of a text. The first of these words that occurs in it, whatever
the case of the letters, decides. -/
def ofTextExplained (text : String) : String :=
  let mentions := Text.holdsIgnoringCase text
  if mentions "calibration csv must have headers" then
    "Invalid headers in calibration CSV. Expected 'channel,offset,gain,transmission'."
  else if mentions "unknown input profile" then
    lines [
      s!"What happened: {text}.",
      "How to fix: Pass one of the [profiles.NAME] sections from the config to --input."]
  else if mentions "read config" || mentions "parse config" || mentions "must be" then
    lines [
      s!"What happened: Configuration is invalid ({text}).",
      "How to fix: Edit the TOML config and try again."]
  else if mentions "gpio" || mentions "spi" then
    lines [
      s!"What happened: Failed to open the board ({text}).",
      "Likely causes: Wrong pin numbers, SPI disabled, or insufficient GPIO permissions.",
      "How to fix: Enable SPI, check [hardware.pins], and run with access to /dev/gpiomem."]
  else
    lines [
      "Something went wrong.",
      s!"How to fix: Re-run with --log-level=debug for details. Original: {text}"]

/-- What happened, why it may have happened and what to do about it. -/
def explanation (f : Failure) : String :=
  match f.cause with
  | .missingBoard =>
    lines [
      "What happened: No sensor front end was provided to the driver.",
      "Likely causes: The configured backend failed to open or was not wired into the builder.",
      "How to fix: Check [hardware] in the config and the startup log."]
  | .invalidConfig reason =>
    lines [
      s!"What happened: Invalid configuration ({reason}).",
      "Likely causes: Out-of-range values in [acquisition] or [button].",
      "How to fix: Edit the config file, then rerun."]
  | .driver e => ofDriverExplained e
  | .other _ => ofTextExplained f.text

/-- The exit code of a command that fails. -/
def exitCode (f : Failure) : Nat :=
  match f.cause with
  | .driver e => e.exitCode
  | _ => 1

/-- The name of the reason. -/
def reason (f : Failure) : String :=
  match f.cause with
  | .driver e => e.kind
  | .missingBoard | .invalidConfig _ => "InvalidConfig"
  | .other _ => "Error"

/-- The failure for a program. -/
def toJson (f : Failure) : Json :=
  .obj [("message", .str f.explanation), ("reason", .str f.reason), ("type", .str "error")]

end Failure

end Cli

end QuadDaq
