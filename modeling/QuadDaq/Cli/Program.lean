import QuadDaq.Cli.Files
import QuadDaq.Cli.LogFile
import QuadDaq.Cli.SelfCheck
import QuadDaq.Config.Csv
import QuadDaq.Config.Decode
import QuadDaq.Config.Validate

/-!
# The program

**From a request to what is printed.** The configuration is read and validated, the
filters of the console and the log file are looked at, the calibration is resolved, a
driver is opened and brought to its initial settings, and then the command runs on it.
Each step can fail, and the first failure ends the program with its explanation and
its exit code; nothing else is printed by a program that fails before its command.

What the program logs is not among what it prints.
-/

namespace QuadDaq.Cli

/-- What the program finds where it runs. -/
structure Surroundings where
  files : Files
  /-- The filters of the console that the environment gives, if it gives any. -/
  consoleFilters : Option String := some "off"
  /-- Reads that fail first, for tests. -/
  faults : Nat := 0
  /-- Reads time out, for tests. -/
  stuck : Bool := false

/-- Where the program runs, with its environment variables for tests. Unless other filters are
given the console is off. -/
def Surroundings.of (files : Files) (environment : List (String × String))
    (consoleFilters : Option String := some "off") : Surroundings where
  files := files
  consoleFilters := consoleFilters
  faults :=
    ((environment.lookup "TIMESWIPE_TEST_SIM_FAULTS").bind fun v =>
      Text.unsigned? 32 10 v.toList).getD 0
  stuck := (environment.lookup "TIMESWIPE_TEST_SIM_STUCK").isSome

/-! ### Opening a driver -/

/-- Reads and validates the configuration. -/
def loadConfig (files : Files) (path : String) : Except Failure Config := do
  match files.readText path with
  | .error e => .error (.within s!"read config {path}" (.ofText e.message))
  | .ok text =>
    match Config.parse? text with
    | none => .error (.ofText "parse config")
    | some c =>
      match c.problem? with
      | some p => .error (.ofText p.message)
      | none => return c

/-- The values of a table in place of those of a calibration. The bridge stays. -/
def overlay (p : Settings.Preset) (t : CalibrationTable) : Settings.Preset :=
  { t.preset with bridge := p.bridge }

/-- Reads a calibration file. -/
def loadTable (files : Files) (path : String) : Except Failure CalibrationTable :=
  let content : Except Csv.Problem (Option (List UInt8)) :=
    match files path with
    | .ok bytes => .ok (some bytes)
    | .error .isDirectory => .error .headersUnreadable
    | .error _ => .ok none
  (content >>= Csv.load).mapError fun p => .ofText p.message

/-- The initial calibration: that of the selected profile or of the calibration
section, under the values of the calibration file. -/
def resolveCalibration (s : Surroundings) (c : Config) (o : Options) :
    Except Failure Settings.Preset := do
  let selected ← (c.selectCalibration o.input).mapError .ofText
  match o.calibration with
  | none => return selected
  | some path => return overlay selected (← loadTable s.files path)

/-- The simulated board of a configuration. -/
def simulatedBoard (s : Surroundings) (c : Config) : Board.Simulated :=
  let waveform := Board.Waveform.sine c.hardware.simMidpoint c.hardware.simAmplitude
  ((Board.Simulated.ofRate c.acquisition.sampleRate waveform).injectFaults s.faults).setStuck s.stuck

/-- The driver of a configuration, before its startup script. -/
def buildDriver (s : Surroundings) (c : Config) (p : Settings.Preset) : Except Failure SimDriver :=
  match c.hardware.backend with
  | .gpio =>
    .error (.ofText
      "hardware.backend = \"gpio\" requires a Linux build with the `hardware` feature")
  | .sim =>
    let plan : DriverPlan Board.Simulated :=
      { board := some (simulatedBoard s c)
        hasButton := true
        config := c.acquisition.toConfig
        button := c.button.toConfig
        calibration := some p }
    plan.build.mapError .ofBuild

/-- Applies a settings document to a driver. -/
def applyDocument (d : SimDriver) (document : Json) :
    Except Failure (SimDriver × Settings.Document) :=
  match d.engine.apply document with
  | (engine, .ok answer) => .ok ({ d with engine := engine }, answer)
  | (_, .error e) => .error (.ofDriver e)

/-- Applies the startup script. -/
def applyScript (d : SimDriver) : Option String → Except Failure SimDriver
  | none => .ok d
  | some script =>
    match Json.parse? script with
    | none => .error (.ofText "startup_script is not valid JSON")
    | some document =>
      ((applyDocument d document).map Prod.fst).mapError (.within "startup_script rejected")

/-- Opens the driver of a configuration. -/
def openDriver (s : Surroundings) (c : Config) (o : Options) : Except Failure SimDriver := do
  let p ← resolveCalibration s c o
  applyScript (← buildDriver s c p) c.startupScript

/-! ### Running a request -/

/-- Runs a settings document and prints its answer. -/
def runSettings (d : SimDriver) (document : String) : Except Failure (List Print) :=
  match Json.parse? document with
  | none => .error (.ofText "settings document is not valid JSON")
  | some document =>
    (applyDocument d document).map fun (_, answer) => [.out answer.toJson.render]

/-- The end of a program that fails. -/
def failed (json : Bool) (f : Failure) : Report where
  prints := [if json then .out f.toJson.render else .err f.explanation]
  ending := .exit f.exitCode

/-- The end of a program. -/
def concluded (json : Bool) : Except Failure (List Print) → Report
  | .ok prints => ⟨prints, .exit 0⟩
  | .error f => failed json f

/-- What is wrong with the logs. The console comes before the log file. -/
def loggingProblem? (s : Surroundings) (o : Options) (c : Config) : Option LogProblem :=
  match consoleProblem? s.consoleFilters o.logLevel with
  | some p => some (.filter p)
  | none => logProblem? s.files c.logging

/-- The end of a program that cannot log. A file that the system refuses is no failure
that the program explains. -/
def logFailed (json : Bool) : LogProblem → Report
  | .noName path => failed json (.ofText s!"logging.file has no file name: {path}")
  | .filter p => failed json (.ofText p.message)
  | .unwritable => ⟨[], .aborted⟩

/-- A request that is being carried out. -/
inductive Stage
  | finished (r : Report)
  | streaming (s : Streaming)

/-- Carries out a command up to the point where a stream runs. -/
def startCommand (d : SimDriver) (json : Bool) : Command → Stage
  | .settings document => .finished (concluded json (runSettings d document))
  | .selfCheck => .finished (concluded json ((selfCheck d json).map fun p => [p]))
  | .stream o =>
    match beginStream d json o with
    | .refused f => .finished (failed json f)
    | .running streaming => .streaming streaming
    | .brokenOff _ => .finished ⟨[], .aborted⟩

/-- Carries out a request up to the point where a stream runs. -/
def startRequest (s : Surroundings) (r : Request) : Stage :=
  let json := r.options.json
  match loadConfig s.files r.options.config with
  | .error f => .finished (failed json f)
  | .ok c =>
    match loggingProblem? s r.options c with
    | some p => .finished (logFailed json p)
    | none =>
      match openDriver s c r.options with
      | .error f => .finished (failed json f)
      | .ok d => startCommand d json r.command

/-- Carries out a request. -/
def run (s : Surroundings) (r : Request) : Report :=
  match startRequest s r with
  | .finished report => report
  | .streaming streaming =>
    let (streaming, prints) := streaming.pollMany streaming.pollCount
    let last := concluded streaming.json streaming.finish
    { last with prints := prints ++ last.prints }

end QuadDaq.Cli
