import QuadDaq.Config.Types
import QuadDaq.Json.Parser

/-!
# Valid configurations

The limits on a configuration beyond the types of its fields. They are checked in a
fixed order, section by section, and the first one that is exceeded is reported.
-/

namespace QuadDaq.Config

/-- What is wrong with a configuration. -/
inductive Problem
  | sampleRate
  | batchRowsZero
  | batchRowsLarge
  | queueCapacityZero
  | queueCapacityLarge
  | settlingTicksLarge
  | readTimeoutZero
  | pollMillisZero
  | debounceCountZero
  | bridge (part : String)
  | notFinite (part : String)
  | unusableFactor (part : String)
  | scriptNotJson
  | scriptNotObject
  | rotation
  | simulationNotFinite
  | pinOutOfRange (pin : Nat)
  | pinTwice (pin : Nat)
  deriving Repr, DecidableEq

/-- The wording of a problem. -/
def Problem.message : Problem → String
  | sampleRate => "acquisition.sample_rate_hz must be in [1, 48000]"
  | batchRowsZero => "acquisition.batch_rows must be >= 1"
  | batchRowsLarge => "acquisition.batch_rows is unreasonably large (>1e6)"
  | queueCapacityZero => "acquisition.queue_capacity must be >= 1"
  | queueCapacityLarge => "acquisition.queue_capacity must be <= 1024"
  | settlingTicksLarge => "acquisition.settling_ticks is unreasonably large (>10s at max rate)"
  | readTimeoutZero => "acquisition.read_timeout_ms must be >= 1"
  | pollMillisZero => "button.poll_ms must be >= 1"
  | debounceCountZero => "button.debounce_n must be >= 1"
  | bridge part => s!"{part} must be 0 or 1"
  | notFinite part => s!"{part} must be finite"
  | unusableFactor part => s!"{part} must be finite and non-zero"
  | scriptNotJson => "startup_script is not valid JSON"
  | scriptNotObject => "startup_script must be a JSON object"
  | rotation => "logging.rotation must be one of never|daily|hourly"
  | simulationNotFinite => "hardware.sim_midpoint and hardware.sim_amplitude must be finite"
  | pinOutOfRange pin => s!"hardware.pins: BCM pin {pin} out of range 0..=27"
  | pinTwice pin => s!"hardware.pins: BCM pin {pin} assigned twice"

/-- Checks one after the other; the first problem counts. -/
def firstProblem : List (Option Problem) → Option Problem := List.findSome? id

/-- The problem, if a condition is violated. -/
def require (holds : Bool) (p : Problem) : Option Problem := if holds then none else some p

/-- The first limit on streams that is exceeded. A new driver repeats those of the rate and the
lower ones; the upper ones of batches, queues and settling are checked here only. -/
def Acquisition.problem? (a : Acquisition) : Option Problem :=
  firstProblem [
    require (1 ≤ a.sampleRate && a.sampleRate ≤ Settings.maxSampleRate) .sampleRate,
    require (a.batchRows ≠ 0) .batchRowsZero,
    require (a.batchRows ≤ Settings.maxBurstSize) .batchRowsLarge,
    require (a.queueCapacity ≠ 0) .queueCapacityZero,
    require (a.queueCapacity ≤ 1024) .queueCapacityLarge,
    require (a.settlingTicks ≤ 10 * Settings.maxSampleRate) .settlingTicksLarge,
    require (a.readTimeoutMillis ≠ 0) .readTimeoutZero]

/-- Polls have to lie apart in time, and a transition takes one poll at least. -/
def Button.problem? (b : Button) : Option Problem :=
  firstProblem [
    require (b.pollMillis ≠ 0) .pollMillisZero,
    require (b.debounceCount ≠ 0) .debounceCountZero]

/-- One value per channel, each of which has to pass a test. -/
def rowProblem? (ok : Float → Bool) (problem : String → Problem) (part : String) (r : Row) :
    Option Problem :=
  (r.firstFailing? ok).map fun ch => problem s!"{part}[{ch}]"

/-- A calibration under the name of its section. -/
def calibrationProblem? (part : String) (p : Settings.Preset) : Option Problem :=
  firstProblem [
    p.bridge.bind fun n => require (Bridge.ofInt? n).isSome (.bridge s!"{part}.bridge"),
    p.offsets.bind (rowProblem? Float.isFinite .notFinite s!"{part}.offsets"),
    p.gains.bind (rowProblem? Settings.Assignment.usableFactor .unusableFactor s!"{part}.gains"),
    p.transmissions.bind
      (rowProblem? Settings.Assignment.usableFactor .unusableFactor s!"{part}.transmissions")]

/-- The startup script is a JSON object. -/
def scriptProblem? (script : String) : Option Problem :=
  match Json.parse? script with
  | none => some .scriptNotJson
  | some (.obj _) => none
  | some _ => some .scriptNotObject

/-- A log file has to rotate in one of three ways, even if none is written. Its name and its
filters are checked when it is opened. -/
def Logging.problem? (l : Logging) : Option Problem :=
  l.rotation.bind fun r => require (r = "never" || r = "daily" || r = "hourly") .rotation

/-- The pins of the bus in the order in which they are checked. The button is not
among them and may share a pin. -/
def Pins.bus (p : Pins) : List Nat := p.data.toList ++ [p.clock, p.piOk, p.fail, p.reset]

/-- Highest pin number. -/
def maxPin : Nat := 27

/-- The first pin that is out of range or in use already. -/
def pinProblem? (used : List Nat) : List Nat → Option Problem
  | [] => none
  | pin :: rest =>
    if maxPin < pin then some (.pinOutOfRange pin)
    else if pin ∈ used then some (.pinTwice pin)
    else pinProblem? (pin :: used) rest

/-- The simulated waveform has to be finite and the pins of the bus to differ, whichever of the
two is used. -/
def Hardware.problem? (h : Hardware) : Option Problem :=
  firstProblem [
    require (h.simMidpoint.isFinite && h.simAmplitude.isFinite) .simulationNotFinite,
    pinProblem? [] h.pins.bus]

/-- The first problem of a configuration. -/
def problem? (c : Config) : Option Problem :=
  firstProblem ([
    c.acquisition.problem?,
    c.button.problem?,
    calibrationProblem? "calibration" c.calibration]
    ++ c.profiles.map (fun p => calibrationProblem? s!"profiles.{p.1}" p.2.preset)
    ++ [
    c.startupScript.bind scriptProblem?,
    c.logging.problem?,
    c.hardware.problem?])

end QuadDaq.Config
