import QuadDaq.Channel
import QuadDaq.Driver.Build

/-!
# Configuration

What a configuration file sets, with the values that hold where it is silent.
-/

namespace QuadDaq.Config

/-- The section on sampling. -/
structure Acquisition where
  sampleRate : Nat := 1000
  batchRows : Nat := 100
  queueCapacity : Nat := 8
  settlingTicks : Nat := 50
  startupDiscard : Nat := 1
  readTimeoutMillis : Nat := 5

/-- The section on the button. -/
structure Button where
  pollMillis : Nat := 10
  debounceCount : Nat := 3
  /-- The button pulls its line down. -/
  activeLow : Bool := false

/-- The section on logging. -/
structure Logging where
  file : Option String := none
  level : Option String := none
  rotation : Option String := none

/-- What samples come from. -/
inductive Backend
  | sim
  | gpio
  deriving Repr, DecidableEq

/-- The pins of the board, by their numbers on the connector. -/
structure Pins where
  /-- The eight data lines, the one of the highest bit first. -/
  data : Vector Nat 8 := #v[24, 25, 7, 5, 6, 12, 13, 16]
  clock : Nat := 4
  piOk : Nat := 15
  fail : Nat := 18
  reset : Nat := 17
  button : Option Nat := none

/-- The section on hardware. -/
structure Hardware where
  backend : Backend := .sim
  pins : Pins := {}
  simMidpoint : Float := 32767.0
  simAmplitude : Float := 3276.0

/-- A named input: a complete calibration. -/
structure Profile where
  bridge : Int
  offsets : Row
  gains : Row
  transmissions : Row

/-- The calibration that a profile is. -/
def Profile.preset (p : Profile) : Settings.Preset where
  bridge := some p.bridge
  offsets := some p.offsets
  gains := some p.gains
  transmissions := some p.transmissions

end QuadDaq.Config

namespace QuadDaq

/-- A configuration. -/
structure Config where
  /-- A settings document that is applied once to the new driver. -/
  startupScript : Option String := none
  acquisition : Config.Acquisition := {}
  button : Config.Button := {}
  calibration : Settings.Preset := {}
  /-- Named inputs in ascending order of their names. -/
  profiles : List (String × Config.Profile) := []
  logging : Config.Logging := {}
  hardware : Config.Hardware := {}

namespace Config

/-- The parameters of streams. -/
def Acquisition.toConfig (a : Acquisition) : AcquisitionConfig where
  sampleRate := a.sampleRate
  batchRows := a.batchRows
  queueCapacity := a.queueCapacity
  settlingTicks := a.settlingTicks
  startupDiscard := a.startupDiscard
  readTimeout := .millis a.readTimeoutMillis

/-- The parameters of the button. -/
def Button.toConfig (b : Button) : ButtonConfig where
  pollMillis := b.pollMillis
  debounceCount := b.debounceCount

/-- The refusal of a name that no profile has. -/
def unknownProfileMessage (name : String) (known : List String) : String :=
  let list := if known.isEmpty then "none" else ", ".intercalate known
  s!"unknown input profile '{name}' (known: {list})"

/-- The calibration to start with: that of the named profile, or the calibration
section if no name is given. The two are never merged. -/
def selectCalibration (c : Config) : Option String → Except String Settings.Preset
  | none => .ok c.calibration
  | some name =>
    match c.profiles.find? fun p => p.1 = name with
    | some (_, profile) => .ok profile.preset
    | none => .error (unknownProfileMessage name (c.profiles.map Prod.fst))

end Config

end QuadDaq
