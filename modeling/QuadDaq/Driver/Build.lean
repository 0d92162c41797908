import QuadDaq.Driver.Basic

/-!
# Building a driver

A driver needs a board and parameters within their limits. The limits are checked
in a fixed order and the first one that is exceeded is the error; the initial
calibration comes last and is validated like any write of the store.
-/

namespace QuadDaq

/-- A limit on the parameters of a driver. -/
inductive ConfigLimit
  | sampleRate
  | batchRows
  | queueCapacity
  | readTimeout
  | pollMillis
  | debounceCount
  deriving Repr, DecidableEq

/-- The wording of an exceeded limit. -/
def ConfigLimit.message : ConfigLimit → String
  | sampleRate => "sample_rate_hz must be in [1, 48000]"
  | batchRows => "batch_rows must be >= 1"
  | queueCapacity => "queue_capacity must be >= 1"
  | readTimeout => "read_timeout must be > 0"
  | pollMillis => "button poll_ms must be >= 1"
  | debounceCount => "button debounce_n must be >= 1"

/-- Why a driver cannot be built. -/
inductive BuildError
  | missingBoard
  | invalidConfig (limit : ConfigLimit)
  | invalidCalibration (refusal : Settings.Refusal)
  deriving Repr, DecidableEq

/-- The wording of a failure to build. -/
def BuildError.message : BuildError → String
  | missingBoard => "missing sensor front end"
  | invalidConfig limit => "invalid config: " ++ limit.message
  | invalidCalibration refusal =>
    "invalid calibration: " ++ (DriverError.invalidArgument refusal.message).message

/-- The first limit that parameters exceed. -/
def exceededLimit? (config : AcquisitionConfig) (button : ButtonConfig) : Option ConfigLimit :=
  if config.sampleRate < 1 || Settings.maxSampleRate < config.sampleRate then some .sampleRate
  else if config.batchRows = 0 then some .batchRows
  else if config.queueCapacity = 0 then some .queueCapacity
  else if config.readTimeout = 0 then some .readTimeout
  else if button.pollMillis = 0 then some .pollMillis
  else if button.debounceCount = 0 then some .debounceCount
  else none

/-- The shape of streams under these parameters. -/
def AcquisitionConfig.shape (config : AcquisitionConfig) : Settings.Shape where
  sampleRate := config.sampleRate
  batchRows := config.batchRows
  settlingTicks := config.settlingTicks
  queueCapacity := config.queueCapacity

/-- What a driver is built from. -/
structure DriverPlan (β : Type) where
  board : Option β
  /-- A button is fitted. -/
  hasButton : Bool := false
  config : AcquisitionConfig := {}
  button : ButtonConfig := {}
  calibration : Option Settings.Preset := none

namespace DriverPlan

variable {β : Type}

/-- The engine of a new driver. -/
def engine (plan : DriverPlan β) (board : β) (store : Settings.Store) : Engine β where
  config := plan.config
  buttonConfig := plan.button
  board := board
  button := if plan.hasButton then some (.ofCount plan.button.debounceCount) else none
  store := store
  latestRate := plan.config.sampleRate

/-- The store with the initial calibration. -/
def store (plan : DriverPlan β) : Except Settings.Refusal Settings.Store :=
  let empty := Settings.Store.ofShape plan.config.shape
  match plan.calibration with
  | none => .ok empty
  | some preset => empty.applyPreset preset

/-- Builds a driver, or says what is wrong first. -/
def build (plan : DriverPlan β) : Except BuildError (Driver β) :=
  match plan.board with
  | none => .error .missingBoard
  | some board =>
    match exceededLimit? plan.config plan.button with
    | some limit => .error (.invalidConfig limit)
    | none =>
      match plan.store with
      | .error refusal => .error (.invalidCalibration refusal)
      | .ok store => .ok { engine := plan.engine board store }

end DriverPlan

end QuadDaq
