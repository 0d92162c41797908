import QuadDaq.Config.Types
import QuadDaq.Toml.Parser

/-!
# Configuration files

From a TOML document to a configuration. Keys that no section knows are ignored. A
key that is missing leaves the default, and a value of the wrong type or out of the
range of its field fails the whole file.

A section is written as a table, or as an array with the values in the order of the
fields; items beyond the last field are ignored, like unknown keys.
-/

namespace QuadDaq.Config

/-- A section of a file, by name or by position. -/
inductive Section
  | named (entries : List (String × Toml))
  | listed (items : List Toml)

namespace Section

/-- The section that a value is. A date or time has none of the keys of a section. -/
def of? : Toml → Option Section
  | .table entries => some (.named entries)
  | .arr items => some (.listed items)
  | .datetime => some (.named [])
  | _ => none

/-- The value of a field. -/
def get? (s : Section) (position : Nat) (key : String) : Option Toml :=
  match s with
  | named entries => (entries.find? fun e => e.1 = key).map Prod.snd
  | listed items => items[position]?

variable {α : Type}

/-- A field that must be there. -/
def required (s : Section) (position : Nat) (key : String) (decode : Toml → Option α) : Option α :=
  (s.get? position key).bind decode

/-- A field with a default. -/
def withDefault (s : Section) (position : Nat) (key : String) (decode : Toml → Option α)
    (default : α) : Option α :=
  match s.get? position key with
  | none => some default
  | some v => decode v

/-- A field that may be missing. -/
def optional (s : Section) (position : Nat) (key : String) (decode : Toml → Option α) :
    Option (Option α) :=
  s.withDefault position key (fun v => (decode v).map some) none

end Section

/-- A whole number of any size that the format has. -/
def integer : Toml → Option Int
  | .int n => some n
  | _ => none

/-- An unsigned number of so many bits. -/
def unsigned (bits : Nat) : Toml → Option Nat
  | .int n => if 0 ≤ n ∧ n < Int.pow 2 bits then some n.toNat else none
  | _ => none

/-- A double; a whole number is rounded to the nearest one. -/
def double : Toml → Option Float
  | .float x => some x
  | .int n => some (Float.ofInt n)
  | _ => none

/-- A truth value. -/
def truth : Toml → Option Bool
  | .bool b => some b
  | _ => none

/-- A text. -/
def text : Toml → Option String
  | .str s => some s
  | _ => none

/-- An array of at least so many items, of which the first ones are taken. -/
def firstItems {α : Type} (n : Nat) (decode : Toml → Option α) : Toml → Option (Vector α n)
  | .arr items => do
    let values ← (items.take n).mapM decode
    if h : values.toArray.size = n then some ⟨values.toArray, h⟩ else none
  | _ => none

/-- A value for each channel. -/
def row : Toml → Option Row := firstItems 4 double

/-- The backend with this name. -/
def Backend.ofName? (name : String) : Option Backend :=
  if name = "sim" then some .sim else if name = "gpio" then some .gpio else none

/-- A backend: its name, or a table that binds its name to something empty. -/
def Backend.ofToml? : Toml → Option Backend
  | .str s => Backend.ofName? s
  | .table [(name, content)] =>
    match content with
    | .table [] => Backend.ofName? name
    | .arr [] => Backend.ofName? name
    | _ => none
  | _ => none

/-- The section on sampling. -/
def Acquisition.ofToml? (v : Toml) : Option Acquisition := do
  let s ← Section.of? v
  let d : Acquisition := {}
  return {
    sampleRate := ← s.withDefault 0 "sample_rate_hz" (unsigned 32) d.sampleRate
    batchRows := ← s.withDefault 1 "batch_rows" (unsigned 64) d.batchRows
    queueCapacity := ← s.withDefault 2 "queue_capacity" (unsigned 64) d.queueCapacity
    settlingTicks := ← s.withDefault 3 "settling_ticks" (unsigned 32) d.settlingTicks
    startupDiscard := ← s.withDefault 4 "startup_discard_ticks" (unsigned 32) d.startupDiscard
    readTimeoutMillis := ← s.withDefault 5 "read_timeout_ms" (unsigned 64) d.readTimeoutMillis }

/-- The section on the button. -/
def Button.ofToml? (v : Toml) : Option Button := do
  let s ← Section.of? v
  let d : Button := {}
  return {
    pollMillis := ← s.withDefault 0 "poll_ms" (unsigned 64) d.pollMillis
    debounceCount := ← s.withDefault 1 "debounce_n" (unsigned 8) d.debounceCount
    activeLow := ← s.withDefault 2 "active_low" truth d.activeLow }

/-- The calibration section. -/
def presetOfToml? (v : Toml) : Option Settings.Preset := do
  let s ← Section.of? v
  return {
    bridge := ← s.optional 0 "bridge" integer
    offsets := ← s.optional 1 "offsets" row
    gains := ← s.optional 2 "gains" row
    transmissions := ← s.optional 3 "transmissions" row }

/-- A named input. -/
def Profile.ofToml? (v : Toml) : Option Profile := do
  let s ← Section.of? v
  return {
    bridge := ← s.required 0 "bridge" integer
    offsets := ← s.required 1 "offsets" row
    gains := ← s.required 2 "gains" row
    transmissions := ← s.required 3 "transmissions" row }

/-- Puts a named input at its place in the order of names. -/
def insertProfile (name : String) (p : Profile) : List (String × Profile) → List (String × Profile)
  | [] => [(name, p)]
  | (n, q) :: rest =>
    if name < n then (name, p) :: (n, q) :: rest else (n, q) :: insertProfile name p rest

/-- The named inputs. -/
def profilesOfToml? : Toml → Option (List (String × Profile))
  | .table entries =>
    entries.foldlM (fun acc e => do return insertProfile e.1 (← Profile.ofToml? e.2) acc) []
  | _ => none

/-- The section on logging. -/
def Logging.ofToml? (v : Toml) : Option Logging := do
  let s ← Section.of? v
  return {
    file := ← s.optional 0 "file" text
    level := ← s.optional 1 "level" text
    rotation := ← s.optional 2 "rotation" text }

/-- The pins of the board. -/
def Pins.ofToml? (v : Toml) : Option Pins := do
  let s ← Section.of? v
  let d : Pins := {}
  return {
    data := ← s.withDefault 0 "data" (firstItems 8 (unsigned 8)) d.data
    clock := ← s.withDefault 1 "clock" (unsigned 8) d.clock
    piOk := ← s.withDefault 2 "pi_ok" (unsigned 8) d.piOk
    fail := ← s.withDefault 3 "fail" (unsigned 8) d.fail
    reset := ← s.withDefault 4 "reset" (unsigned 8) d.reset
    button := ← s.optional 5 "button" (unsigned 8) }

/-- The section on hardware. -/
def Hardware.ofToml? (v : Toml) : Option Hardware := do
  let s ← Section.of? v
  let d : Hardware := {}
  return {
    backend := ← s.withDefault 0 "backend" Backend.ofToml? d.backend
    pins := ← s.withDefault 1 "pins" Pins.ofToml? d.pins
    simMidpoint := ← s.withDefault 2 "sim_midpoint" double d.simMidpoint
    simAmplitude := ← s.withDefault 3 "sim_amplitude" double d.simAmplitude }

/-- The configuration that a document is. -/
def ofToml? (v : Toml) : Option Config := do
  let s ← Section.of? v
  return {
    startupScript := ← s.optional 0 "startup_script" text
    acquisition := ← s.withDefault 1 "acquisition" Acquisition.ofToml? {}
    button := ← s.withDefault 2 "button" Button.ofToml? {}
    calibration := ← s.withDefault 3 "calibration" presetOfToml? {}
    profiles := ← s.withDefault 4 "profiles" profilesOfToml? []
    logging := ← s.withDefault 5 "logging" Logging.ofToml? {}
    hardware := ← s.withDefault 6 "hardware" Hardware.ofToml? {} }

/-- Reads a configuration file. -/
def parse? (text : String) : Option Config := (Toml.parse? text).bind ofToml?

end QuadDaq.Config
