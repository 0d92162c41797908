import QuadDaq.Bridge
import QuadDaq.Settings.Key

/-!
# Refused settings

Why the store refuses a value or a document. A refusal names its cause; the
wording is in `Refusal.message` alone.
-/

namespace QuadDaq.Settings

/-- Highest supported tick rate, in ticks per second. -/
def maxSampleRate : Nat := 48000

/-- Largest accepted number of rows per batch. -/
def maxBurstSize : Nat := 1000000

/-- The cause of a refusal. -/
inductive Refusal
  /-- The document is some other JSON value. -/
  | notAnObject
  /-- No setting has this name. -/
  | unknownName (name : String)
  /-- The setting can be queried only. -/
  | readOnly (key : Key)
  /-- The value is not a 64-bit integer. -/
  | notAnInteger (key : Key)
  /-- The number selects no bridge. -/
  | unknownBridge (n : Int)
  /-- The value is not an array. -/
  | notAnArray (key : Key)
  /-- The array has another length than the number of channels. -/
  | wrongLength (key : Key) (got : Nat)
  /-- Some item of the array is not a number. -/
  | notNumbers (key : Key)
  /-- The value of this channel is infinite or not a number. -/
  | notFinite (key : Key) (channel : Nat)
  /-- The factor of this channel is zero, infinite or not a number. -/
  | unusableFactor (key : Key) (channel : Nat)
  /-- The value is not an unsigned integer. -/
  | notPositive (key : Key)
  /-- The number lies outside `1 .. limit`. -/
  | outOfRange (key : Key) (limit got : Nat)
  /-- A stream runs, and the setting shapes it. -/
  | frozen (key : Key)
  deriving Repr, DecidableEq

/-- The wording of a refusal. -/
def Refusal.message : Refusal → String
  | notAnObject => "settings document must be a JSON object"
  | unknownName name => s!"unknown setting {name}"
  | readOnly key => s!"{key.name} is read-only"
  | notAnInteger key => s!"{key.name} must be an integer"
  | unknownBridge n => Bridge.unknownMessage n
  | notAnArray key => s!"{key.name} must be an array of 4 numbers"
  | wrongLength key got => s!"{key.name} needs 4 values, got {got}"
  | notNumbers key => s!"{key.name} values must be numbers"
  | notFinite key ch => s!"{key.name}[{ch}] must be finite"
  | unusableFactor key ch => s!"{key.name}[{ch}] must be finite and non-zero"
  | notPositive key => s!"{key.name} must be a positive integer"
  | outOfRange key limit got => s!"{key.name} must be in [1, {limit}], got {got}"
  | frozen key => s!"{key.name} can only change while the stream is stopped"

end QuadDaq.Settings
