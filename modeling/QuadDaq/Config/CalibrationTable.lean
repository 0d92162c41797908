import QuadDaq.Settings.Store

/-!
# Calibration tables

A calibration that is given as one row for each channel, in any order. The table is
complete if there are four rows and no channel is out of range or listed twice.
-/

namespace QuadDaq

/-- The calibration of one channel. -/
structure CalibrationRow where
  channel : Nat
  offset : Float
  gain : Float
  transmission : Float

/-- Offsets, gains and transmissions of all channels. -/
structure CalibrationTable where
  offsets : Row
  gains : Row
  transmissions : Row

/-- What is wrong with the rows of a table. -/
inductive TableProblem
  | rowCount (got : Nat)
  | channelOutOfRange (channel : Nat)
  | channelTwice (channel : Nat)
  | offsetNotFinite (channel : Nat)
  | unusableGain (channel : Nat)
  | unusableTransmission (channel : Nat)
  deriving Repr, DecidableEq

/-- The wording of a problem. -/
def TableProblem.message : TableProblem → String
  | rowCount got => s!"calibration requires exactly 4 rows, got {got}"
  | channelOutOfRange ch => s!"calibration channel {ch} out of range 0..4"
  | channelTwice ch => s!"calibration channel {ch} listed twice"
  | offsetNotFinite ch => s!"channel {ch} offset must be finite"
  | unusableGain ch => s!"channel {ch} gain must be finite and non-zero"
  | unusableTransmission ch => s!"channel {ch} transmission must be finite and non-zero"

namespace CalibrationTable

/-- A table with nothing filled in. -/
def blank : CalibrationTable where
  offsets := PerChannel.uniform 0.0
  gains := PerChannel.uniform 0.0
  transmissions := PerChannel.uniform 0.0

/-- What is wrong with a row after rows of these channels. -/
def rowProblem? (seen : List Nat) (r : CalibrationRow) : Option TableProblem :=
  if channelCount ≤ r.channel then some (.channelOutOfRange r.channel)
  else if r.channel ∈ seen then some (.channelTwice r.channel)
  else if !r.offset.isFinite then some (.offsetNotFinite r.channel)
  else if !Settings.Assignment.usableFactor r.gain then some (.unusableGain r.channel)
  else if !Settings.Assignment.usableFactor r.transmission then
    some (.unusableTransmission r.channel)
  else none

/-- Enters a row. -/
def enter (t : CalibrationTable) (r : CalibrationRow) : CalibrationTable where
  offsets := t.offsets.setIfInBounds r.channel r.offset
  gains := t.gains.setIfInBounds r.channel r.gain
  transmissions := t.transmissions.setIfInBounds r.channel r.transmission

/-- Enters rows in order, up to the first one with a problem. -/
def enterAll (t : CalibrationTable) (seen : List Nat) :
    List CalibrationRow → Except TableProblem CalibrationTable
  | [] => .ok t
  | r :: rest =>
    match rowProblem? seen r with
    | some problem => .error problem
    | none => enterAll (t.enter r) (r.channel :: seen) rest

/-- The table with these rows. -/
def ofRows (rows : List CalibrationRow) : Except TableProblem CalibrationTable :=
  if rows.length ≠ channelCount then .error (.rowCount rows.length)
  else enterAll blank [] rows

/-- The table as a calibration; it does not route the bridge. -/
def preset (t : CalibrationTable) : Settings.Preset where
  offsets := some t.offsets
  gains := some t.gains
  transmissions := some t.transmissions

end CalibrationTable

end QuadDaq
