import QuadDaq.Channel
import QuadDaq.Settings.Refusal

/-!
# The settings store

The store holds what a tick needs to turn a raw row into a calibrated one (the
**snapshot**) and what a stream is built with when it starts (the **shape**).

* Every write goes through `Store.commit` as a list of validated assignments: all
  of them take effect or none does.
* The **bridge epoch** counts bridge assignments modulo `2 ^ 64`, also those that
  repeat the current selection. A sampler compares epochs, not selections, to
  learn that the board has to be routed and settled again.
* While a stream runs the shape is **frozen**: assignments to it are refused,
  together with everything they came with.
-/

namespace QuadDaq.Settings

/-- Calibration and routing at one instant. Gains and transmissions are unset at
first, and nothing can be calibrated before both are given. -/
structure Snapshot where
  bridge : Bridge := .off
  /-- Number of bridge assignments so far, modulo `2 ^ 64`. -/
  bridgeEpoch : UInt64 := 0
  offsets : Row := PerChannel.uniform 0.0
  gains : Option Row := none
  transmissions : Option Row := none

/-- What a stream is built with when it starts. -/
structure Shape where
  /-- Ticks per second. -/
  sampleRate : Nat
  /-- Rows per batch. -/
  batchRows : Nat
  /-- Ticks without rows after a bridge change. -/
  settlingTicks : Nat
  /-- Batches that wait for the consumer at most. -/
  queueCapacity : Nat
  deriving Repr, DecidableEq

/-- A validated write of one setting. -/
inductive Assignment
  | bridge (b : Bridge)
  | offsets (row : Row)
  | gains (row : Row)
  | transmissions (row : Row)
  | sampleRate (hz : Nat)
  | burstSize (rows : Nat)

namespace Assignment

/-- The setting, if it belongs to the shape of the stream. -/
def shapeKey? : Assignment → Option Key
  | sampleRate _ => some .sampleRate
  | burstSize _ => some .burstSize
  | _ => none

/-- Effect on the snapshot. -/
def onSnapshot (s : Snapshot) : Assignment → Snapshot
  | bridge b => { s with bridge := b, bridgeEpoch := s.bridgeEpoch + 1 }
  | offsets row => { s with offsets := row }
  | gains row => { s with gains := some row }
  | transmissions row => { s with transmissions := some row }
  | sampleRate _ => s
  | burstSize _ => s

/-- Effect on the shape. -/
def onShape (s : Shape) : Assignment → Shape
  | sampleRate hz => { s with sampleRate := hz }
  | burstSize rows => { s with batchRows := rows }
  | _ => s

/-- A bridge assignment for the number of a selection. -/
def ofSelection (n : Int) : Except Refusal Assignment :=
  match Bridge.ofInt? n with
  | some b => .ok (.bridge b)
  | none => .error (.unknownBridge n)

/-- Every offset is finite. -/
def checkOffsets (row : Row) : Except Refusal Assignment :=
  match row.firstFailing? Float.isFinite with
  | none => .ok (.offsets row)
  | some ch => .error (.notFinite .offset ch)

/-- A factor that can be multiplied with and divided by. -/
def usableFactor (x : Float) : Bool := x.isFinite && !(x == 0.0)

/-- Every gain is finite and not zero. -/
def checkGains (row : Row) : Except Refusal Assignment :=
  match row.firstFailing? usableFactor with
  | none => .ok (.gains row)
  | some ch => .error (.unusableFactor .gain ch)

/-- Every transmission is finite and not zero. -/
def checkTransmissions (row : Row) : Except Refusal Assignment :=
  match row.firstFailing? usableFactor with
  | none => .ok (.transmissions row)
  | some ch => .error (.unusableFactor .transmission ch)

/-- The rate is between one and the highest supported one. -/
def checkSampleRate (hz : Nat) : Except Refusal Assignment :=
  if 1 ≤ hz ∧ hz ≤ maxSampleRate then .ok (.sampleRate hz)
  else .error (.outOfRange .sampleRate maxSampleRate hz)

/-- The batch has between one row and the largest accepted number. -/
def checkBurstSize (rows : Nat) : Except Refusal Assignment :=
  if 1 ≤ rows ∧ rows ≤ maxBurstSize then .ok (.burstSize rows)
  else .error (.outOfRange .burstSize maxBurstSize rows)

end Assignment

/-- A calibration that is given field by field; a missing field leaves the store
as it is. -/
structure Preset where
  bridge : Option Int := none
  offsets : Option Row := none
  gains : Option Row := none
  transmissions : Option Row := none

namespace Preset

/-- Offsets zero, gains and transmissions one: raw values pass unchanged. -/
def identity : Preset where
  offsets := some (PerChannel.uniform 0.0)
  gains := some (PerChannel.uniform 1.0)
  transmissions := some (PerChannel.uniform 1.0)

/-- The assignment for a field, if the field is given. -/
def field {α : Type} (check : α → Except Refusal Assignment) :
    Option α → Except Refusal (List Assignment)
  | none => .ok []
  | some a => (check a).map fun x => [x]

/-- The assignments of a preset, the first invalid field being its refusal. -/
def assignments (p : Preset) : Except Refusal (List Assignment) := do
  let bridge ← field Assignment.ofSelection p.bridge
  let offsets ← field Assignment.checkOffsets p.offsets
  let gains ← field Assignment.checkGains p.gains
  let transmissions ← field Assignment.checkTransmissions p.transmissions
  return bridge ++ offsets ++ gains ++ transmissions

end Preset

/-- The settings, and whether a stream has frozen its shape. -/
structure Store where
  snapshot : Snapshot := {}
  shape : Shape
  frozen : Bool := false

namespace Store

/-- A store with nothing calibrated. -/
def ofShape (shape : Shape) : Store where
  shape := shape

/-- No assignment to the shape from here on. -/
def freeze (s : Store) : Store := { s with frozen := true }

/-- The shape can be assigned again. -/
def release (s : Store) : Store := { s with frozen := false }

/-- The store with one assignment carried out. -/
def assign (s : Store) (a : Assignment) : Store :=
  { s with snapshot := a.onSnapshot s.snapshot, shape := a.onShape s.shape }

/-- Carries out all assignments, or none if one of them belongs to a frozen
shape. -/
def commit (s : Store) (batch : List Assignment) : Except Refusal Store :=
  match if s.frozen then batch.findSome? Assignment.shapeKey? else none with
  | some key => .error (.frozen key)
  | none => .ok (batch.foldl assign s)

/-- Selects the bridge, and advances its epoch even if the selection stays. -/
def setBridge (s : Store) (selection : Int) : Except Refusal Store := do
  s.commit [← Assignment.ofSelection selection]

/-- Sets the offset of every channel. -/
def setOffsets (s : Store) (row : Row) : Except Refusal Store := do
  s.commit [← Assignment.checkOffsets row]

/-- Sets the gain of every channel. -/
def setGains (s : Store) (row : Row) : Except Refusal Store := do
  s.commit [← Assignment.checkGains row]

/-- Sets the transmission of every channel. -/
def setTransmissions (s : Store) (row : Row) : Except Refusal Store := do
  s.commit [← Assignment.checkTransmissions row]

/-- Sets the tick rate of the next stream. -/
def setSampleRate (s : Store) (hz : Nat) : Except Refusal Store := do
  s.commit [← Assignment.checkSampleRate hz]

/-- Sets the number of rows per batch of the next stream. -/
def setBurstSize (s : Store) (rows : Nat) : Except Refusal Store := do
  s.commit [← Assignment.checkBurstSize rows]

/-- Stores the given fields of a preset; all are validated before any is
stored. -/
def applyPreset (s : Store) (p : Preset) : Except Refusal Store := do
  s.commit (← p.assignments)

end Store

end QuadDaq.Settings
