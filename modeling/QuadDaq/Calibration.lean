import QuadDaq.Settings.Store

/-!
# Calibration

**From raw values to physical ones.** Each channel is corrected on its own by
`(raw - offset) * gain * transmission`, in this order of operations. A row can be
calibrated only after gains and transmissions are both set.
-/

namespace QuadDaq

/-- The corrected value of one channel. Nothing is clamped. -/
def corrected (raw offset gain transmission : Float) : Float :=
  (raw - offset) * gain * transmission

/-- The part of a calibration that is not set. -/
inductive Missing
  | gains
  | transmissions
  deriving Repr, DecidableEq

/-- The wording of a missing part. -/
def Missing.message : Missing → String
  | gains => "sensor gains not set"
  | transmissions => "sensor transmissions not set"

/-- A raw row calibrated with one snapshot, and with that alone. -/
def Settings.Snapshot.calibrate (s : Snapshot) (raw : Row) : Except Missing Row :=
  match s.gains, s.transmissions with
  | none, _ => .error .gains
  | _, none => .error .transmissions
  | some gains, some transmissions =>
    .ok (Vector.ofFn fun ch => corrected raw[ch] s.offsets[ch] gains[ch] transmissions[ch])

end QuadDaq
