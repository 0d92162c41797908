import QuadDaq.Calibration
import QuadDaq.Board.Basic
import QuadDaq.Delivery.Batch

/-!
# The sampler

**What becomes of each tick of one stream.** A tick reads one row from the board.
The row is thrown away while the *discard guard* is up, else calibrated with the
snapshot taken at the beginning of the tick, and collected into a batch.

* The guard is a countdown. It starts with the startup discard, and a tick that
  sees a new bridge epoch raises it to the settling time if it is lower. Faults
  count it down as well: a window is a number of ticks, whatever they bring.
* A batch is complete with its last row. Rows of an incomplete batch are never
  handed out.

The sampler knows neither the board nor the store. It is told the epoch at the
beginning of a tick and the outcome of the read at its end.
-/

namespace QuadDaq

/-- What a stream is started with. -/
structure StreamPlan where
  /-- Rows per batch; zero counts as one. -/
  batchRows : Nat
  /-- Ticks without rows after a bridge change. -/
  settlingTicks : Nat
  /-- Ticks without rows at the start. -/
  startupDiscard : Nat
  /-- Ticks between polls of the button. -/
  pollTicks : Nat
  deriving Repr, DecidableEq

/-- The state of sampling one stream. -/
structure Sampler where
  plan : StreamPlan
  /-- Number of ticks completed. -/
  tick : Nat := 0
  /-- Ticks for which the discard guard stays up. -/
  discardLeft : Nat
  /-- Bridge epoch seen last. -/
  epoch : UInt64
  /-- Rows of the incomplete batch. -/
  pending : Array Row := #[]
  /-- Tick of the first of them. -/
  pendingFirst : Nat := 0

/-- What a tick brought. -/
inductive TickResult
  /-- The read failed. -/
  | fault (f : BoardFault)
  /-- The row fell under the discard guard. -/
  | discarded
  /-- The row could not be calibrated. -/
  | incomplete (m : Missing)
  /-- A calibrated row. -/
  | row (r : Row)

namespace Sampler

/-- A sampler at the start of a stream, which takes the bridge epoch of that
moment as seen. -/
def start (plan : StreamPlan) (epoch : UInt64) : Sampler where
  plan := { plan with batchRows := max plan.batchRows 1, pollTicks := max plan.pollTicks 1 }
  discardLeft := plan.startupDiscard
  epoch := epoch

/-- The bridge has to be routed again before the next read. -/
def needsRouting (s : Sampler) (epoch : UInt64) : Bool := s.epoch != epoch

/-- Takes notice of the bridge epoch at the beginning of a tick: a new one raises
the guard. -/
def observe (s : Sampler) (epoch : UInt64) : Sampler :=
  if s.needsRouting epoch then
    { s with epoch := epoch, discardLeft := max s.discardLeft s.plan.settlingTicks }
  else s

/-- The button is polled at this tick. -/
def pollsButton (s : Sampler) : Bool := s.tick % s.plan.pollTicks == 0

/-- The guard is up at this tick. -/
def isGuarded (s : Sampler) : Bool := 0 < s.discardLeft

/-- What a row means at this tick. -/
def resultOfRow (s : Sampler) (snapshot : Settings.Snapshot) (raw : Row) : TickResult :=
  if s.isGuarded then .discarded
  else match snapshot.calibrate raw with
    | .ok row => .row row
    | .error m => .incomplete m

/-- What the end of a read means at this tick; a crash brings nothing. -/
def result? (s : Sampler) (snapshot : Settings.Snapshot) : ReadOutcome → Option TickResult
  | .row raw => some (s.resultOfRow snapshot raw)
  | .fault f => some (.fault f)
  | .crash => none

/-- Adds a row of this tick to the incomplete batch, and gives the batch if it is
complete with it. -/
def collect (s : Sampler) (row : Row) : Sampler × Option Batch :=
  let first := if s.pending.isEmpty then s.tick else s.pendingFirst
  let rows := s.pending.push row
  if s.plan.batchRows ≤ rows.size then
    ({ s with pending := #[], pendingFirst := first }, some ⟨first, rows⟩)
  else ({ s with pending := rows, pendingFirst := first }, none)

/-- Ends a tick that brought this. -/
def advance (s : Sampler) (result : TickResult) : Sampler × Option Batch :=
  let (s, batch?) := match result with
    | .row row => s.collect row
    | _ => (s, none)
  ({ s with discardLeft := s.discardLeft - 1, tick := s.tick + 1 }, batch?)

end Sampler

end QuadDaq
