import QuadDaq.Channel

/-!
# Batches

Calibrated rows leave a stream in batches of a fixed number of rows.
-/

namespace QuadDaq

/-- Calibrated rows in tick order. -/
structure Batch where
  /-- Tick of the first row, counted from the start of the stream. -/
  firstTick : Nat
  rows : Array Row

namespace Batch

/-- Number of rows. -/
def size (b : Batch) : Nat := b.rows.size

end Batch

end QuadDaq
