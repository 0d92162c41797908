import QuadDaq.Decimal.Fixed
import QuadDaq.Delivery.Basic
import QuadDaq.Json.Printer
import QuadDaq.Stream.Engine

/-!
# What a command prints

Every piece of output has two forms: a line for a person and a JSON object for a
program. Which one is printed is decided for the whole command.
-/

namespace QuadDaq.Cli

/-- A printed text. -/
inductive Print
  | out (text : String)
  | err (text : String)
  deriving Repr, DecidableEq

/-- How a command ends. -/
inductive Ending
  | exit (code : Nat)
  /-- It is broken off where it stands: by a log file that cannot be written, or by a
  duration that is not representable, with the stream still running. -/
  | aborted
  deriving Repr, DecidableEq

/-- A finished command. -/
structure Report where
  prints : List Print
  ending : Ending
  deriving Repr, DecidableEq

namespace Report

/-- The texts on standard output. -/
def stdout (r : Report) : List String :=
  r.prints.filterMap fun | .out text => some text | .err _ => none

/-- The texts on standard error. -/
def stderr (r : Report) : List String :=
  r.prints.filterMap fun | .err text => some text | .out _ => none

end Report

/-- Prints the form that is asked for. -/
def printed (json : Bool) (object : Json) (line : String) : Print :=
  .out (if json then object.render else line)

/-- A natural number in JSON. -/
def natJson (n : Nat) : Json := .int n

/-- The values of a row in JSON. -/
def rowJson (r : Row) : Json := .arr (r.toList.map .float)

/-- The mean of rows, channel by channel, added up in their order. Without rows it is
zero. -/
def mean (rows : List Row) : Row :=
  let sum := rows.foldl (fun acc r => Vector.zipWith (· + ·) acc r) (PerChannel.uniform 0.0)
  sum.map (· / (max rows.length 1).toUInt64.toFloat)

/-- A batch. -/
def printBatch (json : Bool) (b : Batch) (dropped : Nat) : Print :=
  let m := mean b.rows.toList
  let means := ", ".intercalate (m.toList.map (Decimal.fixed 3))
  printed json
    (.obj [("dropped", natJson dropped), ("first_tick", natJson b.firstTick), ("mean", rowJson m),
      ("rows", natJson b.size), ("type", .str "batch")])
    s!"batch tick={b.firstTick} rows={b.size} dropped={dropped} mean=[{means}]"

/-- A button transition. -/
def printTransition (json : Bool) (t : Transition) : Print :=
  let what := if t.pressed then "pressed" else "released"
  printed json
    (.obj [("counter", natJson t.counter), ("pressed", .bool t.pressed), ("type", .str "button")])
    s!"button {what} (#{t.counter})"

/-- Errors: a line for each code, or one object. -/
def printErrors (json : Bool) (errors : ErrorSet) : List Print :=
  if json then
    let entry (e : ErrorEntry) : Json :=
      .obj [("code", .str e.code.name), ("count", natJson e.count), ("message", .str e.message)]
    let object : Json := .obj [("entries", .arr (errors.map entry)), ("type", .str "errors")]
    [.out object.render]
  else errors.map fun e => .out s!"error {e.code.name} x{e.count}: {e.message}"

/-- The end of a stream. -/
def printSummary (json : Bool) (batches rows millis : Nat) : Print :=
  printed json
    (.obj [("batches", natJson batches), ("elapsed_ms", natJson millis), ("interrupted", .bool false),
      ("rows", natJson rows), ("type", .str "summary")])
    s!"stream complete: {batches} batches, {rows} rows in {millis} ms"

/-- The counters of a driver. For a person they go to standard error. -/
def printStats (json : Bool) (t : TickCounters) (d : DeliveryCounters) : Print :=
  if json then
    let object : Json := .obj [
      ("batches_delivered", natJson d.batchesDelivered),
      ("discarded_ticks", natJson t.discarded),
      ("dropped_batches", natJson d.droppedBatches),
      ("dropped_events", natJson d.droppedEvents),
      ("faults", natJson t.faults),
      ("incomplete_ticks", natJson t.incomplete),
      ("late_ticks", natJson t.late),
      ("rows_delivered", natJson d.rowsDelivered),
      ("ticks", natJson t.ticks),
      ("type", .str "stats")]
    .out object.render
  else
    .err (s!"stats: ticks={t.ticks} rows={d.rowsDelivered} batches={d.batchesDelivered} "
      ++ s!"discarded={t.discarded} faults={t.faults} incomplete={t.incomplete} "
      ++ s!"dropped_batches={d.droppedBatches} dropped_events={d.droppedEvents} late={t.late}")

/-- What deliveries to the consumers of a stream print. -/
def printDelivery (json : Bool) : DeliveryEvent → List Print
  | .batch _ b dropped => [printBatch json b dropped]
  | .transition _ _ t => [printTransition json t]
  | .errors _ _ errors => printErrors json errors
  | _ => []

end QuadDaq.Cli
