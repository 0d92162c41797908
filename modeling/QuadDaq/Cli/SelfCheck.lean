import QuadDaq.Cli.Stream

/-!
# The self-check

Streams until the first batch has come and reports its first row, or what went wrong
last if none comes within two seconds. The clock is looked at as often as by a
stream, so of several batches between two looks the latest counts.
-/

namespace QuadDaq.Cli

/-- How long a self-check waits, in milliseconds. -/
def selfCheckMillis : Nat := 2000

/-- What a self-check has seen. -/
structure Seen where
  /-- The first row of the latest batch. -/
  row : Option Row := none
  /-- The latest error. -/
  error : Option ErrorEntry := none

/-- Takes a delivery in. -/
def Seen.take (s : Seen) : DeliveryEvent → Seen
  | .batch _ b _ =>
    match b.rows[0]? with
    | some r => { s with row := some r }
    | none => s
  | .errors _ _ errors =>
    match errors.getLast? with
    | some e => { s with error := some e }
    | none => s
  | _ => s

/-- Runs until a batch has come, for at most so many looks at the clock. -/
def awaitRow (start : Nat) : Nat → Nat → SimDriver × Seen → SimDriver × Seen
  | _, 0, r => r
  | polls, n + 1, (d, seen) =>
    if seen.row.isSome then (d, seen)
    else
      let (d, events) := takeDeliveries (runUntil (start + (polls + 1) * pollInterval) d)
      awaitRow start (polls + 1) n (d, events.foldl Seen.take seen)

/-- The failure of a check that has seen no batch. -/
def noDataFailure (error : Option ErrorEntry) : Failure :=
  let detail := match error with
    | some e => s!"{e.code.name}: {e.message}"
    | none => "no error reported"
  if Text.holds detail "ConfigurationIncomplete" then .ofDriver (.configurationIncomplete detail)
  else .ofDriver (.acquisitionFault
    s!"sensor did not deliver data within {selfCheckMillis} ms; last error: {detail}")

/-- The report of a check that has seen a row. -/
def printSelfCheck (json : Bool) (a : AcquisitionConfig) (r : Row) : Print :=
  let values := ", ".intercalate (r.toList.map Decimal.Layout.listed.render)
  printed json
    (.obj [("batch_rows", natJson a.batchRows), ("first_row", rowJson r), ("ok", .bool true),
      ("sample_rate_hz", natJson a.sampleRate), ("type", .str "self_check")])
    s!"self-check ok: {a.sampleRate} Hz, {a.batchRows} rows/batch, first row [{values}]"

/-- The stages of a self-check, up to its first refusal. -/
def selfCheck (d : SimDriver) (json : Bool) : Except Failure Print := do
  let done (r : SimDriver × Outcome) : Except Failure SimDriver :=
    match r with
    | (_, .refused e) => .error (.ofDriver e)
    | (d, _) => .ok d
  let d ← done (d.register .error printer)
  let d ← done d.start
  let polls := Duration.millis selfCheckMillis / pollInterval
  let (d, seen) := awaitRow d.engine.clock.elapsed 0 polls (d, {})
  let d ← done d.stop
  match seen.row with
  | some r => return printSelfCheck json d.engine.acquisition r
  | none => .error (noDataFailure seen.error)

end QuadDaq.Cli
