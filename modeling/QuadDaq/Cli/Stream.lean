import QuadDaq.Cli.Arguments
import QuadDaq.Cli.Failure
import QuadDaq.Cli.Report
import QuadDaq.Board.Simulated

/-!
# Streaming for a time

**The stream command, stage by stage.** `beginStream` checks the options, starts the
stream and says how long it runs. From then on the command looks at the clock every
20 milliseconds: `Streaming.poll` is what happens between two looks, and
`Streaming.finish` stops the stream when the time is over.

The checks come before anything touches the driver. A time that passes them but is
not representable as a duration breaks the command off, after the start.
-/

namespace QuadDaq

/-- The duration that a number of seconds is: rounded to the nearest nanosecond, and
nothing if it is negative, not finite or too long. -/
def Duration.ofSeconds? (x : Float) : Option Duration :=
  if !x.isFinite || (Decimal.isNegative x && x != 0.0) then none
  else
    let nanos := (Decimal.Dyadic.ofBits x.toBits).scaled 9
    if nanos ≤ Duration.longest then some nanos else none

namespace Cli

/-- The driver of the command line. -/
abbrev SimDriver := Driver Board.Simulated

/-- Time between two looks at the clock. -/
def pollInterval : Duration := Duration.millis 20

/-- Ticks until the clock has come to an instant, at most so many. -/
def ticksUntil (instant : Nat) : Nat → SimDriver → SimDriver
  | 0, d => d
  | n + 1, d =>
    if d.engine.clock.elapsed < instant then ticksUntil instant n (d.tick 0).1 else d

/-- All ticks that are due before an instant. -/
def runUntil (instant : Nat) (d : SimDriver) : SimDriver :=
  let period := Pace.period d.engine.store.shape.sampleRate
  ticksUntil instant ((instant - d.engine.clock.elapsed) / period + 1) d

/-- The deliveries since the previous look. -/
def takeDeliveries (d : SimDriver) : SimDriver × List DeliveryEvent :=
  ({ d with
      engine := { d.engine with log := #[] }
      delivery := { d.delivery with log := #[] } }, d.delivery.log.toList)

/-- A stream that prints what it delivers. -/
structure Streaming where
  driver : SimDriver
  json : Bool
  stats : Bool
  /-- Clock at the start. -/
  started : Nat
  /-- How long it is to run. -/
  length : Duration
  /-- Looks at the clock so far. -/
  polls : Nat := 0
  batches : Nat := 0
  rows : Nat := 0

namespace Streaming

/-- Looks at the clock until the time is over. -/
def pollCount (s : Streaming) : Nat := (s.length + pollInterval - 1) / pollInterval

/-- Counts a delivered batch. -/
def count (s : Streaming) : DeliveryEvent → Streaming
  | .batch _ b _ => { s with batches := s.batches + 1, rows := s.rows + b.size }
  | _ => s

/-- Runs to the next look at the clock, and prints what was delivered. -/
def poll (s : Streaming) : Streaming × List Print :=
  let polls := s.polls + 1
  let (driver, events) := takeDeliveries (runUntil (s.started + polls * pollInterval) s.driver)
  (events.foldl count { s with driver := driver, polls := polls },
    events.flatMap (printDelivery s.json))

/-- So many looks at the clock. -/
def pollMany (s : Streaming) : Nat → Streaming × List Print
  | 0 => (s, [])
  | n + 1 =>
    let (s, prints) := s.poll
    let (s, later) := s.pollMany n
    (s, prints ++ later)

/-- Stops the stream and prints the summary. -/
def finish (s : Streaming) : Except Failure (List Print) :=
  match s.driver.stop with
  | (_, .refused e) => .error (.ofDriver e)
  | (d, _) =>
    let millis := s.polls * pollInterval / Duration.millis 1
    let stats := if s.stats then [printStats s.json d.engine.counters d.delivery.counters] else []
    .ok (printSummary s.json s.batches s.rows millis :: stats)

end Streaming

/-- How the stream command begins. -/
inductive StreamStart
  | refused (f : Failure)
  | running (s : Streaming)
  /-- The stream runs, but the command was broken off. -/
  | brokenOff (d : SimDriver)

/-- The failure of a time that is not a positive number. -/
def secondsFailure (x : Float) : Failure :=
  .ofDriver (.invalidArgument s!"--seconds must be > 0, got {Decimal.Layout.plain.render x}")

/-- The name under which the command registers its consumers. -/
def printer : String := "printer"

/-- Selects the bridge if one is asked for. -/
def selectBridge (d : SimDriver) : Option Int → SimDriver × Outcome
  | none => (d, .done)
  | some b => d.configure (.setBridge b)

/-- Starts a stream whose events are printed. -/
def startPrinting (d : SimDriver) : SimDriver × Outcome :=
  match d.register .button printer with
  | (d, .done) =>
    match d.register .error printer with
    | (d, .done) => d.start
    | r => r
  | r => r

/-- Begins the stream command: first the time is checked, then the bridge is
selected, then the stream is started. -/
def beginStream (d : SimDriver) (json : Bool) (o : StreamOptions) : StreamStart :=
  if !(o.seconds.isFinite && o.seconds > 0.0) then .refused (secondsFailure o.seconds)
  else match selectBridge d o.bridge with
    | (_, .refused e) => .refused (.ofDriver e)
    | (d, _) =>
      match startPrinting d with
      | (_, .refused e) => .refused (.ofDriver e)
      | (d, .brokenOff) => .brokenOff d
      | (d, .done) =>
        match Duration.ofSeconds? o.seconds with
        | none => .brokenOff d
        | some length =>
          .running
            { driver := d, json := json, stats := o.stats, started := d.engine.clock.elapsed
              length := length }

end Cli

end QuadDaq
