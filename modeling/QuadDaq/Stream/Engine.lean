import QuadDaq.Button
import QuadDaq.Delivery.Outlet
import QuadDaq.Settings.Document
import QuadDaq.Stream.Sampler

/-!
# The engine

**Everything on the sampling side of a driver**: the settings, the board, the
stream that runs, and the clock that paces it. What the stream publishes leaves the
engine as signals; nothing comes back, so consumers cannot influence it.

* A tick has two halves. `beginTick` takes the snapshot, routes the bridge if its
  epoch is new, and polls the button. `endTick` reads the board and settles what
  the tick brought. Between the two a read may take arbitrarily long.
* `start` and `stop` move the board between the controller and the stream. A read
  that is not finished when the stream stops keeps the board (`Custody.awaited`)
  until it returns; a crashed read loses it.
* While a stream runs the shape in the store is frozen. A start that fails
  releases it again.

`log` is what happened, in order.
-/

namespace QuadDaq

/-- How streams of a driver are configured when it is built. -/
structure AcquisitionConfig where
  sampleRate : Nat := 1000
  batchRows : Nat := 100
  queueCapacity : Nat := 8
  settlingTicks : Nat := 50
  startupDiscard : Nat := 1
  readTimeout : Duration := .millis 5
  deriving Repr, DecidableEq

/-- How the button is polled. -/
structure ButtonConfig where
  pollMillis : Nat := 10
  debounceCount : Nat := 3
  deriving Repr, DecidableEq

/-- Whether a stream runs. -/
inductive Phase
  | stopped
  /-- A start was broken off halfway and nothing cleaned up after it. -/
  | starting
  | running
  deriving Repr, DecidableEq

/-- Who has the board. -/
inductive Custody
  /-- The controller: a stream can start. -/
  | parked
  /-- The stream that runs. -/
  | sampling
  /-- A stopped stream whose last read has not returned. -/
  | awaited
  /-- Nobody: the thread that had it is gone. -/
  | lost
  deriving Repr, DecidableEq

/-- A tick between its two halves. -/
structure OpenTick where
  /-- The snapshot taken at the beginning. -/
  snapshot : Settings.Snapshot
  /-- The level of the button, if the tick polled it. -/
  polled : Option Bool
  /-- How long the read takes. -/
  lag : Duration

/-- What a completed tick saw and what it brought. -/
structure TickRecord where
  /-- The snapshot taken at the beginning. -/
  snapshot : Settings.Snapshot
  /-- The level of the button, if the tick polled it. -/
  polled : Option Bool
  /-- The discard guard was up. -/
  guarded : Bool
  /-- How the read ended. -/
  outcome : ReadOutcome
  result : TickResult

/-- What happens on the sampling side. -/
inductive EngineEvent
  /-- Conversions were switched, successfully or not. -/
  | measure (on success : Bool)
  /-- The bridge was routed, successfully or not. -/
  | select (bridge : Bridge) (success : Bool)
  /-- A read began. -/
  | reading (timeout : Duration)
  /-- A tick of a stream was completed. -/
  | ticked (stream : Nat) (record : TickRecord)
  /-- A read took the thread of a stream down. -/
  | crashed (stream : Nat) (tick : OpenTick)
  /-- A stream published a signal. -/
  | published (stream : Nat) (signal : Signal)
  /-- A stream ended, and these rows of its incomplete batch with it. -/
  | abandoned (stream : Nat) (rows : Array Row)
  /-- The stream slept until this instant. -/
  | slept (until_ : Nat)

/-- A started stream. -/
structure Run where
  /-- Number of the stream. -/
  stream : Nat
  sampler : Sampler
  period : Duration
  /-- Instant at which the current tick was due. -/
  deadline : Nat
  /-- The tick whose read has not returned. -/
  openTick : Option OpenTick := none
  /-- A read took the sampling thread down. -/
  crashed : Bool := false

/-- Lifetime counters of ticks. -/
structure TickCounters where
  ticks : Nat := 0
  discarded : Nat := 0
  faults : Nat := 0
  incomplete : Nat := 0
  late : Nat := 0
  deriving Repr, DecidableEq

/-- Counts what a tick brought. -/
def TickCounters.add (c : TickCounters) : TickResult → TickCounters
  | .fault _ => { c with ticks := c.ticks + 1, faults := c.faults + 1 }
  | .discarded => { c with ticks := c.ticks + 1, discarded := c.discarded + 1 }
  | .incomplete _ => { c with ticks := c.ticks + 1, incomplete := c.incomplete + 1 }
  | .row _ => { c with ticks := c.ticks + 1 }

/-- The sampling side of a driver. -/
structure Engine (β : Type) where
  config : AcquisitionConfig
  buttonConfig : ButtonConfig
  board : β
  /-- Debouncing of the button, if one is fitted. -/
  button : Option Debouncer
  store : Settings.Store
  phase : Phase := .stopped
  custody : Custody := .parked
  /-- Tick rate of the latest stream. -/
  latestRate : Nat
  run : Option Run := none
  /-- Number of start attempts that were not refused outright. -/
  attempts : Nat := 0
  clock : ManualClock := {}
  counters : TickCounters := {}
  log : Array EngineEvent := #[]

/-- How a command ends. -/
inductive Outcome
  | done
  | refused (e : DriverError)
  /-- A duration is not representable and the command was broken off. -/
  | brokenOff
  deriving Repr, DecidableEq

namespace Engine

variable {β : Type}

/-- Adds to the log. -/
def note (e : Engine β) (event : EngineEvent) : Engine β := { e with log := e.log.push event }

/-- Notes signals that leave the engine. -/
def emit (e : Engine β) (stream : Nat) (signals : List Signal) : Engine β :=
  signals.foldl (fun e s => e.note (.published stream s)) e

/-- The configuration that the next stream, or the running one, uses. -/
def acquisition (e : Engine β) : AcquisitionConfig :=
  { e.config with
    sampleRate := e.store.shape.sampleRate
    batchRows := e.store.shape.batchRows }

section Board

variable [Board β]

/-- Switches conversions on or off. -/
def setMeasuring (e : Engine β) (on : Bool) : Engine β × Except BoardFault Unit :=
  let (board, result) := Board.setMeasuring on e.board
  ({ e with board := board }.note (.measure on result.isOk), result)

/-- Routes the bridge. -/
def selectBridge (e : Engine β) (bridge : Bridge) : Engine β × Except BoardFault Unit :=
  let (board, result) := Board.selectBridge bridge e.board
  ({ e with board := board }.note (.select bridge result.isOk), result)

/-! ### Ticks -/

/-- Routes the bridge if the sampler has not seen this epoch. A failure is
reported; the epoch counts as seen nevertheless. -/
def route (e : Engine β) (run : Run) (snapshot : Settings.Snapshot) :
    Engine β × Run × List Signal :=
  let observed := { run with sampler := run.sampler.observe snapshot.bridgeEpoch }
  if run.sampler.needsRouting snapshot.bridgeEpoch then
    match e.selectBridge snapshot.bridge with
    | (e, .ok ()) => (e, observed, [])
    | (e, .error fault) =>
      let error := fault.toError
      (e, observed, [.error (.ofError error) error.message])
  else (e, observed, [])

/-- Polls the button if one is fitted and the tick is due for it. -/
def pollButton (e : Engine β) (run : Run) : Engine β × Option Bool × List Signal :=
  match e.button with
  | none => (e, none, [])
  | some debouncer =>
    if run.sampler.pollsButton then
      let (board, level) := Board.level e.board
      let (debouncer, transition?) := debouncer.poll level
      ({ e with board := board, button := some debouncer }, some level,
        (transition?.map Signal.transition).toList)
    else (e, none, [])

/-- The first half of a tick, up to the read. -/
def beginTick (e : Engine β) (run : Run) (lag : Duration) : Engine β × List Signal :=
  let snapshot := e.store.snapshot
  let (e, run, routing) := e.route run snapshot
  let (e, polled, polling) := e.pollButton run
  let run := { run with openTick := some ⟨snapshot, polled, lag⟩ }
  let signals := routing ++ polling
  (({ e with run := some run }.emit run.stream signals).note (.reading e.config.readTimeout),
    signals)

/-- The error report that a tick causes. -/
def reportOf : TickResult → List Signal
  | .fault f => [.error (.ofError f.toError) f.toError.message]
  | .incomplete m =>
    let error := DriverError.configurationIncomplete m.message
    [.error (.ofError error) error.message]
  | .discarded => []
  | .row _ => []

/-- Settles a tick whose read has returned: counters, report and batch. -/
def settle (e : Engine β) (run : Run) (tick : OpenTick) (outcome : ReadOutcome)
    (result : TickResult) : Engine β × Run × List Signal :=
  let (sampler, batch?) := run.sampler.advance result
  let signals := reportOf result ++ (batch?.map Signal.batch).toList
  let record : TickRecord :=
    { snapshot := tick.snapshot
      polled := tick.polled
      guarded := run.sampler.isGuarded
      outcome := outcome
      result := result }
  let e := { e with counters := e.counters.add result }.note (.ticked run.stream record)
  (e.emit run.stream signals, { run with sampler := sampler, openTick := none }, signals)

/-- Waits for the next tick to be due, or starts the schedule over if this one ran
late. -/
def pace (e : Engine β) (run : Run) : Engine β × Run :=
  let (deadline, late) := Pace.nextDeadline run.deadline e.clock.elapsed run.period
  let run := { run with deadline := deadline }
  if late then ({ e with counters := { e.counters with late := e.counters.late + 1 } }, run)
  else ({ e with clock := e.clock.sleepUntil deadline }.note (.slept deadline), run)

/-- A stream has come to its end: the rows of its incomplete batch are thrown
away. -/
def endRun (e : Engine β) (run : Run) (custody : Custody) : Engine β :=
  { e with custody := custody, run := none }.note (.abandoned run.stream run.sampler.pending)

/-- Switches conversions off and gives the board back. A failure to switch off
changes nothing. -/
def handBack (e : Engine β) (run : Run) : Engine β :=
  (e.setMeasuring false).1.endRun run .parked

/-- The second half of a tick: the read and everything after it. A crash ends the
stream's thread in the middle of the tick. If the stream was stopped during the
read the board is handed back. -/
def endTick (e : Engine β) (run : Run) (tick : OpenTick) : Engine β × List Signal :=
  let (board, outcome) := Board.read e.config.readTimeout e.board
  let e := { e with board := board, clock := e.clock.advance tick.lag }
  match run.sampler.result? tick.snapshot outcome with
  | none =>
    let run := { run with openTick := none, crashed := true }
    let e := e.note (.crashed run.stream tick)
    (if e.custody = .awaited then e.endRun run .lost else { e with run := some run }, [])
  | some result =>
    let (e, run, signals) := e.settle run tick outcome result
    let (e, run) := e.pace run
    (if e.custody = .awaited then e.handBack run else { e with run := some run }, signals)

/-! ### Lifecycle -/

/-- Switches conversions on and routes the bridge. If the routing fails conversions
are switched off again. -/
def arm (e : Engine β) : Engine β × Except BoardFault Unit :=
  match e.setMeasuring true with
  | (e, .error fault) => (e, .error fault)
  | (e, .ok ()) =>
    match e.selectBridge e.store.snapshot.bridge with
    | (e, .ok ()) => (e, .ok ())
    | (e, .error fault) => ((e.setMeasuring false).1, .error fault)

/-- Why the board cannot be had for a new stream. -/
def Custody.obstacle? : Custody → Option DriverError
  | .parked => none
  | .awaited => some (.acquisitionFault "previous stream has not released the hardware")
  | .sampling | .lost =>
    some (.acquisitionFault "hardware lost: acquisition thread exited abnormally")

/-- What a stream is started with under the current settings. -/
def plan (e : Engine β) : StreamPlan where
  batchRows := e.store.shape.batchRows
  settlingTicks := e.config.settlingTicks
  startupDiscard := e.config.startupDiscard
  pollTicks := Pace.ticksForMillis e.buttonConfig.pollMillis e.store.shape.sampleRate

/-- The engine after a start that failed. -/
def abandonStart (e : Engine β) : Engine β := { e with phase := .stopped, store := e.store.release }

/-- Starts a stream on the board. The sampler takes the bridge epoch of the store as
it is after arming. -/
def launch (e : Engine β) : Engine β :=
  let run : Run :=
    { stream := e.attempts
      sampler := .start e.plan e.store.snapshot.bridgeEpoch
      period := Pace.period e.store.shape.sampleRate
      deadline := e.clock.elapsed }
  { e with phase := .running, custody := .sampling, run := some run }

/-- Starts a stream, refused unless the engine is stopped. Any failure on the way
leaves it stopped, with the shape released and the board where it was. -/
def start (e : Engine β) : Engine β × Outcome :=
  if e.phase ≠ .stopped then (e, .refused .alreadyRunning)
  else
    let e := { e with phase := .starting, attempts := e.attempts + 1, store := e.store.freeze }
    match Pace.stopGrace? e.config.readTimeout e.latestRate with
    | none => (e, .brokenOff)
    | some _ =>
      match Custody.obstacle? e.custody with
      | some error => (e.abandonStart, .refused error)
      | none =>
        let e := { e with latestRate := e.store.shape.sampleRate }
        match e.arm with
        | (e, .error fault) => (e.abandonStart, .refused fault.toError)
        | (e, .ok ()) =>
          match Pace.stopGrace? e.config.readTimeout e.latestRate with
          | none => ({ e with custody := .lost }, .brokenOff)
          | some _ => (e.launch, .done)

/-- Stops the stream, refused unless one runs. The incomplete batch is dropped. A
read that has not returned keeps the board.

How long a stop waits was representable when its stream started. The instant at which this
wait is over need not be one that a clock can tell. That the sum overflows then, and that the
stop panics, is not modelled: instants are numbers without a bound. -/
def stop (e : Engine β) : Engine β × Outcome :=
  match e.phase, e.run with
  | .running, some run =>
    let e :=
      if run.crashed then e.endRun run .lost
      else if run.openTick.isSome then { e with custody := .awaited }
      else e.handBack run
    ({ e with phase := .stopped, store := e.store.release }, .done)
  | _, _ => (e, .refused .notRunning)

end Board

/-- Carries out a settings command; a refused one changes nothing. -/
def configure (e : Engine β) (command : Settings.Store → Except Settings.Refusal Settings.Store) :
    Engine β × Outcome :=
  match command e.store with
  | .ok store => ({ e with store := store }, .done)
  | .error refusal => (e, .refused (.invalidArgument refusal.message))

/-- Applies a settings document; a refused one changes nothing. -/
def apply (e : Engine β) (document : Json) : Engine β × Except DriverError Settings.Document :=
  match e.store.apply document with
  | .ok (store, answer) => ({ e with store := store }, .ok answer)
  | .error refusal => (e, .error (.invalidArgument refusal.message))

/-- Answers a settings document. -/
def get (e : Engine β) (document : Json) : Except DriverError Settings.Document :=
  match e.store.get document with
  | .ok answer => .ok answer
  | .error refusal => .error (.invalidArgument refusal.message)

end Engine

end QuadDaq
