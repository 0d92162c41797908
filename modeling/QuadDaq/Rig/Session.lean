import QuadDaq.Driver.Build
import QuadDaq.Rig.Board

/-!
# Rig sessions

**A driver on a rigged board, driven step by step.** A session is a list of steps;
each is answered with its reply, with what became visible during it, and with the
state and the counters of the driver afterwards. At the end the driver is shut
down and all holds are lifted.

Errors that are delivered within one step are merged per consumer and code: counts
are added and the last text stays, in the order of first occurrence.
-/

namespace QuadDaq.Rig

/-- What the next read is to find. -/
inductive FeedItem
  /-- A row at the end of the script. -/
  | row (r : Row)
  /-- A fault at the end of the script. -/
  | scriptFault (text : String)
  /-- Only the permission to pass. -/
  | pass
  /-- A fault of the read itself. -/
  | fault (f : BoardFault)
  | crash

/-- What can be held. -/
inductive Held
  | consumer (kind : ConsumerKind)
  | read

/-- One step of a session. -/
inductive Step
  | start
  | stop
  | tick (count : Nat) (lag : Duration)
  | feed (items : List FeedItem)
  | hold (what : Held)
  | release (what : Held)
  | failSelect (f : BoardFault)
  | failMeasure (f : BoardFault)
  | press (pressed : Bool)
  | levels (levels : List Bool)
  | injectFaults (n : Nat)
  | setStuck (on : Bool)
  | register (kind : EventKind) (consumer : String)
  | configure (command : Settings.Command)
  | apply (document : Json)
  | get (document : Json)
  | inspect
  | shutDown
  /-- Nothing. -/
  | idle

/-- What a stop reports of the pacing. -/
structure PaceReport where
  /-- Late ticks of the driver so far. -/
  late : Nat
  /-- Sleeps since the previous stop. -/
  sleeps : Nat
  /-- Instants of the latest sleeps, at most eight. -/
  last : List Nat

/-- A view of a driver. -/
structure Inspection where
  running : Bool
  snapshot : Settings.Snapshot
  config : AcquisitionConfig
  /-- Timeout of the latest read. -/
  seenTimeout : Option Duration

/-- What a step is answered with. -/
inductive Reply
  | ok
  | refused (e : DriverError)
  | document (d : Settings.Document)
  | tick (r : TickReply)
  | paced (r : PaceReport)
  /-- A stop during a read that has not returned. -/
  | readStuck
  | inspection (i : Inspection)
  | brokenOff

/-- A call on the board other than a read. -/
inductive Call
  | measure (on : Bool)
  | select (b : Bridge)
  deriving Repr, DecidableEq

/-- A batch as its consumer sees it. -/
structure BatchDelivery where
  stream : Nat
  batch : Batch
  dropped : Nat

/-- What became visible during a step. -/
structure Observation where
  batches : List BatchDelivery
  transitions : List (String × Transition)
  errors : List (String × ErrorEntry)
  calls : List Call

/-- The answer to a step; state and counters only while there is a driver. -/
structure StepAnswer where
  reply : Reply
  seen : Observation
  status : Option (Phase × TickCounters × DeliveryCounters)

/-- The answer to a session. -/
structure SessionAnswer where
  steps : List StepAnswer
  ending : Observation
  board : Inner

/-- A session in progress. -/
structure Session where
  driver : Driver RiggedBoard
  /-- The driver was shut down. -/
  ended : Bool := false
  /-- Instants of the sleeps since the previous stop, latest first. -/
  sleeps : List Nat := []
  /-- Timeout of the latest read. -/
  seenTimeout : Option Duration := none

/-! ### Observations -/

/-- Adds one entry to errors per consumer and code. -/
def mergeEntry (consumer : String) (e : ErrorEntry) :
    List (String × ErrorEntry) → List (String × ErrorEntry)
  | [] => [(consumer, e)]
  | (c, old) :: rest =>
    if c = consumer && old.code = e.code then
      (c, { e with count := old.count + e.count }) :: rest
    else (c, old) :: mergeEntry consumer e rest

/-- The calls among the events of an engine. -/
def callOf? : EngineEvent → Option Call
  | .measure on _ => some (.measure on)
  | .select b _ => some (.select b)
  | _ => none

/-- The batches among the events of a delivery. -/
def batchOf? : DeliveryEvent → Option BatchDelivery
  | .batch stream b dropped => some ⟨stream, b, dropped⟩
  | _ => none

/-- The transitions among the events of a delivery. -/
def transitionOf? : DeliveryEvent → Option (String × Transition)
  | .transition _ consumer t => some (consumer, t)
  | _ => none

/-- The delivered errors, merged. -/
def mergedErrors (events : List DeliveryEvent) : List (String × ErrorEntry) :=
  events.foldl
    (fun acc event =>
      match event with
      | .errors _ consumer errors => errors.foldl (fun acc e => mergeEntry consumer e acc) acc
      | _ => acc) []

/-- The instants of sleeps among the events of an engine. -/
def sleepOf? : EngineEvent → Option Nat
  | .slept instant => some instant
  | _ => none

/-- The timeout of the latest read among the events of an engine. -/
def latestTimeout (before : Option Duration) (events : List EngineEvent) : Option Duration :=
  events.foldl (fun acc e => match e with | .reading timeout => some timeout | _ => acc) before

namespace Session

/-- What happened since the previous observation. -/
def observe (s : Session) : Session × Observation :=
  let engineEvents := s.driver.engine.log.toList
  let deliveries := s.driver.delivery.log.toList
  let driver := { s.driver with
    engine := { s.driver.engine with log := #[] }
    delivery := { s.driver.delivery with log := #[] } }
  ({ s with
      driver := driver
      sleeps := (engineEvents.filterMap sleepOf?).reverse ++ s.sleeps
      seenTimeout := latestTimeout s.seenTimeout engineEvents },
    { batches := deliveries.filterMap batchOf?
      transitions := deliveries.filterMap transitionOf?
      errors := mergedErrors deliveries
      calls := engineEvents.filterMap callOf? })

/-! ### Steps -/

/-- Changes the board, wherever it is. -/
def onBoard (s : Session) (f : RiggedBoard → RiggedBoard) : Session :=
  { s with driver := { s.driver with
      engine := { s.driver.engine with board := f s.driver.engine.board } } }

/-- Adds items for the next reads. -/
def feedItem (b : RiggedBoard) (item : FeedItem) : RiggedBoard :=
  let script (entry : Except String Row) : RiggedBoard :=
    { b with
      actions := b.actions ++ [.pass]
      inner := match b.inner with
        | .scripted s => .scripted (s.feed [entry])
        | .simulated s => .simulated s }
  match item with
  | .row r => script (.ok r)
  | .scriptFault text => script (.error text)
  | .pass => { b with actions := b.actions ++ [.pass] }
  | .fault f => { b with actions := b.actions ++ [.fault f] }
  | .crash => { b with actions := b.actions ++ [.crash] }

/-- Changes a simulated board; a scripted one has no such switches. -/
def onSimulated (f : Board.Simulated → Board.Simulated) (b : RiggedBoard) : RiggedBoard :=
  match b.inner with
  | .scripted _ => b
  | .simulated s => { b with inner := .simulated (f s) }

/-- Several ticks, until one is not done. Without any the reply is whether one could
begin. -/
def ticks (lag : Duration) : Nat → Driver RiggedBoard → Driver RiggedBoard × TickReply
  | 0, d => (d, d.readiness)
  | n + 1, d =>
    match d.tick lag with
    | (d, .done) => ticks lag n d
    | (d, reply) => (d, reply)

/-- The reply to a command that is done or refused. -/
def replyOf : Outcome → Reply
  | .done => .ok
  | .refused e => .refused e
  | .brokenOff => .brokenOff

/-- Stops, and reports the pacing unless a read has not returned. -/
def stopStep (s : Session) : Session × Reply :=
  let stuck := s.driver.engine.run.any fun run => run.openTick.isSome
  match s.driver.stop with
  | (driver, .done) =>
    let last := (s.sleeps.take 8).reverse
    ({ s with driver := driver, sleeps := [] },
      if stuck then .readStuck
      else .paced ⟨driver.engine.counters.late, s.sleeps.length, last⟩)
  | (driver, outcome) => ({ s with driver := driver }, replyOf outcome)

/-- Carries out one step. -/
def step (s : Session) : Step → Session × Reply
  | .start =>
    let (driver, outcome) := s.driver.start
    ({ s with driver := driver }, replyOf outcome)
  | .stop => s.stopStep
  | .tick count lag =>
    let (driver, reply) := ticks lag count s.driver
    ({ s with driver := driver }, .tick reply)
  | .feed items => (s.onBoard fun b => items.foldl feedItem b, .ok)
  | .hold (.consumer kind) => ({ s with driver := s.driver.hold kind }, .ok)
  | .hold .read => ({ s with driver := s.driver.holdRead }, .ok)
  | .release (.consumer kind) => ({ s with driver := s.driver.release kind }, .ok)
  | .release .read => ({ s with driver := s.driver.releaseRead }, .ok)
  | .failSelect f => (s.onBoard fun b => { b with selectFaults := b.selectFaults ++ [f] }, .ok)
  | .failMeasure f => (s.onBoard fun b => { b with measureFaults := b.measureFaults ++ [f] }, .ok)
  | .press pressed => (s.onBoard fun b => { b with pressed := pressed }, .ok)
  | .levels levels => (s.onBoard fun b => { b with levels := b.levels ++ levels }, .ok)
  | .injectFaults n => (s.onBoard (onSimulated (·.injectFaults n)), .ok)
  | .setStuck on => (s.onBoard (onSimulated (·.setStuck on)), .ok)
  | .register kind consumer =>
    let (driver, outcome) := s.driver.register kind consumer
    ({ s with driver := driver }, replyOf outcome)
  | .configure command =>
    let (driver, outcome) := s.driver.configure command
    ({ s with driver := driver }, replyOf outcome)
  | .apply document =>
    match s.driver.engine.apply document with
    | (engine, .ok d) => ({ s with driver := { s.driver with engine := engine } }, .document d)
    | (_, .error e) => (s, .refused e)
  | .get document =>
    match s.driver.engine.get document with
    | .ok d => (s, .document d)
    | .error e => (s, .refused e)
  | .inspect =>
    let engine := s.driver.engine
    (s, .inspection
      ⟨engine.phase = .running, engine.store.snapshot, engine.acquisition, s.seenTimeout⟩)
  | .shutDown => ({ s with driver := s.driver.shutDown, ended := true }, .ok)
  | .idle => (s, .ok)

/-- Carries out one step and observes it. -/
def answer (s : Session) (step : Step) : Session × StepAnswer :=
  let (s, reply) := s.step step
  let (s, seen) := s.observe
  let status :=
    if s.ended then none
    else some (s.driver.engine.phase, s.driver.engine.counters, s.driver.delivery.counters)
  (s, ⟨reply, seen, status⟩)

/-- Carries out steps in order. -/
def answerAll (s : Session) : List Step → Session × List StepAnswer
  | [] => (s, [])
  | step :: rest =>
    let (s, a) := s.answer step
    let (s, later) := s.answerAll rest
    (s, a :: later)

/-- Shuts the driver down and lifts all holds. -/
def finish (s : Session) : Session × Observation :=
  let d := s.driver.shutDown
  let d := (((d.release .data).release .button).release .error).releaseRead
  ({ s with driver := d, ended := true }).observe

end Session

/-- A session from its first step to its end, or the failure to build the driver. -/
def runSession (plan : DriverPlan RiggedBoard) (steps : List Step) :
    Except BuildError SessionAnswer := do
  let driver ← plan.build
  let (s, answers) := Session.answerAll { driver := driver } steps
  let (s, ending) := s.finish
  return ⟨answers, ending, s.driver.engine.board.inner⟩

end QuadDaq.Rig
