import QuadDaq.Delivery.Basic
import QuadDaq.Settings.Command
import QuadDaq.Stream.Engine

/-!
# The driver

**Sampling and delivery put together.** Signals go from the engine to the outlet of
their stream and from there to the consumers; nothing goes the other way. A driver
is changed by commands only: those of its user, single ticks, and the ways in which
the surroundings let a read or a consumer take its time.
-/

namespace QuadDaq

/-- A driver on a board. -/
structure Driver (β : Type) where
  engine : Engine β
  delivery : Delivery := {}
  /-- A read that begins now does not return. -/
  readHeld : Bool := false

/-- How a tick ends. -/
inductive TickReply
  | done
  /-- No stream runs. -/
  | notRunning
  /-- A read has not returned. -/
  | stuck
  /-- The sampling thread is gone. -/
  | dead
  deriving Repr, DecidableEq

namespace Driver

variable {β : Type}

/-- Hands signals of a stream to its outlet. -/
def publish (d : Driver β) (stream : Nat) (signals : List Signal) : Driver β :=
  { d with delivery := d.delivery.publishAll stream signals }

/-- Delivers what waits. -/
def deliver (d : Driver β) : Driver β := { d with delivery := d.delivery.deliver }

section Board

variable [Board β]

/-- Starts a stream, and opens its outlet. -/
def start (d : Driver β) : Driver β × Outcome :=
  match d.engine.start with
  | (engine, .done) =>
    ({ d with
        engine := engine
        delivery := d.delivery.openStream engine.attempts engine.config.queueCapacity }, .done)
  | (engine, outcome) => ({ d with engine := engine }, outcome)

/-- Stops the stream. Nothing that waits in its outlet is delivered any more. -/
def stop (d : Driver β) : Driver β × Outcome :=
  match d.engine.stop with
  | (engine, .done) => ({ d with engine := engine, delivery := d.delivery.closeStream }, .done)
  | (engine, outcome) => ({ d with engine := engine }, outcome)

/-- Lets the open read of a stream return and completes its tick. -/
def completeTick (d : Driver β) (run : Run) (tick : OpenTick) : Driver β :=
  let (engine, signals) := d.engine.endTick run tick
  ({ d with engine := engine }.publish run.stream signals).deliver

/-- The reply to a tick whose read has returned. -/
def tickReply (d : Driver β) : TickReply :=
  match d.engine.run with
  | some run => if run.crashed then .dead else .done
  | none => .done

/-- Whether a tick can begin, and what keeps it from doing so. -/
def readiness (d : Driver β) : TickReply :=
  match d.engine.phase, d.engine.run with
  | .running, some run =>
    if run.crashed then .dead else if run.openTick.isSome then .stuck else .done
  | _, _ => .notRunning

/-- One tick, whose read takes so long. -/
def tick (d : Driver β) (lag : Duration) : Driver β × TickReply :=
  match d.readiness, d.engine.run with
  | .done, some run =>
    let (engine, signals) := d.engine.beginTick run lag
    let d := { d with engine := engine }.publish run.stream signals
    if d.readHeld then (d.deliver, .stuck)
    else match d.engine.run with
      | some run =>
        match run.openTick with
        | some tick =>
          let d := d.completeTick run tick
          (d, d.tickReply)
        | none => (d, .done)
      | none => (d, .done)
  | reply, _ => (d, reply)

/-- Reads return again. One that is open does so now, also if its stream was stopped
meanwhile. -/
def releaseRead (d : Driver β) : Driver β :=
  let d := { d with readHeld := false }
  match d.engine.run with
  | some run =>
    match run.openTick with
    | some tick => d.completeTick run tick
    | none => d
  | none => d

/-- Ends the life of a driver: a stream that runs is stopped. -/
def shutDown (d : Driver β) : Driver β := d.stop.1

end Board

/-- Reads that begin from now on do not return. -/
def holdRead (d : Driver β) : Driver β := { d with readHeld := true }

/-- Registers an event consumer, refused unless the driver is stopped. -/
def register (d : Driver β) (kind : EventKind) (consumer : String) : Driver β × Outcome :=
  if d.engine.phase ≠ .stopped then (d, .refused .alreadyRunning)
  else ({ d with delivery := d.delivery.register kind consumer }, .done)

/-- Carries out a settings command; a refused one changes nothing. -/
def configure (d : Driver β) (command : Settings.Command) : Driver β × Outcome :=
  let (engine, outcome) := d.engine.configure command.run
  ({ d with engine := engine }, outcome)

/-- Consumers of a kind do not return from calls that begin from now on. -/
def hold (d : Driver β) (kind : ConsumerKind) : Driver β :=
  { d with delivery := d.delivery.hold kind }

/-- Consumers of a kind return. -/
def release (d : Driver β) (kind : ConsumerKind) : Driver β :=
  { d with delivery := d.delivery.release kind }

/-- Consumers of a kind return at once from calls that begin from now on. -/
def unhold (d : Driver β) (kind : ConsumerKind) : Driver β :=
  { d with delivery := d.delivery.unhold kind }

/-- The call of a kind that a stream is busy with comes to its end. -/
def finish (d : Driver β) (stream : Nat) (kind : ConsumerKind) : Driver β :=
  { d with delivery := d.delivery.finish stream kind }

/-- The surroundings change the board. -/
def disturb (d : Driver β) (change : β → β) : Driver β :=
  { d with engine := { d.engine with board := change d.engine.board } }

/-! ### Histories -/

/-- Everything that can happen to a driver. -/
inductive Command (β : Type)
  | start
  | stop
  | tick (lag : Duration)
  | register (kind : EventKind) (consumer : String)
  | configure (command : Settings.Command)
  | hold (kind : ConsumerKind)
  | unhold (kind : ConsumerKind)
  | release (kind : ConsumerKind)
  | finish (stream : Nat) (kind : ConsumerKind)
  | holdRead
  | releaseRead
  | disturb (change : β → β)

/-- What a command is answered with. -/
inductive Reply
  | outcome (o : Outcome)
  | tick (r : TickReply)
  deriving Repr, DecidableEq

/-- Carries out one command. -/
def step [Board β] (d : Driver β) : Command β → Driver β × Reply
  | .start => (d.start.1, .outcome d.start.2)
  | .stop => (d.stop.1, .outcome d.stop.2)
  | .tick lag => ((d.tick lag).1, .tick (d.tick lag).2)
  | .register kind consumer =>
    ((d.register kind consumer).1, .outcome (d.register kind consumer).2)
  | .configure command => ((d.configure command).1, .outcome (d.configure command).2)
  | .hold kind => (d.hold kind, .outcome .done)
  | .unhold kind => (d.unhold kind, .outcome .done)
  | .release kind => (d.release kind, .outcome .done)
  | .finish stream kind => (d.finish stream kind, .outcome .done)
  | .holdRead => (d.holdRead, .outcome .done)
  | .releaseRead => (d.releaseRead, .outcome .done)
  | .disturb change => (d.disturb change, .outcome .done)

/-- Carries out commands in order, and gives all replies. -/
def runAll [Board β] (d : Driver β) : List (Command β) → Driver β × List Reply
  | [] => (d, [])
  | c :: rest =>
    let (d, reply) := d.step c
    let (d, replies) := d.runAll rest
    (d, reply :: replies)

end Driver

end QuadDaq
