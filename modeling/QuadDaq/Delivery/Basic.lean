import QuadDaq.Delivery.Consumers

/-!
# Delivery

**How published batches and events reach their consumers.** The stream that runs has
the *current* outlet, whose workers run until nothing waits or a call is held. A
stopped stream leaves its outlet behind as long as one of its calls is in progress
(`retired`). Such a call ends like any other: its rows count as delivered, its
consumer goes back to its place, and nothing follows.

What a stream hands in after it was stopped is discarded.
-/

namespace QuadDaq

/-- Consumers and outlets of a driver. -/
structure Delivery extends Consumers where
  current : Option Outlet := none
  retired : List Outlet := []

namespace Delivery

/-- Registers an event consumer. -/
def register (d : Delivery) (kind : EventKind) (consumer : String) : Delivery :=
  { d with toConsumers := d.toConsumers.register kind consumer }

/-- Delivers what waits in the current outlet. -/
def deliver (d : Delivery) : Delivery :=
  match d.current with
  | none => d
  | some o =>
    let (c, o) := d.toConsumers.runWorkers o
    { d with toConsumers := c, current := some o }

/-! ### Publishing -/

/-- A signal for which it is too late. -/
def forfeit (c : Consumers) (stream : Nat) : Signal → Consumers
  | .batch b => c.note (.discarded stream [b] [])
  | .transition t => c.note (.discarded stream [] [t])
  | .error _ _ => c

/-- Publishes a signal of a stream. Signals of a stream that has no outlet any
more are gone. -/
def publish (d : Delivery) (stream : Nat) (signal : Signal) : Delivery :=
  let c := d.toConsumers.note (.received stream signal)
  match d.current with
  | none => { d with toConsumers := forfeit c stream signal }
  | some o =>
    if o.stream = stream then
      let (o, loss) := o.publish signal
      { d with toConsumers := c.lose stream loss, current := some o }
    else { d with toConsumers := forfeit c stream signal }

/-- Publishes signals in order. -/
def publishAll (d : Delivery) (stream : Nat) (signals : List Signal) : Delivery :=
  signals.foldl (fun d s => d.publish stream s) d

/-! ### Streams and holds -/

/-- A new stream with an outlet of its own. -/
def openStream (d : Delivery) (stream capacity : Nat) : Delivery :=
  { d with current := some (.opened stream capacity) }

/-- Ends the current stream. Its outlet stays as long as a call is in progress. -/
def closeStream (d : Delivery) : Delivery :=
  match d.current with
  | none => d
  | some o =>
    let (o, batches, transitions) := o.close
    { d with
      toConsumers := d.toConsumers.note (.discarded o.stream batches transitions)
      current := none
      retired := if o.isBusy then d.retired ++ [o] else d.retired }

/-- Consumers of this kind do not return from calls that begin from now on. -/
def hold (d : Delivery) (kind : ConsumerKind) : Delivery :=
  { d with toConsumers := d.toConsumers.setHold kind true }

/-- Consumers of this kind return at once from calls that begin from now on. -/
def unhold (d : Delivery) (kind : ConsumerKind) : Delivery :=
  { d with toConsumers := d.toConsumers.setHold kind false }

/-- The calls of this kind that the chosen streams are busy with come to their ends,
and what waits in the current outlet is delivered. -/
def endCalls (d : Delivery) (chosen : Nat → Bool) (kind : ConsumerKind) : Delivery :=
  let (c, retired) := d.toConsumers.endCallsOf chosen kind d.retired
  match d.current with
  | none => { d with toConsumers := c, retired := retired }
  | some o =>
    let (c, o) := c.endCallOf chosen kind o
    { d with toConsumers := c, current := some o, retired := retired }

/-- The call of this kind that a stream is busy with comes to its end. The next one
is held again if its kind is. -/
def finish (d : Delivery) (stream : Nat) (kind : ConsumerKind) : Delivery :=
  d.endCalls (· == stream) kind

/-- Consumers of this kind return: calls in progress end, and what waits is
delivered. -/
def release (d : Delivery) (kind : ConsumerKind) : Delivery :=
  (d.unhold kind).endCalls (fun _ => true) kind

end Delivery

end QuadDaq
