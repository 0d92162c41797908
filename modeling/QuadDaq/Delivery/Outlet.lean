import QuadDaq.Button
import QuadDaq.Delivery.Batch
import QuadDaq.Delivery.ErrorSet
import QuadDaq.Delivery.Registration
import QuadDaq.Queue

/-!
# Outlets

**What one stream has published and not yet delivered**, and how far its two
workers are. The data worker hands batches to the data consumer; the event worker
hands button transitions and accumulated errors to theirs, transitions first.

* Publishing never waits: a full queue gives up its oldest element, which is
  counted and reported as an error of its own.
* A batch is delivered together with the number of batches that were dropped since
  the batch delivered before it. The worker claims that number before it takes the
  batch, and returns it if there is none to take (`takeBatch`).
* Once an outlet is closed its workers take up nothing new. A call that was in
  progress at that moment comes to its end.
-/

namespace QuadDaq

/-- Transitions that wait for the button consumer at most. -/
def transitionCapacity : Nat := 128

/-- What the sampler hands to the outlet of its stream. -/
inductive Signal
  | batch (b : Batch)
  | transition (t : Transition)
  | error (code : ErrorCode) (message : String)

/-- The two kinds of event consumers. -/
inductive EventKind
  | button
  | error
  deriving Repr, DecidableEq

/-- A call of an event consumer that has not returned. -/
structure EventCall where
  kind : EventKind
  loan : Loan String
  deriving Repr, DecidableEq

/-- Queues and workers of one stream. -/
structure Outlet where
  /-- Number of the stream. -/
  stream : Nat
  batches : DropOldest Batch
  transitions : DropOldest Transition
  errors : ErrorSet := []
  /-- Batches dropped since the latest delivery. -/
  dropped : Nat := 0
  /-- No delivery begins any more. -/
  closed : Bool := false
  /-- The batch that the data consumer is busy with. -/
  dataCall : Option Batch := none
  /-- The call that the event worker is busy with. -/
  eventCall : Option EventCall := none

/-- What publishing lost. -/
inductive Loss
  | batch (b : Batch)
  | transition (t : Transition)

namespace Outlet

/-- The outlet of a new stream. -/
def opened (stream capacity : Nat) : Outlet where
  stream := stream
  batches := .ofCapacity capacity
  transitions := .ofCapacity transitionCapacity

/-- The text of the error that reports a loss. -/
def lossMessage : Loss → String
  | .batch b => s!"dropped batch starting at tick {b.firstTick}"
  | .transition t => s!"dropped button transition {t.counter}"

/-- The code of the error that reports a loss. -/
def lossCode : Loss → ErrorCode
  | .batch _ => .batchOverrun
  | .transition _ => .eventOverrun

/-- Gathers an error. -/
def report (o : Outlet) (code : ErrorCode) (message : String) : Outlet :=
  { o with errors := o.errors.record code message }

/-- Publishes a batch and counts the one that it displaces. -/
def publishBatch (o : Outlet) (b : Batch) : Outlet × Option Loss :=
  match o.batches.push b with
  | (batches, none) => ({ o with batches := batches }, none)
  | (batches, some old) =>
    let loss := Loss.batch old
    (({ o with batches := batches, dropped := o.dropped + 1 }).report (lossCode loss)
      (lossMessage loss), some loss)

/-- Publishes a transition. -/
def publishTransition (o : Outlet) (t : Transition) : Outlet × Option Loss :=
  match o.transitions.push t with
  | (transitions, none) => ({ o with transitions := transitions }, none)
  | (transitions, some old) =>
    let loss := Loss.transition old
    (({ o with transitions := transitions }).report (lossCode loss) (lossMessage loss),
      some loss)

/-- Publishes whatever the sampler hands over. -/
def publish (o : Outlet) : Signal → Outlet × Option Loss
  | .batch b => o.publishBatch b
  | .transition t => o.publishTransition t
  | .error code message => (o.report code message, none)

/-- Claims the number of dropped batches and takes the oldest batch. Without a
batch the claimed number goes back. -/
def takeBatch (o : Outlet) : Outlet × Option (Batch × Nat) :=
  match o.batches.pop with
  | (batches, some b) => ({ o with batches := batches, dropped := 0 }, some (b, o.dropped))
  | (_, none) => (o, none)

/-- Takes the oldest transition. -/
def takeTransition (o : Outlet) : Outlet × Option Transition :=
  match o.transitions.pop with
  | (transitions, t?) => ({ o with transitions := transitions }, t?)

/-- Takes the accumulated errors, if there are any. -/
def takeErrors (o : Outlet) : Outlet × Option ErrorSet :=
  if o.errors.isEmpty then (o, none) else ({ o with errors := [] }, some o.errors)

/-- Nothing new is taken up from here on, and what waits is thrown away. The
batches and transitions thrown away are given. -/
def close (o : Outlet) : Outlet × List Batch × List Transition :=
  ({ o with closed := true, batches := o.batches.clear.1, transitions := o.transitions.clear.1 },
    o.batches.items, o.transitions.items)

/-- Some consumer has not returned. -/
def isBusy (o : Outlet) : Bool := o.dataCall.isSome || o.eventCall.isSome

end Outlet

end QuadDaq
