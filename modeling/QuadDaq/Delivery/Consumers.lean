import QuadDaq.Delivery.Outlet

/-!
# Consumers and the workers that call them

**What the workers of one outlet do with what waits in it.** A consumer returns at
once unless its kind is *held*; a held consumer stays inside its call until it is
let go. This is the only thing that the surroundings decide, so delivery is a
function of the signals and of the holds.

* A worker takes up something new only if its outlet is open and it is not inside a
  call (`beginBatch`, `beginEvent`). A call ends on its own (`endBatch`, `endEvent`):
  the rows of a batch count as delivered with the end of their call, not with its
  beginning.
* An event without a consumer in place is discarded.

`log` is what happened, in order.
-/

namespace QuadDaq

/-- What happens to what a stream has published. -/
inductive DeliveryEvent
  /-- A stream hands in a signal. -/
  | received (stream : Nat) (signal : Signal)
  /-- The data consumer is called. -/
  | batch (stream : Nat) (b : Batch) (dropped : Nat)
  /-- The data consumer returns. -/
  | batchDone (stream : Nat) (b : Batch)
  /-- The button consumer is called. -/
  | transition (stream : Nat) (consumer : String) (t : Transition)
  /-- There is no button consumer to call. -/
  | transitionUnclaimed (stream : Nat) (t : Transition)
  /-- The error consumer is called. -/
  | errors (stream : Nat) (consumer : String) (errors : ErrorSet)
  /-- There is no error consumer to call. -/
  | errorsUnclaimed (stream : Nat) (errors : ErrorSet)
  /-- A full queue gave up its oldest element. -/
  | lost (stream : Nat) (loss : Loss)
  /-- The stream was stopped before these were delivered. -/
  | discarded (stream : Nat) (batches : List Batch) (transitions : List Transition)

/-- Kinds of consumers that do not return. -/
structure Holds where
  data : Bool := false
  button : Bool := false
  error : Bool := false
  deriving Repr, DecidableEq

/-- The kinds of consumers. -/
inductive ConsumerKind
  | data
  | button
  | error
  deriving Repr, DecidableEq

/-- Whether event consumers of a kind are held. -/
def Holds.event (h : Holds) : EventKind → Bool
  | .button => h.button
  | .error => h.error

/-- Holds or no longer holds one kind. -/
def Holds.set (h : Holds) (on : Bool) : ConsumerKind → Holds
  | .data => { h with data := on }
  | .button => { h with button := on }
  | .error => { h with error := on }

/-- Lifetime counters of deliveries. -/
structure DeliveryCounters where
  rowsDelivered : Nat := 0
  batchesDelivered : Nat := 0
  droppedBatches : Nat := 0
  droppedEvents : Nat := 0
  deriving Repr, DecidableEq

/-- The consumers of a driver, and what came to them so far. -/
structure Consumers where
  buttonConsumer : Registration String := {}
  errorConsumer : Registration String := {}
  holds : Holds := {}
  counters : DeliveryCounters := {}
  log : Array DeliveryEvent := #[]

namespace Consumers

/-- Adds to the log. -/
def note (c : Consumers) (e : DeliveryEvent) : Consumers := { c with log := c.log.push e }

/-- The place of the event consumer of a kind. -/
def registration (c : Consumers) : EventKind → Registration String
  | .button => c.buttonConsumer
  | .error => c.errorConsumer

/-- Replaces the place of the event consumer of a kind. -/
def setRegistration (c : Consumers) (kind : EventKind) (r : Registration String) : Consumers :=
  match kind with
  | .button => { c with buttonConsumer := r }
  | .error => { c with errorConsumer := r }

/-- Registers an event consumer. -/
def register (c : Consumers) (kind : EventKind) (consumer : String) : Consumers :=
  c.setRegistration kind ((c.registration kind).set consumer)

/-- Consumers of this kind do not return from calls that begin from now on, or
return again. -/
def setHold (c : Consumers) (kind : ConsumerKind) (on : Bool) : Consumers :=
  { c with holds := c.holds.set on kind }

/-- Counts what publishing lost. -/
def lose (c : Consumers) (stream : Nat) : Option Loss → Consumers
  | none => c
  | some (.batch b) =>
    { c with counters := { c.counters with droppedBatches := c.counters.droppedBatches + 1 } }.note
      (.lost stream (.batch b))
  | some (.transition t) =>
    { c with counters := { c.counters with droppedEvents := c.counters.droppedEvents + 1 } }.note
      (.lost stream (.transition t))

/-! ### The data worker -/

/-- The data worker of an outlet takes up the oldest batch and calls the consumer. -/
def beginBatch (c : Consumers) (o : Outlet) : Option (Consumers × Outlet) :=
  if o.closed || o.dataCall.isSome then none
  else match o.takeBatch with
    | (_, none) => none
    | (o, some (b, dropped)) =>
      some (c.note (.batch o.stream b dropped), { o with dataCall := some b })

/-- The data consumer has returned. -/
def batchDone (c : Consumers) (stream : Nat) (b : Batch) : Consumers :=
  { c with counters := { c.counters with
      rowsDelivered := c.counters.rowsDelivered + b.size
      batchesDelivered := c.counters.batchesDelivered + 1 } }.note (.batchDone stream b)

/-- The call that the data worker is busy with comes to its end. -/
def endBatch (c : Consumers) (o : Outlet) : Consumers × Outlet :=
  match o.dataCall with
  | some b => (c.batchDone o.stream b, { o with dataCall := none })
  | none => (c, o)

/-- The data worker of an outlet, for at most so many batches. -/
def runData : Nat → Consumers → Outlet → Consumers × Outlet
  | 0, c, o => (c, o)
  | n + 1, c, o =>
    match c.beginBatch o with
    | none => (c, o)
    | some (c, o) =>
      if c.holds.data then (c, o)
      else
        let (c, o) := c.endBatch o
        runData n c o

/-! ### The event worker -/

/-- Calls the consumer of one event, if there is one in place. -/
def beginCall (c : Consumers) (o : Outlet) (kind : EventKind) (called : String → DeliveryEvent)
    (unclaimed : DeliveryEvent) : Consumers × Outlet :=
  match (c.registration kind).lend with
  | (_, none) => (c.note unclaimed, o)
  | (place, some loan) =>
    ((c.setRegistration kind place).note (called loan.consumer),
      { o with eventCall := some ⟨kind, loan⟩ })

/-- The event worker of an outlet takes up one event, transitions before errors. -/
def beginEvent (c : Consumers) (o : Outlet) : Option (EventKind × Consumers × Outlet) :=
  if o.closed || o.eventCall.isSome then none
  else match o.takeTransition with
    | (o, some t) =>
      some (.button, c.beginCall o .button (.transition o.stream · t) (.transitionUnclaimed o.stream t))
    | (_, none) =>
      match o.takeErrors with
      | (_, none) => none
      | (o, some errors) =>
        some (.error, c.beginCall o .error (.errors o.stream · errors) (.errorsUnclaimed o.stream errors))

/-- An event consumer has returned. -/
def eventDone (c : Consumers) (call : EventCall) : Consumers :=
  c.setRegistration call.kind ((c.registration call.kind).giveBack call.loan)

/-- The event call of this kind comes to its end. -/
def endEvent (kind : EventKind) (c : Consumers) (o : Outlet) : Consumers × Outlet :=
  match o.eventCall with
  | some call => if call.kind = kind then (c.eventDone call, { o with eventCall := none }) else (c, o)
  | none => (c, o)

/-- The event worker of an outlet, for at most so many events. -/
def runEvents : Nat → Consumers → Outlet → Consumers × Outlet
  | 0, c, o => (c, o)
  | n + 1, c, o =>
    match c.beginEvent o with
    | none => (c, o)
    | some (kind, c, o) =>
      let (c, o) := if c.holds.event kind then (c, o) else c.endEvent kind o
      runEvents n c o

/-! ### Both workers -/

/-- Both workers of an outlet until nothing waits or a consumer is held. -/
def runWorkers (c : Consumers) (o : Outlet) : Consumers × Outlet :=
  let (c, o) := runData (o.batches.size + 1) c o
  runEvents (o.transitions.size + 2) c o

/-- The call of this kind that an outlet is busy with comes to its end. -/
def endCall (kind : ConsumerKind) (c : Consumers) (o : Outlet) : Consumers × Outlet :=
  match kind with
  | .data => c.endBatch o
  | .button => c.endEvent .button o
  | .error => c.endEvent .error o

/-- The calls of this kind that the chosen streams are busy with come to their ends,
and their workers go on. -/
def endCallOf (chosen : Nat → Bool) (kind : ConsumerKind) (c : Consumers) (o : Outlet) :
    Consumers × Outlet :=
  let (c, o) := if chosen o.stream then c.endCall kind o else (c, o)
  c.runWorkers o

/-- The same for several outlets. Those without any call left are let go. -/
def endCallsOf (chosen : Nat → Bool) (kind : ConsumerKind) (c : Consumers) :
    List Outlet → Consumers × List Outlet
  | [] => (c, [])
  | o :: rest =>
    let (c, o) := endCallOf chosen kind c o
    let (c, rest) := endCallsOf chosen kind c rest
    (c, if o.isBusy then o :: rest else rest)

end Consumers

end QuadDaq
