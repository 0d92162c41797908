import QuadDaq.Delivery.Outlet

/-!
# The hand-over of batches, access by access

**How the sampler and the data worker share a queue and a drop counter without a
lock.** `Outlet.publishBatch` and `Outlet.takeBatch` are each a single step. In a
running driver either party can be held up between two accesses to what they share,
and accesses of the other one fall in between:

* the producer pushes, and if that evicted an element it adds one to the counter
  with a second access;
* the worker claims the counter, which leaves it at zero, and then pops; it delivers
  the popped element with the claimed number, or adds that number back if there was
  nothing to pop.

Claiming comes before popping, so a number that is reported never includes an
eviction behind the delivered element's pop. A run is any list of accesses that each
party makes in its own order; `step?` refuses an access whose party is elsewhere.
-/

namespace QuadDaq

/-- Where the data worker is. -/
inductive WorkerAt (α : Type)
  | idle
  /-- It has claimed a number and is about to pop. -/
  | claimed (count : Nat)
  /-- It has popped an element and is about to deliver it. -/
  | delivering (a : α) (count : Nat)
  /-- It found nothing to pop and is about to add the number back. -/
  | returning (count : Nat)
  deriving Repr, DecidableEq

/-- An access to the shared queue or counter. -/
inductive Access (α : Type)
  | push (a : α)
  | count
  | claim
  | pop
  | deliver
  | giveBack
  deriving Repr, DecidableEq

/-- The shared state, where both parties are, and what has happened so far. -/
structure Handoff (α : Type) where
  queue : DropOldest α
  /-- The drop counter. -/
  counter : Nat := 0
  /-- The producer has evicted an element that it has not counted yet. -/
  owes : Bool := false
  worker : WorkerAt α := .idle
  /-- Elements that were evicted. -/
  evictions : Nat := 0
  /-- Deliveries with their reported numbers, in order. -/
  deliveries : List (α × Nat) := []

namespace Handoff

variable {α : Type}

/-- A new stream. -/
def opened (capacity : Nat) : Handoff α where
  queue := .ofCapacity capacity

/-- The number that the worker has claimed and neither reported nor added back. -/
def claimed (h : Handoff α) : Nat :=
  match h.worker with
  | .idle => 0
  | .claimed n => n
  | .delivering _ n => n
  | .returning n => n

/-- Evictions that are not counted yet. -/
def owed (h : Handoff α) : Nat := if h.owes then 1 else 0

/-- The sum of all reported numbers. -/
def reported (h : Handoff α) : Nat :=
  h.deliveries.foldl (fun total delivery => total + delivery.2) 0

/-- Both parties are between two operations. -/
def isQuiet (h : Handoff α) : Bool :=
  !h.owes && match h.worker with
    | .idle => true
    | _ => false

/-- The producer pushes. -/
def push (h : Handoff α) (a : α) : Handoff α :=
  match h.queue.push a with
  | (q, none) => { h with queue := q }
  | (q, some _) => { h with queue := q, owes := true, evictions := h.evictions + 1 }

/-- The worker pops after claiming a number. -/
def pop (h : Handoff α) (count : Nat) : Handoff α :=
  match h.queue.pop with
  | (q, some a) => { h with queue := q, worker := .delivering a count }
  | (_, none) => { h with worker := .returning count }

/-- One access, unless it is not its party's turn for it. -/
def step? (h : Handoff α) : Access α → Option (Handoff α)
  | .push a => if h.owes then none else some (h.push a)
  | .count => if h.owes then some { h with owes := false, counter := h.counter + 1 } else none
  | .claim =>
    match h.worker with
    | .idle => some { h with worker := .claimed h.counter, counter := 0 }
    | _ => none
  | .pop =>
    match h.worker with
    | .claimed n => some (h.pop n)
    | _ => none
  | .deliver =>
    match h.worker with
    | .delivering a n => some { h with worker := .idle, deliveries := h.deliveries ++ [(a, n)] }
    | _ => none
  | .giveBack =>
    match h.worker with
    | .returning n => some { h with worker := .idle, counter := h.counter + n }
    | _ => none

/-- Accesses in order, unless one of them is out of turn. -/
def run? (h : Handoff α) (accesses : List (Access α)) : Option (Handoff α) :=
  accesses.foldlM step? h

end Handoff

end QuadDaq
