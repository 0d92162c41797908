/-!
# Registered consumers

The place where the consumer of one kind of event is kept. A worker **takes the
consumer out for the time of one call** and puts it back afterwards. Every
registration starts a new generation, and a consumer of an older generation is not
put back: a call that ends late never displaces a newer consumer.
-/

namespace QuadDaq

/-- The place of one consumer. -/
structure Registration (γ : Type) where
  /-- The consumer, unless none was registered or a call has it. -/
  current : Option γ := none
  /-- Number of registrations so far. -/
  generation : Nat := 0
  deriving Repr, DecidableEq

/-- A consumer on loan for one call. -/
structure Loan (γ : Type) where
  consumer : γ
  generation : Nat
  deriving Repr, DecidableEq

namespace Registration

variable {γ : Type}

/-- Registers a consumer in place of any other. -/
def set (r : Registration γ) (consumer : γ) : Registration γ :=
  ⟨some consumer, r.generation + 1⟩

/-- Takes the consumer out. -/
def lend (r : Registration γ) : Registration γ × Option (Loan γ) :=
  ({ r with current := none }, r.current.map (⟨·, r.generation⟩))

/-- Puts a consumer back, unless another one was registered since. -/
def giveBack (r : Registration γ) (loan : Loan γ) : Registration γ :=
  if r.generation = loan.generation then { r with current := some loan.consumer } else r

end Registration

end QuadDaq
