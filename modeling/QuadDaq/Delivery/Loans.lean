import QuadDaq.Delivery.Registration

/-!
# Loans from one registration

**Everything that can happen to one registration**, with all loans that are out. The
controller registers consumers; any number of workers take the consumer out and
bring it back, each in its own time and in any order.
-/

namespace QuadDaq

/-- A registration with its history. -/
structure LoanBook (γ : Type) where
  place : Registration γ := {}
  /-- Loans that are out, the oldest first. -/
  out : List (Loan γ) := []
  /-- The consumer that was registered last. -/
  latest : Option γ := none
  deriving Repr, DecidableEq

/-- What happens to a registration. -/
inductive LoanStep (γ : Type)
  | set (consumer : γ)
  | lend
  /-- The loan at this position comes back. -/
  | giveBack (position : Nat)
  deriving Repr, DecidableEq

namespace LoanBook

variable {γ : Type}

/-- One step. A loan that is not out cannot come back. -/
def step (b : LoanBook γ) : LoanStep γ → LoanBook γ
  | .set consumer => { b with place := b.place.set consumer, latest := some consumer }
  | .lend =>
    match b.place.lend with
    | (place, some loan) => { b with place := place, out := b.out ++ [loan] }
    | (place, none) => { b with place := place }
  | .giveBack position =>
    match b.out[position]? with
    | some loan => { b with place := b.place.giveBack loan, out := b.out.eraseIdx position }
    | none => b

/-- Steps in order. -/
def run (b : LoanBook γ) (steps : List (LoanStep γ)) : LoanBook γ := steps.foldl step b

end LoanBook

end QuadDaq
