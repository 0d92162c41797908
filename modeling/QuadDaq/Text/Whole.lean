/-!
# Reading whole numbers

Whole numbers of a fixed width as they are written in tables and on the command
line: digits behind an optional sign, and nothing else.
-/

namespace QuadDaq.Text

/-- The value of a digit to a base of at most sixteen. -/
def digit? (base : Nat) (c : Char) : Option Nat :=
  let n :=
    if c.isDigit then c.toNat - '0'.toNat
    else if 'a' ≤ c ∧ c ≤ 'f' then c.toNat - 'a'.toNat + 10
    else if 'A' ≤ c ∧ c ≤ 'F' then c.toNat - 'A'.toNat + 10
    else base
  if n < base then some n else none

/-- The value of one digit or more. -/
def digits? (base : Nat) (cs : List Char) : Option Nat :=
  if cs.isEmpty then none
  else cs.foldlM (fun n c => (digit? base c).map (n * base + ·)) 0

/-- An unsigned number of so many bits. Only a plus sign may stand in front. -/
def unsigned? (bits base : Nat) (cs : List Char) : Option Nat := do
  let n ← digits? base (match cs with | '+' :: r => r | r => r)
  if n < Nat.pow 2 bits then some n else none

/-- A signed decimal number of so many bits. -/
def signed? (bits : Nat) (cs : List Char) : Option Int := do
  let n : Int ← match cs with
    | '-' :: r => (digits? 10 r).map fun n => -(n : Int)
    | '+' :: r => (digits? 10 r).map Int.ofNat
    | r => (digits? 10 r).map Int.ofNat
  if -Int.pow 2 (bits - 1) ≤ n ∧ n < Int.pow 2 (bits - 1) then some n else none

end QuadDaq.Text
