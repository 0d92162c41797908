/-!
# Shortest decimal digits

**Which decimal digits stand for a double**: the fewest that are read back as the
same double, and of those the nearest to its exact value.

A finite double is `m · 2 ^ q`. The reals that round to it form an interval
around it, which reaches half a step to each side (a quarter step below a power
of two, where the doubles under it lie twice as close); its ends belong to it
exactly if `m` is even. A decimal grid is the set of multiples of `10 ^ k`. Going
from coarse grids to fine ones, the first grid with a point in the interval
gives the digits. Only the two grid points next to the value need a test: if any
point of a grid lies in the interval then so does one of these two.

All comparisons are made between natural numbers, so nothing here rounds.
-/

namespace QuadDaq.Decimal

/-- The magnitude `mantissa · 2 ^ exponent` of a finite double. -/
structure Dyadic where
  mantissa : Nat
  exponent : Int
  /-- The next double towards zero is half as far away as the one above. -/
  denseBelow : Bool
  deriving Repr, DecidableEq

/-- The magnitude that the bits of a finite double encode. -/
def Dyadic.ofBits (bits : UInt64) : Dyadic :=
  let field := ((bits >>> 52) &&& 0x7ff).toNat
  let fraction := (bits &&& 0xfffffffffffff).toNat
  if field = 0 then ⟨fraction, -1074, false⟩
  else ⟨fraction + Nat.pow 2 52, (field : Int) - 1075, fraction = 0 && 1 < field⟩

/-- The natural number that a magnitude is, unless it has a fraction. -/
def Dyadic.whole? (v : Dyadic) : Option Nat :=
  let scaled := v.mantissa * Nat.pow 2 v.exponent.toNat
  let unit := Nat.pow 2 (-v.exponent).toNat
  if scaled % unit = 0 then some (scaled / unit) else none

/-- A decimal `significand · 10 ^ scale`. -/
structure Digits where
  significand : Nat
  scale : Int
  deriving Repr, DecidableEq

/-- Number of decimal digits of a natural number, one for zero. -/
def digitCount (n : Nat) : Nat := (Nat.toDigits 10 n).length

namespace Digits

/-- Decimal exponent of the leading digit. -/
def leading (d : Digits) : Int := d.scale + digitCount d.significand - 1

/-- Without the zeros at the end of the significand. -/
def trimmed (d : Digits) : Digits :=
  let zeros := ((Nat.toDigits 10 d.significand).reverse.takeWhile (· == '0')).length
  if d.significand = 0 then ⟨0, 0⟩ else ⟨d.significand / Nat.pow 10 zeros, d.scale + zeros⟩

end Digits

namespace Dyadic

/-- `a · 2 ^ q` over `b · 10 ^ k`, with both sides cleared of denominators. -/
private def cleared (a : Nat) (q : Int) (b : Nat) (k : Int) : Nat × Nat :=
  (a * Nat.pow 2 q.toNat * Nat.pow 10 (-k).toNat,
    b * Nat.pow 10 k.toNat * Nat.pow 2 (-q).toNat)

/-- Decimal exponent of the leading digit of a positive magnitude. Scaling by
`10 ^ 340` first makes every positive double at least one. -/
def leading (v : Dyadic) : Int :=
  let scaled :=
    v.mantissa * Nat.pow 10 340 * Nat.pow 2 v.exponent.toNat / Nat.pow 2 (-v.exponent).toNat
  (digitCount scaled : Int) - 341

/-- The decimal is read back as this magnitude. -/
def reads (v : Dyadic) (d : Digits) : Bool :=
  let low := 4 * v.mantissa - (if v.denseBelow then 1 else 2)
  let high := 4 * v.mantissa + 2
  let (l, cl) := cleared low (v.exponent - 2) d.significand d.scale
  let (h, ch) := cleared high (v.exponent - 2) d.significand d.scale
  if v.mantissa % 2 = 0 then l ≤ cl && ch ≤ h else l < cl && ch < h

/-- The multiples of `10 ^ k` at or below the value and next above it, the
nearer one first; of two equally near ones the even one is first. -/
def neighbours (v : Dyadic) (k : Int) : List Digits :=
  let (a, unit) := cleared v.mantissa v.exponent 1 k
  let below := a / unit
  let rest := 2 * (a % unit)
  if rest < unit || (rest = unit && below % 2 = 0) then [⟨below, k⟩, ⟨below + 1, k⟩]
  else [⟨below + 1, k⟩, ⟨below, k⟩]

/-- The fewest digits that are read back as this magnitude. Seventeen digits
always suffice for a double. -/
def shortest (v : Dyadic) : Digits :=
  if v.mantissa = 0 then ⟨0, 0⟩
  else
    let e := v.leading
    let found := (List.range 17).findSome? fun (n : Nat) => (v.neighbours (e - n)).find? v.reads
    (found.getD ⟨0, 0⟩).trimmed

end Dyadic

/-- The shortest digits of a finite double, its sign apart. -/
def shortest (x : Float) : Digits := (Dyadic.ofBits x.toBits).shortest

/-- The sign bit is set; so it is for negative zero. -/
def isNegative (x : Float) : Bool := x.toBits >>> 63 == 1

end QuadDaq.Decimal
