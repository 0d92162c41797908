import QuadDaq.Decimal.Shortest

/-!
# Fixed numbers of decimals

A double with a given number of digits behind the point: the exact value, rounded
to the nearest such decimal and halfway cases to the even one.
-/

namespace QuadDaq.Decimal

/-- The quotient of two natural numbers, rounded to the nearest. -/
def roundedQuotient (a b : Nat) : Nat :=
  let rest := 2 * (a % b)
  if rest < b || (rest = b && a / b % 2 = 0) then a / b else a / b + 1

/-- The multiple of `10 ^ -places` that is nearest to a magnitude. -/
def Dyadic.scaled (v : Dyadic) (places : Nat) : Nat :=
  roundedQuotient (v.mantissa * Nat.pow 10 places * Nat.pow 2 v.exponent.toNat)
    (Nat.pow 2 (-v.exponent).toNat)

/-- The text of a double with so many digits behind the point, at least one. -/
def fixed (places : Nat) (x : Float) : String :=
  let sign := if isNegative x then "-" else ""
  if x.isNaN then "NaN"
  else if x.isInf then sign ++ "inf"
  else
    let n := (Dyadic.ofBits x.toBits).scaled places
    let fraction := Nat.toDigits 10 (n % Nat.pow 10 places)
    let zeros := List.replicate (places - fraction.length) '0'
    sign ++ toString (n / Nat.pow 10 places) ++ "." ++ String.ofList (zeros ++ fraction)

end QuadDaq.Decimal
