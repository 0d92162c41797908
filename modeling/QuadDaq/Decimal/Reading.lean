import QuadDaq.Decimal.Shortest

/-!
# Reading decimal numbers

From decimal digits to the **nearest double**, and the number grammar that
calibration tables and configuration files share.
-/

namespace QuadDaq.Decimal

/-- The value of a run of decimal digits. -/
def natOfDigits (digits : List Char) : Nat :=
  digits.foldl (fun n c => 10 * n + (c.toNat - '0'.toNat)) 0

/-- Positive infinity. -/
def infinity : Float := Float.ofBits 0x7ff0000000000000

/-- The quiet value that is not a number. -/
def notANumber : Float := Float.ofBits 0x7ff8000000000000

/-- The double nearest to `significand · 10 ^ scale`, of two the one with the
even mantissa; infinity beyond the largest. Far out of range the answer is known
from the leading digit alone, which keeps the powers of ten small. -/
def nearest (d : Digits) : Float :=
  if d.significand = 0 then 0.0
  else if 310 < d.leading then infinity
  else if d.leading < -330 then 0.0
  else Float.ofScientific d.significand (d.scale < 0) d.scale.natAbs

/-- With the sign put in front. -/
def signed (negative : Bool) (x : Float) : Float := if negative then -x else x

/-- The decimal with these digits before and behind the point, times a power of
ten. -/
def ofParts (whole fraction : List Char) (exponent : Int) : Digits :=
  ⟨natOfDigits (whole ++ fraction), exponent - fraction.length⟩

/-- An exponent: an optional sign and at least one digit, to the end. -/
def exponent? (cs : List Char) : Option Int :=
  let (negative, digits) := match cs with
    | '-' :: r => (true, r)
    | '+' :: r => (false, r)
    | r => (false, r)
  if digits.isEmpty || !digits.all Char.isDigit then none
  else some (if negative then -(natOfDigits digits : Int) else natOfDigits digits)

/-- An unsigned number: digits with an optional point, at least one digit in
all, and an optional exponent; or one of the words `inf`, `infinity` and `nan`
in any case. -/
def unsigned? (cs : List Char) : Option Float :=
  let word := String.ofList (cs.map Char.toLower)
  if word = "inf" || word = "infinity" then some infinity
  else if word = "nan" then some notANumber
  else
    let whole := cs.takeWhile Char.isDigit
    let rest := cs.dropWhile Char.isDigit
    let (fraction, rest) := match rest with
      | '.' :: r => (r.takeWhile Char.isDigit, r.dropWhile Char.isDigit)
      | r => ([], r)
    if whole.isEmpty && fraction.isEmpty then none
    else match rest with
      | [] => some (nearest (ofParts whole fraction 0))
      | e :: r =>
        if e = 'e' || e = 'E' then
          (exponent? r).map fun n => nearest (ofParts whole fraction n)
        else none

/-- Reads the whole text as one number with an optional sign. -/
def float? (text : String) : Option Float :=
  match text.toList with
  | '-' :: r => (unsigned? r).map (signed true)
  | '+' :: r => unsigned? r
  | r => unsigned? r

end QuadDaq.Decimal
