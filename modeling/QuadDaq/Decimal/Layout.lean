import QuadDaq.Decimal.Shortest

/-!
# Layout of decimal numbers

How the digits of a double are **set out as text**: positionally or with an
exponent, with or without a fraction `.0`. Each output format of the library is
one `Layout` value and all share `Layout.render`.
-/

namespace QuadDaq.Decimal

/-- The choices that an output format makes. -/
structure Layout where
  /-- Whether a number whose leading digit has this decimal exponent is written
  positionally. -/
  positional : Int → Bool
  /-- A positional whole number ends in `.0`. -/
  wholeFraction : Bool
  /-- A non-negative exponent carries a plus sign. -/
  exponentPlus : Bool

namespace Layout

/-- Text of a number in a JSON document. -/
def json : Layout := ⟨fun e => -5 ≤ e && e < 16, true, true⟩

/-- Text of a number in a list that is shown to a person. -/
def listed : Layout := ⟨fun e => -4 ≤ e && e < 16, true, false⟩

/-- Text of a number inside a sentence: digits only, never an exponent. -/
def plain : Layout := ⟨fun _ => true, false, false⟩

/-- The digits with a point behind the one that has exponent zero. -/
def positionalText (layout : Layout) (d : Digits) : String :=
  let digits := Nat.toDigits 10 d.significand
  let e := d.leading
  if e < 0 then
    String.ofList ("0.".toList ++ List.replicate (-e - 1).toNat '0' ++ digits)
  else
    let whole := digits.take (e.toNat + 1)
    let fraction := digits.drop (e.toNat + 1)
    let padded := whole ++ List.replicate (e.toNat + 1 - whole.length) '0'
    if !fraction.isEmpty then String.ofList (padded ++ '.' :: fraction)
    else if layout.wholeFraction then String.ofList (padded ++ ['.', '0'])
    else String.ofList padded

/-- One digit, the others behind a point, and the exponent of the first. -/
def exponentText (layout : Layout) (d : Digits) : String :=
  let digits := Nat.toDigits 10 d.significand
  let e := d.leading
  let body := if digits.length ≤ 1 then digits else digits.take 1 ++ '.' :: digits.drop 1
  let sign := if e < 0 then "-" else if layout.exponentPlus then "+" else ""
  String.ofList body ++ "e" ++ sign ++ toString e.natAbs

/-- The text of a double. Infinities and the double that is not a number have
fixed words in every layout. -/
def render (layout : Layout) (x : Float) : String :=
  let sign := if isNegative x then "-" else ""
  if x.isNaN then "NaN"
  else if x.isInf then sign ++ "inf"
  else
    let d := shortest x
    if d.significand = 0 || layout.positional d.leading then sign ++ layout.positionalText d
    else sign ++ layout.exponentText d

end Layout

end QuadDaq.Decimal
