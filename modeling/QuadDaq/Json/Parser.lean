import QuadDaq.Decimal.Reading
import QuadDaq.Json.Value

/-!
# Reading JSON

Strict JSON: blanks are space, tab, line feed and carriage return only, strings
hold no raw control character and no lone half of a surrogate pair, and a number
that exceeds every double is an error. At most `nestingLimit` arrays and objects
may be open at once, which is also what the recursion runs on.

A reader takes the remaining characters and returns a value with the characters
after it.
-/

namespace QuadDaq.Json.Parser

/-- Reads a value off the front of the text. -/
abbrev Reader (α : Type) := List Char → Option (α × List Char)

/-- How many arrays and objects may be open at once. -/
def nestingLimit : Nat := 127

/-- The blanks between tokens. -/
def isBlank (c : Char) : Bool := c = ' ' || c = '\t' || c = '\n' || c = '\r'

/-- The text from its first character that is no blank. -/
def skipBlanks (cs : List Char) : List Char := cs.dropWhile isBlank

/-- The value of a hexadecimal digit. -/
def hexValue? (c : Char) : Option Nat :=
  if c.isDigit then some (c.toNat - '0'.toNat)
  else if 'a' ≤ c ∧ c ≤ 'f' then some (c.toNat - 'a'.toNat + 10)
  else if 'A' ≤ c ∧ c ≤ 'F' then some (c.toNat - 'A'.toNat + 10)
  else none

/-- Four hexadecimal digits. -/
def hexQuad : Reader Nat
  | a :: b :: c :: d :: rest => do
    let a ← hexValue? a
    let b ← hexValue? b
    let c ← hexValue? c
    let d ← hexValue? d
    some (((a * 16 + b) * 16 + c) * 16 + d, rest)
  | _ => none

/-- What follows `\u`: one code unit, or the two halves of a surrogate pair. -/
def codeUnits (cs : List Char) : Option (Char × List Char) := do
  let (high, rest) ← hexQuad cs
  if 0xDC00 ≤ high ∧ high ≤ 0xDFFF then none
  else if 0xD800 ≤ high ∧ high ≤ 0xDBFF then
    match rest with
    | '\\' :: 'u' :: rest =>
      let (low, rest) ← hexQuad rest
      if 0xDC00 ≤ low ∧ low ≤ 0xDFFF then
        some (Char.ofNat (0x10000 + (high - 0xD800) * 0x400 + (low - 0xDC00)), rest)
      else none
    | _ => none
  else some (Char.ofNat high, rest)

/-- What follows a backslash. -/
def escaped : Reader Char
  | '"' :: rest => some ('"', rest)
  | '\\' :: rest => some ('\\', rest)
  | '/' :: rest => some ('/', rest)
  | 'b' :: rest => some (Char.ofNat 8, rest)
  | 'f' :: rest => some (Char.ofNat 12, rest)
  | 'n' :: rest => some ('\n', rest)
  | 'r' :: rest => some ('\r', rest)
  | 't' :: rest => some ('\t', rest)
  | 'u' :: rest => codeUnits rest
  | _ => none

/-- The rest of a string behind its opening quote. The count bounds the number of
characters that are still to come. -/
def stringTail : Nat → List Char → Reader String
  | 0, _, _ => none
  | n + 1, read, cs =>
    match cs with
    | [] => none
    | '"' :: rest => some (String.ofList read.reverse, rest)
    | '\\' :: rest =>
      match escaped rest with
      | some (c, rest) => stringTail n (c :: read) rest
      | none => none
    | c :: rest => if c.toNat < 32 then none else stringTail n (c :: read) rest

/-- A string behind its opening quote. -/
def string (cs : List Char) : Option (String × List Char) := stringTail (cs.length + 1) [] cs

/-- The number with this sign and these parts: a whole number if it has neither
point nor exponent and fits 64 bits, otherwise a double. A negative whole zero is
the double `-0.0`. -/
def numberValue? (negative : Bool) (whole : List Char) (fraction : Option (List Char))
    (exponent : Option Int) : Option Json :=
  let n := Decimal.natOfDigits whole
  let asFloat :=
    let x := Decimal.nearest (Decimal.ofParts whole (fraction.getD []) (exponent.getD 0))
    if x.isFinite then some (float (Decimal.signed negative x)) else none
  if fraction.isSome || exponent.isSome then asFloat
  else if negative then
    if n = 0 then some (float (-0.0))
    else if n ≤ Nat.pow 2 63 then some (int (-(n : Int)))
    else asFloat
  else if n < UInt64.size then some (int n)
  else asFloat

/-- Digits behind a decimal point, if one is next. -/
def fractionPart : Reader (Option (List Char))
  | '.' :: rest =>
    let digits := rest.takeWhile Char.isDigit
    if digits.isEmpty then none else some (some digits, rest.dropWhile Char.isDigit)
  | cs => some (none, cs)

/-- An exponent, if one is next. -/
def exponentPart (cs : List Char) : Option (Option Int × List Char) :=
  match cs with
  | [] => some (none, [])
  | e :: rest =>
    if e = 'e' || e = 'E' then
      let (sign, rest) := match rest with
        | '-' :: r => (['-'], r)
        | '+' :: r => ([], r)
        | r => ([], r)
      let digits := rest.takeWhile Char.isDigit
      (Decimal.exponent? (sign ++ digits)).map fun n => (some n, rest.dropWhile Char.isDigit)
    else some (none, cs)

/-- A number, its sign included. A leading zero stands alone. -/
def number (cs : List Char) : Option (Json × List Char) := do
  let (negative, cs) := match cs with
    | '-' :: r => (true, r)
    | r => (false, r)
  let (whole, rest) ← match cs with
    | '0' :: r => some (['0'], r)
    | r =>
      let digits := r.takeWhile Char.isDigit
      if digits.isEmpty then none else some (digits, r.dropWhile Char.isDigit)
  if (rest.head?.map Char.isDigit).getD false then none
  let (fraction, rest) ← fractionPart rest
  let (exponent, rest) ← exponentPart rest
  let value ← numberValue? negative whole fraction exponent
  some (value, rest)

/-- One or more items with commas between them, up to the closing character. The
count bounds the number of items. -/
def sequence {α : Type} (item : Reader α) (close : Char) : Nat → Reader (List α)
  | 0, _ => none
  | n + 1, cs => do
    let (a, rest) ← item (skipBlanks cs)
    match skipBlanks rest with
    | c :: rest =>
      if c = close then some ([a], rest)
      else if c = ',' then
        let (items, rest) ← sequence item close n rest
        some (a :: items, rest)
      else none
    | [] => none

/-- Items with commas between them behind an opening bracket; there may be
none. -/
def bracketed {α : Type} (item : Reader α) (close : Char) (cs : List Char) :
    Option (List α × List Char) :=
  match skipBlanks cs with
  | [] => none
  | c :: rest => if c = close then some ([], rest) else sequence item close (cs.length + 1) cs

/-- A name, a colon and a value. -/
def entry (item : Reader Json) : Reader (String × Json)
  | '"' :: rest => do
    let (key, rest) ← string rest
    match skipBlanks rest with
    | ':' :: rest =>
      let (v, rest) ← item (skipBlanks rest)
      some ((key, v), rest)
    | _ => none
  | _ => none

/-- A value whose arrays and objects nest at most so deep. -/
def value (depth : Nat) (cs : List Char) : Option (Json × List Char) :=
  match cs with
  | 'n' :: 'u' :: 'l' :: 'l' :: rest => some (null, rest)
  | 't' :: 'r' :: 'u' :: 'e' :: rest => some (bool true, rest)
  | 'f' :: 'a' :: 'l' :: 's' :: 'e' :: rest => some (bool false, rest)
  | '"' :: rest => (string rest).map fun (s, rest) => (str s, rest)
  | '[' :: rest =>
    match depth with
    | 0 => none
    | d + 1 => (bracketed (value d) ']' rest).map fun (items, rest) => (arr items, rest)
  | '{' :: rest =>
    match depth with
    | 0 => none
    | d + 1 => (bracketed (entry (value d)) '}' rest).map fun (es, rest) => (obj es, rest)
  | cs => number cs

end QuadDaq.Json.Parser

namespace QuadDaq.Json

/-- Reads the whole text as one value. -/
def parse? (text : String) : Option Json :=
  match Parser.value Parser.nestingLimit (Parser.skipBlanks text.toList) with
  | some (v, rest) => if (Parser.skipBlanks rest).isEmpty then some v else none
  | none => none

end QuadDaq.Json
