import QuadDaq.Decimal.Reading
import QuadDaq.Toml.Value

/-!
# TOML scalars

Strings, numbers, truth values, and dates and times.

A reader takes the remaining characters and returns a value with the characters
after it.
-/

namespace QuadDaq.Toml

/-- Reads a value off the front of the text. -/
abbrev Reader (α : Type) := List Char → Option (α × List Char)

/-- A blank within a line. -/
def isBlank (c : Char) : Bool := c = ' ' || c = '\t'

/-- A character that may stand in comments and strings: no control but the tab. -/
def isPlain (c : Char) : Bool := c = '\t' || (32 ≤ c.toNat && c.toNat ≠ 127)

/-- A line end: a line feed, alone or behind a carriage return. -/
def newline? : List Char → Option (List Char)
  | '\n' :: rest => some rest
  | '\r' :: '\n' :: rest => some rest
  | _ => none

/-! ### Strings -/

/-- The value of a hexadecimal digit. -/
def hexValue? (c : Char) : Option Nat :=
  if c.isDigit then some (c.toNat - '0'.toNat)
  else if 'a' ≤ c ∧ c ≤ 'f' then some (c.toNat - 'a'.toNat + 10)
  else if 'A' ≤ c ∧ c ≤ 'F' then some (c.toNat - 'A'.toNat + 10)
  else none

/-- The number that hexadecimal digits stand for. -/
def hexNumber? (digits : List Char) : Option Nat :=
  digits.foldl (fun acc c => do return (← acc) * 16 + (← hexValue? c)) (some 0)

/-- A character given by exactly so many hexadecimal digits. -/
def codePoint (digits : Nat) (cs : List Char) : Option (Char × List Char) := do
  let word := cs.take digits
  if word.length < digits then none
  let n ← hexNumber? word
  if h : n.isValidChar then some (Char.ofNatAux n h, cs.drop digits) else none

/-- What follows a backslash. -/
def escaped : Reader Char
  | 'b' :: rest => some (Char.ofNat 8, rest)
  | 't' :: rest => some ('\t', rest)
  | 'n' :: rest => some ('\n', rest)
  | 'f' :: rest => some (Char.ofNat 12, rest)
  | 'r' :: rest => some ('\r', rest)
  | '"' :: rest => some ('"', rest)
  | '\\' :: rest => some ('\\', rest)
  | 'u' :: rest => codePoint 4 rest
  | 'U' :: rest => codePoint 8 rest
  | _ => none

/-- The rest of a string on one line, up to its closing quote. In a literal string
a backslash stands for itself. The count bounds the number of characters. -/
def lineTail (quote : Char) (literal : Bool) : Nat → List Char → Reader String
  | 0, _, _ => none
  | n + 1, read, cs =>
    match cs with
    | [] => none
    | c :: rest =>
      if c = quote then some (String.ofList read.reverse, rest)
      else if c = '\\' && !literal then
        match escaped rest with
        | some (e, rest) => lineTail quote literal n (e :: read) rest
        | none => none
      else if isPlain c then lineTail quote literal n (c :: read) rest
      else none

/-- A string on one line, behind its opening quote. -/
def lineString (quote : Char) (literal : Bool) (cs : List Char) : Option (String × List Char) :=
  lineTail quote literal (cs.length + 1) [] cs

/-- What follows a backslash at the end of a line: blanks and line ends are
skipped. There must be a line end behind the blanks of the first line. -/
def skipFold (cs : List Char) : Option (List Char) := do
  let rest ← newline? (cs.dropWhile isBlank)
  skipAll (rest.length + 1) rest
where
  /-- Skips blanks and line ends. -/
  skipAll : Nat → List Char → Option (List Char)
    | 0, cs => some cs
    | n + 1, cs =>
      let cs := cs.dropWhile isBlank
      match newline? cs with
      | some rest => skipAll n rest
      | none => some cs

/-- The rest of a string of several lines. Up to two quotes in a row belong to the
text, also in front of the closing three. Line ends are read as line feeds. -/
def blockTail (quote : Char) (literal : Bool) : Nat → List Char → Reader String
  | 0, _, _ => none
  | n + 1, read, cs =>
    match cs with
    | [] => none
    | c :: rest =>
      if c = quote then
        let quotes := (cs.takeWhile (· == quote)).length
        if 3 ≤ quotes then
          let extra := min (quotes - 3) 2
          some (String.ofList (read.reverse ++ List.replicate extra quote), cs.drop (extra + 3))
        else blockTail quote literal n (c :: read) rest
      else match newline? cs with
        | some rest => blockTail quote literal n ('\n' :: read) rest
        | none =>
          if c = '\\' && !literal then
            match escaped rest with
            | some (e, rest) => blockTail quote literal n (e :: read) rest
            | none =>
              match skipFold rest with
              | some rest => blockTail quote literal n read rest
              | none => none
          else if isPlain c then blockTail quote literal n (c :: read) rest
          else none

/-- A string of several lines, behind its opening quotes. A line end right there is
not part of it. -/
def blockString (quote : Char) (literal : Bool) (cs : List Char) : Option (String × List Char) :=
  let body := (newline? cs).getD cs
  blockTail quote literal (body.length + 1) [] body

/-- Any string. -/
def string : Reader String
  | '"' :: '"' :: '"' :: rest => blockString '"' false rest
  | '"' :: rest => lineString '"' false rest
  | '\'' :: '\'' :: '\'' :: rest => blockString '\'' true rest
  | '\'' :: rest => lineString '\'' true rest
  | _ => none

/-! ### Numbers -/

/-- One or more digits, between which single underscores may stand. The digits are
given without the underscores. -/
def digitRun (isDigit : Char → Bool) : List Char → Option (List Char × List Char)
  | [] => none
  | c :: rest => if isDigit c then more rest.length [c] rest else none
where
  /-- The digits behind the first one. -/
  more : Nat → List Char → List Char → Option (List Char × List Char)
    | 0, read, cs => some (read.reverse, cs)
    | n + 1, read, cs =>
      match cs with
      | '_' :: d :: rest => if isDigit d then more n (d :: read) rest else none
      | ['_'] => none
      | d :: rest => if isDigit d then more n (d :: read) rest else some (read.reverse, cs)
      | [] => some (read.reverse, [])

/-- Decimal digits without a leading zero. -/
def wholePart : Reader (List Char)
  | '0' :: rest => some (['0'], rest)
  | cs => digitRun Char.isDigit cs

/-- A whole number that fits a signed 64-bit word. -/
def wholeNumber (n : Int) : Option Toml :=
  if -Int.pow 2 63 ≤ n ∧ n < Int.pow 2 63 then some (.int n) else none

/-- A whole number to another base, behind its mark. -/
def radixNumber (base : Nat) (cs : List Char) : Option (Toml × List Char) := do
  let isDigit (c : Char) : Bool := (hexValue? c).any (· < base)
  let (digits, rest) ← digitRun isDigit cs
  let n := digits.foldl (fun acc c => acc * base + (hexValue? c).getD 0) 0
  return (← wholeNumber n, rest)

/-- An exponent behind its mark. -/
def exponent (cs : List Char) : Option (Int × List Char) := do
  let (negative, cs) := match cs with
    | '-' :: r => (true, r)
    | '+' :: r => (false, r)
    | r => (false, r)
  let (digits, rest) ← digitRun Char.isDigit cs
  let n : Int := Decimal.natOfDigits digits
  return (if negative then -n else n, rest)

/-- The double with these parts. One that exceeds every double is refused, but only
a positive one. -/
def floatOf (negative : Bool) (whole fraction : List Char) (exponent : Int) : Option Toml :=
  let x := Decimal.signed negative (Decimal.nearest (Decimal.ofParts whole fraction exponent))
  if x.isInf && !negative then none else some (.float x)

/-- A decimal number without its sign. -/
def decimalNumber (negative : Bool) (cs : List Char) : Option (Toml × List Char) := do
  let (whole, rest) ← wholePart cs
  let withExponent (fraction : List Char) (cs : List Char) : Option (Toml × List Char) := do
    let (n, rest) ← exponent cs
    return (← floatOf negative whole fraction n, rest)
  match rest with
  | '.' :: rest =>
    let (fraction, rest) ← digitRun Char.isDigit rest
    match rest with
    | 'e' :: rest => withExponent fraction rest
    | 'E' :: rest => withExponent fraction rest
    | rest => return (← floatOf negative whole fraction 0, rest)
  | 'e' :: rest => withExponent [] rest
  | 'E' :: rest => withExponent [] rest
  | rest =>
    let n : Int := Decimal.natOfDigits whole
    return (← wholeNumber (if negative then -n else n), rest)

/-- A number behind its sign: a special value or a decimal number. -/
def signedNumber (negative : Bool) : Reader Toml
  | 'i' :: 'n' :: 'f' :: rest => some (.float (Decimal.signed negative Decimal.infinity), rest)
  | 'n' :: 'a' :: 'n' :: rest => some (.float Decimal.notANumber, rest)
  | cs => decimalNumber negative cs

/-- Any number. -/
def number : Reader Toml
  | '0' :: 'x' :: rest => radixNumber 16 rest
  | '0' :: 'o' :: rest => radixNumber 8 rest
  | '0' :: 'b' :: rest => radixNumber 2 rest
  | '+' :: rest => signedNumber false rest
  | '-' :: rest => signedNumber true rest
  | cs => signedNumber false cs

/-! ### Dates and times -/

/-- A number of exactly so many digits between two bounds. -/
def field (digits low high : Nat) (cs : List Char) : Option (Nat × List Char) :=
  let word := cs.take digits
  if word.length = digits && word.all Char.isDigit then
    let n := Decimal.natOfDigits word
    if low ≤ n && n ≤ high then some (n, cs.drop digits) else none
  else none

/-- The text behind this character. -/
def expect (c : Char) : List Char → Option (List Char)
  | d :: rest => if c = d then some rest else none
  | [] => none

/-- Days of a month. -/
def daysInMonth (year month : Nat) : Nat :=
  if month = 2 then
    if year % 4 = 0 && (year % 100 ≠ 0 || year % 400 = 0) then 29 else 28
  else if month = 4 || month = 6 || month = 9 || month = 11 then 30
  else 31

/-- The text behind a date. -/
def date (cs : List Char) : Option (List Char) := do
  let (year, cs) ← field 4 0 9999 cs
  let cs ← expect '-' cs
  let (month, cs) ← field 2 1 12 cs
  let cs ← expect '-' cs
  let (_, cs) ← field 2 1 (daysInMonth year month) cs
  return cs

/-- The text behind a time of day; there may be a leap second and a fraction. -/
def time (cs : List Char) : Option (List Char) := do
  let (_, cs) ← field 2 0 23 cs
  let cs ← expect ':' cs
  let (_, cs) ← field 2 0 59 cs
  let cs ← expect ':' cs
  let (_, cs) ← field 2 0 60 cs
  match cs with
  | '.' :: d :: rest => return if d.isDigit then rest.dropWhile Char.isDigit else cs
  | cs => return cs

/-- The text behind an offset from universal time, if there is one. -/
def offset (cs : List Char) : List Char :=
  let hours (cs : List Char) : Option (List Char) := do
    let (_, cs) ← field 2 0 23 cs
    let cs ← expect ':' cs
    let (_, cs) ← field 2 0 59 cs
    return cs
  match cs with
  | 'Z' :: rest => rest
  | 'z' :: rest => rest
  | '+' :: rest => (hours rest).getD cs
  | '-' :: rest => (hours rest).getD cs
  | cs => cs

/-- The text behind a date, a time or both. -/
def dateOrTime (cs : List Char) : Option (List Char) :=
  match date cs with
  | none => time cs
  | some afterDate =>
    match afterDate with
    | c :: rest =>
      if c = 'T' || c = 't' || c = ' ' then
        some (((time rest).map offset).getD afterDate)
      else some afterDate
    | [] => some []

/-- A number, or a date or time. -/
def numberOrDate (cs : List Char) : Option (Toml × List Char) :=
  match dateOrTime cs with
  | some rest => some (.datetime, rest)
  | none => number cs

end QuadDaq.Toml
