import QuadDaq.Text.Unprintable

/-!
# Quoted text

A text between double quotes in a message, unambiguous also when it holds quotes,
controls or invisible characters: those are spelled out, the common ones by a
letter and all others by their code point in hexadecimal.
-/

namespace QuadDaq.Text

/-- A character inside a quotation. -/
def quoteChar (c : Char) : List Char :=
  if c = '"' then ['\\', '"']
  else if c = '\\' then ['\\', '\\']
  else if c = '\n' then ['\\', 'n']
  else if c = '\r' then ['\\', 'r']
  else if c = '\t' then ['\\', 't']
  else if c.toNat = 0 then ['\\', '0']
  else if isUnprintable c then ['\\', 'u', '{'] ++ Nat.toDigits 16 c.toNat ++ ['}']
  else [c]

/-- The text between double quotes. -/
def quoted (s : String) : String :=
  String.ofList ('"' :: s.toList.flatMap quoteChar ++ ['"'])

end QuadDaq.Text
