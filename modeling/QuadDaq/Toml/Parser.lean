import QuadDaq.Toml.Scalar
import QuadDaq.Toml.Table

/-!
# Reading TOML

TOML 1.0 documents. At most `nestingLimit` arrays and inline tables may be open at
once, and a dotted key has at most so many parts; the recursion runs on that limit.
-/

namespace QuadDaq.Toml

/-- How deep arrays, inline tables and dotted keys may go. -/
def nestingLimit : Nat := 79

/-- A character of a key without quotes. -/
def isBareKeyChar (c : Char) : Bool := c.isAlphanum || c = '-' || c = '_'

/-- One part of a key. -/
def keyPart : Reader String
  | '"' :: rest => lineString '"' false rest
  | '\'' :: rest => lineString '\'' true rest
  | cs =>
    let word := cs.takeWhile isBareKeyChar
    if word.isEmpty then none else some (String.ofList word, cs.dropWhile isBareKeyChar)

/-- The parts of a key with points between them; blanks around each part are
skipped. The count bounds the number of parts. -/
def keyParts : Nat → Reader (List String)
  | 0, _ => none
  | n + 1, cs => do
    let (part, rest) ← keyPart (cs.dropWhile isBlank)
    match rest.dropWhile isBlank with
    | '.' :: rest =>
      let (parts, rest) ← keyParts n rest
      return (part :: parts, rest)
    | rest => return ([part], rest)

/-- A key: its leading parts and its last one. -/
def key (cs : List Char) : Option ((List String × String) × List Char) := do
  let (parts, rest) ← keyParts nestingLimit cs
  let last ← parts.getLast?
  return ((parts.dropLast, last), rest)

/-- The text behind a comment, or the text itself if none is next. -/
def skipComment : List Char → List Char
  | '#' :: rest => rest.dropWhile isPlain
  | cs => cs

/-- Skips blanks, comments and line ends. A comment ends with its line. -/
def skipLines : Nat → List Char → Option (List Char)
  | 0, cs => some cs
  | n + 1, cs =>
    match cs.dropWhile isBlank with
    | '#' :: rest =>
      match newline? (rest.dropWhile isPlain) with
      | some rest => skipLines n rest
      | none => none
    | cs =>
      match newline? cs with
      | some rest => skipLines n rest
      | none => some cs

/-- Skips blanks, comments and line ends within an array. -/
def skipSpace (cs : List Char) : Option (List Char) := skipLines (cs.length + 1) cs

/-- The items of an array behind its opening bracket or a comma; the last one may
be followed by a comma. The count bounds the number of items. -/
def arrayItems (item : Reader Toml) : Nat → Reader (List Toml)
  | 0, _ => none
  | n + 1, cs => do
    match ← skipSpace cs with
    | ']' :: rest => return ([], rest)
    | cs =>
      let (v, rest) ← item cs
      match ← skipSpace rest with
      | ',' :: rest =>
        let (items, rest) ← arrayItems item n rest
        return (v :: items, rest)
      | ']' :: rest => return ([v], rest)
      | _ => none

/-- A key with its value. -/
def keyValue (item : Reader Toml) (cs : List Char) :
    Option ((List String × String × Toml) × List Char) := do
  let ((path, last), rest) ← key cs
  match rest with
  | '=' :: rest =>
    let (v, rest) ← item (rest.dropWhile isBlank)
    return ((path, last, v), rest.dropWhile isBlank)
  | _ => none

/-- The entries of an inline table, none of them followed by a comma without
another entry. The count bounds the number of entries. -/
def inlineEntries (item : Reader Toml) : Nat → Node → Reader Node
  | 0, _, _ => none
  | n + 1, node, cs => do
    let ((path, last, v), rest) ← keyValue item cs
    let node ← node.addKey path last v
    match rest with
    | ',' :: rest => inlineEntries item n node rest
    | '}' :: rest => return (node, rest)
    | _ => none

/-- An inline table behind its opening brace. -/
def inlineTable (item : Reader Toml) (cs : List Char) : Option (Toml × List Char) :=
  match cs.dropWhile isBlank with
  | '}' :: rest => some (.table [], rest)
  | cs => (inlineEntries item (cs.length + 1) {} cs).map fun (node, rest) => (node.finish, rest)

/-- A value whose arrays and inline tables nest at most so deep. -/
def value (depth : Nat) (cs : List Char) : Option (Toml × List Char) :=
  match cs with
  | 't' :: 'r' :: 'u' :: 'e' :: rest => some (.bool true, rest)
  | 'f' :: 'a' :: 'l' :: 's' :: 'e' :: rest => some (.bool false, rest)
  | '[' :: rest =>
    match depth with
    | 0 => none
    | d + 1 =>
      (arrayItems (value d) (rest.length + 1) rest).map fun (items, rest) => (.arr items, rest)
  | '{' :: rest =>
    match depth with
    | 0 => none
    | d + 1 => inlineTable (value d) rest
  | '"' :: _ => (string cs).map fun (s, rest) => (.str s, rest)
  | '\'' :: _ => (string cs).map fun (s, rest) => (.str s, rest)
  | cs => numberOrDate cs

/-- The text behind the end of a line, a comment in front of it included. -/
def lineEnd (cs : List Char) : Option (List Char) :=
  match skipComment (cs.dropWhile isBlank) with
  | [] => some []
  | cs => newline? cs

/-- A document in progress: its root table and the header that keys belong to. -/
structure Document where
  root : Node := {}
  header : List String := []

/-- A header, single or double, behind its first bracket. -/
def header (d : Document) (cs : List Char) : Option (Document × List Char) :=
  match cs with
  | '[' :: cs => do
    let ((path, last), rest) ← key cs
    let rest ← expect ']' rest >>= expect ']'
    let root ← d.root.openElement path last
    return (⟨root, path ++ [last]⟩, ← lineEnd rest)
  | cs => do
    let ((path, last), rest) ← key cs
    let rest ← expect ']' rest
    let root ← d.root.openTable path last
    return (⟨root, path ++ [last]⟩, ← lineEnd rest)

/-- The lines of a document. The count bounds their number. -/
def lines : Nat → Document → List Char → Option Document
  | 0, _, _ => none
  | n + 1, d, cs =>
    match cs.dropWhile isBlank with
    | [] => some d
    | '#' :: rest =>
      match lineEnd ('#' :: rest) with
      | some rest => lines n d rest
      | none => none
    | '[' :: rest =>
      match header d rest with
      | some (d, rest) => lines n d rest
      | none => none
    | cs =>
      match newline? cs with
      | some rest => lines n d rest
      | none =>
        match keyValue (value nestingLimit) cs with
        | none => none
        | some ((path, last, v), rest) =>
          match d.root.addKeyAt d.header path last v, lineEnd rest with
          | some root, some rest => lines n { d with root := root } rest
          | _, _ => none

/-- Reads a whole document. A byte order mark at its beginning is skipped. -/
def parse? (text : String) : Option Toml :=
  let cs := match text.toList with
    | c :: rest => if c.toNat = 0xfeff then rest else c :: rest
    | [] => []
  (lines (cs.length + 2) {} cs).map fun d => d.root.finish

end QuadDaq.Toml
