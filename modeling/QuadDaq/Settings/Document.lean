import QuadDaq.Decimal.Shortest
import QuadDaq.Json.Value
import QuadDaq.Settings.Store

/-!
# Settings documents

A settings document is a JSON object from setting names to values. The string
`"?"` in place of a value is a **query**. Applying a document writes its literal
values as one batch and answers every key with the value it has afterwards;
getting a document only answers.

A document is a map: of two entries with one name the later one counts, and names
are visited in the order of their UTF-8 bytes, which is the order of their code
points.
-/

namespace QuadDaq.Settings

/-- A settings document: entries in ascending order of their names, one for each
name. -/
abbrev Document := List (String × Json)

namespace Document

/-- The document with a name bound to a value, whatever it was bound to before. -/
def insert (key : String) (value : Json) : Document → Document
  | [] => [(key, value)]
  | (k, v) :: rest =>
    if key < k then (key, value) :: (k, v) :: rest
    else if key = k then (key, value) :: rest
    else (k, v) :: insert key value rest

/-- The document with these entries; the last one of a name counts. -/
def ofEntries (entries : List (String × Json)) : Document :=
  entries.foldl (fun d e => insert e.1 e.2 d) []

/-- The document that a JSON value is. -/
def ofJson : Json → Except Refusal Document
  | .obj entries => .ok (ofEntries entries)
  | _ => .error .notAnObject

/-- The document as a JSON value. -/
def toJson (d : Document) : Json := .obj d

end Document

/-- The value is the query placeholder. -/
def isQuery : Json → Bool
  | .str s => s = "?"
  | _ => false

/-- What a queried name without a setting is answered with. -/
def unknownAnswer : Json := .str "!unknown"

/-! ### Values into assignments -/

/-- Four numbers, one for each channel. -/
def channelValues (key : Key) : Json → Except Refusal Row
  | .arr items =>
    if items.length ≠ 4 then .error (.wrongLength key items.length)
    else match (items.mapM Json.asFloat?).bind PerChannel.ofList? with
      | some row => .ok row
      | none => .error (.notNumbers key)
  | _ => .error (.notAnArray key)

/-- The assignment that a literal value of a setting stands for. -/
def Key.assignment (key : Key) (value : Json) : Except Refusal Assignment :=
  match key with
  | .bridge =>
    match value.asInt64? with
    | some n => Assignment.ofSelection n
    | none => .error (.notAnInteger key)
  | .offset => channelValues key value >>= Assignment.checkOffsets
  | .gain => channelValues key value >>= Assignment.checkGains
  | .transmission => channelValues key value >>= Assignment.checkTransmissions
  | .sampleRate =>
    match value.asNat? 32 with
    | some hz => Assignment.checkSampleRate hz
    | none => .error (.notPositive key)
  | .burstSize =>
    match value.asNat? 64 with
    | some rows => Assignment.checkBurstSize rows
    | none => .error (.notPositive key)
  | .settlingTicks | .queueCapacity | .channels => .error (.readOnly key)

/-- The assignment that an entry of a document stands for. -/
def assignmentOf (name : String) (value : Json) : Except Refusal Assignment :=
  match Key.ofName? name with
  | some key => key.assignment value
  | none => .error (.unknownName name)

/-- The assignments of the literal values in order; the first invalid one is the
refusal of the document. -/
def Document.assignments (d : Document) : Except Refusal (List Assignment) :=
  (d.filter fun e => !isQuery e.2).mapM fun e => assignmentOf e.1 e.2

/-! ### Answers -/

/-- The whole number that a double is, if it is below `2 ^ 53` in magnitude. -/
def wholeNumber? (x : Float) : Option Int :=
  match (Decimal.Dyadic.ofBits x.toBits).whole? with
  | some n =>
    if n < Nat.pow 2 53 then some (if Decimal.isNegative x then -(n : Int) else n) else none
  | none => none

/-- A double in an answer: whole numbers are reported as such. -/
def numberAnswer (x : Float) : Json :=
  match wholeNumber? x with
  | some n => .int n
  | none => if x.isFinite then .float x else .null

/-- A row in an answer. -/
def rowAnswer (row : Row) : Json := .arr (row.toList.map numberAnswer)

/-- The value that a setting is reported with. -/
def Key.answer (snapshot : Snapshot) (shape : Shape) : Key → Json
  | .bridge => .int snapshot.bridge.toInt
  | .offset => rowAnswer snapshot.offsets
  | .gain => (snapshot.gains.map rowAnswer).getD .null
  | .transmission => (snapshot.transmissions.map rowAnswer).getD .null
  | .sampleRate => .int shape.sampleRate
  | .burstSize => .int shape.batchRows
  | .settlingTicks => .int shape.settlingTicks
  | .queueCapacity => .int shape.queueCapacity
  | .channels => .int channelCount

/-- What a name is answered with. -/
def answerFor (snapshot : Snapshot) (shape : Shape) (name : String) : Json :=
  match Key.ofName? name with
  | some key => key.answer snapshot shape
  | none => unknownAnswer

/-- The answer to a document: its names, each with its current value. The
snapshot and the shape are read one after the other, so they are given
separately. -/
def Document.answer (d : Document) (snapshot : Snapshot) (shape : Shape) : Document :=
  d.map fun e => (e.1, answerFor snapshot shape e.1)

namespace Store

/-- Assigns one setting by name. -/
def set (s : Store) (name : String) (value : Json) : Except Refusal Store := do
  s.commit [← assignmentOf name value]

/-- Answers every name of a document; the values in it are ignored. -/
def get (s : Store) (value : Json) : Except Refusal Document := do
  let d ← Document.ofJson value
  return d.answer s.snapshot s.shape

/-- Writes the literal values of a document and answers all its names. -/
def apply (s : Store) (value : Json) : Except Refusal (Store × Document) := do
  let d ← Document.ofJson value
  let s ← s.commit (← d.assignments)
  return (s, d.answer s.snapshot s.shape)

end Store

end QuadDaq.Settings
