import QuadDaq.Config.CalibrationTable
import QuadDaq.Decimal.Reading
import QuadDaq.Text.Blank
import QuadDaq.Text.Whole

/-!
# Calibration files

A calibration table as comma-separated values under the headers
`channel,offset,gain,transmission`.

Records end with a line feed, a carriage return or both; empty lines are skipped. A
field that starts with a quote goes on to the next quote that stands alone, two in a
row being one quote of its text. Blanks around a field do not count. Every record
has as many fields as the headers.
-/

namespace QuadDaq.Csv

/-! ### Records -/

/-- Where in a record the reader is. -/
inductive State
  /-- Before a record. -/
  | outside
  /-- Before a field. -/
  | fieldStart
  | plain
  | quoted
  /-- Behind a quote in a quoted field. -/
  | quoteSeen
  deriving Repr, DecidableEq

/-- A byte sequence that has been split into records so far. All lists are latest
first. -/
structure Splitter where
  state : State := .outside
  field : List UInt8 := []
  fields : List (List UInt8) := []
  records : List (List (List UInt8)) := []

/-- The byte ends a record. -/
def isLineEnd (b : UInt8) : Bool := b = 10 || b = 13

namespace Splitter

/-- Ends the current field. -/
def endField (s : Splitter) : Splitter :=
  { s with state := .fieldStart, field := [], fields := s.field.reverse :: s.fields }

/-- Ends the current record. -/
def endRecord (s : Splitter) : Splitter :=
  let s := s.endField
  { s with state := .outside, fields := [], records := s.fields.reverse :: s.records }

/-- Adds a byte to the current field. -/
def add (s : Splitter) (state : State) (b : UInt8) : Splitter :=
  { s with state := state, field := b :: s.field }

/-- A byte outside quotes: a comma or a line end, or a byte of the field. -/
def unquoted (s : Splitter) (b : UInt8) : Splitter :=
  if b = 44 then s.endField else if isLineEnd b then s.endRecord else s.add .plain b

/-- Takes one byte. -/
def step (s : Splitter) (b : UInt8) : Splitter :=
  match s.state with
  | .outside =>
    if isLineEnd b then s
    else if b = 34 then { s with state := .quoted }
    else s.unquoted b
  | .fieldStart => if b = 34 then { s with state := .quoted } else s.unquoted b
  | .plain => s.unquoted b
  | .quoted => if b = 34 then { s with state := .quoteSeen } else s.add .quoted b
  | .quoteSeen => if b = 34 then s.add .quoted b else s.unquoted b

end Splitter

/-- The records of a file. A byte order mark at its beginning is skipped. -/
def records (content : List UInt8) : List (List (List UInt8)) :=
  let body := match content with
    | 0xef :: 0xbb :: 0xbf :: rest => rest
    | bytes => bytes
  let s := body.foldl Splitter.step {}
  let s := if s.state = .outside then s else s.endRecord
  s.records.reverse

/-- The fields of a record as texts without blanks around them, if all of them are
valid UTF-8. -/
def texts? (record : List (List UInt8)) : Option (List String) :=
  record.mapM fun field => (String.fromUTF8? (ByteArray.mk field.toArray)).map Text.trim

/-! ### Tables -/

/-- What is wrong with a calibration file. -/
inductive Problem
  /-- There is no such file. -/
  | notOpened
  /-- The headers are not valid UTF-8. -/
  | headersUnreadable
  /-- The headers are others than expected. -/
  | headers (got : List String)
  /-- A record is malformed; the first one behind the headers is number 2. -/
  | row (number : Nat)
  | table (p : TableProblem)

/-- The wording of a problem, up to the text that a reader of files would add. -/
def Problem.message : Problem → String
  | notOpened => "open calibration CSV"
  | headersUnreadable => "read CSV headers"
  | headers got =>
    "calibration CSV must have headers 'channel,offset,gain,transmission', got: "
      ++ ",".intercalate got
  | row number => s!"invalid CSV row {number}"
  | table p => p.message

/-- The headers of a calibration file. -/
def expectedHeaders : List String := ["channel", "offset", "gain", "transmission"]

/-- A channel number, in decimal or in hexadecimal behind `0x`. -/
def channel? (text : String) : Option Nat :=
  match text.toList with
  | '0' :: 'x' :: rest => Text.unsigned? 64 16 rest
  | cs => Text.unsigned? 64 10 cs

/-- The calibration of a channel from the fields of a record. -/
def calibrationRow? (record : List (List UInt8)) : Option CalibrationRow := do
  match ← texts? record with
  | [channel, offset, gain, transmission] =>
    return ⟨← channel? channel, ← Decimal.float? offset, ← Decimal.float? gain,
      ← Decimal.float? transmission⟩
  | _ => none

/-- The rows of records that are numbered from here, up to the first malformed
one. -/
def calibrationRows (number : Nat) :
    List (List (List UInt8)) → Except Problem (List CalibrationRow)
  | [] => .ok []
  | record :: rest =>
    match calibrationRow? record with
    | none => .error (.row number)
    | some row => (calibrationRows (number + 1) rest).map (row :: ·)

/-- Reads a calibration file; no content means that there is no file. -/
def load (content : Option (List UInt8)) : Except Problem CalibrationTable :=
  match content with
  | none => .error .notOpened
  | some bytes =>
    let all := records bytes
    match texts? (all.head?.getD []) with
    | none => .error .headersUnreadable
    | some headers =>
      if headers ≠ expectedHeaders then .error (.headers headers)
      else do
        let rows ← calibrationRows 2 all.tail
        match CalibrationTable.ofRows rows with
        | .ok table => .ok table
        | .error p => .error (.table p)

end QuadDaq.Csv
