import QuadDaq.Error

/-!
# Accumulated errors

Errors of a running stream are not delivered one by one. They gather in a set with
one entry for each code: how often it occurred since the last delivery and the text
of its latest occurrence. **Entries are in the order of first occurrence.**
-/

namespace QuadDaq

/-- What an error of a running stream is about. -/
inductive ErrorCode
  /-- The board failed at a tick. -/
  | acquisitionFault
  /-- A row could not be calibrated. -/
  | configurationIncomplete
  /-- The data consumer fell behind and a batch was dropped. -/
  | batchOverrun
  /-- The button consumer fell behind and a transition was dropped. -/
  | eventOverrun
  deriving Repr, DecidableEq

namespace ErrorCode

/-- The name in reports. -/
def name : ErrorCode → String
  | acquisitionFault => "AcquisitionFault"
  | configurationIncomplete => "ConfigurationIncomplete"
  | batchOverrun => "BatchOverrun"
  | eventOverrun => "EventOverrun"

/-- The code of a failure at a tick. -/
def ofError : DriverError → ErrorCode
  | .configurationIncomplete _ => configurationIncomplete
  | _ => acquisitionFault

end ErrorCode

/-- One code with its occurrences. -/
structure ErrorEntry where
  code : ErrorCode
  /-- Occurrences since the last delivery. -/
  count : Nat
  /-- Text of the latest occurrence. -/
  message : String
  deriving Repr, DecidableEq

/-- The errors that wait for delivery. -/
abbrev ErrorSet := List ErrorEntry

namespace ErrorSet

/-- Counts several occurrences of a code, the latest with this text. -/
def add (code : ErrorCode) (count : Nat) (message : String) : ErrorSet → ErrorSet
  | [] => [⟨code, count, message⟩]
  | e :: rest =>
    if e.code = code then ⟨code, e.count + count, message⟩ :: rest
    else e :: add code count message rest

/-- Counts one occurrence. -/
def record (code : ErrorCode) (message : String) (errors : ErrorSet) : ErrorSet :=
  add code 1 message errors

/-- Occurrences of a code. -/
def count (code : ErrorCode) (errors : ErrorSet) : Nat :=
  ((errors.find? fun e => e.code = code).map ErrorEntry.count).getD 0

end ErrorSet

end QuadDaq
