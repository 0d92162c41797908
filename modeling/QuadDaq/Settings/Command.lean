import QuadDaq.Settings.Document

/-!
# Settings commands

Every way of writing the store as one type, so that a history of settings is a list
of commands.
-/

namespace QuadDaq.Settings

/-- A write of the store. -/
inductive Command
  | setBridge (selection : Int)
  | setOffsets (row : Row)
  | setGains (row : Row)
  | setTransmissions (row : Row)
  | setSampleRate (hz : Nat)
  | setBurstSize (rows : Nat)
  | set (name : String) (value : Json)
  | apply (document : Json)
  | preset (p : Preset)

/-- The store after a command, unless it is refused. -/
def Command.run (s : Store) : Command → Except Refusal Store
  | setBridge selection => s.setBridge selection
  | setOffsets row => s.setOffsets row
  | setGains row => s.setGains row
  | setTransmissions row => s.setTransmissions row
  | setSampleRate hz => s.setSampleRate hz
  | setBurstSize rows => s.setBurstSize rows
  | set name value => s.set name value
  | apply document => (s.apply document).map Prod.fst
  | preset p => s.applyPreset p

end QuadDaq.Settings
