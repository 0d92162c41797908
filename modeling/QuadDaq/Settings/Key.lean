/-!
# Setting names

The names under which settings documents read and write the store. Six settings
can be written; three only report how the stream was configured.
-/

namespace QuadDaq.Settings

/-- A setting that documents can name. -/
inductive Key
  | bridge
  | offset
  | gain
  | transmission
  | sampleRate
  | burstSize
  | settlingTicks
  | queueCapacity
  | channels
  deriving Repr, DecidableEq

namespace Key

/-- The name in documents. -/
def name : Key → String
  | bridge => "Bridge"
  | offset => "Offset"
  | gain => "Gain"
  | transmission => "Transmission"
  | sampleRate => "SampleRate"
  | burstSize => "BurstSize"
  | settlingTicks => "SettlingTicks"
  | queueCapacity => "QueueCapacity"
  | channels => "Channels"

/-- All settings. -/
def all : List Key :=
  [bridge, offset, gain, transmission, sampleRate, burstSize, settlingTicks, queueCapacity,
    channels]

/-- The setting with this name. -/
def ofName? (name : String) : Option Key := all.find? fun k => k.name = name

theorem ofName?_name (k : Key) : ofName? k.name = some k := by
  cases k <;> decide

theorem name_of_ofName? {s : String} {k : Key} (h : ofName? s = some k) : k.name = s := by
  simpa [ofName?] using List.find?_some h

end Key

end QuadDaq.Settings
