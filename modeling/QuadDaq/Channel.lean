/-!
# Channels

The board samples **four channels at once**, so nearly everything in the library
is a value per channel: raw rows, calibrated rows, offsets, gains and
transmissions. `PerChannel α` is that shape; its length is in the type, so no
operation on rows needs a bounds check.
-/

namespace QuadDaq

/-- Number of sensor channels on the board. -/
def channelCount : Nat := 4

/-- One value per channel, channel 0 first. -/
abbrev PerChannel (α : Type) := Vector α 4

/-- One sample of every channel, taken at the same tick. -/
abbrev Row := PerChannel Float

namespace PerChannel

/-- The same value on every channel. -/
def uniform {α : Type} (a : α) : PerChannel α := Vector.replicate 4 a

/-- The values as a row if there are exactly four of them. -/
def ofList? {α : Type} (values : List α) : Option (PerChannel α) :=
  match values with
  | [a, b, c, d] => some #v[a, b, c, d]
  | _ => none

/-- The first channel whose value fails the test. -/
def firstFailing? {α : Type} (ok : α → Bool) (values : PerChannel α) : Option Nat :=
  values.toList.findIdx? fun a => !ok a

theorem ofList?_toList {α : Type} (values : PerChannel α) :
    ofList? values.toList = some values := by
  obtain ⟨⟨l⟩, h⟩ := values
  match l, h with
  | [a, b, c, d], _ => rfl

end PerChannel

end QuadDaq
