import QuadDaq.Channel

/-!
# The parallel bus

**How eight clock pulses carry four 16-bit samples.** At each pulse the eight data
lines have one level each, and a byte holds the levels of one pulse, line 0 in its
highest bit. Two lines belong to each channel: line `c` carries the even bits of
channel `c` and line `4 + c` the odd ones, from the highest pair of bits to the
lowest. So pulse `i` brings bits `15 - 2 i` and `14 - 2 i` of every channel.
-/

namespace QuadDaq.Board.Bus

/-- The levels of the data lines at one pulse, line 0 first. -/
abbrev Levels := Vector Bool 8

/-- The bytes of eight consecutive pulses. -/
abbrev Chunk := Vector UInt8 8

/-- The byte for the levels at one pulse: line 0 is the highest bit. -/
def byteOfLevels (levels : Levels) : UInt8 :=
  (List.finRange 8).foldl
    (fun acc i => acc ||| (if levels[i] then 1 <<< (7 - i.val).toUInt8 else 0)) 0

/-- The bit of a byte, as a word that is zero or one. -/
def bit (byte : UInt8) (position : Nat) : UInt16 := ((byte >>> position.toUInt8) &&& 1).toUInt16

/-- What a pulse adds to the word of a channel: the low half of its byte gives the
upper of two bits, the high half the lower. -/
def contribution (channel pulse : Nat) (byte : UInt8) : UInt16 :=
  bit byte (3 - channel) <<< (15 - 2 * pulse).toUInt16
    ||| bit byte (7 - channel) <<< (14 - 2 * pulse).toUInt16

/-- The word of one channel. -/
def word (chunk : Chunk) (channel : Nat) : UInt16 :=
  (List.finRange 8).foldl (fun acc i => acc ||| contribution channel i.val chunk[i]) 0

/-- The words of all channels. -/
def decode (chunk : Chunk) : PerChannel UInt16 := Vector.ofFn fun ch => word chunk ch.val

/-- The words as doubles, without scaling. -/
def row (chunk : Chunk) : Row := (decode chunk).map UInt16.toFloat

end QuadDaq.Board.Bus
