/-!
# Character tables

A property of characters as the closed ranges of code points that have it, in
ascending order. Membership is found by halving, so that a property with hundreds of
ranges costs no more than a few comparisons for each character.
-/

namespace QuadDaq.Text

/-- Closed ranges of code points, in ascending order. -/
abbrev CharTable := Array (Nat × Nat)

namespace CharTable

/-- The code point lies in a range between two positions, which are at most so many
halvings apart. -/
def search (table : CharTable) (code : Nat) : Nat → Nat → Nat → Bool
  | 0, _, _ => false
  | n + 1, low, high =>
    if high ≤ low then false
    else
      let middle := (low + high) / 2
      match table[middle]? with
      | none => false
      | some (first, last) =>
        if code < first then search table code n low middle
        else if last < code then search table code n (middle + 1) high
        else true

/-- The character is in the table. -/
def holds (table : CharTable) (c : Char) : Bool := table.search c.toNat 32 0 table.size

end CharTable

end QuadDaq.Text
