/-!
# Sets of characters as boundary lists

A class of characters is stored as the increasing list of code points at which membership changes,
read from a start outside the class. `CharSet.contains` walks the list, so membership is the parity
of the number of boundaries at or below the character (`CharSet.inside_not`).
-/

namespace Pamphlet.Text

/-- A set of characters; `bounds` is increasing and the code point 0 is outside unless it is a
boundary. -/
structure CharSet where
  bounds : List Nat

namespace CharSet

/-- Membership of a code point after the boundaries read so far. -/
def inside : List Nat → Nat → Bool → Bool
  | [], _, member => member
  | bound :: bounds, point, member =>
    if point < bound then member else inside bounds point (!member)

def contains (set : CharSet) (c : Char) : Bool :=
  inside set.bounds c.toNat false

theorem inside_not (bounds : List Nat) (point : Nat) (member : Bool) :
    inside bounds point (!member) = !inside bounds point member := by
  induction bounds generalizing member with
  | nil => rfl
  | cons bound bounds ih =>
    simp only [inside]
    split
    · rfl
    · exact ih _

end CharSet

end Pamphlet.Text
