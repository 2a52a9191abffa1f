/-!
# Sets of characters as ranges of code points

Character properties (blank, cased, unprintable, …) are data. A `CharSet` writes such a property as
its ascending, disjoint ranges of code points, and `CharSet.contains` is the test that every property
of the library goes through.
-/

namespace RecordSchema.Text

/-- A set of characters: ascending, disjoint ranges of code points, both ends included. -/
abbrev CharSet := List (Nat × Nat)

namespace CharSet

/-- Does one of the ranges hold code point `n`? The ranges ascend, so the search ends at the first
one that starts beyond `n`. -/
def containsCode : CharSet → Nat → Bool
  | [], _ => false
  | (first, last) :: ranges, n =>
    if n < first then false
    else if n ≤ last then true
    else containsCode ranges n

/-- Is the character a member of the set? -/
def contains (set : CharSet) (c : Char) : Bool := set.containsCode c.toNat

end CharSet

end RecordSchema.Text
