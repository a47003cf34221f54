/-!
# Sets of characters

A property of Unicode is a set of characters, given as the ranges of its code points. Membership is
a search through the ranges.
-/

namespace GatewayPolicy.Text

/-- The characters from `first` to `last`, both ends included. -/
structure CharRange where
  /-- The code point of the first character. -/
  first : Nat
  /-- The code point of the last character. -/
  last : Nat

/-- Whether the range holds the character. -/
def CharRange.holds (r : CharRange) (c : Char) : Bool := r.first ≤ c.toNat && c.toNat ≤ r.last

/-- Whether one of the ranges holds the character. -/
def inSomeRange (ranges : List CharRange) (c : Char) : Bool := ranges.any (·.holds c)

end GatewayPolicy.Text
