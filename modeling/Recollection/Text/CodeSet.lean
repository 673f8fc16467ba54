/-!
# Sets of code points

A property of characters is an increasing list of bounds: membership starts at the first bound, ends
at the second, starts again at the third, and so on. The tables of this folder are such lists; each
holds one property of the character database, version 17.
-/

set_option autoImplicit false

namespace Recollection.Text

/-- A set of code points, as the increasing list of the bounds where membership changes. -/
structure CodeSet where
  /-- The code points at which membership starts and ends in turn. -/
  bounds : List Nat

namespace CodeSet

/-- Whether a code point lies behind an odd number of bounds. -/
def memberFrom (point : Nat) : List Nat → Bool
  | [] => false
  | bound :: rest => if point < bound then false else !memberFrom point rest

/-- Whether the character belongs to the set. -/
def contains (set : CodeSet) (c : Char) : Bool :=
  memberFrom c.toNat set.bounds

end CodeSet

end Recollection.Text
