/-!
# Ranges — sets of code points given by their boundaries

A set of code points is written as the increasing list of the points at which membership changes:
`[48, 58]` is the ten digits `0` to `9`. This keeps the large character classes of this library
(word characters, printable characters, cased letters) as plain data.
-/

namespace MappingDdl.Text.Ranges

/-- Whether `n` lies in the set with these boundaries, given the membership of the points before the
first boundary. -/
def containsFrom (inside : Bool) : List Nat → Nat → Bool
  | [], _ => inside
  | b :: rest, n => if n < b then inside else containsFrom (!inside) rest n

/-- Whether `n` lies in the set with these boundaries. -/
def contains (bounds : List Nat) (n : Nat) : Bool :=
  containsFrom false bounds n

end MappingDdl.Text.Ranges
