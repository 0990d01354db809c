/-!
# Base 64

Decoding of bytes written with four characters for three bytes. Characters outside the alphabet are
skipped. A padding that completes a group ends the text; an incomplete group at the end is an error.
-/

namespace MappingDdl.Text.Base64

/-- The value of a character of the alphabet. -/
def value? (c : Char) : Option Nat :=
  if 'A' ≤ c ∧ c ≤ 'Z' then some (c.toNat - 65)
  else if 'a' ≤ c ∧ c ≤ 'z' then some (c.toNat - 71)
  else if c.isDigit then some (c.toNat + 4)
  else if c = '+' then some 62
  else if c = '/' then some 63
  else none

/-- Decodes a text. `group` holds the values of the group that is being read, and `pads` counts the
padding since the last of them. -/
def decodeFrom (group : List Nat) (pads : Nat) : List Char → Option (List UInt8)
  | [] => if group.isEmpty then some [] else none
  | c :: cs =>
    if c = '=' then
      if 2 ≤ group.length && 4 ≤ group.length + pads + 1 then some []
      else decodeFrom group (if 2 ≤ group.length then pads + 1 else pads) cs
    else match value? c, group with
    | none, _ => decodeFrom group pads cs
    | some v, [] => decodeFrom [v] 0 cs
    | some v, [a] => (decodeFrom [a, v] 0 cs).map (UInt8.ofNat (4 * a + v / 16) :: ·)
    | some v, [a, b] =>
      (decodeFrom [a, b, v] 0 cs).map (UInt8.ofNat (16 * (b % 16) + v / 4) :: ·)
    | some v, _ :: _ :: d :: _ => (decodeFrom [] 0 cs).map (UInt8.ofNat (64 * (d % 4) + v) :: ·)

/-- The bytes that a text writes. -/
def decode? (cs : List Char) : Option (List UInt8) :=
  decodeFrom [] 0 cs

end MappingDdl.Text.Base64
