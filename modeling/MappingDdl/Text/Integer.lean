import MappingDdl.Text.Blank
import MappingDdl.Text.Digit

/-!
# Integers as text — reading a whole number written by a person

A number may have blanks around it, a sign, single underscores between its digits, and digits of any
script. A numeral of more than `maxDigits` digits is refused, in reading as in writing, so that the
cost of a conversion stays bounded.

The digits themselves are read by `digitsValue?`, a left fold in base ten.
-/

namespace MappingDdl.Text.Integer

/-- The most digits a numeral may have. -/
def maxDigits : Nat := 4300

/-- The digits of a numeral in which single underscores may stand between digits; `none` if another
character occurs or an underscore has no digit on both sides. -/
def digits? : List Char → Option (List Nat)
  | [] => none
  | [c] => (digitValue? c).map ([·])
  | c :: '_' :: rest => do return (← digitValue? c) :: (← digits? rest)
  | c :: rest => do return (← digitValue? c) :: (← digits? rest)

/-- The number written by a list of decimal digits, most significant first. -/
def ofDigits (ds : List Nat) : Nat :=
  ds.foldl (fun n d => 10 * n + d) 0

/-- The value of an unsigned numeral of at most `maxDigits` digits. -/
def magnitude? (cs : List Char) : Option Nat := do
  let ds ← digits? cs
  if ds.length ≤ maxDigits then some (ofDigits ds) else none

/-- The integer written in a text: blanks, an optional sign, a numeral, blanks. -/
def ofText? (s : String) : Option Int :=
  match trimNumber s.toList with
  | '-' :: rest => (magnitude? rest).map fun n => -Int.ofNat n
  | '+' :: rest => (magnitude? rest).map Int.ofNat
  | cs => (magnitude? cs).map Int.ofNat

/-- Whether the integer has few enough digits to be written out. -/
def isWritable (i : Int) : Bool :=
  decide (i.natAbs < Nat.pow 10 maxDigits)

end MappingDdl.Text.Integer
