import MappingDdl.Number.Binary

/-!
# Shortest decimal text of a double

The text of a double has the fewest significant digits that read back as the same double, and of
those the digits nearest to its value. The search tries one digit, two digits, … and looks at the
two neighbours of the value on that decimal grid; it is carried out on natural numbers.
-/

namespace MappingDdl.Number

/-- A decimal number: its digits, most significant first and without trailing zeros, and the power
of ten of the first digit. Zero is `⟨[0], 0⟩`. -/
structure Decimal where
  digits : List Nat
  exponent : Int
  deriving Repr, DecidableEq

/-- The digits without the zeros at the end. -/
def dropTrailingZeros (ds : List Nat) : List Nat :=
  (ds.reverse.dropWhile (· == 0)).reverse

/-- The decimal digits of a natural number, most significant first. -/
def digitsOf (n : Nat) : List Nat :=
  (Nat.toDigits 10 n).map fun c => c.toNat - '0'.toNat

/-- The decimal number `d · 10 ^ k` for positive `d`. -/
def Decimal.ofGrid (d : Nat) (k : Int) : Decimal :=
  let ds := digitsOf d
  ⟨dropTrailingZeros ds, k + (ds.length - 1)⟩

/-- The reals that read back as one double, as `low ≤ x · scale ≤ high` with the value itself at
`middle`; the ends count when `closed`. -/
structure Interval where
  low : Nat
  middle : Nat
  high : Nat
  exponent : Int
  closed : Bool

/-- The rounding interval of `mantissa · 2 ^ exponent`, in quarters of the last place. -/
def Interval.ofBinary (mantissa : Nat) (exponent : Int) (boundary : Bool) : Interval :=
  ⟨4 * mantissa - (if boundary then 1 else 2), 4 * mantissa, 4 * mantissa + 2, exponent - 2,
    mantissa % 2 == 0⟩

/-- Whether `d · 10 ^ k` lies in the interval. -/
def Interval.contains (i : Interval) (d : Nat) (k : Int) : Bool :=
  -- both sides are multiplied by all denominators
  let x := scaledNum d 10 k * scaledDen 2 i.exponent
  let low := scaledNum i.low 2 i.exponent * scaledDen 10 k
  let high := scaledNum i.high 2 i.exponent * scaledDen 10 k
  if i.closed then low ≤ x && x ≤ high else low < x && x < high

/-- The point of the grid `10 ^ k` that reads back, if one of the value's two neighbours does; of
two the nearer. -/
def Interval.onGrid? (i : Interval) (k : Int) : Option Nat :=
  let num := scaledNum i.middle 2 i.exponent * scaledDen 10 k
  let den := scaledDen 2 i.exponent * scaledNum 1 10 k
  let d := num / den
  match i.contains d k && 0 < d, i.contains (d + 1) k with
  -- both neighbours read back: the nearer one
  | true, true => some (roundHalfEven num den)
  | true, false => some d
  | false, true => some (d + 1)
  | false, false => none

/-- The shortest decimal number that reads back as `mantissa · 2 ^ exponent`. -/
def shortest (mantissa : Nat) (exponent : Int) (boundary : Bool) : Decimal :=
  if mantissa = 0 then ⟨[0], 0⟩
  else
    let i := Interval.ofBinary mantissa exponent boundary
    let top := leadingExponent (scaledNum mantissa 2 exponent) (scaledDen 2 exponent)
    -- seventeen digits always read back, so one of these grids has a hit
    let grids := (List.range 17).map fun n => top - Int.ofNat n
    (grids.findSome? fun k => (i.onGrid? k).map (Decimal.ofGrid · k)).getD ⟨[0], 0⟩

/-- The characters of decimal digits. -/
def digitChars (ds : List Nat) : List Char :=
  ds.map fun d => Char.ofNat ('0'.toNat + d)

/-- An exponent as text: a sign and at least two digits. -/
def exponentText (e : Int) : String :=
  let ds := Nat.repr e.natAbs
  (if e < 0 then "-" else "+") ++ (if ds.length < 2 then "0" ++ ds else ds)

/-- The digits `ds`, the first standing for `10 ^ e`, with the point written out; `pointZero` adds
`.0` to a whole number. -/
def positional (ds : List Nat) (e : Int) (pointZero : Bool) : String :=
  let cs := digitChars ds
  if e < 0 then "0." ++ String.ofList (List.replicate ((-e).toNat - 1) '0' ++ cs)
  else
    let whole := cs.take (e.toNat + 1)
    let rest := cs.drop (e.toNat + 1)
    let padded := whole ++ List.replicate (e.toNat + 1 - whole.length) '0'
    String.ofList padded ++
      (if rest.isEmpty then (if pointZero then ".0" else "") else "." ++ String.ofList rest)

/-- The digits `ds` with the point after the first one, and the exponent. -/
def scientific (ds : List Nat) (e : Int) (mark : String) : String :=
  match digitChars ds with
  | [] => ""
  | [c] => String.ofList [c] ++ mark ++ exponentText e
  | c :: rest => String.ofList (c :: '.' :: rest) ++ mark ++ exponentText e

/-- A decimal number as text: the point is written out from `10 ^ (-4)` up to below `10 ^ 16`, and a
whole number keeps `.0`. -/
def Decimal.text (d : Decimal) : String :=
  if -4 ≤ d.exponent && d.exponent < 16 then positional d.digits d.exponent true
  else scientific d.digits d.exponent "e"

/-- The text of a double; its sign is kept, also on zero. -/
def Binary.text : Binary → String
  | .nan => "nan"
  | .infinite negative => if negative then "-inf" else "inf"
  | .finite negative m e boundary => (if negative then "-" else "") ++ (shortest m e boundary).text

/-- The text of a double: the fewest digits that read back. -/
def floatText (f : Float) : String :=
  (Binary.ofFloat f).text

end MappingDdl.Number
