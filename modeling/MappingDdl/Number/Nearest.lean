import MappingDdl.Number.Binary
import MappingDdl.Text.Blank
import MappingDdl.Text.Digit

/-!
# The double nearest to a decimal number

A decimal number is read exactly, as a fraction of natural numbers, and rounded once: to the nearest
double, a half to the even neighbour. What is too large becomes infinite.
-/

namespace MappingDdl.Number

/-- The power of two that the mantissa of the double nearest to the positive fraction `num / den`
counts. -/
def mantissaUnit (num den : Nat) : Int :=
  let e := Int.ofNat num.log2 - Int.ofNat den.log2 - 53
  let q := num * scaledDen 2 e / (den * scaledNum 1 2 e)
  -- the estimate is at most one too small; below the smallest exponent digits are lost
  max (-1074) (if q < Nat.pow 2 53 then e else e + 1)

/-- The bits of the double nearest to the positive fraction `num / den`. -/
def nearestBits (num den : Nat) : Nat :=
  let e := mantissaUnit num den
  let q := roundHalfEven (num * scaledDen 2 e) (den * scaledNum 1 2 e)
  min ((e + 1074).toNat * Nat.pow 2 52 + q) (2047 * Nat.pow 2 52)

/-- The double nearest to `m · 10 ^ e`. -/
def ofDecimal (m : Nat) (e : Int) : Float :=
  -- a rough count of the digits in front of the point settles what no double can hold
  let size := Int.ofNat (Nat.log2 m) * 3 / 10 + e
  if m = 0 || size < -400 then 0.0
  else if 400 < size then Float.ofBits (UInt64.ofNat (2047 * Nat.pow 2 52))
  else Float.ofBits (UInt64.ofNat (nearestBits (scaledNum m 10 e) (scaledDen 10 e)))

/-- The decimal digits at the front of a text, in any script, and what follows them. -/
def leadingDigits : List Char → List Nat × List Char
  | [] => ([], [])
  | c :: cs =>
    match Text.digitValue? c with
    | none => ([], c :: cs)
    | some d =>
      let (ds, rest) := leadingDigits cs
      (d :: ds, rest)

/-- The number that decimal digits write. -/
def ofDigits (ds : List Nat) : Nat :=
  ds.foldl (fun n d => 10 * n + d) 0

/-- The exponent after a decimal number: a letter, an optional sign and digits, or nothing. -/
def exponent? : List Char → Option Int
  | [] => some 0
  | c :: cs =>
    if c != 'e' && c != 'E' then none
    else
      let (negative, cs) := match cs with
        | '-' :: cs => (true, cs)
        | '+' :: cs => (false, cs)
        | cs => (false, cs)
      match leadingDigits cs with
      | (d :: ds, []) =>
        let n := Int.ofNat (ofDigits (d :: ds))
        some (if negative then -n else n)
      | _ => none

/-- An unsigned decimal number, or a word for what is not finite. -/
def magnitude? (cs : List Char) : Option Float :=
  let word := String.ofList (cs.map Char.toLower)
  if word == "inf" || word == "infinity" then some (1.0 / 0.0)
  else if word == "nan" then some (0.0 / 0.0)
  else do
    let (whole, rest) := leadingDigits cs
    let (fraction, rest) := match rest with
      | '.' :: rest => leadingDigits rest
      | rest => ([], rest)
    if whole.isEmpty && fraction.isEmpty then none
    let e ← exponent? rest
    return ofDecimal (ofDigits (whole ++ fraction)) (e - fraction.length)

/-- The number written in a text: blanks, an optional sign, a decimal number, blanks. -/
def ofText? (cs : List Char) : Option Float :=
  match Text.trimNumber cs with
  | '-' :: rest => (magnitude? rest).map fun f => -f
  | '+' :: rest => magnitude? rest
  | cs => magnitude? cs

end MappingDdl.Number
