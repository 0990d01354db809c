import MappingDdl.Number.Shortest

/-!
# Numbers with a chosen number of places

Fixed, scientific and general notation of a non-negative fraction `num / den`, each correctly
rounded with a half going to the even neighbour. `alternate` keeps the point, and in general
notation the zeros at the end.
-/

namespace MappingDdl.Number

/-- A fraction with `places` digits after the point. -/
def fixedText (num den places : Nat) (alternate : Bool) : String :=
  let cs := (roundHalfEven (num * Nat.pow 10 places) den).repr.toList
  let cs := List.replicate (places + 1 - cs.length) '0' ++ cs
  let whole := cs.take (cs.length - places)
  let rest := cs.drop (cs.length - places)
  String.ofList whole ++ (if rest.isEmpty && !alternate then "" else "." ++ String.ofList rest)

/-- The `count` most significant digits of a fraction and the power of ten of the first one. -/
def significant (num den count : Nat) : List Nat × Int :=
  if num = 0 then (List.replicate count 0, 0)
  else
    let e := leadingExponent num den
    let k := e - (Int.ofNat count - 1)
    let ds := digitsOf (roundHalfEven (num * scaledDen 10 k) (den * scaledNum 1 10 k))
    -- rounding up gave one digit more: it is a power of ten
    if count < ds.length then (ds.take count, e + 1) else (ds, e)

/-- A fraction in scientific notation with `places` digits after the point. -/
def scientificText (num den places : Nat) (mark : String) (alternate : Bool) : String :=
  let (ds, e) := significant num den (places + 1)
  match digitChars ds with
  | [] => ""
  | [c] => String.ofList (if alternate then [c, '.'] else [c]) ++ mark ++ exponentText e
  | c :: rest => String.ofList (c :: '.' :: rest) ++ mark ++ exponentText e

/-- A fraction in general notation: `precision` significant digits, with the point written out for
exponents from -4 to below the precision, and zeros at the end dropped. `keepPoint` gives a whole
number `.0` and keeps one digit of the precision for it. -/
def generalText (num den precision : Nat) (mark : String) (alternate keepPoint : Bool) : String :=
  let precision := max 1 precision
  let (ds, e) := significant num den precision
  let kept := if alternate then ds else
    match dropTrailingZeros ds with
    | [] => [0]
    | kept => kept
  if e < -4 || Int.ofNat precision - (if keepPoint then 1 else 0) ≤ e then
    match digitChars kept with
    | [c] => String.ofList (if alternate then [c, '.'] else [c]) ++ mark ++ exponentText e
    | _ => scientific kept e mark
  else
    let body := positional kept e keepPoint
    if alternate && !body.toList.contains '.' then body ++ "." else body

end MappingDdl.Number
