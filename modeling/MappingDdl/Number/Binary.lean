/-!
# Binary floating point — the exact value of a double

A finite double is `± mantissa · 2 ^ exponent` with natural `mantissa`. All texts of floats are
computed from this pair in exact arithmetic.
-/

namespace MappingDdl.Number

/-- What the sixty-four bits of a double stand for. `boundary` marks the powers of two, below which
the doubles lie twice as dense. -/
inductive Binary
  | nan
  | infinite (negative : Bool)
  | finite (negative : Bool) (mantissa : Nat) (exponent : Int) (boundary : Bool)
  deriving Repr, DecidableEq

namespace Binary

/-- The number in a double's sixty-four bits. -/
def ofBits (bits : UInt64) : Binary :=
  let n := bits.toNat
  let negative := decide (Nat.pow 2 63 ≤ n)
  let field := n / Nat.pow 2 52 % Nat.pow 2 11
  let fraction := n % Nat.pow 2 52
  if field = 2047 then (if fraction = 0 then infinite negative else nan)
  else if field = 0 then finite negative fraction (-1074) false
  else
    finite negative (Nat.pow 2 52 + fraction) (Int.ofNat field - 1075) (fraction == 0 && 1 < field)

/-- The number in a double. -/
def ofFloat (f : Float) : Binary :=
  ofBits f.toBits

end Binary

/-- The numerator of `m · b ^ e`. -/
def scaledNum (m b : Nat) (e : Int) : Nat :=
  m * b.pow e.toNat

/-- The denominator of `m · b ^ e`. -/
def scaledDen (b : Nat) (e : Int) : Nat :=
  b.pow (-e).toNat

/-- `num / den` rounded to the nearest natural number, a half to the even neighbour. -/
def roundHalfEven (num den : Nat) : Nat :=
  let q := num / den
  let twice := 2 * (num % den)
  if twice < den then q
  else if den < twice then q + 1
  else if q % 2 = 0 then q else q + 1

/-- The exponent of the leading decimal digit of the positive number `num / den`, which is at least
`10 ^ (-400)`. -/
def leadingExponent (num den : Nat) : Int :=
  Int.ofNat (Nat.toDigits 10 (num * Nat.pow 10 400 / den)).length - 401

end MappingDdl.Number
