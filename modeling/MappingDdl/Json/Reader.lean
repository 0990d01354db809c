import MappingDdl.Number.Nearest
import MappingDdl.Value

/-!
# Reading JSON

One JSON text as a value. Objects keep the order of their members; a number without point and
exponent is an integer of any size.
-/

namespace MappingDdl.Json

/-- A blank between tokens. -/
def isBlank (c : Char) : Bool :=
  c == ' ' || c == '\n' || c == '\r' || c == '\t'

/-- The value of a hexadecimal digit. -/
def hexDigit? (c : Char) : Option Nat :=
  if c.isDigit then some (c.toNat - 48)
  else if 'a' ≤ c ∧ c ≤ 'f' then some (c.toNat - 87)
  else if 'A' ≤ c ∧ c ≤ 'F' then some (c.toNat - 55)
  else none

/-- The number that hexadecimal digits write. -/
def hexNumber? (cs : List Char) : Option Nat :=
  cs.foldlM (fun n c => (hexDigit? c).map (16 * n + ·)) 0

/-- The character that an escape of one letter stands for. -/
def escape? : Char → Option Char
  | '"' => some '"'
  | '\\' => some '\\'
  | '/' => some '/'
  | 'n' => some '\n'
  | 't' => some '\t'
  | 'r' => some '\r'
  | 'b' => some '\x08'
  | 'f' => some '\x0c'
  | _ => none

/-- Reads a string up to its closing quote, as code points; an escape by number may give half of a
surrogate pair. -/
def codePoints? : List Char → Option (List Nat × List Char)
  | [] => none
  | '"' :: rest => some ([], rest)
  | '\\' :: 'u' :: a :: b :: c :: d :: rest => do
    let n ← hexNumber? [a, b, c, d]
    let (ns, rest) ← codePoints? rest
    return (n :: ns, rest)
  | '\\' :: e :: rest => do
    let c ← escape? e
    let (ns, rest) ← codePoints? rest
    return (c.toNat :: ns, rest)
  | c :: rest => do
    let (ns, rest) ← codePoints? rest
    return (c.toNat :: ns, rest)

/-- The characters of code points, of which a surrogate pair makes one. -/
def joinPairs : List Nat → List Char
  | [] => []
  | [n] => [Char.ofNat n]
  | n :: m :: rest =>
    if 0xd800 ≤ n ∧ n < 0xdc00 ∧ 0xdc00 ≤ m ∧ m < 0xe000 then
      Char.ofNat (0x10000 + (n - 0xd800) * 0x400 + (m - 0xdc00)) :: joinPairs rest
    else Char.ofNat n :: joinPairs (m :: rest)

/-- Reads a string after its opening quote. -/
def string? (cs : List Char) : Option (String × List Char) :=
  (codePoints? cs).map fun p => (String.ofList (joinPairs p.1), p.2)

/-- A character of a number. -/
def isNumberChar (c : Char) : Bool :=
  c.isDigit || c == '+' || c == '-' || c == '.' || c == 'e' || c == 'E'

/-- The number that a text writes. -/
def number? (cs : List Char) : Option Value :=
  let digits := if cs.head? == some '-' then cs.drop 1 else cs
  if digits.isEmpty then none
  -- without point and exponent it is exact
  else if digits.all Char.isDigit then
    let n := Int.ofNat (Number.ofDigits (digits.map fun c => c.toNat - 48))
    some (.int (if cs.head? == some '-' then -n else n))
  else (Number.ofText? cs).map .float

mutual

/-- Reads a value, with fuel for two steps per character. -/
def value? : Nat → List Char → Option (Value × List Char)
  | 0, _ => none
  | fuel + 1, cs =>
    match cs.dropWhile isBlank with
    | '"' :: rest => (string? rest).map fun p => (.str p.1, p.2)
    | '[' :: rest =>
      match rest.dropWhile isBlank with
      | ']' :: rest => some (.list [], rest)
      | rest => (items? fuel rest).map fun p => (.list p.1, p.2)
    | '\x7b' :: rest =>
      match rest.dropWhile isBlank with
      | '\x7d' :: rest => some (.map [], rest)
      | rest => (members? fuel rest).map fun p => (.map p.1, p.2)
    | 't' :: 'r' :: 'u' :: 'e' :: rest => some (.bool true, rest)
    | 'f' :: 'a' :: 'l' :: 's' :: 'e' :: rest => some (.bool false, rest)
    | 'n' :: 'u' :: 'l' :: 'l' :: rest => some (.null, rest)
    | cs => (number? (cs.takeWhile isNumberChar)).map fun v => (v, cs.dropWhile isNumberChar)

/-- Reads the items of an array, of which there is at least one, and its end. -/
def items? : Nat → List Char → Option (List Value × List Char)
  | 0, _ => none
  | fuel + 1, cs => do
    let (v, rest) ← value? fuel cs
    match rest.dropWhile isBlank with
    | ',' :: rest => (items? fuel rest).map fun p => (v :: p.1, p.2)
    | ']' :: rest => some ([v], rest)
    | _ => none

/-- Reads the members of an object, of which there is at least one, and its end. -/
def members? : Nat → List Char → Option (List (Value × Value) × List Char)
  | 0, _ => none
  | fuel + 1, cs => do
    let (k, v, rest) ← member? fuel cs
    match rest.dropWhile isBlank with
    | ',' :: rest => (members? fuel rest).map fun p => ((k, v) :: p.1, p.2)
    | '\x7d' :: rest => some ([(k, v)], rest)
    | _ => none

/-- Reads a member of an object. -/
def member? : Nat → List Char → Option (Value × Value × List Char)
  | 0, _ => none
  | fuel + 1, cs =>
    match cs.dropWhile isBlank with
    | '"' :: rest => do
      let (k, rest) ← string? rest
      match rest.dropWhile isBlank with
      | ':' :: rest => (value? fuel rest).map fun p => (.str k, p.1, p.2)
      | _ => none
    | _ => none

end

/-- The value of a JSON text. -/
def read? (s : String) : Option Value := do
  let cs := s.toList
  let (v, rest) ← value? (2 * cs.length + 2) cs
  if rest.all isBlank then some v else none

end MappingDdl.Json
