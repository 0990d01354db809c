import MappingDdl.Number.Nearest
import MappingDdl.Text.Base64
import MappingDdl.Text.Case
import MappingDdl.Text.Integer
import MappingDdl.Value
import MappingDdl.Yaml.Node

/-!
# Scalars — the value of a text under a tag

A plain text has a tag that it fits, but a tag that is written out may stand on any text. A text
that its tag does not fit is a failed conversion, or makes the document malformed.
-/

namespace MappingDdl.Yaml.Scalar

/-- The text without underscores. -/
def withoutUnderscores (cs : List Char) : List Char :=
  cs.filter (· != '_')

/-- The sign at the front of a text, which must not be empty, and what follows it. -/
def sign? : List Char → Except YamlError (Bool × List Char)
  | [] => .error (.conversion .noSuchPosition)
  | '-' :: cs => .ok (true, cs)
  | '+' :: cs => .ok (false, cs)
  | cs => .ok (false, cs)

/-- A result, or the fault of a text that is not of the expected form. -/
def orMalformed {α : Type} (a : Option α) : Except YamlError α :=
  match a with
  | some a => .ok a
  | none => .error (.conversion .malformed)

/-! ## Truth values -/

/-- The truth value of a word, without regard to case. -/
def bool (s : String) : Except YamlError Value :=
  let word := Text.lower s
  if ["yes", "true", "on"].contains word then .ok (.bool true)
  else if ["no", "false", "off"].contains word then .ok (.bool false)
  else .error (.conversion .noSuchName)

/-! ## Integers -/

/-- The value of a digit in bases up to thirty-six. -/
def radixDigit? (c : Char) : Option Nat :=
  if 'a' ≤ c ∧ c ≤ 'z' then some (c.toNat - 87)
  else if 'A' ≤ c ∧ c ≤ 'Z' then some (c.toNat - 55)
  else Text.digitValue? c

/-- The number that digits write in a base. -/
def radixMagnitude? (base : Nat) (cs : List Char) : Option Nat :=
  match cs with
  | [] => none
  | _ => cs.foldlM (fun n c => do
      let d ← radixDigit? c
      if d < base then some (base * n + d) else none) 0

/-- The letter that marks a base in front of the digits. -/
def radixMark (base : Nat) : Char :=
  if base = 2 then 'b' else if base = 8 then 'o' else 'x'

/-- The digits after a zero and the mark of the base, which may be left out. -/
def withoutMark (base : Nat) : List Char → List Char
  | '0' :: m :: cs => if m.toLower = radixMark base then cs else '0' :: m :: cs
  | cs => cs

/-- The integer that a text writes in a base: blanks, a sign, the mark of the base, digits and
blanks. -/
def radixInt? (base : Nat) (cs : List Char) : Option Int :=
  match Text.trimNumber cs with
  | '-' :: ds => (radixMagnitude? base (withoutMark base ds)).map fun n => -Int.ofNat n
  | '+' :: ds => (radixMagnitude? base (withoutMark base ds)).map Int.ofNat
  | ds => (radixMagnitude? base (withoutMark base ds)).map Int.ofNat

/-- The number written by digits in base sixty. -/
def sexagesimal (ns : List Int) : Int :=
  ns.foldl (fun total n => 60 * total + n) 0

/-- An integer in decimal notation. -/
def decimalInt? (cs : List Char) : Option Int :=
  Text.Integer.ofText? (String.ofList cs)

/-- The integer after the sign: binary, hexadecimal, octal, in base sixty or decimal. -/
def unsignedInt : List Char → Except YamlError Int
  | [] => .error (.conversion .noSuchPosition)
  | ['0'] => .ok 0
  | '0' :: 'b' :: cs => orMalformed (radixInt? 2 cs)
  | '0' :: 'x' :: cs => orMalformed (radixInt? 16 cs)
  -- a zero in front marks base eight, even where the text shows another form
  | '0' :: cs => orMalformed (radixInt? 8 ('0' :: cs))
  | cs =>
    if cs.contains ':' then
      orMalformed (((Tag.splitOn ':' cs).mapM decimalInt?).map sexagesimal)
    else orMalformed (decimalInt? cs)

/-- An integer. -/
def int (s : String) : Except YamlError Value := do
  let (negative, cs) ← sign? (withoutUnderscores s.toList)
  let n ← unsignedInt cs
  return .int (if negative then -n else n)

/-! ## Floats -/

/-- The number written by floats in base sixty, the last one first. -/
def sexagesimalFloat (fs : List Float) : Float :=
  (fs.foldl (fun (p : Float × Nat) f => (p.1 + f * Number.ofDecimal p.2 0, 60 * p.2)) (0.0, 1)).1

/-- A float. -/
def float (s : String) : Except YamlError Value := do
  let (negative, cs) ← sign? (Text.lower (String.ofList (withoutUnderscores s.toList))).toList
  let f ←
    if cs == ".inf".toList then pure (1.0 / 0.0)
    else if cs == ".nan".toList then return .float (0.0 / 0.0)
    else if cs.contains ':' then do
      let parts ← orMalformed ((Tag.splitOn ':' cs).mapM Number.ofText?)
      pure (sexagesimalFloat parts.reverse)
    else orMalformed (Number.ofText? cs)
  return .float (if negative then -f else f)

/-! ## Dates -/

/-- The number that ASCII digits write. -/
def natOf (cs : List Char) : Nat :=
  cs.foldl (fun n c => 10 * n + (c.toNat - '0'.toNat)) 0

/-- The microseconds that the digits after the point write. -/
def microseconds (cs : List Char) : Nat :=
  natOf ((cs ++ List.replicate 6 '0').take 6)

/-- The offset in seconds. -/
def offsetSeconds : Bool × List Char × List Char → Int
  | (west, hours, minutes) =>
    let n := Int.ofNat (3600 * natOf hours + 60 * natOf minutes)
    if west then -n else n

/-- A date or a point in time. -/
def timestamp (s : String) : Except YamlError Value :=
  match Tag.timestampText? s.toList with
  | none => .error (.conversion .noSuchPart)
  | some t => do
    let date ← orMalformed (Date.ofNumbers? (natOf t.year) (natOf t.month) (natOf t.day))
    match t.clock with
    | none => return .date date
    | some (hour, minute, second, fraction) =>
      let point ← orMalformed (Timestamp.ofNumbers? date (natOf hour) (natOf minute)
        (natOf second) (microseconds fraction) (t.offset.map offsetSeconds))
      return .timestamp point

/-! ## All kinds -/

/-- Bytes in base 64. -/
def binary (s : String) : Except YamlError Value :=
  if s.toList.all fun c => c.toNat < 128 then
    match Text.Base64.decode? s.toList with
    | some bs => .ok (.bytes bs)
    | none => .error .malformed
  else .error .malformed

/-- A text. -/
def str (t : ScalarText) : Value :=
  if t.wellFormed then .str t.text else .unpaired t.text

/-- The value of a text under a tag that is not one of a collection. -/
def value (tag : Tag) (t : ScalarText) : Except YamlError Value :=
  match tag with
  | .null => .ok .null
  | .bool => bool t.text
  | .int => int t.text
  | .float => float t.text
  | .binary => binary t.text
  | .timestamp => timestamp t.text
  | .str => .ok (str t)
  | _ => .error .malformed

end MappingDdl.Yaml.Scalar
