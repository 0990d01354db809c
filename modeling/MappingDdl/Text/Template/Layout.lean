import MappingDdl.Number.Fixed
import MappingDdl.Text.Template.Spec
import MappingDdl.Value.Display

/-!
# Layout — a value under a format specification

`layout` gives the text of a value under a specification, or the fault of a specification that the
value does not take. Texts are cut and padded; numbers have a sign, a base, grouped digits and a
padding that may stand between the sign and the digits.
-/

namespace MappingDdl.Text.Template

/-- Puts padding around a body to reach a width. -/
def pad (fill : Char) (align : Align) (width : Nat) (lead body : List Char) : List Char :=
  let missing := width - (lead.length + body.length)
  let run := List.replicate missing fill
  match align with
  | .left => lead ++ body ++ run
  | .right => run ++ lead ++ body
  | .center =>
    List.replicate (missing / 2) fill ++ lead ++ body ++ List.replicate (missing - missing / 2) fill
  | .afterSign => lead ++ run ++ body

/-- Groups of `size` digits counted from the right, with a separator between them. The digits come
in reverse order, and so does the result. -/
def groupReversed (separator : Char) (size : Nat) : Nat → List Char → List Char
  | _, [] => []
  | n, c :: rest =>
    if n = size then separator :: c :: groupReversed separator size 1 rest
    else c :: groupReversed separator size (n + 1) rest

/-- The digits of a number in groups; zeros are added in front until the grouped digits fill
`width`. -/
def groupDigits (separator : Option Separator) (size width : Nat) (ds : List Char) : List Char :=
  match separator with
  | none => ds
  | some s =>
    let mark := match s with | .comma => ',' | .underscore => '_'
    let grouped (ds : List Char) := (groupReversed mark size 0 ds.reverse).reverse
    -- of every `size + 1` places one is taken by a separator
    let needed := width - (width - 1) / (size + 1)
    let full := grouped (List.replicate (needed - ds.length) '0' ++ ds)
    if (grouped ds).length < width then full else grouped ds

/-- The sign shown before a number. -/
def signChars (policy : Option Char) (negative : Bool) : List Char :=
  if negative then ['-']
  else match policy with
    | some '+' => ['+']
    | some ' ' => [' ']
    | _ => []

/-- Lays out a number from its sign, base mark, whole digits and what follows them. -/
def layoutNumber (s : Spec) (negative : Bool) (mark : String) (size : Nat)
    (whole rest : List Char) : String :=
  let lead := signChars s.sign negative ++ mark.toList
  let width := s.width.getD 0
  -- zeros between sign and digits are digits, and are grouped like them
  let inner := if s.fill = '0' && s.align == some .afterSign then
    width - (lead.length + rest.length) else 0
  let body := groupDigits s.separator size inner whole ++ rest
  String.ofList (pad s.fill (s.align.getD .right) width lead body)

/-- Lays out a text. -/
def layoutText (s : Spec) (text : String) : Except Fault String :=
  if s.sign.isSome || s.keepZeroSign || s.alternate || s.align == some .afterSign ||
      s.separator.isSome || s.letter != some 's' then .error .malformed
  else
    let cs := match s.precision with
      | some n => text.toList.take n
      | none => text.toList
    .ok (String.ofList (pad s.fill (s.align.getD .left) (s.width.getD 0) [] cs))

/-- The digits of a natural number in a base up to sixteen. -/
def baseDigits (base n : Nat) (upperCase : Bool) : List Char :=
  let ds := Nat.toDigits base n
  if upperCase then ds.map Char.toUpper else ds

/-- The text of a number, with a point after the whole digits if one is asked for and there is
none. -/
def withPoint (wanted : Bool) (body : String) : String :=
  if wanted && !body.toList.contains '.' then
    String.ofList (body.toList.takeWhile Char.isDigit ++ '.' :: body.toList.dropWhile Char.isDigit)
  else body

/-- Lays out a float. -/
def layoutFloat (s : Spec) (f : Float) : Except Fault String := do
  let letter := s.letter
  let percent := letter == some '%'
  let b := Number.Binary.ofFloat (if percent then f * 100 else f)
  let upperCase := letter == some 'E' || letter == some 'F' || letter == some 'G'
  let special (negative : Bool) (word : String) : String :=
    let word := if upperCase then word.map Char.toUpper else word
    layoutNumber { s with separator := none } negative "" 3 []
      (word.toList ++ (if percent then ['%'] else []))
  match b with
  | .nan =>
    if letter.isNone || "eEfFgGn%".toList.contains (letter.getD ' ') then return special false "nan"
    else throw .malformed
  | .infinite negative =>
    if letter.isNone || "eEfFgGn%".toList.contains (letter.getD ' ') then
      return special negative "inf"
    else throw .malformed
  | .finite negative m e boundary =>
    let num := Number.scaledNum m 2 e
    let den := Number.scaledDen 2 e
    let places := s.precision.getD 6
    let mark := if upperCase then "E" else "e"
    let body ← match letter with
      | none =>
        match s.precision with
        | none => pure (withPoint s.alternate (Number.shortest m e boundary).text)
        | some p => pure (Number.generalText num den p mark s.alternate true)
      | some 'e' | some 'E' => pure (Number.scientificText num den places mark s.alternate)
      | some 'f' | some 'F' => pure (Number.fixedText num den places s.alternate)
      | some 'g' | some 'G' | some 'n' =>
        pure (Number.generalText num den places mark s.alternate false)
      | some '%' => pure (Number.fixedText num den places s.alternate ++ "%")
      | _ => throw .malformed
    -- the zero is judged after rounding
    let isZero := body.toList.all fun c => !c.isDigit || c == '0'
    let whole := body.toList.takeWhile Char.isDigit
    let rest := body.toList.dropWhile Char.isDigit
    return layoutNumber s (negative && !(s.keepZeroSign && isZero)) "" 3 whole rest

/-- The double nearest to an integer; an integer beyond the doubles has none. -/
def floatOfInt? (i : Int) : Option Float :=
  let f := Float.ofScientific i.natAbs false 0
  if f.isInf then none else some (if i < 0 then -f else f)

/-- Lays out an integer. -/
def layoutInt (s : Spec) (i : Int) : Except Fault String := do
  let plain (mark : String) (base size : Nat) (upperCase : Bool) : Except Fault String :=
    if s.precision.isSome || s.keepZeroSign then .error .malformed
    else if base = 10 && !Integer.isWritable i then .error .malformed
    else .ok (layoutNumber s (decide (i < 0)) (if s.alternate then mark else "") size
      (baseDigits base i.natAbs upperCase) [])
  match s.letter with
  | some 'd' | some 'n' => plain "" 10 3 false
  | some 'b' => plain "0b" 2 4 false
  | some 'o' => plain "0o" 8 4 false
  | some 'x' => plain "0x" 16 4 false
  | some 'X' => plain "0X" 16 4 true
  | some 'c' =>
    if s.precision.isSome || s.keepZeroSign || s.sign.isSome || s.alternate then throw .malformed
    else if i < 0 || 0x10ffff < i then throw .outOfRange
    else return layoutNumber s false "" 3 [] [Char.ofNat i.toNat]
  | some c =>
    if "eEfFgG%".toList.contains c then
      match floatOfInt? i with
      | some f => layoutFloat s f
      | none => throw .outOfRange
    else throw .malformed
  | none => throw .malformed

/-- The text of a value under a specification. An empty specification is plain display; values other
than texts and numbers take no other. -/
def layout (v : Value) (cs : List Char) : Except Fault String :=
  match v, cs with
  | v, [] => v.written Value.display
  | .str t, cs => do layoutText (← Spec.ofChars? false (some 's') cs) t
  | .int i, cs => do layoutInt (← Spec.ofChars? true (some 'd') cs) i
  | .bool b, cs => do layoutInt (← Spec.ofChars? true (some 'd') cs) (if b then 1 else 0)
  | .float f, cs => do layoutFloat (← Spec.ofChars? true none cs) f
  | _, _ => .error .wrongKind

end MappingDdl.Text.Template
