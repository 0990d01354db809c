import MappingDdl.Fault
import MappingDdl.Text.Integer

/-!
# Format specifications — how a value is laid out in its place

A specification is a fill character and an alignment, a sign policy, a width, a digit separator, a
precision and a presentation letter, each optional and in this order.
-/

namespace MappingDdl.Text.Template

/-- Where the padding goes. -/
inductive Align
  | left
  | right
  | center
  /-- Between the sign and the digits. -/
  | afterSign
  deriving Repr, DecidableEq

/-- The character that groups digits. -/
inductive Separator
  | comma
  | underscore
  deriving Repr, DecidableEq

/-- A format specification as written; `align` and `fill` only where they are given. -/
structure Spec where
  align : Option Align
  fill : Char
  sign : Option Char
  keepZeroSign : Bool
  alternate : Bool
  width : Option Nat
  separator : Option Separator
  precision : Option Nat
  letter : Option Char
  deriving Repr, DecidableEq

/-- The alignment that a character stands for. -/
def Align.ofChar? : Char → Option Align
  | '<' => some .left
  | '>' => some .right
  | '^' => some .center
  | '=' => some .afterSign
  | _ => none

/-- The largest width, precision or position. -/
def maxNumber : Nat := Nat.pow 2 63 - 1

/-- A run of decimal digits at the front, as a number; `none` for no digits. -/
def takeNumber (cs : List Char) : Except Fault (Option Nat × List Char) :=
  let ds := cs.takeWhile isDigit
  if ds.isEmpty then .ok (none, cs)
  else
    let n := Integer.ofDigits (ds.filterMap digitValue?)
    if maxNumber < n then .error .malformed else .ok (some n, cs.dropWhile isDigit)

/-- The fill character and alignment at the front. -/
def takeAlign : List Char → (Option Char × Option Align) × List Char
  | c :: d :: rest =>
    match Align.ofChar? d, Align.ofChar? c with
    | some a, _ => ((some c, some a), rest)
    | none, some a => ((none, some a), d :: rest)
    | none, none => ((none, none), c :: d :: rest)
  | [c] =>
    match Align.ofChar? c with
    | some a => ((none, some a), [])
    | none => ((none, none), [c])
  | [] => ((none, none), [])

/-- One given character at the front. -/
def takeChar (wanted : Char) : List Char → Bool × List Char
  | c :: rest => if c = wanted then (true, rest) else (false, c :: rest)
  | [] => (false, [])

/-- The sign policy at the front. -/
def takeSign : List Char → Option Char × List Char
  | c :: rest => if c = '+' ∨ c = '-' ∨ c = ' ' then (some c, rest) else (none, c :: rest)
  | [] => (none, [])

/-- The digit separator at the front; two of them are refused. -/
def takeSeparator (cs : List Char) : Except Fault (Option Separator × List Char) :=
  match cs with
  | ',' :: '_' :: _ => .error .malformed
  | '_' :: ',' :: _ => .error .malformed
  | ',' :: rest => .ok (some .comma, rest)
  | '_' :: rest => .ok (some .underscore, rest)
  | cs => .ok (none, cs)

/-- The precision at the front. -/
def takePrecision (cs : List Char) : Except Fault (Option Nat × List Char) :=
  match cs with
  | '.' :: rest => do
    match ← takeNumber rest with
    | (none, _) => .error .malformed
    | (some n, rest) => .ok (some n, rest)
  | cs => .ok (none, cs)

/-- Which presentations take a digit separator. -/
def separatorAllowed (s : Separator) : Char → Bool
  | 'd' | 'e' | 'f' | 'g' | 'E' | 'G' | '%' | 'F' => true
  | 'b' | 'o' | 'x' | 'X' => s == .underscore
  | _ => false

/-- Reads a specification. `numeric` says that padding goes to the left of the value by default;
`letter` is the presentation used when none is given. -/
def Spec.ofChars? (numeric : Bool) (letter : Option Char) (cs : List Char) : Except Fault Spec := do
  let ((fill, align), cs) := takeAlign cs
  let (sign, cs) := takeSign cs
  let (keepZeroSign, cs) := takeChar 'z' cs
  let (alternate, cs) := takeChar '#' cs
  -- a zero in front of the width is a fill character, unless one is given
  let (zero, cs) := if fill.isSome then (false, cs) else takeChar '0' cs
  let align := if zero && align.isNone && numeric then some .afterSign else align
  let (width, cs) ← takeNumber cs
  let (separator, cs) ← takeSeparator cs
  let (precision, cs) ← takePrecision cs
  let letter ← match cs with
    | [] => pure letter
    | [c] => pure (some c)
    | _ => .error .malformed
  match separator, letter with
  | some s, some c => if separatorAllowed s c then pure () else throw .malformed
  | _, _ => pure ()
  return ⟨align, fill.getD (if zero then '0' else ' '), sign, keepZeroSign, alternate, width,
    separator, precision, letter⟩

end MappingDdl.Text.Template
