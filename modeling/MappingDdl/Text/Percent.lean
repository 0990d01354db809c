import MappingDdl.Text.Template.Layout

/-!
# Percent templates — log messages with places for arguments

A place is a percent sign, an optional name in parentheses, flags, a width, a precision and a
conversion letter; a star takes a width or precision from the arguments. Two percent signs in a row
stand for one. The arguments are either a list, which must be used up exactly, or one mapping,
whose entries are taken by name.
-/

namespace MappingDdl.Text.Percent

/-- What fills the places. -/
inductive Arguments
  | positions (values : List Value)
  | names (entries : List (Value × Value))

/-- The arguments that are left: those still to be taken by position, and the mapping, if the
arguments are one. -/
structure Remaining where
  values : List Value
  entries : Option (List (Value × Value))

/-- The arguments before the first place. A mapping may also be taken once as a whole. -/
def Arguments.remaining : Arguments → Remaining
  | .positions vs => ⟨vs, none⟩
  | .names es => ⟨[.map es], some es⟩

/-- A place as written, without its name. -/
structure Place where
  left : Bool := false
  plus : Bool := false
  blank : Bool := false
  alternate : Bool := false
  zero : Bool := false
  width : Nat := 0
  precision : Option Nat := none

/-- The next argument by position. -/
def Remaining.next (r : Remaining) : Except Fault (Value × Remaining) :=
  match r.values with
  | [] => .error .wrongKind
  | v :: rest => .ok (v, { r with values := rest })

/-- Takes the name of a place, which makes its entry the next argument. Parentheses nest. -/
def takeName (depth : Nat) : List Char → Option (List Char × List Char)
  | [] => none
  | ')' :: rest =>
    if depth = 0 then some ([], rest)
    else (takeName (depth - 1) rest).map fun p => (')' :: p.1, p.2)
  | '(' :: rest => (takeName (depth + 1) rest).map fun p => ('(' :: p.1, p.2)
  | c :: rest => (takeName depth rest).map fun p => (c :: p.1, p.2)

/-- Takes the flags at the front. -/
def takeFlags (p : Place) : List Char → Place × List Char
  | '-' :: rest => takeFlags { p with left := true } rest
  | '+' :: rest => takeFlags { p with plus := true } rest
  | ' ' :: rest => takeFlags { p with blank := true } rest
  | '#' :: rest => takeFlags { p with alternate := true } rest
  | '0' :: rest => takeFlags { p with zero := true } rest
  | cs => (p, cs)

/-- The largest width. -/
def maxWidth : Nat := Nat.pow 2 63 - 1

/-- The largest precision. -/
def maxPrecision : Nat := Nat.pow 2 31 - 1

/-- A number in ASCII digits at the front, zero for none; it must not exceed `limit`. -/
def takeDigits (limit : Nat) (cs : List Char) : Except Fault (Nat × List Char) :=
  let n := Integer.ofDigits ((cs.takeWhile Char.isDigit).filterMap digitValue?)
  if limit < n then .error .malformed else .ok (n, cs.dropWhile Char.isDigit)

/-- A width or precision taken from the arguments; it must not exceed `limit`. -/
def Remaining.nextNumber (limit : Nat) (r : Remaining) : Except Fault (Int × Remaining) := do
  match ← r.next with
  | (.int i, r) => if limit < i.natAbs then throw .outOfRange else return (i, r)
  | (.bool b, r) => return (if b then 1 else 0, r)
  | _ => throw .wrongKind

/-- Takes the width. -/
def takeWidth (p : Place) (r : Remaining) : List Char → Except Fault (Place × Remaining × List Char)
  | '*' :: rest => do
    let (i, r) ← r.nextNumber maxWidth
    return ({ p with width := i.natAbs, left := p.left || decide (i < 0) }, r, rest)
  | cs => do
    let (n, rest) ← takeDigits maxWidth cs
    return ({ p with width := n }, r, rest)

/-- Takes the precision. -/
def takePrecision (p : Place) (r : Remaining) :
    List Char → Except Fault (Place × Remaining × List Char)
  | '.' :: '*' :: rest => do
    let (i, r) ← r.nextNumber maxPrecision
    return ({ p with precision := some i.toNat }, r, rest)
  | '.' :: rest => do
    let (n, rest) ← takeDigits maxPrecision rest
    return ({ p with precision := some n }, r, rest)
  | cs => .ok (p, r, cs)

/-- Puts sign, base mark and padding around a body. -/
def Place.padNumber (p : Place) (negative : Bool) (mark body : List Char) : String :=
  let sign := if negative then ['-'] else if p.plus then ['+'] else if p.blank then [' '] else []
  let run := List.replicate (p.width - (sign.length + mark.length + body.length))
  String.ofList <|
    if p.left then sign ++ mark ++ body ++ run ' '
    else if p.zero then sign ++ mark ++ run '0' ++ body
    else run ' ' ++ sign ++ mark ++ body

/-- Puts padding around a text. -/
def Place.padText (p : Place) (cs : List Char) : String :=
  let run := List.replicate (p.width - cs.length) ' '
  String.ofList (if p.left then cs ++ run else run ++ cs)

/-- The text of a value at a place for texts, cut to the precision. -/
def Place.text (p : Place) (s : String) : String :=
  p.padText (match p.precision with | some n => s.toList.take n | none => s.toList)

/-- The integer shown at a place; a float is cut off towards zero only where `cut` allows it. -/
def integerOf (cut : Bool) : Value → Except Fault Int
  | .int i => .ok i
  | .bool b => .ok (if b then 1 else 0)
  | .float f =>
    if cut then
      match Number.Binary.ofFloat f with
      | .nan => .error .malformed
      | .infinite _ => .error .outOfRange
      | .finite negative m e _ =>
        let n := Int.ofNat (Number.scaledNum m 2 e / Number.scaledDen 2 e)
        .ok (if negative then -n else n)
    else .error .wrongKind
  | _ => .error .wrongKind

/-- The float shown at a place. -/
def floatOf : Value → Except Fault Float
  | .float f => .ok f
  | .int i => match Template.floatOfInt? i with | some f => .ok f | none => .error .outOfRange
  | .bool b => .ok (if b then 1 else 0)
  | _ => .error .wrongKind

/-- The text of an integer in a base. -/
def Place.integer (p : Place) (i : Int) (base : Nat) (mark : String) (upperCase : Bool) : String :=
  let ds := Template.baseDigits base i.natAbs upperCase
  let ds := List.replicate (p.precision.getD 0 - ds.length) '0' ++ ds
  p.padNumber (decide (i < 0)) (if p.alternate then mark.toList else []) ds

/-- The text of a float with a presentation letter. -/
def Place.float (p : Place) (f : Float) (letter : Char) : String :=
  let word (w : String) := if letter.isUpper then w.map Char.toUpper else w
  match Number.Binary.ofFloat f with
  | .nan => p.padNumber false [] (word "nan").toList
  | .infinite negative => p.padNumber negative [] (word "inf").toList
  | .finite negative m e _ =>
    let num := Number.scaledNum m 2 e
    let den := Number.scaledDen 2 e
    let places := p.precision.getD 6
    let body := match letter.toLower with
      | 'e' => Number.scientificText num den places (word "e") p.alternate
      | 'f' => Number.fixedText num den places p.alternate
      | _ => Number.generalText num den places (word "e") p.alternate false
    p.padNumber negative [] body.toList

/-- The text of one character: a text of length one, or a code point. -/
def Place.character (p : Place) : Value → Except Fault String
  | .str s => match s.toList with | [c] => .ok (p.padText [c]) | _ => .error .wrongKind
  | .float _ => .error .wrongKind
  | v => do
    let i ← integerOf false v
    if 0 ≤ i && i ≤ 0x10ffff then return p.padText [Char.ofNat i.toNat] else throw .outOfRange

/-- The text of a value at a place with a conversion letter. -/
def Place.fill (p : Place) (letter : Char) (v : Value) : Except Fault String := do
  match letter with
  | 's' => return p.text (← v.written Value.display)
  | 'r' => return p.text (← v.written (Value.literal false))
  | 'a' => return p.text (← v.written (Value.literal true))
  | 'd' | 'i' | 'u' =>
    let i ← integerOf true v
    if Integer.isWritable i then return p.integer i 10 "" false else throw .malformed
  | 'o' => return p.integer (← integerOf false v) 8 "0o" false
  | 'x' => return p.integer (← integerOf false v) 16 "0x" false
  | 'X' => return p.integer (← integerOf false v) 16 "0X" true
  | 'e' | 'E' | 'f' | 'F' | 'g' | 'G' => return p.float (← floatOf v) letter
  | 'c' => p.character v
  | _ => throw .malformed

/-- Takes the optional name of a place; the entry of that name becomes the only argument left. -/
def takeKey (r : Remaining) : List Char → Except Fault (Remaining × List Char)
  | '(' :: rest =>
    match r.entries with
    | none => .error .wrongKind
    | some es =>
      match takeName 0 rest with
      | none => .error .malformed
      | some (name, rest) =>
        match Value.lookup es (String.ofList name) with
        | none => .error .noSuchName
        | some v => .ok (⟨[v], some es⟩, rest)
  | cs => .ok (r, cs)

/-- Reads and fills the place after a percent sign. -/
def takePlace (r : Remaining) (cs : List Char) : Except Fault (String × Remaining × List Char) := do
  let (r, cs) ← takeKey r cs
  let (p, cs) := takeFlags ({} : Place) cs
  let (p, r, cs) ← takeWidth p r cs
  let (p, r, cs) ← takePrecision p r cs
  let cs := match cs with
    -- a length before the letter means nothing
    | 'h' :: rest | 'l' :: rest | 'L' :: rest => rest
    | cs => cs
  match cs with
  | [] => throw .malformed
  | letter :: rest =>
    let (v, r) ← r.next
    return (← p.fill letter v, r, rest)

/-- Fills the places from left to right, with fuel for one step per character. -/
def fillWith : Nat → Remaining → List Char → Except Fault String
  | 0, r, _ | _, r, [] =>
    -- a list must be used up, a mapping need not be
    if r.values.isEmpty || r.entries.isSome then .ok "" else .error .wrongKind
  | fuel + 1, r, '%' :: '%' :: rest => do
    return "%" ++ (← fillWith fuel r rest)
  | fuel + 1, r, '%' :: rest => do
    let (text, r, rest) ← takePlace r rest
    return text ++ (← fillWith fuel r rest)
  | fuel + 1, r, c :: rest => do
    return String.ofList [c] ++ (← fillWith fuel r rest)

/-- The template with its places filled. -/
def fill (template : String) (args : Arguments) : Except Fault String :=
  fillWith template.length args.remaining template.toList

end MappingDdl.Text.Percent
