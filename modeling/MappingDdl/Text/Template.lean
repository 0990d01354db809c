import MappingDdl.Text.Template.Layout

/-!
# Templates — texts with numbered places for arguments

A place is written between braces: a position, or nothing for the next position, then an optional
path into the argument, an optional conversion and an optional format specification, which may
itself have places. A doubled brace stands for the brace.

`fill` gives the text, or the first fault from the left. Values have no parts here, only items: the
text of a part may be another one in every run. So what is said of templates that users write is
said of any way to fill them (`Formatting`, `Script.Filling`).
-/

namespace MappingDdl.Text.Template

/-- A template is read as a list of pieces. -/
inductive Piece
  | text (cs : List Char)
  /-- A place: the field between the brace and the first `!` or `:`, the conversion letter, and the
  specification. -/
  | place (field : List Char) (conversion : Option Char) (spec : List Char)
  /-- A part that cannot be read. -/
  | broken
  deriving Repr

/-- How the places of a template are numbered, once the first one has decided it. -/
inductive Numbering
  | undecided
  | counted (next : Nat)
  | given
  deriving Repr, DecidableEq

/-- Splits a specification from its closing brace; braces inside it nest. The depth is the number of
braces open inside the specification. -/
def splitSpec : Nat → List Char → Option (List Char × List Char)
  | _, [] => none
  | 0, '}' :: rest => some ([], rest)
  | depth + 1, '}' :: rest => (splitSpec depth rest).map fun p => ('}' :: p.1, p.2)
  | depth, '{' :: rest => (splitSpec (depth + 1) rest).map fun p => ('{' :: p.1, p.2)
  | depth, c :: rest => (splitSpec depth rest).map fun p => (c :: p.1, p.2)

/-- What ends the field of a place. -/
inductive FieldEnd
  | brace
  | bang
  | colon
  deriving Repr, DecidableEq

/-- Splits the field of a place from what follows it; inside square brackets nothing ends it. -/
def splitField : Bool → List Char → Option (List Char × FieldEnd × List Char)
  | _, [] => none
  | true, c :: rest => (splitField (c != ']') rest).map fun p => (c :: p.1, p.2)
  | false, '}' :: rest => some ([], .brace, rest)
  | false, '!' :: rest => some ([], .bang, rest)
  | false, ':' :: rest => some ([], .colon, rest)
  | false, '{' :: _ => none
  | false, c :: rest => (splitField (c == '[') rest).map fun p => (c :: p.1, p.2)

/-- Reads the place after its opening brace. -/
def takePlace (cs : List Char) : Option (Piece × List Char) :=
  match splitField false cs with
  | none => none
  | some (field, .brace, rest) => some (.place field none [], rest)
  | some (field, .colon, rest) =>
    (splitSpec 0 rest).map fun p => (.place field none p.1, p.2)
  | some (field, .bang, rest) =>
    match rest with
    | c :: '}' :: rest => some (.place field (some c) [], rest)
    | c :: ':' :: rest => (splitSpec 0 rest).map fun p => (.place field (some c) p.1, p.2)
    | _ => none

/-- Reads a template into pieces, with fuel for one step per character. -/
def piecesWith : Nat → List Char → List Piece
  | 0, _ => []
  | _, [] => []
  | fuel + 1, '{' :: '{' :: rest => .text ['{'] :: piecesWith fuel rest
  | fuel + 1, '}' :: '}' :: rest => .text ['}'] :: piecesWith fuel rest
  | _ + 1, '}' :: _ => [.broken]
  | fuel + 1, '{' :: rest =>
    match takePlace rest with
    | some (piece, rest) => piece :: piecesWith fuel rest
    | none => [.broken]
  | fuel + 1, c :: rest => .text [c] :: piecesWith fuel rest

/-- The pieces of a template. -/
def pieces (cs : List Char) : List Piece :=
  piecesWith cs.length cs

/-- A number written in decimal digits only. -/
def position? (cs : List Char) : Except Fault (Option Nat) := do
  match ← takeNumber cs with
  | (some n, []) => return some n
  | _ => return none

/-- One step into an argument. -/
inductive Step
  | part (name : List Char)
  | item (key : List Char)
  deriving Repr

/-- Reads the first step of a path. -/
def takeStep : List Char → Except Fault (Step × List Char)
  | '.' :: rest =>
    let name := rest.takeWhile fun c => c != '.' && c != '['
    if name.isEmpty then .error .malformed
    else .ok (.part name, rest.dropWhile fun c => c != '.' && c != '[')
  | '[' :: rest =>
    let key := rest.takeWhile (· != ']')
    match rest.dropWhile (· != ']') with
    | [] => .error .malformed
    | _ :: rest => if key.isEmpty then .error .malformed else .ok (.item key, rest)
  | _ => .error .malformed

/-- The value at one step into a value. -/
def Step.apply (v : Value) : Step → Except Fault Value
  -- see `Formatting` for templates that ask for parts
  | .part _ => .error .noSuchPart
  | .item key => do
    match ← position? key, v with
    | some n, .str s =>
      match s.toList[n]? with
      | some c => return .str (String.ofList [c])
      | none => throw .noSuchPosition
    | some n, .list xs =>
      match xs[n]? with
      | some x => return x
      | none => throw .noSuchPosition
    | some n, .map es =>
      match es.find? fun e => e.1.sameKey (.int n) with
      | some e => return e.2
      | none => throw .noSuchName
    | none, .map es =>
      match Value.lookup es (String.ofList key) with
      | some x => return x
      | none => throw .noSuchName
    | _, _ => throw .wrongKind

/-- Follows a path into a value, with fuel for one step per character; a step is read only when it
is reached. -/
def followWith : Nat → Value → List Char → Except Fault Value
  | _, v, [] => .ok v
  | 0, v, _ => .ok v
  | fuel + 1, v, path => do
    let (step, rest) ← takeStep path
    followWith fuel (← step.apply v) rest

/-- Follows a path into a value. -/
def follow (v : Value) (path : List Char) : Except Fault Value :=
  followWith path.length v path

/-- The argument that the field of a place names. -/
def argument (args : List Value) (numbering : Numbering) (field : List Char) :
    Except Fault (Value × Numbering) := do
  let first := field.takeWhile fun c => c != '.' && c != '['
  let path := field.dropWhile fun c => c != '.' && c != '['
  let (index, numbering) ← match first, ← position? first, numbering with
    | [], _, .undecided => pure (0, .counted 1)
    | [], _, .counted n => pure (n, .counted (n + 1))
    -- positions are counted or given, never both
    | [], _, .given => throw .malformed
    | _, some n, .undecided => pure (n, .given)
    | _, some n, .given => pure (n, .given)
    | _, some _, .counted _ => throw .malformed
    | _, none, _ => throw .noSuchName
  match args[index]? with
  | none => throw .noSuchPosition
  | some v => return (← follow v path, numbering)

/-- Applies the conversion of a place. -/
def convert (v : Value) : Option Char → Except Fault Value
  | none => .ok v
  | some 's' => (v.written Value.display).map .str
  | some 'r' => (v.written (Value.literal false)).map .str
  | some 'a' => (v.written (Value.literal true)).map .str
  | some _ => .error .malformed

/-- Fills pieces from left to right. `depth` bounds the nesting of places inside specifications. -/
def fillPieces (args : List Value) :
    Nat → Numbering → List Piece → Except Fault (String × Numbering)
  | _, numbering, [] => .ok ("", numbering)
  | depth, numbering, .text cs :: rest => do
    let (tail, numbering) ← fillPieces args depth numbering rest
    return (String.ofList cs ++ tail, numbering)
  | _, _, .broken :: _ => .error .malformed
  | depth, numbering, .place field conversion spec :: rest => do
    let (v, numbering) ← argument args numbering field
    let v ← convert v conversion
    -- places inside the specification are filled first and keep on counting
    let (spec, numbering) ←
      if spec.contains '{' then
        match depth with
        | 0 => throw .malformed
        | depth + 1 => do
          let (text, numbering) ← fillPieces args depth numbering (pieces spec)
          pure (text.toList, numbering)
      else pure (spec, numbering)
    let text ← layout v spec
    let (tail, numbering) ← fillPieces args depth numbering rest
    return (text ++ tail, numbering)
  termination_by depth _ ps => (depth, ps.length)

/-- The template with its places filled by the arguments. -/
def fill (template : String) (args : List Value) : Except Fault String := do
  return (← fillPieces args 1 .undecided (pieces template.toList)).1

end MappingDdl.Text.Template
