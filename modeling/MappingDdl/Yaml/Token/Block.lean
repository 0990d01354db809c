import MappingDdl.Yaml.Cursor

/-!
# Block scalars

A block scalar is a run of lines that are indented deeper than the block around it. Its header says
whether single line breaks are folded into blanks, how far the lines are indented, and what becomes
of the breaks at the end.
-/

namespace MappingDdl.Yaml.Block

/-- What becomes of the line breaks at the end. -/
inductive Chomping
  | strip
  | clip
  | keep
  deriving Repr, DecidableEq

/-- The chomping that an indicator stands for. -/
def Chomping.ofChar? : Char → Option Chomping
  | '-' => some .strip
  | '+' => some .keep
  | _ => none

/-- An indicator of the chomping, if there is one. -/
def chomping (c : Cursor) : Option Chomping × Cursor :=
  match c.peek.bind Chomping.ofChar? with
  | some k => (some k, c.next)
  | none => (none, c)

/-- An indicator of the indentation, if there is one; it is not zero. -/
def increment (c : Cursor) : Except YamlError (Option Nat × Cursor) :=
  match c.peek with
  | some x =>
    if x == '0' then .error .malformed
    else if x.isDigit then .ok (some (x.toNat - 48), c.next)
    else .ok (none, c)
  | none => .ok (none, c)

/-- Reads the indicators of a header, in either order. -/
def indicators (c : Cursor) : Except YamlError (Chomping × Option Nat × Cursor) := do
  let (k, c) := chomping c
  let (n, c) ← increment c
  let (k, c) := if k.isNone && n.isSome then chomping c else (k, c)
  if endsWord c.peek then return (k.getD .clip, n, c) else throw .malformed

/-- Reads blank lines before the first line, with fuel for one step per character, and finds the
deepest indentation. -/
def leading : Nat → Nat → Cursor → List Char × Nat × Cursor
  | 0, deepest, c => ([], deepest, c)
  | fuel + 1, deepest, c =>
    if c.isAt ' ' then leading fuel (max deepest c.next.column) c.next
    else match c.lineBreak? with
      | some (b, c) =>
        let (bs, deepest, c) := leading fuel deepest c
        (b :: bs, deepest, c)
      | none => ([], deepest, c)

/-- Skips blanks up to a column. -/
def indentTo (indent : Nat) (c : Cursor) : Cursor :=
  c.advance ((c.rest.take (indent - c.column)).takeWhile (· == ' ')).length

/-- Reads blank lines and the indentation of the line after them, with fuel for one step per
line. -/
def blankLines (indent : Nat) : Nat → Cursor → List Char × Cursor
  | 0, c => ([], c)
  | fuel + 1, c =>
    let c := indentTo indent c
    match c.lineBreak? with
    | some (b, c) =>
      let (bs, c) := blankLines indent fuel c
      (b :: bs, c)
    | none => ([], c)

/-- The lines of a block scalar: the text up to the end of the last line, the break that ends it,
the breaks after it, and the position. -/
structure Lines where
  text : List Char
  lineBreak : List Char
  breaks : List Char
  after : Cursor

/-- Whether a line starts with a blank or tab, which keeps the breaks around it. -/
def startsBlank (c : Cursor) : Bool :=
  c.isAt ' ' || c.isAt '\t'

/-- Reads the lines of a block scalar, with fuel for one step per line. -/
def lines (folded : Bool) (indent : Nat) : Nat → List Char → List Char → Cursor → Lines
  | 0, lineBreak, breaks, c => ⟨[], lineBreak, breaks, c⟩
  | fuel + 1, lineBreak, breaks, c =>
    if c.column = indent && c.peek.isSome then
      let (text, d) := c.span fun x => !isBreak x
      let (b, d) := match d.lineBreak? with
        | some (b, d) => ([b], d)
        | none => ([], d)
      let (bs, e) := blankLines indent (d.rest.length + 1) d
      let more := e.column = indent && e.peek.isSome
      let joint :=
        -- the last break is left to the chomping
        if !more then []
        -- a break is folded only between lines that start without a blank
        else if folded && b == ['\n'] && !startsBlank c && !startsBlank e then
          (if bs.isEmpty then [' '] else [])
        else b
      let r := lines folded indent fuel b bs e
      { r with text := breaks ++ text ++ joint ++ r.text }
    else ⟨[], lineBreak, breaks, c⟩

/-- Reads a block scalar from its indicator, in a block that is indented to `indent`. -/
def read (folded : Bool) (indent : Int) (c : Cursor) : Except YamlError (String × Cursor) := do
  let (k, n, c) ← indicators c.next
  let c ← c.finishLine
  let least := (max 1 (indent + 1)).toNat
  let fuel := c.rest.length + 1
  let (indent, breaks, c) := match n with
    | some n =>
      -- a given indentation counts from the block around the scalar
      let indent := least + n - 1
      let (bs, c) := blankLines indent fuel c
      (indent, bs, c)
    | none =>
      let (bs, deepest, c) := leading fuel 0 c
      (max least deepest, bs, c)
  let r := lines folded indent fuel [] breaks c
  let text := match k with
    | .strip => r.text
    | .clip => r.text ++ r.lineBreak
    | .keep => r.text ++ r.lineBreak ++ r.breaks
  return (String.ofList text, r.after)

end MappingDdl.Yaml.Block
