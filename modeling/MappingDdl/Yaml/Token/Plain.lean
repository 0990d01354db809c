import MappingDdl.Yaml.Cursor

/-!
# Plain scalars

A plain scalar goes on over lines that are indented deeper than the block around it. A single line
break inside it is a blank, and of several breaks the first is dropped.
-/

namespace MappingDdl.Yaml

/-- The breaks inside a scalar, folded: the first one, and those after it. -/
def foldBreaks (first : Char) (breaks : List Char) : List Char :=
  (if first != '\n' then [first] else if breaks.isEmpty then [' '] else []) ++ breaks

namespace Plain

/-- Whether a character ends the part of a plain scalar on one line; `next` is the one after it.
Inside flow collections their indicators end it too. -/
def endsPart (flow : Bool) (x : Char) (next : Option Char) : Bool :=
  isGap (some x) ||
    (x == ':' && (isGap next || (flow && next.any (",[]\x7b\x7d".toList.contains ·)))) ||
    (flow && ",?[]\x7b\x7d".toList.contains x)

/-- The length of the part of a plain scalar on one line. -/
def partLength (flow : Bool) : List Char → Nat
  | [] => 0
  | x :: rest => if endsPart flow x rest.head? then 0 else 1 + partLength flow rest

/-- Reads blank lines, with fuel for one step per character; `none` if a document marker ends the
scalar. -/
def blankLines : Nat → Cursor → Option (List Char) × Cursor
  | 0, c => (some [], c)
  | fuel + 1, c =>
    if c.isAt ' ' then blankLines fuel c.next
    else match c.lineBreak? with
      | some (b, c) =>
        if c.isDocumentMarker then (none, c)
        else
          let (bs, c) := blankLines fuel c
          (bs.map (b :: ·), c)
      | none => (some [], c)

/-- What stands between two parts of a plain scalar. -/
structure Gap where
  /-- The text it stands for, unless the scalar ends here. -/
  text : List Char
  crossesLine : Bool
  after : Cursor

/-- Reads what follows a part of a plain scalar. -/
def gap (c : Cursor) : Gap :=
  let (spaces, c) := c.span (· == ' ')
  match c.lineBreak? with
  | none => ⟨spaces, false, c⟩
  | some (b, c) =>
    if c.isDocumentMarker then ⟨[], true, c⟩
    else match blankLines c.rest.length c with
      | (none, c) => ⟨[], true, c⟩
      | (some bs, c) => ⟨foldBreaks b bs, true, c⟩

/-- A plain scalar: its text, whether a new line was begun after it, and the position after it. -/
structure Result where
  text : List Char
  crossesLine : Bool
  after : Cursor

/-- Reads a plain scalar, with fuel for one step per part; `before` is the gap in front of the next
part, which counts only if there is one. -/
def readWith (flow : Bool) (indent : Int) : Nat → Gap → Result
  | 0, before => ⟨[], before.crossesLine, before.after⟩
  | fuel + 1, before =>
    let c := before.after
    -- in front of every part but the first stands a gap, so a hash starts a comment
    let n := if c.isAt '#' then 0 else partLength flow c.rest
    if n = 0 then ⟨[], before.crossesLine, c⟩
    else
      let g := gap (c.advance n)
      let part := before.text ++ c.rest.take n
      -- the scalar goes on only after a gap, and outside of flow collections deep enough
      if g.text.isEmpty || g.after.isAt '#' || (!flow && g.after.column < indent) then
        ⟨part, g.crossesLine, g.after⟩
      else
        let r := readWith flow indent fuel g
        { r with text := part ++ r.text }

/-- Reads a plain scalar in a block that is indented to `indent`. -/
def read (flow : Bool) (indent : Int) (c : Cursor) : Result :=
  readWith flow (indent + 1) c.rest.length ⟨[], false, c⟩

end Plain

end MappingDdl.Yaml
