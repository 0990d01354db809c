import MappingDdl.Fault

/-!
# Reading positions in a YAML text

A cursor holds the characters still to be read, with the index, line and column of the first of
them. Reading ahead gives no character at the end of the text, which most character classes
include.
-/

namespace MappingDdl.Yaml

/-- Why a text has no value. -/
inductive YamlError
  /-- The text is not well formed, or holds a value that cannot be made. -/
  | malformed
  /-- A scalar or escape that its conversion does not take. -/
  | conversion (f : Fault)
  deriving Repr, DecidableEq, Inhabited

/-- A character that ends a line. -/
def isBreak (c : Char) : Bool :=
  c == '\n' || c == '\r' || c == '\u0085' || c == '\u2028' || c == '\u2029'

/-- The end of a line or of the text. -/
def endsLine : Option Char → Bool
  | none => true
  | some c => isBreak c

/-- A blank, or the end of a line or of the text. -/
def endsWord : Option Char → Bool
  | none => true
  | some c => c == ' ' || isBreak c

/-- A blank or tab, or the end of a line or of the text. -/
def isGap : Option Char → Bool
  | none => true
  | some c => c == ' ' || c == '\t' || isBreak c

/-- A letter or digit of ASCII, a hyphen or an underscore. -/
def isIdentifierChar (c : Char) : Bool :=
  c.isAlphanum || c == '-' || c == '_'

/-- A position in a text. -/
structure Cursor where
  rest : List Char
  index : Nat := 0
  line : Nat := 0
  column : Nat := 0
  deriving Repr, Inhabited

namespace Cursor

/-- The next character. -/
def peek (c : Cursor) : Option Char :=
  c.rest.head?

/-- The character `n` places ahead. -/
def peekAt (c : Cursor) (n : Nat) : Option Char :=
  c.rest[n]?

/-- Whether the next character is a given one. -/
def isAt (c : Cursor) (x : Char) : Bool :=
  c.peek == some x

/-- The position after the next character. A byte order mark takes no column. -/
def next (c : Cursor) : Cursor :=
  match c.rest with
  | [] => c
  | x :: rest =>
    if isBreak x && !(x == '\r' && rest.head? == some '\n') then
      ⟨rest, c.index + 1, c.line + 1, 0⟩
    else if x == '\ufeff' then ⟨rest, c.index + 1, c.line, c.column⟩
    else ⟨rest, c.index + 1, c.line, c.column + 1⟩

/-- The position after `n` characters. -/
def advance (c : Cursor) : Nat → Cursor
  | 0 => c
  | n + 1 => c.next.advance n

/-- The characters at the front of a class, and the position after them. -/
def span (c : Cursor) (p : Char → Bool) : List Char × Cursor :=
  let cs := c.rest.takeWhile p
  (cs, c.advance cs.length)

/-- The position after the characters of a class. -/
def skip (c : Cursor) (p : Char → Bool) : Cursor :=
  (c.span p).2

/-- The position after the blanks. -/
def skipSpaces (c : Cursor) : Cursor :=
  c.skip (· == ' ')

/-- Reads the end of a line as the character it stands for: every break of ASCII is a line feed. -/
def lineBreak? (c : Cursor) : Option (Char × Cursor) :=
  match c.rest with
  | '\r' :: '\n' :: _ => some ('\n', c.advance 2)
  | x :: _ =>
    if x == '\n' || x == '\r' || x == '\u0085' then some ('\n', c.next)
    else if isBreak x then some (x, c.next)
    else none
  | [] => none

/-- Skips a comment, if there is one. -/
def skipComment (c : Cursor) : Cursor :=
  if c.isAt '#' then c.skip fun x => !isBreak x else c

/-- Skips what may stand at the end of a line, and the end of the line. -/
def finishLine (c : Cursor) : Except YamlError Cursor :=
  let c := c.skipSpaces.skipComment
  if endsLine c.peek then .ok ((c.lineBreak?.map (·.2)).getD c) else .error .malformed

/-- Whether a marker of three characters stands here as a word. -/
def isMarker (c : Cursor) (x : Char) : Bool :=
  c.rest.take 3 == [x, x, x] && isGap (c.peekAt 3)

/-- Whether the start or end of a document is marked here. -/
def isDocumentMarker (c : Cursor) : Bool :=
  c.isMarker '-' || c.isMarker '.'

end Cursor

/-- Whether a character may occur in a text at all. -/
def isAllowed (c : Char) : Bool :=
  let n := c.toNat
  n == 9 || n == 10 || n == 13 || (0x20 ≤ n && n ≤ 0x7e) || n == 0x85 ||
    (0xa0 ≤ n && n ≤ 0xd7ff) || (0xe000 ≤ n && n ≤ 0xfffd) || 0x10000 ≤ n

end MappingDdl.Yaml
