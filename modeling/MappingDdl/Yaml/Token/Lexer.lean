import MappingDdl.Yaml.Token.Block
import MappingDdl.Yaml.Token.Property

/-!
# The lexer — from a text to tokens

The lexer reads one token after the other and keeps track of indentation. What turns out to be a
key only at the colon after it is remembered as a possible key, one for each open flow collection
and one for the block; a key that started its block must be followed by its colon.

`tokens` always gives a list of tokens: where the text cannot be read on, the list ends with a token
that says so.
-/

namespace MappingDdl.Yaml

/-- A place where a key may have started. -/
structure PossibleKey where
  /-- The depth of flow collections around it. -/
  depth : Nat
  /-- The number of tokens before it. -/
  tokens : Nat
  /-- Whether a colon must follow. -/
  required : Bool
  index : Nat
  line : Nat
  column : Nat
  deriving Repr, Inhabited

/-- The state of the lexer. -/
structure Lexer where
  cursor : Cursor
  /-- The tokens read so far, last first. -/
  tokens : List Token := []
  count : Nat := 0
  /-- The depth of flow collections. -/
  depth : Nat := 0
  /-- The column of the block at hand, -1 outside of all blocks. -/
  indent : Int := -1
  /-- The columns of the blocks around it. -/
  indents : List Int := []
  keyAllowed : Bool := true
  keys : List PossibleKey := []
  deriving Inhabited

namespace Lexer

/-- Adds a token. -/
def push (l : Lexer) (t : Token) : Lexer :=
  { l with tokens := t :: l.tokens, count := l.count + 1 }

/-- Adds a token before the last ones, so that `n` tokens stand before it. -/
def insertAt (l : Lexer) (n : Nat) (t : Token) : Lexer :=
  let behind := l.count - n
  { l with tokens := l.tokens.take behind ++ t :: l.tokens.drop behind, count := l.count + 1 }

/-- Whether the lexer is inside a flow collection. -/
def inFlow (l : Lexer) : Bool :=
  l.depth != 0

/-- Ends the blocks that are indented deeper than a column, given the columns of those around. -/
def unwindFrom (column : Int) (l : Lexer) : List Int → Lexer
  | [] => { l with indents := [] }
  | i :: rest =>
    if column < l.indent then unwindFrom column { l.push .blockEnd with indent := i } rest
    else { l with indents := i :: rest }

/-- Ends the blocks that are indented deeper than a column. -/
def unwind (l : Lexer) (column : Int) : Lexer :=
  if l.inFlow then l else unwindFrom column l l.indents

/-- Whether a block at this column would be a new one. -/
def isDeeper (l : Lexer) (column : Nat) : Bool :=
  l.indent < column

/-- Starts a block at a column. -/
def openBlock (l : Lexer) (column : Nat) : Lexer :=
  { l with indents := l.indent :: l.indents, indent := column }

/-- The possible key at the depth at hand. -/
def key? (l : Lexer) : Option PossibleKey :=
  l.keys.find? (·.depth == l.depth)

/-- Forgets the possible key at the depth at hand, which must not be required. -/
def dropKey (l : Lexer) : Except YamlError Lexer :=
  if l.key?.any (·.required) then .error .malformed
  else .ok { l with keys := l.keys.filter (·.depth != l.depth) }

/-- Remembers that a key may start here. -/
def saveKey (l : Lexer) : Except YamlError Lexer :=
  if l.keyAllowed then do
    -- a key at the column of its block must be one
    let required := !l.inFlow && l.indent == Int.ofNat l.cursor.column
    let l ← l.dropKey
    let k : PossibleKey :=
      ⟨l.depth, l.count, required, l.cursor.index, l.cursor.line, l.cursor.column⟩
    return { l with keys := k :: l.keys }
  else .ok l

/-- The longest key. -/
def maxKeyLength : Nat := 1024

/-- Whether a key can no longer be one: its line is over, or it is too long. -/
def isStale (c : Cursor) (k : PossibleKey) : Bool :=
  k.line != c.line || maxKeyLength < c.index - k.index

/-- Forgets the keys that can no longer be keys; none of them may be required. -/
def dropStaleKeys (l : Lexer) : Except YamlError Lexer :=
  if l.keys.any fun k => isStale l.cursor k && k.required then .error .malformed
  else .ok { l with keys := l.keys.filter fun k => !isStale l.cursor k }

/-- Skips blanks, comments and line breaks, with fuel for one step per line. -/
def skipGapWith : Nat → Lexer → Lexer
  | 0, l => l
  | fuel + 1, l =>
    let c := l.cursor.skipSpaces.skipComment
    match c.lineBreak? with
    | some (_, c) =>
      skipGapWith fuel { l with cursor := c, keyAllowed := l.keyAllowed || !l.inFlow }
    | none => { l with cursor := c }

/-- Skips to the next token; a byte order mark at the start of the text is skipped too. -/
def skipGap (l : Lexer) : Lexer :=
  let c := if l.cursor.index = 0 && l.cursor.isAt '\ufeff' then l.cursor.next else l.cursor
  skipGapWith (c.rest.length + 1) { l with cursor := c }

/-- Reads past one character and adds its token. -/
def indicator (l : Lexer) (t : Token) : Lexer :=
  { l.push t with cursor := l.cursor.next }

/-- Ends all blocks in front of a directive, a document marker or the end. -/
def endBlocks (l : Lexer) : Except YamlError Lexer := do
  let l ← (l.unwind (-1)).dropKey
  return { l with keyAllowed := false }

/-- Adds a token that was read at the cursor, of which a key may consist. -/
def property (l : Lexer) (read : Cursor → Except YamlError (Token × Cursor)) :
    Except YamlError Lexer := do
  let l ← l.saveKey
  let (t, c) ← read l.cursor
  return { l.push t with cursor := c, keyAllowed := false }

/-- The start of a flow collection. -/
def openFlow (l : Lexer) (t : Token) : Except YamlError Lexer := do
  let l ← l.saveKey
  return { l.indicator t with depth := l.depth + 1, keyAllowed := true }

/-- The end of a flow collection. -/
def closeFlow (l : Lexer) (t : Token) : Except YamlError Lexer := do
  if l.depth = 0 then throw .malformed
  let l ← l.dropKey
  return { l.indicator t with depth := l.depth - 1, keyAllowed := false }

/-- The comma between entries of a flow collection. -/
def flowEntry (l : Lexer) : Except YamlError Lexer := do
  let l ← { l with keyAllowed := true }.dropKey
  return l.indicator .flowEntry

/-- Starts a block collection at the column at hand, if it is a new one; outside of flow
collections a token may start a block only where a key may start. -/
def startBlock (l : Lexer) (t : Token) : Except YamlError Lexer :=
  if l.inFlow then .ok l
  else if !l.keyAllowed then .error .malformed
  else if l.isDeeper l.cursor.column then .ok ((l.openBlock l.cursor.column).push t)
  else .ok l

/-- The hyphen of a block sequence entry. -/
def blockEntry (l : Lexer) : Except YamlError Lexer := do
  let l ← l.startBlock .blockSequenceStart
  let l ← { l with keyAllowed := true }.dropKey
  return l.indicator .blockEntry

/-- The question mark in front of a key. -/
def explicitKey (l : Lexer) : Except YamlError Lexer := do
  let l ← l.startBlock .blockMappingStart
  let l ← { l with keyAllowed := !l.inFlow }.dropKey
  return l.indicator .key

/-- The colon in front of a value. If a key may have started before, it did. -/
def valueStart (l : Lexer) : Except YamlError Lexer := do
  match l.key? with
  -- the key may be the first of a block mapping, which then starts at its column
  | some k =>
    let l := { l with keys := l.keys.filter (·.depth != l.depth) }.insertAt k.tokens .key
    let l := if !l.inFlow && l.isDeeper k.column then
      (l.openBlock k.column).insertAt k.tokens .blockMappingStart else l
    return { l with keyAllowed := false }.indicator .value
  | none =>
    -- no key in front: it is empty, or was marked by a question mark
    let l ← l.startBlock .blockMappingStart
    let l ← { l with keyAllowed := !l.inFlow }.dropKey
    return l.indicator .value

/-- A block scalar. -/
def blockScalar (l : Lexer) (folded : Bool) : Except YamlError Lexer := do
  let l ← { l with keyAllowed := true }.dropKey
  let (text, c) ← Block.read folded l.indent l.cursor
  return { l.push (.scalar ⟨text, true⟩ false) with cursor := c }

/-- A quoted scalar. -/
def quotedScalar (l : Lexer) (double : Bool) : Except YamlError Lexer :=
  l.property fun c => (Quoted.read double c).map fun p => (.scalar p.1 false, p.2)

/-- A plain scalar. -/
def plainScalar (l : Lexer) : Except YamlError Lexer := do
  let l ← l.saveKey
  let r := Plain.read l.inFlow l.indent l.cursor
  return { l.push (.scalar ⟨String.ofList r.text, true⟩ true) with
    cursor := r.after, keyAllowed := r.crossesLine }

/-- Whether a plain scalar may start with a character; `next` is the one after it. -/
def startsPlain (flow : Bool) (x : Char) (next : Option Char) : Bool :=
  !(isGap (some x) || "-?:,[]\x7b\x7d#&*!|>'\"%@\x60".toList.contains x) ||
    (!isGap next && (x == '-' || (!flow && (x == '?' || x == ':'))))

/-- Reads the token at a character that is not the end of the text. -/
def readAt (l : Lexer) (x : Char) : Except YamlError Lexer :=
  let c := l.cursor
  let gapNext := isGap (c.peekAt 1)
  -- directives and document markers stand at the start of a line only
  if x == '%' && c.column = 0 then do (← l.endBlocks).property Property.directive
  else if c.column = 0 && c.isMarker '-' then do
    let l ← l.endBlocks
    return { l.push .documentStart with cursor := l.cursor.advance 3 }
  else if c.column = 0 && c.isMarker '.' then do
    let l ← l.endBlocks
    return { l.push .documentEnd with cursor := l.cursor.advance 3 }
  -- flow collections
  else if x == '[' then l.openFlow .flowSequenceStart
  else if x == '\x7b' then l.openFlow .flowMappingStart
  else if x == ']' then l.closeFlow .flowSequenceEnd
  else if x == '\x7d' then l.closeFlow .flowMappingEnd
  else if x == ',' then l.flowEntry
  -- entries, keys and values
  else if x == '-' && gapNext then l.blockEntry
  else if x == '?' && (l.inFlow || gapNext) then l.explicitKey
  else if x == ':' && (l.inFlow || gapNext) then l.valueStart
  -- what stands in front of a node or in its place
  else if x == '*' then
    l.property fun c => (Property.anchorName c).map fun p => (.alias p.1, p.2)
  else if x == '&' then
    l.property fun c => (Property.anchorName c).map fun p => (.anchor p.1, p.2)
  else if x == '!' then l.property Property.tag
  -- scalars; inside flow collections there are no block scalars
  else if x == '|' && !l.inFlow then l.blockScalar false
  else if x == '>' && !l.inFlow then l.blockScalar true
  else if x == '\'' then l.quotedScalar false
  else if x == '"' then l.quotedScalar true
  else if startsPlain l.inFlow x (c.peekAt 1) then l.plainScalar
  else .error .malformed

/-- Reads the next token. At the end of the text it ends all blocks and the stream. -/
def step (l : Lexer) : Except YamlError Lexer := do
  let l ← l.skipGap.dropStaleKeys
  -- less indentation ends the blocks at hand before the token is looked at
  let l := l.unwind l.cursor.column
  match l.cursor.peek with
  | none => return (← l.endBlocks).push .streamEnd
  | some x => l.readAt x

/-- Reads tokens up to the end of the text, with fuel for one step per character. -/
def run : Nat → Lexer → List Token
  | 0, l => (Token.failure .malformed :: l.tokens).reverse
  | fuel + 1, l =>
    match l.step with
    | .error e => (Token.failure e :: l.tokens).reverse
    | .ok l =>
      match l.tokens with
      | .streamEnd :: _ => l.tokens.reverse
      | _ => run fuel l

end Lexer

/-- The tokens of a text. A character that may not occur at all makes the whole text malformed. -/
def tokens (s : String) : List Token :=
  let cs := s.toList
  if cs.all isAllowed then Lexer.run (cs.length + 1) { cursor := { rest := cs } }
  else [.failure .malformed]

end MappingDdl.Yaml
