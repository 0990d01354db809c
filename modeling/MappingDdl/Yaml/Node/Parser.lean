import MappingDdl.Yaml.Node
import MappingDdl.Yaml.Token.Lexer

/-!
# From tokens to nodes

A recursive descent over the tokens of a text. `Parser.document` reads the only document of a text;
a text without a document gives an empty node.

An alias stands for a copy of the node its anchor names. Inside the collection that it names, where
the node is not known yet, it stands for an empty collection.
-/

namespace MappingDdl.Yaml

/-- What is left to read, and the names in use. -/
structure ParserState where
  tokens : List Token
  anchors : List (String × Node) := []
  /-- What the tag handles stand for. -/
  handles : List (String × String) := []

/-- A reader of tokens. -/
abbrev Parser := StateT ParserState (Except YamlError)

namespace Parser

/-- The next token. -/
def peek : Parser Token := do
  match (← get).tokens with
  | [] => throw .malformed
  | .failure e :: _ => throw e
  | t :: _ => return t

/-- Drops the next token. -/
def skip : Parser Unit :=
  modify fun s => { s with tokens := s.tokens.tail }

/-- Drops the next token if it is the given one, and says whether it was. -/
def accept (t : Token) : Parser Bool := do
  if (← peek) == t then
    skip
    return true
  return false

/-- Drops the next token, which must be the given one. -/
def expect (t : Token) : Parser Unit := do
  unless ← accept t do throw .malformed

/-- The name of a tag: its handle stands for the start of the name. -/
def tagName (handle : Option String) (suffix : String) : Parser String := do
  match handle with
  | none => return suffix
  | some h =>
    match (← get).handles.lookup h with
    | some start => return start ++ suffix
    | none => throw .malformed

/-- The tag in front of a node, if there is one. -/
def tag? : Parser (Option String) := do
  match ← peek with
  | .tag handle suffix =>
    skip
    return some (← tagName handle suffix)
  | _ => return none

/-- The anchor in front of a node, if there is one. -/
def anchor? : Parser (Option String) := do
  match ← peek with
  | .anchor name =>
    skip
    return some name
  | _ => return none

/-- The anchor and tag in front of a node, in either order. -/
def properties : Parser (Option String × Option String) := do
  match ← anchor? with
  | some a => return (some a, ← tag?)
  | none =>
    let t ← tag?
    if t.isSome then return (← anchor?, t) else return (none, none)

/-- Lets an anchor name a node. -/
def name (anchor : Option String) (n : Node) : Parser Unit :=
  match anchor with
  | none => pure ()
  | some a => modify fun s => { s with anchors := (a, n) :: s.anchors }

/-- Refuses an anchor that is in use. -/
def requireNew (anchor : Option String) : Parser Unit := do
  let known := (← get).anchors
  if anchor.any fun a => (known.lookup a).isSome then throw .malformed

/-- The tag of a collection: `!` is no tag. -/
def collectionTag (tag : Option String) (otherwise : Tag) : Tag :=
  match tag with
  | none => otherwise
  | some t => if t == "!" then otherwise else .ofName t

/-- The tag of a scalar. Without a tag a plain scalar has the kind its text shows and any other is a
text; `!` lets every scalar have the kind its text shows. -/
def scalarTag (tag : Option String) (text : String) (plain : Bool) : Tag :=
  match tag with
  | none => if plain then .ofPlain text else .str
  | some t => if t == "!" then .ofPlain text else .ofName t

/-- Whether the next token is one of the given ones. -/
def isNext (ts : List Token) : Parser Bool := do
  return ts.contains (← peek)

/-- Reads a collection that an anchor may name, in which the anchor stands for the collection
without children. -/
def collection (anchor : Option String) (start : Node) (children : Parser Node) : Parser Node := do
  requireNew anchor
  name anchor start
  let n ← children
  name anchor n
  return n

/-- A node without content: there must be an anchor or a tag to show it. -/
def absent (anchor tag : Option String) : Parser Node := do
  if anchor.isNone && tag.isNone then throw .malformed
  requireNew anchor
  let n := Node.scalar (scalarTag tag "" true) ⟨"", true⟩
  name anchor n
  return n

/-- Reads an alias. -/
def alias? : Parser (Option Node) := do
  match ← peek with
  | .alias a =>
    skip
    match (← get).anchors.lookup a with
    | some n => return some n
    | none => throw .malformed
  | _ => return none

mutual

/-- Reads a node. Outside of flow collections it may be a block collection, and as a part of a block
mapping also a sequence whose entries are not indented. -/
def node : Nat → Bool → Bool → Parser Node
  | 0, _, _ => throw .malformed
  | fuel + 1, block, indentless => do
    if let some n ← alias? then return n
    -- what names and classifies the node stands in front of it
    let (anchor, tag) ← properties
    let seqTag := collectionTag tag .seq
    let mapTag := collectionTag tag .map
    match ← peek, block with
    | .blockEntry, true =>
      if indentless then
        collection anchor (.sequence seqTag []) do
          return .sequence seqTag (← indentlessSequence fuel)
      else absent anchor tag
    | .scalar text plain, _ =>
      skip
      requireNew anchor
      let n := Node.scalar (scalarTag tag text.text plain) text
      name anchor n
      return n
    | .flowSequenceStart, _ =>
      skip
      collection anchor (.sequence seqTag []) do
        return .sequence seqTag (← flowSequence fuel true)
    | .flowMappingStart, _ =>
      skip
      collection anchor (.mapping mapTag []) do
        return .mapping mapTag (← flowMapping fuel true)
    | .blockSequenceStart, true =>
      skip
      collection anchor (.sequence seqTag []) do
        return .sequence seqTag (← blockSequence fuel)
    | .blockMappingStart, true =>
      skip
      collection anchor (.mapping mapTag []) do
        return .mapping mapTag (← blockMapping fuel)
    | _, _ => absent anchor tag

/-- Reads a node, unless one of the given tokens shows that nothing is written. -/
def nodeUnless : Nat → List Token → Bool → Bool → Parser Node
  | 0, _, _, _ => throw .malformed
  | fuel + 1, stops, block, indentless => do
    if ← isNext stops then return .empty
    node fuel block indentless

/-- Reads the entries of an indented block sequence and its end. -/
def blockSequence : Nat → Parser (List Node)
  | 0 => throw .malformed
  | fuel + 1 => do
    if ← accept .blockEntry then
      let n ← nodeUnless fuel [.blockEntry, .blockEnd] true false
      return n :: (← blockSequence fuel)
    expect .blockEnd
    return []

/-- Reads the entries of a sequence that is not indented; what follows ends it. -/
def indentlessSequence : Nat → Parser (List Node)
  | 0 => throw .malformed
  | fuel + 1 => do
    if ← accept .blockEntry then
      let n ← nodeUnless fuel [.blockEntry, .key, .value, .blockEnd] true false
      return n :: (← indentlessSequence fuel)
    return []

/-- Reads the entries of a block mapping and its end. -/
def blockMapping : Nat → Parser (List (Node × Node))
  | 0 => throw .malformed
  | fuel + 1 => do
    if ← accept .key then
      let stops := [.key, .value, .blockEnd]
      let k ← nodeUnless fuel stops true true
      let v ← if ← accept .value then nodeUnless fuel stops true true else pure .empty
      return (k, v) :: (← blockMapping fuel)
    expect .blockEnd
    return []

/-- Reads the entries of a flow sequence and its end; between entries stands a comma. A key with its
value is a mapping with one entry. -/
def flowSequence : Nat → Bool → Parser (List Node)
  | 0, _ => throw .malformed
  | fuel + 1, first => do
    if ← accept .flowSequenceEnd then return []
    unless first do expect .flowEntry
    if ← accept .key then
      let k ← nodeUnless fuel [.value, .flowEntry, .flowSequenceEnd] false false
      let v ← flowValue fuel .flowSequenceEnd
      return .mapping .map [(k, v)] :: (← flowSequence fuel false)
    if ← accept .flowSequenceEnd then return []
    let n ← node fuel false false
    return n :: (← flowSequence fuel false)

/-- Reads the entries of a flow mapping and its end; between entries stands a comma. -/
def flowMapping : Nat → Bool → Parser (List (Node × Node))
  | 0, _ => throw .malformed
  | fuel + 1, first => do
    if ← accept .flowMappingEnd then return []
    unless first do expect .flowEntry
    if ← accept .key then
      let k ← nodeUnless fuel [.value, .flowEntry, .flowMappingEnd] false false
      let v ← flowValue fuel .flowMappingEnd
      return (k, v) :: (← flowMapping fuel false)
    if ← accept .flowMappingEnd then return []
    let k ← node fuel false false
    return (k, .empty) :: (← flowMapping fuel false)

/-- Reads the value after a key inside a flow collection. -/
def flowValue : Nat → Token → Parser Node
  | 0, _ => throw .malformed
  | fuel + 1, stop => do
    if ← accept .value then nodeUnless fuel [.flowEntry, stop] false false
    else return .empty

end

/-! ## Documents -/

/-- What the tag handles stand for if no directive says otherwise. -/
def defaultHandles : List (String × String) :=
  [("!", "!"), ("!!", Tag.stem)]

/-- Reads the directives in front of a document: at most one version, which is 1, and at most one
meaning for each tag handle. -/
def directives : List Token → Bool → List (String × String) → Parser (List (String × String))
  | .directive d :: rest, versioned, handles =>
    match d with
    | .version major _ =>
      if versioned || major != 1 then throw .malformed else directives rest true handles
    | .tag handle start =>
      if (handles.lookup handle).isSome then throw .malformed
      else directives rest versioned ((handle, start) :: handles)
    | .other => directives rest versioned handles
  | rest, _, handles => do
    modify fun s => { s with tokens := rest }
    return handles

/-- Drops the marks that end a document. -/
def skipEnds : Parser Unit :=
  modify fun s => { s with tokens := s.tokens.dropWhile (· == .documentEnd) }

/-- Reads the node of a document that its start marks. -/
def explicitDocument (fuel : Nat) : Parser Node := do
  -- directives hold for this document; they win over the handles known to all
  let handles ← directives (← get).tokens false []
  modify fun s => { s with handles := handles ++ defaultHandles }
  expect .documentStart
  match ← peek with
  | .directive _ | .documentStart | .documentEnd | .streamEnd => return .empty
  | _ => node fuel true false

/-- Reads the only document of a text; a text without one gives an empty node. -/
def document (fuel : Nat) : Parser Node := do
  let n ← match ← peek with
    | .streamEnd => return .empty
    | .directive _ | .documentStart => explicitDocument fuel
    | _ => node fuel true false
  skipEnds
  expect .streamEnd
  return n

end Parser

/-- The tree of the only document of a text. -/
def Node.ofText? (s : String) : Except YamlError Node :=
  let ts := tokens s
  (Parser.document (3 * ts.length + 3)).run' { tokens := ts, handles := Parser.defaultHandles }

end MappingDdl.Yaml
