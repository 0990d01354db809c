import MappingDdl.Yaml.Token
import MappingDdl.Yaml.Token.Quoted

/-!
# Directives, anchors and tags

The small tokens that start with an indicator: directives in front of a document, the names of
anchors and aliases, and tags, whose escapes are bytes of UTF-8.
-/

namespace MappingDdl.Yaml.Property

/-- A name of letters, digits, hyphens and underscores. -/
def identifier (c : Cursor) : Except YamlError (String × Cursor) :=
  match c.span isIdentifierChar with
  | ([], _) => .error .malformed
  | (cs, c) => .ok (String.ofList cs, c)

/-- A name after the indicator of an anchor or alias. -/
def anchorName (c : Cursor) : Except YamlError (String × Cursor) := do
  let (name, c) ← identifier c.next
  if isGap c.peek || c.peek.any ("?:,]\x7d%@\x60".toList.contains ·) then return (name, c)
  else throw .malformed

/-- The characters of a tag other than the escape. -/
def isTagChar (c : Char) : Bool :=
  isIdentifierChar c || ";/?:@&=+$,.!~*'()[]".toList.contains c

/-- Reads a run of escaped bytes, with fuel for one step per byte. -/
def escapedBytes : Nat → Cursor → Except YamlError (List UInt8 × Cursor)
  | 0, c => .ok ([], c)
  | fuel + 1, c =>
    if c.isAt '%' then
      match (c.peekAt 1).bind Quoted.hexDigit?, (c.peekAt 2).bind Quoted.hexDigit? with
      | some h, some l => do
        let (bs, c) ← escapedBytes fuel (c.advance 3)
        return (UInt8.ofNat (16 * h + l) :: bs, c)
      | _, _ => .error .malformed
    else .ok ([], c)

/-- Reads the characters of a tag, with fuel for one step per run. -/
def tagCharsWith : Nat → Cursor → Except YamlError (List Char × Cursor)
  | 0, c => .ok ([], c)
  | fuel + 1, c => do
    if c.isAt '%' then
      let (bs, c) ← escapedBytes c.rest.length c
      match String.fromUTF8? ⟨bs.toArray⟩ with
      | none => throw .malformed
      | some s =>
        let (cs, c) ← tagCharsWith fuel c
        return (s.toList ++ cs, c)
    else
      match c.span isTagChar with
      | ([], c) => return ([], c)
      | (cs, c) =>
        let (more, c) ← tagCharsWith fuel c
        return (cs ++ more, c)

/-- Reads at least one character of a tag; a run of escapes counts even where it gives none. -/
def tagChars (c : Cursor) : Except YamlError (String × Cursor) := do
  let (cs, d) ← tagCharsWith (c.rest.length + 1) c
  if d.index = c.index then throw .malformed else return (String.ofList cs, d)

/-- Reads a tag handle: one exclamation mark, or a name between two. -/
def tagHandle (c : Cursor) : Except YamlError (String × Cursor) :=
  if !c.isAt '!' then .error .malformed
  else if c.peekAt 1 == some ' ' then .ok ("!", c.next)
  else
    let (cs, d) := c.next.span isIdentifierChar
    if d.isAt '!' then .ok (String.ofList ('!' :: cs ++ ['!']), d.next) else .error .malformed

/-- Whether a tag has a handle with a second exclamation mark. -/
def hasNamedHandle (c : Cursor) : Bool :=
  (c.next.rest.takeWhile fun x => !endsWord (some x)).contains '!'

/-- Reads a tag. -/
def tag (c : Cursor) : Except YamlError (Token × Cursor) := do
  let (handle, suffix, c) ←
    if c.peekAt 1 == some '<' then do
      let (suffix, c) ← tagChars (c.advance 2)
      if c.isAt '>' then pure (none, suffix, c.next) else throw .malformed
    else if isGap (c.peekAt 1) then pure (none, "!", c.next)
    else do
      let (handle, c) ← if hasNamedHandle c then tagHandle c else pure ("!", c.next)
      let (suffix, c) ← tagChars c
      pure (some handle, suffix, c)
  if endsWord c.peek then return (.tag handle suffix, c) else throw .malformed

/-- Reads a number of a version. -/
def versionNumber (c : Cursor) : Except YamlError (Nat × Cursor) :=
  match c.span Char.isDigit with
  | ([], _) => .error .malformed
  | (cs, c) => .ok (cs.foldl (fun n x => 10 * n + (x.toNat - 48)) 0, c)

/-- Reads the two numbers of a version. -/
def version (c : Cursor) : Except YamlError (Directive × Cursor) := do
  let (major, c) ← versionNumber c.skipSpaces
  if !c.isAt '.' then throw .malformed
  let (minor, c) ← versionNumber c.next
  if endsWord c.peek then return (.version major minor, c) else throw .malformed

/-- Reads a tag handle and what it stands for. -/
def tagMeaning (c : Cursor) : Except YamlError (Directive × Cursor) := do
  let (handle, c) ← tagHandle c.skipSpaces
  if !c.isAt ' ' then throw .malformed
  let (stem, c) ← tagChars c.skipSpaces
  if endsWord c.peek then return (.tag handle stem, c) else throw .malformed

/-- Reads a directive. -/
def directive (c : Cursor) : Except YamlError (Token × Cursor) := do
  let (name, c) ← identifier c.next
  if !endsWord c.peek then throw .malformed
  let (d, c) ←
    if name = "YAML" then version c
    else if name = "TAG" then tagMeaning c
    else pure (.other, c.skip fun x => !isBreak x)
  return (.directive d, ← c.finishLine)

end MappingDdl.Yaml.Property
