import MappingDdl.Yaml.Cursor

/-!
# YAML tokens

What a YAML text is made of. Indentation shows as tokens that start and end block collections, and a
key before a colon is marked by a token in front of it.
-/

namespace MappingDdl.Yaml

/-- The text of a scalar. A text written with halves of surrogate pairs is not well formed, even
where two halves make a character. -/
structure ScalarText where
  text : String
  wellFormed : Bool := true
  deriving Repr, DecidableEq, Inhabited

/-- A directive in front of a document. -/
inductive Directive
  | version (major minor : Nat)
  /-- What a tag handle stands for. -/
  | tag (handle stem : String)
  | other
  deriving Repr, DecidableEq, Inhabited

/-- A token. -/
inductive Token
  | directive (d : Directive)
  | documentStart
  | documentEnd
  | streamEnd
  | blockSequenceStart
  | blockMappingStart
  | blockEnd
  | flowSequenceStart
  | flowSequenceEnd
  | flowMappingStart
  | flowMappingEnd
  | blockEntry
  | flowEntry
  | key
  | value
  | alias (name : String)
  | anchor (name : String)
  | tag (handle : Option String) (suffix : String)
  | scalar (text : ScalarText) (plain : Bool)
  /-- The text cannot be read on from here. -/
  | failure (e : YamlError)
  deriving Repr, DecidableEq, Inhabited

end MappingDdl.Yaml
