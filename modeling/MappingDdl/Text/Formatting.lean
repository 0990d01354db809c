import MappingDdl.Text.Template

/-!
# Formatting — values as templates

A user may name sequences with a template of their own. Such a template can ask for much: for a part
of its argument, say, whose text may be another one in the next run. How it is filled is no matter
of this program, so a `Formatting` is any way to do it. `Formatting.standard` is the way that is
taken where none is given. It fills templates as `Text.Template.fill` does, and gives no value any
parts.
-/

namespace MappingDdl

/-- A text that comes out of a template. One with halves of surrogate pairs in it has no encoding;
`text` has other characters in their places. -/
structure Formatted where
  text : String
  isEncodable : Bool := true
  deriving Repr, DecidableEq, Inhabited

/-- The text where its encoding is needed. -/
def Formatted.encoded (x : Formatted) : Except Fault String :=
  if x.isEncodable then .ok x.text else .error .unencodable

/-- A way to fill templates. -/
structure Formatting where
  /-- The text of a value, as a template with its places filled by a text. -/
  fill : Value → String → Except Fault Formatted

/-- The templates of `Text.Template`. -/
def Formatting.standard : Formatting where
  fill v argument := do
    let text ← Text.Template.fill (← Text.Template.layout v []) [.str argument]
    let isEncodable := match v with
      | .unpaired _ => false
      | _ => true
    return { text, isEncodable }

instance : Inhabited Formatting := ⟨.standard⟩

end MappingDdl
