import MappingDdl.Mapping.Checked
import MappingDdl.Value.Display

/-!
# Coercions — what is taken for a text, a truth value, a list or a mapping

A document is accepted leniently: values of other kinds are taken for those that it asks for. Which
of them are is no matter of this program, so `Coercions` is any way to do it, and validation is made
from it. `Coercions.lax` is the way that is taken where none is given: bytes may stand for the text
that they encode, and texts and numbers for truth values.
-/

namespace MappingDdl

/-- Ways to take values for others. -/
structure Coercions where
  /-- What is taken for a text. -/
  text : Value → Checked String
  /-- What is taken for a truth value. -/
  bool : Value → Checked Bool
  /-- The items of what is taken for a list. -/
  items : Value → Option (List Value)
  /-- The entries of what is taken for a record. -/
  entries : Value → Option (List (Value × Value))
  /-- What is taken for a mapping with texts as keys. -/
  params : Value → Checked (List (String × Value))

namespace Coercions.Lax

/-- Texts; bytes are accepted where they are the encoding of a text. -/
def text : Value → Checked String
  | .str s => .ok s
  | .bytes bs =>
    match String.fromUTF8? ⟨bs.toArray⟩ with
    | some s => .ok s
    | none => .issue .undecodableText
  | .unpaired _ => .issue .undecodableText
  | _ => .issue .notText

/-- The truth value that a text spells, without regard to case. -/
def boolOfText? (s : String) : Option Bool :=
  let s := String.ofList (s.toList.map Char.toLower)
  if ["0", "off", "f", "false", "n", "no"].contains s then some false
  else if ["1", "on", "t", "true", "y", "yes"].contains s then some true
  else none

/-- Whether an integer has at most sixty-four bits. -/
def isInt64 (i : Int) : Bool :=
  -0x8000000000000000 ≤ i && i < 0x8000000000000000

/-- The truth value of an integer: zero and one only. An integer of more than sixty-four bits is no
truth value at all. -/
def boolOfInt (i : Int) : Checked Bool :=
  if i = 0 then .ok false
  else if i = 1 then .ok true
  else if isInt64 i then .issue .unreadableBool
  else .issue .notBool

/-- Truth values, also spelled as texts or as the numbers zero and one. -/
def bool : Value → Checked Bool
  | .bool b => .ok b
  | .int i => boolOfInt i
  | .float f =>
    match Value.fraction? (.float f) with
    -- only a whole number can be a truth value
    | some (n, d) =>
      let i := n / d
      if i * d = n ∧ isInt64 i then boolOfInt i else .issue .notBool
    | none => .issue .notBool
  | .str s =>
    match boolOfText? s with
    | some b => .ok b
    | none => .issue .unreadableBool
  | .bytes bs =>
    match (String.fromUTF8? ⟨bs.toArray⟩).bind boolOfText? with
    | some b => .ok b
    | none => .issue .unreadableBool
  | .unpaired _ => .issue .unreadableBool
  | _ => .issue .notBool

/-- Lists, and sets in their order. -/
def items : Value → Option (List Value)
  | .list vs | .set vs => some vs
  | _ => none

/-- Mappings. -/
def entries : Value → Option (List (Value × Value))
  | .map es => some es
  | _ => none

/-- A path step for the key of a mapping entry: a number of at most sixty-four bits as such, and any
other key as text. -/
def keyStep : Value → PathStep
  | .bool b => .index (if b then 1 else 0)
  | .int i => if isInt64 i then .index i else .name (toString i)
  | v => .name v.display

/-- Puts an entry in front of others. Of two entries with one key the later counts, in the place of
the earlier: a key in bytes is the same as the text that they encode. -/
def consParam (key : String) (value : Value) (ps : List (String × Value)) :
    List (String × Value) :=
  (key, (ps.lookup key).getD value) :: ps.filter (·.1 != key)

/-- Entries of a mapping, whose keys must be texts. A problem of a key is marked as such. -/
def paramEntries : List (Value × Value) → Checked (List (String × Value))
  | [] => .ok []
  | (k, v) :: rest =>
    .map₂ (fun key ps => consParam key v ps) (((text k).within (.name "[key]")).within (keyStep k))
      (paramEntries rest)

/-- Mappings with texts as keys. -/
def params : Value → Checked (List (String × Value))
  | .map es => paramEntries es
  | _ => .issue .notMapping

end Coercions.Lax

/-- The coercions of a lenient validation. -/
def Coercions.lax : Coercions where
  text := Lax.text
  bool := Lax.bool
  items := Lax.items
  entries := Lax.entries
  params := Lax.params

instance : Inhabited Coercions := ⟨.lax⟩

end MappingDdl
