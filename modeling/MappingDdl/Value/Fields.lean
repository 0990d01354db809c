import MappingDdl.Value

/-!
# Values from parts

How texts, lists of texts and named parts are put together to values.
-/

namespace MappingDdl.Value

/-- A list of texts. -/
def ofTexts (xs : List String) : Value :=
  .list (xs.map .str)

/-- A text or null. -/
def ofText? : Option String → Value
  | some s => .str s
  | none => .null

/-- A mapping with texts as keys. -/
def ofFields (fields : List (String × Value)) : Value :=
  .map (fields.map fun f => (.str f.1, f.2))

end MappingDdl.Value
