import MappingDdl.Schema.ColumnTypes

/-!
# Junctions — the classes behind many-to-many relations

The first many-to-many field that names a junction table queues a class for it, and every such field
adds the sides it knows: the declaring class under its table's name, and the related class under its
table's name, or under the field's name where a class is related to itself. A side that is already
there stays as it is. Queued classes are built like declared ones, after all of these.
-/

namespace MappingDdl

namespace Blueprint

/-- The columns of a side that names none: one column named for the side, or one for each identity
column of its class. -/
def sideColumns (b : Blueprint) (c : ClassMapping) (side : String) :
    Except SchemaError (List String) := do
  match ← (b.document.identityColumns c).mapError .mapping with
  | [] => throw (.unkeyedRelated c.name)
  | [_] => return [side]
  | columns => return columns.map fun column => side ++ "_" ++ column

/-- Adds a side to a junction, unless the junction has it. -/
def addSide (b : Blueprint) (junction : ClassMapping) (side : String) (c : ClassMapping)
    (columns : List String) : Except SchemaError ClassMapping := do
  if (junction.field? side).isSome then return junction
  -- a side without columns of its own gets them from the identity of its class
  let columns ← if columns.isEmpty then b.sideColumns c side else pure columns
  let field : FieldMapping := { name := side, type := c.name, identity := true, columns }
  return { junction with fields := junction.fields ++ [field] }

/-- The junction of a name among those queued, which is queued if it is not there yet. -/
def queued (junctions : List ClassMapping) (table : String) (keyGenerator : Option String) :
    Building (ClassMapping × List ClassMapping) :=
  match junctions.find? (·.name == table) with
  | some j => return (j, junctions)
  | none =>
    if table = "" then
      .fail (.invalidJunction ⟨"ClassMapping", [⟨[.name "name"], .textTooShort⟩]⟩)
    else do
      let j : ClassMapping := { name := table, table := some table, keyGenerator }
      Building.debug s!"Queued junction table {table}"
      return (j, junctions ++ [j])

/-- Enters a many-to-many field of a class into the queued junctions. -/
def addRelation (b : Blueprint) (junctions : List ClassMapping) (c : ClassMapping) (table : String)
    (f : FieldMapping) : Building (List ClassMapping) := do
  match b.document.class? f.type with
  | none => .fail (.unknownRelated f.type f.name c.name)
  | some r =>
    match r.mappedTable with
    | none => .fail (.unmappedRelated f.name c.name r.name)
    | some related =>
      let (j, junctions) ← queued junctions (f.manyTable.getD "") c.keyGenerator
      let j ← .ofExcept (b.addSide j table c f.manyKey)
      -- two sides of one class need two names
      let opposite := if r.name = c.name then f.name else related
      let j ← .ofExcept (b.addSide j opposite r f.columns)
      return junctions.map fun k => if k.name == j.name then j else k

end Blueprint

end MappingDdl
