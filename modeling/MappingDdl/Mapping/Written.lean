import MappingDdl.Mapping.Document
import MappingDdl.Value.Fields

/-!
# Documents as values

The value of a document with all its entries, also those that a source may leave out. It is what
validation reads back.
-/

namespace MappingDdl

/-- The value of a key generator declaration. -/
def KeyGeneratorDef.toValue (d : KeyGeneratorDef) : Value :=
  .ofFields [("name", .str d.name), ("strategy", .str d.strategy), ("params", .ofFields d.params)]

/-- The value of an index declaration. -/
def IndexDef.toValue (i : IndexDef) : Value :=
  .ofFields [("name", .ofText? i.name), ("columns", .ofTexts i.columns), ("unique", .bool i.unique)]

/-- The value of a field declaration. -/
def FieldMapping.toValue (f : FieldMapping) : Value :=
  .ofFields [("name", .str f.name), ("type", .str f.type), ("identity", .bool f.identity),
    ("required", .bool f.required), ("columns", .ofTexts f.columns),
    ("sql_type", .ofText? f.sqlType), ("many_table", .ofText? f.manyTable),
    ("many_key", .ofTexts f.manyKey)]

/-- The value of a class declaration. -/
def ClassMapping.toValue (c : ClassMapping) : Value :=
  .ofFields [("name", .str c.name), ("table", .ofText? c.table), ("extends", .ofText? c.parent),
    ("key_generator", .ofText? c.keyGenerator), ("identity", .ofTexts c.identity),
    ("fields", .list (c.fields.map (·.toValue))), ("indexes", .list (c.indexes.map (·.toValue)))]

/-- The value of a document. -/
def Document.toValue (d : Document) : Value :=
  .ofFields [("description", .ofText? d.description),
    ("key_generators", .list (d.keyGenerators.map (·.toValue))),
    ("classes", .list (d.classes.map (·.toValue)))]

end MappingDdl
