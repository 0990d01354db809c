import MappingDdl.Text.Case
import MappingDdl.Text.Given
import MappingDdl.Value

/-!
# Mapping documents — which classes are stored, and how

A document lists persistent classes and key generators. A class may have a table, extend another
class, and has fields; a field occupies columns, refers to another class, or stands for a
many-to-many relation with a junction table of its own.
-/

namespace MappingDdl

/-- A key generator declared by name, for classes to refer to. -/
structure KeyGeneratorDef where
  name : String
  strategy : String
  params : List (String × Value)
  deriving Inhabited

/-- The name under which a key generator is found. -/
def KeyGeneratorDef.key (d : KeyGeneratorDef) : String :=
  Text.upper d.name

/-- An index over columns of a class's table. -/
structure IndexDef where
  name : Option String
  columns : List String
  unique : Bool
  deriving Repr, DecidableEq, Inhabited

/-- A persistent field. Without columns and without a junction table it is not stored. -/
structure FieldMapping where
  name : String
  type : String
  identity : Bool := false
  required : Bool := false
  columns : List String := []
  sqlType : Option String := none
  manyTable : Option String := none
  manyKey : List String := []
  deriving Repr, DecidableEq, Inhabited

namespace FieldMapping

/-- Whether the field is a many-to-many relation. -/
def isManyToMany (f : FieldMapping) : Bool :=
  f.manyTable.isSome

/-- Whether the field occupies columns. -/
def hasColumns (f : FieldMapping) : Bool :=
  !f.columns.isEmpty

/-- Whether the field occupies columns of its own class's table. -/
def isStored (f : FieldMapping) : Bool :=
  f.hasColumns && !f.isManyToMany

/-- Whether the field has a given name, without regard to case. -/
def isNamed (f : FieldMapping) (name : String) : Bool :=
  Text.lower f.name == Text.lower name

end FieldMapping

/-- A persistent class. Without a table it can still be extended or referred to. -/
structure ClassMapping where
  name : String
  table : Option String := none
  /-- The class that this one extends. -/
  parent : Option String := none
  keyGenerator : Option String := none
  /-- The identity fields, used where no field is marked as identity. -/
  identity : List String := []
  fields : List FieldMapping := []
  indexes : List IndexDef := []
  deriving Repr, DecidableEq, Inhabited

namespace ClassMapping

/-- The first field of a given name, without regard to case. -/
def field? (c : ClassMapping) (name : String) : Option FieldMapping :=
  c.fields.find? (·.isNamed name)

/-- The table the class is mapped to. -/
def mappedTable (c : ClassMapping) : Option String :=
  given c.table

end ClassMapping

/-- A complete mapping document. -/
structure Document where
  description : Option String := none
  keyGenerators : List KeyGeneratorDef := []
  classes : List ClassMapping := []
  deriving Inhabited

/-- The first class of a given name. -/
def Document.class? (d : Document) (name : String) : Option ClassMapping :=
  d.classes.find? (·.name == name)

end MappingDdl
