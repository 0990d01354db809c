import MappingDdl.Fault
import MappingDdl.KeyGenerator.Registry
import MappingDdl.Mapping.Checked
import MappingDdl.Mapping.Identity
import MappingDdl.Mapping.Structure
import MappingDdl.Schema
import MappingDdl.Text.Literal

/-!
# Errors of building a schema

Each constructor is one cause, with what its message names. An error is about the types of a
mapping, about its structure, or is the refusal of a part that validation or the reading of numbers
refuses.
-/

namespace MappingDdl

/-- Why a mapping has no schema. -/
inductive SchemaError
  | invalidMapping (problems : List StructureProblem)
  | keyGenerator (e : KeyGeneratorError)
  | mapping (e : MappingError)
  | conflict (e : SchemaConflict)
  | unresolvedType (type field cls : String)
  | unresolvedIdentityType (type referenced field cls : String)
  | columnCount (type field cls referenced : String) (columns identityColumns : Nat)
  | unknownRelated (type field cls : String)
  | unmappedRelated (field cls related : String)
  | unkeyedRelated (cls : String)
  | unmappedReference (field cls referenced : String)
  | referenceNotBuilt (field cls table referenced : String)
  | unknownReferenceColumn (field cls column table : String)
  | referenceCount (field cls : String) (columns referenceColumns : Nat)
  | identityMismatch (types : List String) (cls : String) (parentTypes : List String)
      (parent : String)
  | unknownIndexColumn (index column table : String)
  /-- A junction table whose class description is not valid. -/
  | invalidJunction (e : ValidationError)
  /-- A type expression whose parameters cannot be read. -/
  | unreadableType (f : Fault)
  deriving Repr, DecidableEq, Inhabited

/-- What an error of building a schema is about. -/
inductive SchemaErrorKind
  /-- A type that cannot be found: the type's name and the class and field that ask for it. -/
  | type (name cls field : String)
  /-- The structure of the mapping, in a class where one is to blame. -/
  | structure (cls : Option String)
  | validation (e : ValidationError)
  | conversion (f : Fault)
  deriving Repr, DecidableEq, Inhabited

namespace SchemaError

/-- What the error is about. -/
def kind : SchemaError → SchemaErrorKind
  | invalidMapping _ | keyGenerator _ | conflict _ | unknownIndexColumn _ _ _ => .structure none
  | mapping e => .structure e.className?
  | unresolvedType type field cls | unresolvedIdentityType type _ field cls
  | columnCount type field cls _ _ _ | unknownRelated type field cls => .type type cls field
  | unmappedRelated _ cls _ | unkeyedRelated cls | unmappedReference _ cls _
  | referenceNotBuilt _ cls _ _ | unknownReferenceColumn _ cls _ _ | referenceCount _ cls _ _
  | identityMismatch _ cls _ _ => .structure (some cls)
  | invalidJunction e => .validation e
  | unreadableType f => .conversion f

/-- The wording of an error. -/
def message : SchemaError → String
  | invalidMapping problems =>
    "Invalid mapping: " ++ "; ".intercalate (problems.map (·.message))
  | keyGenerator e => e.message
  | mapping e => e.message
  | conflict e => e.message
  | unresolvedType type field cls =>
    s!"Cannot resolve type '{type}' of field '{field}' in class '{cls}'"
  | unresolvedIdentityType type referenced field cls =>
    s!"Cannot resolve identity type '{type}' of class '{referenced}' referenced by field " ++
      s!"'{field}' of class '{cls}'"
  | columnCount _ field cls referenced columns identityColumns =>
    s!"Field '{field}' of class '{cls}' has {columns} column(s) but class '{referenced}' has " ++
      s!"{identityColumns} identity column(s)"
  | unknownRelated type field cls =>
    s!"Many-to-many field '{field}' of class '{cls}' names unknown class '{type}'"
  | unmappedRelated field cls related =>
    s!"Many-to-many field '{field}' of class '{cls}' references class '{related}' which is not " ++
      "mapped to a table"
  | unkeyedRelated cls =>
    s!"Class '{cls}' has no identity columns to reference from a many-to-many relation"
  | unmappedReference field cls referenced =>
    s!"Field '{field}' of class '{cls}' references class '{referenced}' which is not mapped to " ++
      "a table"
  | referenceNotBuilt field cls table referenced =>
    s!"Field '{field}' of class '{cls}' references table '{table}' which has not been built; " ++
      s!"map class '{referenced}' before '{cls}'"
  | unknownReferenceColumn field cls column table =>
    s!"Foreign key of field '{field}' in class '{cls}' references unknown column '{column}' of " ++
      s!"table '{table}'"
  | referenceCount field cls columns referenceColumns =>
    s!"Foreign key of field '{field}' in class '{cls}' has {columns} column(s) but references " ++
      s!"{referenceColumns}"
  | identityMismatch types cls parentTypes parent =>
    s!"Identity types {Text.Literal.list types} of class '{cls}' do not match identity types " ++
      s!"{Text.Literal.list parentTypes} of extended class '{parent}'"
  | unknownIndexColumn index column table =>
    s!"Index '{index}' names unknown column '{column}' of table '{table}'"
  | invalidJunction _ | unreadableType _ => ""

end SchemaError

end MappingDdl
