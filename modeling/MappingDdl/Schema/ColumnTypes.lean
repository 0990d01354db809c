import MappingDdl.ColumnType.Catalog
import MappingDdl.Schema.Error

/-!
# Column types of a field

A field's columns get their types from its SQL type, if that is a column type; else from the
identity columns of the class that its type names, one for one; else from its type as a column
type.
-/

namespace MappingDdl

/-- What a schema is built from. -/
structure Blueprint where
  document : Document
  catalog : TypeCatalog
  registry : KeyGeneratorRegistry

/-- The types of a field's columns, and the class it refers to. -/
structure FieldTypes where
  types : List ColumnType
  referenced : Option ClassMapping
  deriving Inhabited

/-- A step in building a schema. -/
abbrev Building := Traced SchemaError

/-- The logger of the schema builder. -/
def Building.logger : Logger := ⟨"generator.schema_builder", true⟩

/-- Writes a record for the curious. -/
def Building.debug (message : String) : Building Unit :=
  Traced.note .debug Building.logger message

/-- Takes over the result of an identity question. -/
def Building.ofMapping {α : Type} (x : Except MappingError α) : Building α :=
  Traced.ofExcept (x.mapError .mapping)

namespace Blueprint

/-- The column type of a type expression. -/
def columnType? (b : Blueprint) (s : String) : Except SchemaError (Option ColumnType) :=
  (b.catalog.get? s).mapError .unreadableType

/-- The column types of the identity columns of a referenced class. -/
def identityColumnTypes (b : Blueprint) (c : ClassMapping) (f : FieldMapping) (r : ClassMapping) :
    List String → Except SchemaError (List ColumnType)
  | [] => .ok []
  | name :: rest => do
    match ← b.columnType? name with
    | none => throw (.unresolvedIdentityType name r.name f.name c.name)
    | some t => return t :: (← b.identityColumnTypes c f r rest)

/-- The column types of a field that refers to a class. -/
def referenceTypes (b : Blueprint) (c : ClassMapping) (f : FieldMapping) (r : ClassMapping) :
    Except SchemaError (List ColumnType) := do
  let names ← (b.document.identityTypes r).mapError .mapping
  if names.length != f.columns.length then
    throw (.columnCount f.type f.name c.name r.name f.columns.length names.length)
  b.identityColumnTypes c f r names

/-- The types of a field by its type alone. -/
def declaredTypes (b : Blueprint) (c : ClassMapping) (f : FieldMapping) :
    Except SchemaError FieldTypes := do
  match b.document.class? f.type with
  | some r => return ⟨← b.referenceTypes c f r, some r⟩
  | none =>
    match ← b.columnType? f.type with
    | none => throw (.unresolvedType f.type f.name c.name)
    | some t => return ⟨f.columns.map fun _ => t, none⟩

/-- The types of a field's columns. -/
def fieldTypes (b : Blueprint) (c : ClassMapping) (f : FieldMapping) : Building FieldTypes :=
  match given f.sqlType with
  | none => .ofExcept (b.declaredTypes c f)
  | some sqlType => do
    match ← Traced.ofExcept (b.columnType? sqlType) with
    | some t => return ⟨f.columns.map fun _ => t, none⟩
    -- an unknown SQL type is passed over
    | none =>
      Building.debug s!"sql_type '{sqlType}' of field {f.name} is not a column type"
      .ofExcept (b.declaredTypes c f)

/-- Whether two identity types mean the same: the same column type, or the same name if one is not a
column type. -/
def sameType (b : Blueprint) (s t : String) : Except SchemaError Bool := do
  match ← b.columnType? s, ← b.columnType? t with
  | some u, some v => return u.anonymous == v.anonymous
  | _, _ => return Text.lower s == Text.lower t

/-- Whether two lists of identity types mean the same, position by position. -/
def sameTypes (b : Blueprint) : List String → List String → Except SchemaError Bool
  | s :: ss, t :: ts => do
    if ← b.sameType s t then b.sameTypes ss ts else return false
  | _, _ => .ok true

end Blueprint

end MappingDdl
