import MappingDdl.Schema.Junction
import MappingDdl.Settings

/-!
# Building a schema from a mapping document

Every class with a table becomes a table, in the order of the document, and then every junction, in
the order in which they were first named. A table gets the columns of its class's fields, the
identity columns of the nearest class it extends that has any, its foreign keys and its indexes.

`Blueprint.build` gives the whole schema or the first error; nothing is kept of a schema that fails.
-/

namespace MappingDdl

namespace Blueprint

/-- The key generator that a class names; a name that is not known is only a warning. -/
def keyGenerator (b : Blueprint) (c : ClassMapping) : Building (Option KeyGenerator) :=
  match given c.keyGenerator with
  | none => return none
  | some name =>
    match b.registry.get? (some name) with
    | some g => return some g
    | none => do
      Traced.note .warning Building.logger
        s!"Class {c.name} uses unknown key generator '{name}', no key generator attached"
      return none

/-- Adds columns of given types to a table; identity columns join the primary key. -/
def addColumns (t : Table) (f : FieldMapping) (identity : Bool) (g : Option KeyGenerator) :
    List (String × ColumnType) → Except SchemaConflict Table
  | [] => .ok t
  | (name, type) :: rest => do
    let t ← t.addColumn ⟨name, type, identity, f.required, g⟩
    addColumns (if identity then t.addKeyColumn name else t) f identity g rest

/-- The table that a reference of a class goes to: the one being built, or one built before. -/
def referenceTable (built : List Table) (t : Table) (c : ClassMapping) (f : FieldMapping)
    (r : ClassMapping) : Except SchemaError Table :=
  match r.mappedTable with
  | none => .error (.unmappedReference f.name c.name r.name)
  | some name =>
    if name = t.name then .ok t
    else match built.find? (·.name == name) with
      | some u => .ok u
      | none => .error (.referenceNotBuilt f.name c.name name r.name)

/-- The foreign key of a field that refers to a class. -/
def foreignKey (b : Blueprint) (built : List Table) (t : Table) (c : ClassMapping)
    (f : FieldMapping) (r : ClassMapping) (relation : Relation) :
    Except SchemaError ForeignKey := do
  let u ← referenceTable built t c f r
  -- a field that names no columns of the other table refers to the identity of its class
  let columns ← if f.manyKey.isEmpty then (b.document.identityColumns r).mapError .mapping
    else pure f.manyKey
  match columns.find? fun column => !u.columnNames.contains column with
  | some column => throw (.unknownReferenceColumn f.name c.name column u.name)
  | none => pure ()
  -- each column refers to one column
  if columns.length != f.columns.length then
    throw (.referenceCount f.name c.name f.columns.length columns.length)
  return ⟨t.name ++ "_" ++ f.name, relation, f.columns, u.name, columns⟩

/-- Adds what a stored field contributes to the table of its class. -/
def addField (b : Blueprint) (built : List Table) (relation : Relation) (c : ClassMapping)
    (g : Option KeyGenerator) (t : Table) (f : FieldMapping) : Building Table := do
  let ⟨types, referenced⟩ ← b.fieldTypes c f
  -- the values of a reference come from the other table, not from a generator
  let g := if referenced.isNone then g else none
  let t ← .ofExcept ((addColumns t f (c.isIdentity f) g (f.columns.zip types)).mapError .conflict)
  match referenced with
  | none => return t
  | some r => return t.addForeignKey (← .ofExcept (b.foreignKey built t c f r relation))

/-- Adds what the fields of a class contribute: columns and foreign keys to its table, many-to-many
relations to the queued junctions. -/
def addFields (b : Blueprint) (built : List Table) (relation : Relation) (c : ClassMapping)
    (g : Option KeyGenerator) : Table → List ClassMapping → List FieldMapping →
    Building (Table × List ClassMapping)
  | t, junctions, [] => return (t, junctions)
  | t, junctions, f :: rest => do
    -- a many-to-many relation takes no column here, it goes to its junction
    if f.isManyToMany then
      addFields b built relation c g t (← b.addRelation junctions c t.name f) rest
    else if f.hasColumns then
      addFields b built relation c g (← b.addField built relation c g t f) junctions rest
    else addFields b built relation c g t junctions rest

/-! ## Inherited identity -/

/-- Makes the columns of a field that re-declares an inherited identity field part of the primary
key, if the table has them. -/
def promote? (t : Table) (c : ClassMapping) (inherited : FieldMapping) :
    Option (Table × List String) :=
  match c.field? inherited.name with
  | none => none
  | some f =>
    if f.isStored && f.columns.all t.columnNames.contains then
      some (f.columns.foldl (fun t column => (t.setIdentity column true).addKeyColumn column) t,
        f.columns)
    else none

/-- Adds the identity fields of a parent to the table of a class that has none. -/
def inheritFields (b : Blueprint) (c parent : ClassMapping) (g : Option KeyGenerator) :
    Table → List FieldMapping → Building Table
  | t, [] => return t
  | t, f :: rest =>
    match promote? t c f with
    | some (t, columns) => do
      Building.debug
        s!"Promoted {Text.Literal.list columns} to identity, re-declared from parent"
      b.inheritFields c parent g t rest
    | none => do
      let ⟨types, referenced⟩ ← b.fieldTypes parent f
      let own := if referenced.isNone then g else none
      let t ← .ofExcept ((addColumns t f true own (f.columns.zip types)).mapError .conflict)
      Building.debug s!"Merged identity {Text.Literal.list f.columns} from {parent.name}"
      b.inheritFields c parent g t rest

/-- A class with identity columns of its own must agree with its parent in their types. -/
def checkIdentity (b : Blueprint) (c parent : ClassMapping) : Except SchemaError Unit := do
  let own ← (b.document.identityTypes c).mapError .mapping
  let inherited ← (b.document.identityTypes parent).mapError .mapping
  let agree ← if own.length = inherited.length then b.sameTypes own inherited else pure false
  if agree then return () else throw (.identityMismatch own c.name inherited parent.name)

/-- Merges the inherited identity along the lineage of a class into its table. The walk stops at the
first class with identity columns of its own. -/
def inherit (b : Blueprint) (t : Table) : Lineage → Building Table
  | .root _ => return t
  | .unknownParent c parent => .fail (.mapping (.unknownParent c.name parent))
  | .cycle c parent => .fail (.mapping (.circularExtends parent c.name))
  | .step c rest => do
    let parent := rest.head
    -- without own identity the parent's comes in, and its parent is looked at next
    if c.ownIdentityColumns.isEmpty then
      let t := match b.registry.get? parent.keyGenerator with
        | some g => { t with keyGenerator := some g }
        | none => t
      let t ← b.inheritFields c parent t.keyGenerator t parent.identityFields
      b.inherit t rest
    else
      -- own identity columns must agree with the parent's and end the walk
      .ofExcept (b.checkIdentity c parent)
      return t

/-! ## Tables -/

/-- Adds the declared indexes to a table. -/
def addIndexes : Table → List IndexDef → Except SchemaError Table
  | t, [] => .ok t
  | t, i :: rest =>
    let name := (given i.name).getD (indexName t.name i.columns i.unique)
    match i.columns.find? fun column => !t.columnNames.contains column with
    | some column => .error (.unknownIndexColumn name column t.name)
    | none => addIndexes (t.addIndex ⟨name, i.unique, i.columns⟩) rest

/-- The table of a class, and the junctions queued on the way. -/
def table (b : Blueprint) (built : List Table) (relation : Relation) (c : ClassMapping)
    (name : String) (junctions : List ClassMapping) : Building (Table × List ClassMapping) :=
  Traced.inContext { className := some c.name, table := some name } do
    -- even a table without columns has a primary key, which is empty
    let t := ({ name } : Table).withPrimaryKey
    if c.fields.isEmpty then
      Building.debug s!"Class {c.name} declares no fields"
      return (t, junctions)
    let g ← b.keyGenerator c
    let t := { t with keyGenerator := g }
    let (t, junctions) ← b.addFields built relation c g t junctions c.fields
    let t ← b.inherit t (b.document.lineage c)
    let t ← .ofExcept (addIndexes t c.indexes)
    Building.debug (s!"Table {t.name}: {t.columns.length} columns, " ++
      s!"primary key {Text.Literal.list t.keyColumns}, {t.foreignKeys.length} foreign keys")
    return (t, junctions)

/-- Adds a table to a schema. -/
def addTable (s : Schema) (t : Table) : Building Schema :=
  .ofExcept ((s.addTable t).mapError .conflict)

/-- Adds the tables of classes to a schema. -/
def addClasses (b : Blueprint) : Schema → List ClassMapping → List ClassMapping →
    Building (Schema × List ClassMapping)
  | s, junctions, [] => return (s, junctions)
  | s, junctions, c :: rest =>
    match c.mappedTable with
    | none => do
      Building.debug s!"Class {c.name} is not mapped to a table, skipped"
      b.addClasses s junctions rest
    | some name => do
      let (t, junctions) ← b.table s.tables .oneToOne c name junctions
      b.addClasses (← addTable s t) junctions rest

/-- Adds the tables of queued junctions to a schema. -/
def addJunctions (b : Blueprint) : Schema → List ClassMapping → Building Schema
  | s, [] => return s
  | s, j :: rest => do
    Building.debug s!"Building junction table {j.name}"
    let (t, _) ← b.table s.tables .manyToMany j j.name []
    b.addJunctions (← addTable s t) rest

/-- The schema of a document whose key generators are registered. -/
def schema (b : Blueprint) (name : Option String) : Building Schema := do
  let (s, junctions) ← b.addClasses ⟨name, []⟩ [] b.document.classes
  let s ← b.addJunctions s junctions
  Traced.note .info Building.logger (s!"Built schema: {s.tables.length} tables " ++
    s!"({junctions.length} junction) from {b.document.classes.length} classes")
  return s

end Blueprint

/-- The key generators of a run after an attempt to build a document. A document whose structure is
not sound leaves them as they were. -/
def KeyGeneratorRegistry.afterBuild (r : KeyGeneratorRegistry) (d : Document) :
    KeyGeneratorRegistry :=
  if d.structureProblems.isEmpty then (r.reset.load d.keyGenerators).1 else r

/-- Builds the schema of a document: its structure is checked, its key generators are registered,
and the tables are made. -/
def Schema.ofDocument (r : KeyGeneratorRegistry) (settings : Settings) (catalog : TypeCatalog)
    (d : Document) : Building Schema :=
  match d.structureProblems with
  | [] => do
    let (registry, loading) := r.reset.load d.keyGenerators
    loading.mapError .keyGenerator
    Blueprint.schema ⟨d, catalog, registry⟩ (given (some settings.schemaName))
  | problems => .fail (.invalidMapping problems)

end MappingDdl
