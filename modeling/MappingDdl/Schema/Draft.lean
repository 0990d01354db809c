import MappingDdl.Generation

/-!
# Drafts — schemas made by hand

A draft holds tables that are still being worked on, key generators, and a schema into which
finished tables are put. Its statements are written into one script, kind by kind.

A name stands for the table that was made last under it. A table that is replaced while it is in the
schema stays there as it was.
-/

namespace MappingDdl

/-- Why a step on a draft cannot be taken. -/
inductive DraftError
  | conflict (e : SchemaConflict)
  | keyGenerator (e : KeyGeneratorError)
  /-- A name that stands for nothing in the draft. -/
  | unknownName
  /-- A table, column or generator that lacks the part that is asked for. -/
  | missingPart
  | conversion (f : Fault)
  deriving Repr, DecidableEq, Inhabited

/-- A table in the schema of a draft: the one that its name stands for, or one that was replaced. -/
structure DraftEntry where
  name : String
  replaced : Option Table := none
  deriving Inhabited

/-- A draft. -/
structure Draft where
  dialect : Dialect
  settings : Settings
  schemaName : Option String
  tables : List Table := []
  entries : List DraftEntry := []
  generators : List KeyGenerator := []
  /-- The number of key generators made so far. -/
  revision : Nat := 0
  /-- For each key generator the table it was last written for. -/
  served : List ((String × Nat) × String) := []
  script : Script
  deriving Inhabited

namespace Draft

/-- An empty draft; without a name the schema has that of the settings. -/
def new (d : Dialect) (s : Settings) (schema : Option String) : Draft where
  dialect := d
  settings := s
  schemaName := (given schema).or (given (some s.schemaName))
  script := { delimiter := s.delimiter }

/-- The style in which statements are written. -/
def style (d : Draft) : Style :=
  .ofSettings d.dialect.flavor d.settings d.script.indent

/-- The table that a name stands for. -/
def table? (d : Draft) (name : String) : Option Table :=
  d.tables.find? (·.name == name)

/-- The table that a name must stand for. -/
def table (d : Draft) (name : String) : Except DraftError Table :=
  match d.table? name with
  | some t => .ok t
  | none => .error .unknownName

/-- The key generator that a name must stand for. -/
def generator (d : Draft) (name : String) : Except DraftError KeyGenerator :=
  match d.generators.find? (·.name == name) with
  | some g => .ok g
  | none => .error .unknownName

/-- Puts a table in the place of the one of its name. -/
def update (d : Draft) (t : Table) : Draft :=
  { d with tables := d.tables.map fun x => if x.name == t.name then t else x }

/-- Makes a table. One of the same name leaves the draft, but not the schema. -/
def newTable (d : Draft) (name : String) : Draft :=
  match d.table? name with
  | none => { d with tables := d.tables ++ [{ name }] }
  | some old =>
    -- what is in the schema stays what it was when the name gets a new table
    let keep (e : DraftEntry) : DraftEntry :=
      if e.name == name && e.replaced.isNone then ⟨name, some old⟩ else e
    { d with entries := d.entries.map keep }.update { name }

/-- Gives a table a new, empty primary key. -/
def newPrimaryKey (d : Draft) (name : String) : Except DraftError (Draft × PrimaryKey) := do
  let t := (← d.table name).withPrimaryKey
  match t.primaryKey with
  | some k => return (d.update t, k)
  | none => throw .missingPart

/-- Adds a column to a table. -/
def addColumn (d : Draft) (table name type : String) (identity required : Bool)
    (generator : Option String) : Except DraftError Draft := do
  let t ← d.table table
  let keyGenerator ← generator.mapM d.generator
  let found ← (((d.dialect.catalog d.settings.types).get? type).mapError .conversion)
  match found with
  | none => throw .missingPart
  | some type =>
    let t ← (t.addColumn { name, type, identity, required, keyGenerator }).mapError .conflict
    return d.update t

/-- Adds a column of a table to its primary key. -/
def addKeyColumn (d : Draft) (table column : String) : Except DraftError Draft := do
  let t ← d.table table
  if t.primaryKey.isNone || (t.column? column).isNone then throw .missingPart
  return d.update (t.addKeyColumn column)

/-- Sets whether a column identifies a row. -/
def setIdentity (d : Draft) (table column : String) (identity : Bool) :
    Except DraftError Draft := do
  let t ← d.table table
  if (t.column? column).isNone then throw .missingPart
  return d.update (t.setIdentity column identity)

/-- Adds a foreign key to a table. -/
def addForeignKey (d : Draft) (table : String) (k : ForeignKey) : Except DraftError Draft := do
  let t ← d.table table
  -- the other table must be known, its columns are not looked at
  let _ ← d.table k.referenceTable
  return d.update (t.addForeignKey k)

/-- Adds an index to a table. -/
def addIndex (d : Draft) (table : String) (i : Index) : Except DraftError Draft := do
  return d.update ((← d.table table).addIndex i)

/-- Makes a key generator, in the place of the one of its name. -/
def newGenerator (d : Draft) (g : KeyGeneratorDef) : Except DraftError (Draft × KeyGenerator) := do
  let g ← (KeyGenerator.ofDef d.dialect g).mapError .keyGenerator
  let g := { g with revision := d.revision }
  let others := d.generators.filter (·.name != g.name)
  return ({ d with generators := g :: others, revision := d.revision + 1 }, g)

/-- Lets a table use a key generator. -/
def bind (d : Draft) (table generator : String) : Except DraftError Draft := do
  let t ← d.table table
  let g ← d.generator generator
  return d.update { t with keyGenerator := some g }

/-- The name and increment of the sequence of a key generator, for the table it was last written
for. -/
def sequence (d : Draft) (generator : String) : Except DraftError (String × Option Int) := do
  let g ← d.generator generator
  unless g.strategy = .sequence do throw .missingPart
  let table := (d.served.lookup (g.name, g.revision)).getD ""
  let name ← (g.sequenceName table).mapError .conversion
  let increment ← g.increment.mapError .conversion
  return (name.text, increment)

/-! ## The schema of a draft -/

/-- The names of the tables in the schema. -/
def tableNames (d : Draft) : List String :=
  d.entries.map (·.name)

/-- Puts a table into the schema. -/
def addTable (d : Draft) (name : String) : Except DraftError Draft := do
  let t ← d.table name
  if d.tableNames.contains t.name then throw (.conflict (.table t.name))
  return { d with entries := d.entries ++ [⟨name, none⟩] }

/-- The table of a name in the schema. -/
def schemaTable? (d : Draft) (name : String) : Option Table :=
  (d.entries.find? (·.name == name)).bind fun e => e.replaced.or (d.table? name)

/-- Whether the table that a name stands for is in the schema. -/
def isInSchema (d : Draft) (name : String) : Bool :=
  d.entries.any fun e => e.name == name && e.replaced.isNone

/-! ## Statements -/

/-- The statements of one kind for a table. Unlike in a plan, a key generator has its statements
also where no column uses it. -/
def statements (d : Draft) (kind : StatementKind) (t : Table) :
    Except DraftError (List Statement) :=
  let fl := d.dialect.flavor
  match kind with
  | .schema => .ok (fl.schemaStatements d.schemaName)
  | .primaryKey => if t.primaryKey.isNone then .error .missingPart else .ok (fl.keyStatements t)
  | .keyGenerator =>
    match t.keyGenerator with
    | none => .error .missingPart
    | some g => .ok (fl.generatorStatements t g)
  | kind => .ok (fl.tableStatements t kind)

/-- Remembers for which table a key generator is written. -/
def serve (d : Draft) (kind : StatementKind) (t : Table) : Draft :=
  match kind, t.keyGenerator with
  | .keyGenerator, some g => { d with served := ((g.name, g.revision), t.name) :: d.served }
  | _, _ => d

/-- Writes the statements of one kind for a table. What was written before a failure stays. -/
def write (d : Draft) (kind : StatementKind) (table : String) : Draft × Except DraftError Unit :=
  match d.table table with
  | .error e => (d, .error e)
  | .ok t =>
    match d.statements kind t with
    | .error e => (d, .error e)
    | .ok ss =>
      let e := emitSteps d.style d.script (ss.map .statement)
      -- what was written before a failure stays in the script
      let d' := { d.serve kind t with script := e.script }
      match e.trace.outcome with
      | .ok _ => (d', .ok ())
      | .error (.rendering f) => (d', .error (.conversion f))
      | .error _ => (d', .error .missingPart)

end Draft

end MappingDdl
