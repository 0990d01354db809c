import MappingDdl.Dialect
import MappingDdl.Schema
import MappingDdl.Settings

/-!
# Statements — what a script says, before it is text

A statement names what it does and to which table. The statements of a table, kind by kind, and
those of a schema depend on the dialect: PostgreSQL creates a named schema and attaches sequences
to columns, and MySQL declares the primary key of a table with generated columns inside the table.
-/

namespace MappingDdl

/-- A statement of a script. -/
inductive Statement
  | createSchema (name : String)
  | setSearchPath (name : String)
  | dropTable (table : String)
  | createTable (table : Table)
  | addPrimaryKey (table : String) (key : PrimaryKey)
  | addForeignKey (table : String) (key : ForeignKey)
  | createIndex (table : String) (index : Index)
  | createSequence (table : String) (generator : KeyGenerator)
  | setDefault (table column : String) (generator : KeyGenerator)
  deriving Inhabited

/-- The kind of a statement. -/
def Statement.kind : Statement → StatementKind
  | createSchema _ | setSearchPath _ => .schema
  | dropTable _ => .drop
  | createTable _ => .create
  | addPrimaryKey _ _ => .primaryKey
  | addForeignKey _ _ => .foreignKey
  | createIndex _ _ => .index
  | createSequence _ _ | setDefault _ _ _ => .keyGenerator

/-- The kinds of statements about tables, in the order in which they stand. -/
def StatementKind.ofTables : List StatementKind :=
  [.drop, .create, .primaryKey, .foreignKey, .index, .keyGenerator]

/-- Whether the primary key of a table is declared inside the table: where a column is generated,
the database asks for it. -/
def Table.hasInlineKey (t : Table) : Bool :=
  !t.keyColumns.isEmpty && t.columns.any (·.isGenerated)

/-- The columns whose values come from a given key generator. -/
def Table.columnsOf (t : Table) (g : KeyGenerator) : List Column :=
  t.identityColumns.filter fun c => c.keyGenerator.any (·.same g)

namespace Flavor

/-- The statements of a named schema. -/
def schemaStatements : Flavor → Option String → List Statement
  | .postgresql, some name => [.createSchema name, .setSearchPath name]
  | _, _ => []

/-- The statements that declare a primary key outside its table. -/
def keyStatements (fl : Flavor) (t : Table) : List Statement :=
  match t.primaryKey with
  | none => []
  | some key =>
    if key.columns.isEmpty || (fl == .mysql && t.hasInlineKey) then []
    else [.addPrimaryKey t.name key]

/-- The statements of a key generator for a table. -/
def generatorStatements (fl : Flavor) (t : Table) (g : KeyGenerator) : List Statement :=
  match g.strategy, fl with
  | .sequence, .postgresql =>
    .createSequence t.name g :: (t.columnsOf g).map fun c => .setDefault t.name c.name g
  | .sequence, _ => [.createSequence t.name g]
  | _, _ => []

/-- The statements of one kind for a table. A key generator that no identity column uses gives
none. -/
def tableStatements (fl : Flavor) (t : Table) : StatementKind → List Statement
  | .schema => []
  | .drop => [.dropTable t.name]
  | .create => [.createTable t]
  | .primaryKey => fl.keyStatements t
  | .foreignKey => t.foreignKeys.map (.addForeignKey t.name)
  | .index => t.indexes.map (.createIndex t.name)
  | .keyGenerator =>
    match t.keyGenerator with
    | none => []
    | some g => if (t.columnsOf g).isEmpty then [] else fl.generatorStatements t g

theorem kind_of_mem_tableStatements {fl : Flavor} {t : Table} {k : StatementKind} {s : Statement}
    (h : s ∈ fl.tableStatements t k) : s.kind = k := by
  cases k with
  | schema => simp [tableStatements] at h
  | drop => simp [tableStatements] at h; subst h; rfl
  | create => simp [tableStatements] at h; subst h; rfl
  | primaryKey =>
    simp only [tableStatements, keyStatements] at h
    split at h
    · simp at h
    · split at h
      · simp at h
      · simp at h; subst h; rfl
  | foreignKey => simp [tableStatements] at h; obtain ⟨_, _, rfl⟩ := h; rfl
  | index => simp [tableStatements] at h; obtain ⟨_, _, rfl⟩ := h; rfl
  | keyGenerator =>
    simp only [tableStatements] at h
    split at h
    · simp at h
    · split at h
      · simp at h
      · simp only [generatorStatements] at h
        split at h
        · simp at h
          rcases h with rfl | ⟨_, _, rfl⟩ <;> rfl
        · simp at h; subst h; rfl
        · simp at h

end Flavor

end MappingDdl
