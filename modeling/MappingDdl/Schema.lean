import MappingDdl.ColumnType
import MappingDdl.KeyGenerator

/-!
# Relational schemas

A schema is a list of tables; a table has columns, a primary key, foreign keys, indexes and perhaps
a key generator. Keys and indexes name columns. Operations that would repeat a column in a table or
a table in a schema fail.

Main statements: `columnNames_addColumn` and `tableNames_addTable`, what is added has a new name;
`nodup_columnNames_of_addColumn`, so the names of columns stay distinct.
-/

namespace MappingDdl

/-- What a foreign key implements. -/
inductive Relation
  /-- A reference of a class to another one. -/
  | oneToOne
  /-- A side of a junction table. -/
  | manyToMany
  deriving Repr, DecidableEq, Inhabited

namespace Relation

/-- The name of a relation. -/
def text : Relation → String
  | oneToOne => "one-one"
  | manyToMany => "many-many"

/-- The relation of a given name. -/
def ofText? (s : String) : Option Relation :=
  [oneToOne, manyToMany].find? (·.text == s)

end Relation

/-- A column of a table. -/
structure Column where
  name : String
  type : ColumnType
  identity : Bool := false
  required : Bool := false
  keyGenerator : Option KeyGenerator := none
  deriving Inhabited

namespace Column

/-- Whether the database gives the column its values. -/
def isGenerated (c : Column) : Bool :=
  c.identity && (c.keyGenerator.map (·.strategy)) == some .identity

/-- Whether the column must have a value. -/
def isNotNull (c : Column) : Bool :=
  c.identity || c.required

end Column

/-- A primary key. -/
structure PrimaryKey where
  name : String
  columns : List String
  deriving Repr, DecidableEq, Inhabited

/-- Adds a column to a primary key, once. -/
def PrimaryKey.insert (k : PrimaryKey) (column : String) : PrimaryKey :=
  if k.columns.contains column then k else { k with columns := k.columns ++ [column] }

/-- A foreign key; the two lists of columns are parallel. -/
structure ForeignKey where
  name : String
  relation : Relation
  columns : List String
  referenceTable : String
  referenceColumns : List String
  deriving Repr, DecidableEq, Inhabited

/-- An index. -/
structure Index where
  name : String
  unique : Bool
  columns : List String
  deriving Repr, DecidableEq, Inhabited

/-- A table. -/
structure Table where
  name : String
  columns : List Column := []
  primaryKey : Option PrimaryKey := none
  foreignKeys : List ForeignKey := []
  indexes : List Index := []
  keyGenerator : Option KeyGenerator := none
  deriving Inhabited

/-- Why a column or table cannot be added. -/
inductive SchemaConflict
  | column (column table : String)
  | table (table : String)
  deriving Repr, DecidableEq, Inhabited

/-- The wording of a conflict. -/
def SchemaConflict.message : SchemaConflict → String
  | column c t => s!"Column '{c}' defined twice in table '{t}'"
  | table t => s!"Table '{t}' is mapped more than once"

namespace Table

/-- The names of the columns. -/
def columnNames (t : Table) : List String :=
  t.columns.map (·.name)

/-- The column of a given name. -/
def column? (t : Table) (name : String) : Option Column :=
  t.columns.find? (·.name == name)

/-- The columns that identify a row. -/
def identityColumns (t : Table) : List Column :=
  t.columns.filter (·.identity)

/-- The columns of the primary key; none if there is no key. -/
def keyColumns (t : Table) : List String :=
  (t.primaryKey.map (·.columns)).getD []

/-- Gives the table an empty primary key. -/
def withPrimaryKey (t : Table) : Table :=
  { t with primaryKey := some ⟨"pk_" ++ t.name, []⟩ }

/-- Adds a column at the end. -/
def addColumn (t : Table) (c : Column) : Except SchemaConflict Table :=
  if t.columnNames.contains c.name then .error (.column c.name t.name)
  else .ok { t with columns := t.columns ++ [c] }

/-- Adds a column to the primary key. -/
def addKeyColumn (t : Table) (name : String) : Table :=
  { t with primaryKey := t.primaryKey.map (·.insert name) }

/-- Sets the identity flag of a column. -/
def setIdentity (t : Table) (name : String) (identity : Bool) : Table :=
  { t with columns := t.columns.map fun c => if c.name == name then { c with identity } else c }

/-- Adds a foreign key. -/
def addForeignKey (t : Table) (k : ForeignKey) : Table :=
  { t with foreignKeys := t.foreignKeys ++ [k] }

/-- Adds an index. -/
def addIndex (t : Table) (i : Index) : Table :=
  { t with indexes := t.indexes ++ [i] }

theorem columnNames_addColumn {t t' : Table} {c : Column} (h : t.addColumn c = .ok t') :
    t'.columnNames = t.columnNames ++ [c.name] ∧ c.name ∉ t.columnNames := by
  unfold addColumn at h
  split at h
  · cases h
  · cases h
    simp_all [columnNames]

theorem nodup_columnNames_of_addColumn {t t' : Table} {c : Column} (h : t.addColumn c = .ok t')
    (ht : t.columnNames.Nodup) : t'.columnNames.Nodup := by
  obtain ⟨heq, hmem⟩ := columnNames_addColumn h
  rw [heq]
  exact List.nodup_append.2 ⟨ht, by simp, by
    rintro a ha b hb rfl
    exact hmem (List.mem_singleton.1 hb ▸ ha)⟩

end Table

/-- A schema. -/
structure Schema where
  name : Option String
  tables : List Table
  deriving Inhabited

namespace Schema

/-- The names of the tables. -/
def tableNames (s : Schema) : List String :=
  s.tables.map (·.name)

/-- The table of a given name. -/
def table? (s : Schema) (name : String) : Option Table :=
  s.tables.find? (·.name == name)

/-- Adds a table at the end. -/
def addTable (s : Schema) (t : Table) : Except SchemaConflict Schema :=
  if s.tableNames.contains t.name then .error (.table t.name)
  else .ok { s with tables := s.tables ++ [t] }

theorem tableNames_addTable {s s' : Schema} {t : Table} (h : s.addTable t = .ok s') :
    s'.tableNames = s.tableNames ++ [t.name] ∧ t.name ∉ s.tableNames := by
  unfold addTable at h
  split at h
  · cases h
  · cases h
    simp_all [tableNames]

end Schema

/-- The name of an index that the mapping does not name. -/
def indexName (table : String) (columns : List String) (unique : Bool) : String :=
  (if unique then "idx_unique_" else "idx_") ++ table ++ "_" ++ "_".intercalate columns

end MappingDdl
