import MappingDdl.KeyGenerator.Sequence
import MappingDdl.Statement
import MappingDdl.Statement.Literal

/-!
# The text of a statement

`Statement.render` writes a statement in a dialect, without its delimiter. Only the statements of a
sequence can fail, on a name pattern or increment that cannot be read, or a name that PostgreSQL
cannot encode or that no literal can hold; what was written up to there is part of the failure.
-/

namespace MappingDdl

/-- How statements are written: the dialect's flavor and what the settings say. -/
structure Style where
  flavor : Flavor
  /-- The schema that qualifies the names of tables and sequences. -/
  schemaName : Option String := none
  engine : String := ""
  foreignKeys : ReferentialActions := {}
  indent : String := "    "
  /-- How the patterns of sequence names are filled. -/
  format : Formatting := .standard
  deriving Inhabited

/-- The style of a dialect under given settings. -/
def Style.ofSettings (fl : Flavor) (s : Settings) (indent : String)
    (format : Formatting := .standard) : Style where
  flavor := fl
  schemaName := if fl = .postgresql then some s.schemaName |>.filter (· != "") else none
  engine := s.engine
  foreignKeys := s.foreignKeys
  indent := indent
  format := format

/-- A statement that could not be written to its end. -/
structure Interrupted where
  written : String
  fault : Fault
  deriving Repr, DecidableEq, Inhabited

/-- An identifier as the flavor writes it. -/
def Flavor.quote : Flavor → String → String
  | .standard, s => s
  | .postgresql, s => Text.Quoted.encode '"' s
  | .mysql, s => Text.Quoted.encode '\x60' s

/-- Identifiers with commas between them. -/
def Flavor.quoteAll (fl : Flavor) (xs : List String) : String :=
  ", ".intercalate (xs.map fl.quote)

namespace Style

/-- The name of a table or sequence, qualified by the schema. -/
def qualified (st : Style) (name : String) : String :=
  match st.schemaName with
  | some s => st.flavor.quote s ++ "." ++ st.flavor.quote name
  | none => st.flavor.quote name

/-- The mark of a column whose values the database gives. -/
def generatedMark (st : Style) : String :=
  if st.flavor = .mysql then "AUTO_INCREMENT" else "GENERATED BY DEFAULT AS IDENTITY"

/-- A column definition from its parts; the default is an expression. -/
def columnDefinition (st : Style) (name type : String) (default : Option String)
    (notNull generated : Bool) : String :=
  " ".intercalate <|
    [st.flavor.quote name, type] ++
    (default.map ("DEFAULT " ++ ·)).toList ++
    (if notNull then ["NOT NULL"] else []) ++
    (if generated then [st.generatedMark] else [])

/-- The definition of a column. -/
def columnText (st : Style) (c : Column) : String :=
  st.columnDefinition c.name c.type.ddl none c.isNotNull c.isGenerated

/-- The definitions inside a table. -/
def definitions (st : Style) (t : Table) : List String :=
  t.columns.map st.columnText ++
    (if st.flavor = .mysql && t.hasInlineKey then
      ["PRIMARY KEY (" ++ st.flavor.quoteAll t.keyColumns ++ ")"]
    else [])

/-- What stands after a table's definitions. -/
def tableSuffix (st : Style) : String :=
  if st.flavor = .mysql && st.engine != "" then " ENGINE=" ++ st.engine else ""

/-- The creation of a table from its definitions. -/
def createTableText (st : Style) (table : String) (definitions : List String) : String :=
  let body := if definitions.isEmpty then ""
    else ",\n".intercalate (definitions.map (st.indent ++ ·)) ++ "\n"
  "CREATE TABLE " ++ st.qualified table ++ " (\n" ++ body ++ ")" ++ st.tableSuffix

/-- The removal of a table; PostgreSQL may extend it to what depends on the table. -/
def dropTableText (st : Style) (table : String) (cascade : Bool) : String :=
  match st.flavor with
  | .standard => "DROP TABLE " ++ st.qualified table
  | .mysql => "DROP TABLE IF EXISTS " ++ st.qualified table
  | .postgresql =>
    "DROP TABLE IF EXISTS " ++ st.qualified table ++ (if cascade then " CASCADE" else "")

/-- The declaration of a primary key. -/
def primaryKeyText (st : Style) (table name : String) (columns : List String) : String :=
  "ALTER TABLE " ++ st.qualified table ++ " ADD CONSTRAINT " ++ st.flavor.quote name ++
    " PRIMARY KEY (" ++ st.flavor.quoteAll columns ++ ")"

/-- The actions of a foreign key. -/
def actionsText (a : ReferentialActions) : String :=
  (if a.onDelete = "" then "" else " ON DELETE " ++ Text.upper a.onDelete) ++
  (if a.onUpdate = "" then "" else " ON UPDATE " ++ Text.upper a.onUpdate)

/-- The declaration of a foreign key. -/
def foreignKeyText (st : Style) (table name : String) (columns : List String)
    (referenceTable : String) (referenceColumns : List String) : String :=
  "ALTER TABLE " ++ st.qualified table ++ " ADD CONSTRAINT " ++ st.flavor.quote name ++
    " FOREIGN KEY (" ++ st.flavor.quoteAll columns ++ ") REFERENCES " ++
    st.qualified referenceTable ++ " (" ++ st.flavor.quoteAll referenceColumns ++ ")" ++
    actionsText st.foreignKeys

/-- The creation of an index. -/
def indexText (st : Style) (table name : String) (unique : Bool) (columns : List String) : String :=
  "CREATE " ++ (if unique then "UNIQUE " else "") ++ "INDEX " ++
    (if st.flavor = .postgresql then "IF NOT EXISTS " else "") ++ st.flavor.quote name ++ " ON " ++
    st.qualified table ++ " (" ++ st.flavor.quoteAll columns ++ ")"

/-- The creation of a PostgreSQL sequence. -/
def sequenceText (st : Style) (name : String) (increment : Option Int) : String :=
  "CREATE SEQUENCE IF NOT EXISTS " ++ st.qualified name ++
    match increment with
    | some i => " INCREMENT BY " ++ SqlLiteral.integer i
    | none => ""

/-- The expression for the next value of a sequence. -/
def nextvalText (st : Style) (name : String) : Except Fault String :=
  return "nextval(" ++ (← SqlLiteral.string (st.qualified name)) ++ ")"

/-- The default of a column. -/
def setDefaultText (st : Style) (table column expression : String) : String :=
  "ALTER TABLE " ++ st.qualified table ++ " ALTER COLUMN " ++ st.flavor.quote column ++
    " SET DEFAULT " ++ expression

/-- The creation of a schema. -/
def createSchemaText (st : Style) (name : String) : String :=
  "CREATE SCHEMA IF NOT EXISTS " ++ st.flavor.quote name

/-- The choice of a schema, with or without the public one after it. -/
def searchPathText (st : Style) (name : String) (withPublic : Bool) : String :=
  "SET search_path TO " ++ st.flavor.quote name ++ (if withPublic then ", public" else "")

/-- The creation of the sequence of a key generator for a table. The standard form is written piece
by piece; PostgreSQL's is written at once. -/
def renderSequence (st : Style) (table : String) (g : KeyGenerator) : Except Interrupted String :=
  match g.sequenceName table st.format with
  | .error f => .error ⟨"", f⟩
  | .ok name =>
    if st.flavor = .postgresql then
      match g.increment with
      | .error f => .error ⟨"", f⟩
      | .ok increment =>
        -- the parts of the statement are encoded one after the other
        match name.encoded with
        | .error f => .error ⟨"", f⟩
        | .ok name =>
          if increment.all Text.Integer.isWritable then .ok (st.sequenceText name increment)
          else .error ⟨"", .malformed⟩
    else
      -- the start is written before the increment is read
      let start := "CREATE SEQUENCE " ++ st.flavor.quote name.text
      match g.increment with
      | .error f => .error ⟨start, f⟩
      | .ok none => .ok start
      | .ok (some i) =>
        if Text.Integer.isWritable i then .ok (start ++ " INCREMENT BY " ++ toString i)
        else .error ⟨start, .malformed⟩

end Style

/-- The text of a statement. -/
def Statement.render (st : Style) : Statement → Except Interrupted String
  | createSchema name => .ok (st.createSchemaText name)
  | setSearchPath name => .ok (st.searchPathText name true)
  | dropTable table => .ok (st.dropTableText table true)
  | createTable t => .ok (st.createTableText t.name (st.definitions t))
  | addPrimaryKey table key => .ok (st.primaryKeyText table key.name key.columns)
  | addForeignKey table key =>
    .ok (st.foreignKeyText table key.name key.columns key.referenceTable key.referenceColumns)
  | createIndex table index => .ok (st.indexText table index.name index.unique index.columns)
  | createSequence table g => st.renderSequence table g
  | setDefault table column g =>
    match g.sequenceName table st.format >>= Formatted.encoded >>= st.nextvalText with
    | .error f => .error ⟨"", f⟩
    | .ok next => .ok (st.setDefaultText table column next)

end MappingDdl
