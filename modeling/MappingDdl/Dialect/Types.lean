import MappingDdl.ColumnType.Catalog

/-!
# Type tables — the column types of the dialects

The standard table, and what the other dialects change in it: a later row replaces an earlier one of
the same name.
-/

namespace MappingDdl.TypeTable

/-- The column types of standard SQL. -/
def standard : List TypeRow := [
  ⟨"bit", "BIT", .none⟩,
  ⟨"tinyint", "TINYINT", .none⟩,
  ⟨"smallint", "SMALLINT", .none⟩,
  ⟨"integer", "INTEGER", .none⟩,
  ⟨"bigint", "BIGINT", .none⟩,
  ⟨"float", "FLOAT", .precision⟩,
  ⟨"double", "DOUBLE PRECISION", .none⟩,
  ⟨"real", "REAL", .none⟩,
  ⟨"numeric", "NUMERIC", .precisionDecimals⟩,
  ⟨"decimal", "DECIMAL", .precisionDecimals⟩,
  ⟨"char", "CHAR", .length⟩,
  ⟨"varchar", "VARCHAR", .length⟩,
  ⟨"longvarchar", "VARCHAR", .length⟩,
  ⟨"date", "DATE", .none⟩,
  ⟨"time", "TIME", .none⟩,
  ⟨"timestamp", "TIMESTAMP", .none⟩,
  ⟨"binary", "BINARY", .length⟩,
  ⟨"varbinary", "VARBINARY", .length⟩,
  ⟨"longvarbinary", "VARBINARY", .length⟩,
  ⟨"blob", "BLOB", .none⟩,
  ⟨"clob", "CLOB", .none⟩,
  ⟨"boolean", "BOOLEAN", .none⟩]

/-- Second names of standard types. -/
def standardAliases : List (String × String) := [
  ("int", "integer"),
  ("long", "bigint"),
  ("short", "smallint"),
  ("byte", "tinyint"),
  ("string", "varchar"),
  ("str", "varchar"),
  ("bool", "boolean"),
  ("big-decimal", "numeric"),
  ("datetime", "timestamp")]

/-- The column types of PostgreSQL that differ from the standard. -/
def postgresql : List TypeRow := [
  ⟨"bit", "BOOLEAN", .none⟩,
  ⟨"tinyint", "SMALLINT", .none⟩,
  ⟨"longvarchar", "TEXT", .none⟩,
  ⟨"text", "TEXT", .none⟩,
  ⟨"timestamptz", "TIMESTAMPTZ", .none⟩,
  ⟨"binary", "BYTEA", .none⟩,
  ⟨"varbinary", "BYTEA", .none⟩,
  ⟨"longvarbinary", "BYTEA", .none⟩,
  ⟨"blob", "BYTEA", .none⟩,
  ⟨"clob", "TEXT", .none⟩,
  ⟨"jsonb", "JSONB", .none⟩,
  ⟨"uuid", "UUID", .none⟩,
  ⟨"serial", "SERIAL", .none⟩]

/-- Second names that PostgreSQL adds or changes. -/
def postgresqlAliases : List (String × String) := [
  ("datetime", "timestamptz"),
  ("dict", "jsonb"),
  ("list", "jsonb"),
  ("json", "jsonb")]

/-- The column types of MySQL that differ from the standard. -/
def mysql : List TypeRow := [
  ⟨"integer", "INT", .none⟩,
  ⟨"float", "FLOAT", .none⟩,
  ⟨"double", "DOUBLE", .none⟩,
  ⟨"real", "DOUBLE", .none⟩,
  ⟨"longvarchar", "LONGTEXT", .none⟩,
  ⟨"text", "TEXT", .none⟩,
  ⟨"timestamp", "DATETIME", .none⟩,
  ⟨"longvarbinary", "LONGBLOB", .none⟩,
  ⟨"blob", "LONGBLOB", .none⟩,
  ⟨"clob", "LONGTEXT", .none⟩,
  ⟨"boolean", "TINYINT(1)", .none⟩,
  ⟨"json", "JSON", .none⟩]

end MappingDdl.TypeTable
