import MappingDdl.ColumnType.Catalog
import MappingDdl.Dialect.Types
import MappingDdl.KeyGenerator

/-!
# Dialects — the families of databases a script is written for

A dialect names how statements are written, which column types there are, and which key generation
strategies the database has.
-/

namespace MappingDdl

/-- The version of this program, as headers and the command line show it. -/
def version : String := "0.1.0"

/-- How statements are written. -/
inductive Flavor
  | standard
  | postgresql
  | mysql
  deriving Repr, DecidableEq, Inhabited

/-- A dialect. -/
structure Dialect where
  name : String
  title : String
  /-- What starts a comment line. -/
  commentMark : String := "--"
  flavor : Flavor := .standard
  strategies : List Strategy := Strategy.all
  typeRows : List TypeRow := []
  typeAliases : List (String × String) := []
  deriving Repr, Inhabited

namespace Dialect

/-- Standard SQL. -/
def generic : Dialect where
  name := "generic"
  title := "Standard SQL"
  typeRows := TypeTable.standard
  typeAliases := TypeTable.standardAliases

/-- PostgreSQL. -/
def postgresql : Dialect where
  name := "postgresql"
  title := "PostgreSQL"
  flavor := .postgresql
  typeRows := TypeTable.standard ++ TypeTable.postgresql
  typeAliases := TypeTable.standardAliases ++ TypeTable.postgresqlAliases

/-- MySQL, which has no sequences. -/
def mysql : Dialect where
  name := "mysql"
  title := "MySQL"
  commentMark := "#"
  flavor := .mysql
  strategies := [.max, .highLow, .uuid, .identity]
  typeRows := TypeTable.standard ++ TypeTable.mysql
  typeAliases := TypeTable.standardAliases

/-- The catalog of the dialect's column types. -/
def catalog (d : Dialect) (defaults : TypeDefaults) : TypeCatalog :=
  TypeCatalog.ofRows defaults d.typeRows d.typeAliases

/-- The lines at the head of a script. -/
def headerLines (d : Dialect) : List String :=
  [s!"{d.title} DDL", s!"Generated by mapping-ddlgen {version}"]

/-- The names of the dialect's strategies, in order. -/
def strategyNames (d : Dialect) : List String :=
  Text.sorted (d.strategies.map (·.text))

end Dialect

end MappingDdl
