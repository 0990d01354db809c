import MappingDdl.Text.Blank
import MappingDdl.Text.Case

/-!
# Settings of a generation run

Which dialect is written, in which order the statements stand, which kinds of statements are
written, and the parameters of types and references that a mapping leaves out.
-/

namespace MappingDdl

/-- The kinds of statements of a script. -/
inductive StatementKind
  | schema
  | drop
  | create
  | primaryKey
  | foreignKey
  | index
  | keyGenerator
  deriving Repr, DecidableEq, Inhabited

/-- Whether the statements of a script stand together by table or by kind. -/
inductive Grouping
  | byTable
  | byKind
  deriving Repr, DecidableEq, Inhabited

namespace Grouping

/-- The name of a grouping. -/
def text : Grouping → String
  | byTable => "table"
  | byKind => "ddltype"

/-- All groupings, in the order in which messages list them. -/
def all : List Grouping := [byTable, byKind]

/-- The grouping with a given name, without regard to case and surrounding blanks. -/
def ofText? (s : String) : Option Grouping :=
  all.find? (·.text == Text.lower (Text.trim s))

end Grouping

/-- Which kinds of statements are written. -/
structure Toggles where
  schema : Bool := true
  drop : Bool := true
  create : Bool := true
  primaryKey : Bool := true
  foreignKey : Bool := true
  index : Bool := true
  keyGenerator : Bool := true
  deriving Repr, DecidableEq, Inhabited

namespace Toggles

/-- Whether statements of a kind are written. -/
def allows (t : Toggles) : StatementKind → Bool
  | .schema => t.schema
  | .drop => t.drop
  | .create => t.create
  | .primaryKey => t.primaryKey
  | .foreignKey => t.foreignKey
  | .index => t.index
  | .keyGenerator => t.keyGenerator

/-- Stops statements of a kind from being written. -/
def disable (t : Toggles) : StatementKind → Toggles
  | .schema => { t with schema := false }
  | .drop => { t with drop := false }
  | .create => { t with create := false }
  | .primaryKey => { t with primaryKey := false }
  | .foreignKey => { t with foreignKey := false }
  | .index => { t with index := false }
  | .keyGenerator => { t with keyGenerator := false }

end Toggles

/-- Parameters of types that a mapping leaves out. -/
structure TypeDefaults where
  charLength : Int := 1
  varcharLength : Int := 255
  binaryLength : Int := 255
  numericPrecision : Int := 10
  numericDecimals : Int := 0
  floatPrecision : Int := 53
  deriving Repr, DecidableEq, Inhabited

/-- Actions of foreign keys; an empty text writes none. -/
structure ReferentialActions where
  onDelete : String := ""
  onUpdate : String := ""
  deriving Repr, DecidableEq, Inhabited

/-- The settings of a run. The grouping is kept as text, since it is checked only when a script is
written. -/
structure Settings where
  dialect : String := "generic"
  groupBy : String := "table"
  delimiter : String := ";"
  schemaName : String := ""
  engine : String := ""
  toggles : Toggles := {}
  types : TypeDefaults := {}
  foreignKeys : ReferentialActions := {}
  deriving Repr, DecidableEq, Inhabited

end MappingDdl
