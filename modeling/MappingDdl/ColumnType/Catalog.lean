import MappingDdl.ColumnType
import MappingDdl.ColumnType.Expression
import MappingDdl.Settings
import MappingDdl.Text.Order

/-!
# The type catalog of a dialect

A catalog maps lower-case names to column types. `get?` looks up a type expression: it depends only
on the base name and the parameters, and has no answer for a name that the catalog does not know.
-/

namespace MappingDdl

/-- A row of a dialect's type table. -/
structure TypeRow where
  name : String
  sqlType : String
  style : ParamStyle := .none
  deriving Repr, DecidableEq

/-- The column types of a dialect by name, and the parameters used where none are given. -/
structure TypeCatalog where
  defaults : TypeDefaults
  types : List (String × ColumnType)
  deriving Repr

namespace TypeCatalog

/-- Whether a name is about binary data. -/
def isBinaryName (name : String) : Bool :=
  (name.splitOn "binary").length != 1

/-- The length given to a type that takes one, where none is written. -/
def defaultLength (d : TypeDefaults) (name : String) : Int :=
  if name = "char" then d.charLength
  else if isBinaryName name then d.binaryLength
  else d.varcharLength

/-- A column type with the default parameters of its style. -/
def typeOf (d : TypeDefaults) (name sqlType : String) (style : ParamStyle) : ColumnType where
  name := name
  sqlType := sqlType
  style := style
  length := if style = .length then some (defaultLength d name) else none
  precision :=
    match style with
    | .precision => some d.floatPrecision
    | .precisionDecimals => some d.numericPrecision
    | _ => none
  decimals := if style = .precisionDecimals then some d.numericDecimals else none

/-- Sets the type of a name, replacing an earlier one. -/
def bind (c : TypeCatalog) (name : String) (t : ColumnType) : TypeCatalog :=
  { c with types := (name, t) :: c.types.filter (·.1 != name) }

/-- The type bound to a name. -/
def find? (c : TypeCatalog) (name : String) : Option ColumnType :=
  c.types.lookup name

/-- Adds or replaces a type under its lower-case name. -/
def add (c : TypeCatalog) (name sqlType : String) (style : ParamStyle) : TypeCatalog :=
  let key := Text.lower name
  c.bind key (typeOf c.defaults key sqlType style)

/-- Makes a second name for a type, if the type is known. -/
def addAlias (c : TypeCatalog) (name target : String) : TypeCatalog :=
  match c.find? target with
  | some t => c.bind name t
  | none => c

/-- The catalog of a type table and a table of second names. -/
def ofRows (d : TypeDefaults) (rows : List TypeRow) (aliases : List (String × String)) :
    TypeCatalog :=
  let c := rows.foldl (fun c r => c.add r.name r.sqlType r.style) ⟨d, []⟩
  aliases.foldl (fun c a => c.addAlias a.1 a.2) c

/-- The column type that a type expression names. -/
def get? (c : TypeCatalog) (s : String) : Except Fault (Option ColumnType) :=
  (TypeExpression.ofText s).map fun e =>
    e.bind fun e => (c.find? e.base).map (·.withParams e.params)

/-- Whether a text names a column type of the catalog. -/
def contains (c : TypeCatalog) (s : String) : Except Fault Bool :=
  (c.get? s).map (·.isSome)

/-- The names of the catalog in order. -/
def names (c : TypeCatalog) : List String :=
  Text.sorted (c.types.map (·.1))

end TypeCatalog

end MappingDdl
