/-!
# Column types

A column type is a dialect's SQL type under the abstract name it was asked for, with the parameters
that its style takes. `withParams` replaces parameters and `ddl` writes the type.
-/

namespace MappingDdl

/-- How a column type takes parameters. -/
inductive ParamStyle
  | none
  | length
  | precision
  | precisionDecimals
  deriving Repr, DecidableEq, Inhabited

namespace ParamStyle

/-- The name of a style. -/
def text : ParamStyle → String
  | none => "none"
  | length => "length"
  | precision => "precision"
  | precisionDecimals => "precision_decimals"

/-- The style with a given name. -/
def ofText? (s : String) : Option ParamStyle :=
  [none, length, precision, precisionDecimals].find? (·.text == s)

@[simp] theorem ofText?_text (s : ParamStyle) : ofText? s.text = some s := by
  cases s <;> rfl

end ParamStyle

/-- A column type of a dialect. -/
structure ColumnType where
  /-- The abstract name. -/
  name : String
  sqlType : String
  style : ParamStyle
  length : Option Int
  precision : Option Int
  decimals : Option Int
  deriving Repr, DecidableEq, Inhabited

namespace ColumnType

/-- The type with explicit parameters; those that the style does not take are left out, and a
missing number of decimals keeps its default. -/
def withParams (t : ColumnType) : List Int → ColumnType
  | [] => t
  | p :: rest =>
    match t.style with
    | .none => t
    | .length => { t with length := some p }
    | .precision => { t with precision := some p }
    | .precisionDecimals =>
      { t with precision := some p, decimals := rest.head?.or t.decimals }

/-- The type as written in a column definition. -/
def ddl (t : ColumnType) : String :=
  match t.style, t.length, t.precision with
  | .length, some n, _ => s!"{t.sqlType}({n})"
  | .precision, _, some p => s!"{t.sqlType}({p})"
  | .precisionDecimals, _, some p => s!"{t.sqlType}({p},{t.decimals.getD 0})"
  | _, _, _ => t.sqlType

/-- The type without its abstract name: what decides whether two columns hold the same values. -/
def anonymous (t : ColumnType) : ColumnType :=
  { t with name := "" }

end ColumnType

end MappingDdl
