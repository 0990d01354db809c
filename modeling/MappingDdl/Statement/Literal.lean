import MappingDdl.Fault
import MappingDdl.Number.Shortest
import MappingDdl.Text.Quoted
import MappingDdl.Value

/-!
# SQL literals

A negative number has a blank before its sign, so that it cannot join a sign in front of it. A zero
below zero is not negative here. A text with the NUL character has no literal, since the database
has no such text.

Main statement: `string_eq_ok_iff`, the texts without that character are the ones with a literal.
-/

namespace MappingDdl.SqlLiteral

/-- An integer. -/
def integer (i : Int) : String :=
  if i < 0 then " " ++ toString i else toString i

/-- A double; what is not finite is a string with its type. -/
def double (f : Float) : String :=
  match Number.Binary.ofFloat f with
  | .nan => "'NaN'::float8"
  | .infinite negative => if negative then "'-Infinity'::float8" else "'Infinity'::float8"
  | b => if f < 0 then " " ++ b.text else b.text

/-- A text. -/
def string (s : String) : Except Fault String :=
  if '\x00' ∈ s.toList then .error .forbidden else .ok (Text.Quoted.literal s)

theorem string_eq_ok_iff {s t : String} :
    string s = .ok t ↔ '\x00' ∉ s.toList ∧ t = Text.Quoted.literal s := by
  unfold string
  split <;> simp_all [eq_comm]

/-- The literal of a plain value. -/
def ofValue : Value → Except Fault String
  | .null => .ok "NULL"
  | .bool b => .ok (if b then "true" else "false")
  | .int i => .ok (integer i)
  | .float f => .ok (double f)
  | .str s => string s
  | _ => .error .wrongKind

end MappingDdl.SqlLiteral
