import MappingDdl.KeyGenerator
import MappingDdl.Text.Formatting

/-!
# Sequences — the database object behind a sequence generator

A sequence generator serves several tables, with one sequence each: its name comes from a pattern
that is formatted with the table's name. The increment may be written in several ways and is read as
an integer. Both can fail, since parameters are not validated.
-/

namespace MappingDdl

namespace Value

/-- Reads a value as an integer: a number is cut off towards zero, and a text is a numeral. -/
def toInt : Value → Except Fault Int
  | bool b => .ok (if b then 1 else 0)
  | int i => .ok i
  | float f =>
    match Number.Binary.ofFloat f with
    | .nan => .error .malformed
    | .infinite _ => .error .outOfRange
    | .finite negative m e _ =>
      let n := Int.ofNat (Number.scaledNum m 2 e / Number.scaledDen 2 e)
      .ok (if negative then -n else n)
  | str s =>
    match Text.Integer.ofText? s with
    | some i => .ok i
    | none => .error .malformed
  | bytes bs =>
    if bs.all (· < 128) then
      match Text.Integer.ofText? (String.ofList (bs.map fun b => Char.ofNat b.toNat)) with
      | some i => .ok i
      | none => .error .malformed
    else .error .malformed
  | unpaired _ => .error .malformed
  | _ => .error .wrongKind

end Value

namespace KeyGenerator

/-- The pattern of sequence names used where none is given. -/
def defaultPattern : String :=
  "\x7b0\x7d_seq"

/-- The pattern of sequence names. What is given as one need not be a text. -/
def pattern (g : KeyGenerator) : Value :=
  match g.param? "sequence" with
  | some v => if v.isTruthy then v else .str defaultPattern
  | none => .str defaultPattern

/-- The name of the sequence for a table. -/
def sequenceName (g : KeyGenerator) (table : String) (format : Formatting := .standard) :
    Except Fault Formatted :=
  format.fill g.pattern table

/-- The increment of the sequence, if one is given. -/
def increment (g : KeyGenerator) : Except Fault (Option Int) :=
  match g.param? "increment" with
  | none | some .null => .ok none
  | some (.str s) => if s = "" then .ok none else (Value.toInt (.str s)).map some
  | some v => v.toInt.map some

end KeyGenerator

end MappingDdl
