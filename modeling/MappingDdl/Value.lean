import MappingDdl.Calendar
import MappingDdl.Number.Binary

/-!
# Values — the data of a mapping document before it is validated

A document is read into this type, and key generator parameters keep it. Mappings keep the order of
their entries. `sameKey` is the equality of mapping keys, under which a number is the same key in
all its spellings.
-/

namespace MappingDdl

/-- A value of a document. -/
inductive Value
  | null
  | bool (value : Bool)
  | int (value : Int)
  | float (value : Float)
  | str (value : String)
  /-- A text with halves of surrogate pairs in it, which is no text of characters. -/
  | unpaired (text : String)
  | bytes (value : List UInt8)
  | date (value : Date)
  | timestamp (value : Timestamp)
  | list (items : List Value)
  | set (items : List Value)
  /-- An entry of an ordered mapping, which is a list of its entries. -/
  | pair (key value : Value)
  | map (entries : List (Value × Value))
  deriving Inhabited

namespace Value

/-- The name of a value's kind, as messages give it. -/
def kindName : Value → String
  | null => "NoneType"
  | bool _ => "bool"
  | int _ => "int"
  | float _ => "float"
  | str _ | unpaired _ => "str"
  | bytes _ => "bytes"
  | date _ => "date"
  | timestamp _ => "datetime"
  | list _ => "list"
  | set _ => "set"
  | pair _ _ => "tuple"
  | map _ => "dict"

/-- Whether the value counts as given: not null, false, zero or empty. -/
def isTruthy : Value → Bool
  | null => false
  | bool b => b
  | int i => i != 0
  | float f => f != 0.0
  | str s => s != ""
  | bytes b => !b.isEmpty
  | unpaired _ | date _ | timestamp _ | pair _ _ => true
  | list xs | set xs => !xs.isEmpty
  | map es => !es.isEmpty

/-- The exact value of a number: its sign, and the value as a fraction. -/
def fraction? : Value → Option (Int × Nat)
  | bool b => some (if b then 1 else 0, 1)
  | int i => some (i, 1)
  | float f =>
    match Number.Binary.ofFloat f with
    | .finite negative m e _ =>
      let n := Int.ofNat (Number.scaledNum m 2 e)
      some (if negative then -n else n, Number.scaledDen 2 e)
    | _ => none
  | _ => none

/-- Whether two values are the same mapping key. -/
def sameKey : Value → Value → Bool
  | null, null => true
  | str s, str t => s == t
  | unpaired s, unpaired t => s == t
  | bytes s, bytes t => s == t
  | date s, date t => s == t
  | timestamp s, timestamp t => s.same t
  | v, w =>
    match v.fraction?, w.fraction? with
    | some (a, b), some (c, d) => a * d == c * b
    | none, none =>
      match v, w with
      | float f, float g => f == g
      | _, _ => false
    | _, _ => false

/-- Whether the value may be a key of a mapping or a member of a set. -/
def isKey : Value → Bool
  | list _ | set _ | pair _ _ | map _ => false
  | _ => true

/-- The entry of a mapping with a given text as key. -/
def lookup (entries : List (Value × Value)) (name : String) : Option Value :=
  (entries.find? fun e => e.1.sameKey (str name)).map (·.2)

/-- The entries with one key set: in its old place if it is there, else at the end. -/
def insert (entries : List (Value × Value)) (key value : Value) : List (Value × Value) :=
  if entries.any (·.1.sameKey key) then
    entries.map fun e => if e.1.sameKey key then (e.1, value) else e
  else entries ++ [(key, value)]

end Value

end MappingDdl
