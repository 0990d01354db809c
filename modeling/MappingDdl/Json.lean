import MappingDdl.Value.Display

/-!
# JSON text of values

One line of JSON, with a blank after commas and colons and every character outside ASCII escaped by
its UTF-16 units. Values that JSON does not know are written as texts.
-/

namespace MappingDdl.Json

/-- The escape of one UTF-16 unit. -/
def unitEscape (n : Nat) : List Char :=
  '\\' :: 'u' :: Text.Literal.hex 4 n

/-- One character inside a JSON string. -/
def escapeChar (c : Char) : List Char :=
  let n := c.toNat
  if c = '"' ∨ c = '\\' then ['\\', c]
  else if c = '\n' then ['\\', 'n']
  else if c = '\r' then ['\\', 'r']
  else if c = '\t' then ['\\', 't']
  else if n = 8 then ['\\', 'b']
  else if n = 12 then ['\\', 'f']
  else if 32 ≤ n ∧ n < 127 then [c]
  else if n < 0x10000 then unitEscape n
  else unitEscape (0xd800 + (n - 0x10000) / 0x400) ++ unitEscape (0xdc00 + (n - 0x10000) % 0x400)

/-- A JSON string. -/
def quote (s : String) : String :=
  String.ofList ('"' :: s.toList.flatMap escapeChar ++ ['"'])

/-- A JSON number for a double; what is not finite has a word of its own. -/
def number (f : Float) : String :=
  match Number.Binary.ofFloat f with
  | .nan => "NaN"
  | .infinite negative => if negative then "-Infinity" else "Infinity"
  | b => b.text

/-- The text of a mapping key. -/
def key : Value → String
  | .str s => s
  | .null => "null"
  | .bool b => if b then "true" else "false"
  | .float f => number f
  | v => v.display

mutual

/-- The JSON text of a value. -/
def text : Value → String
  | .null => "null"
  | .bool b => if b then "true" else "false"
  | .int i => toString i
  | .float f => number f
  | .str s => quote s
  | .list vs => "[" ++ items vs ++ "]"
  | .pair k v => "[" ++ text k ++ ", " ++ text v ++ "]"
  | .map es => "\x7b" ++ entries es ++ "\x7d"
  | v => quote v.display

/-- The JSON texts of values, with commas between them. -/
def items : List Value → String
  | [] => ""
  | [v] => text v
  | v :: rest => text v ++ ", " ++ items rest

/-- The JSON texts of mapping entries, with commas between them. -/
def entries : List (Value × Value) → String
  | [] => ""
  | [(k, v)] => quote (key k) ++ ": " ++ text v
  | (k, v) :: rest => quote (key k) ++ ": " ++ text v ++ ", " ++ entries rest

end

end MappingDdl.Json
