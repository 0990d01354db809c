import MappingDdl.Fault
import MappingDdl.Number.Shortest
import MappingDdl.Text.Integer
import MappingDdl.Text.Literal
import MappingDdl.Value

/-!
# The text of a value inside messages and names

`display` is how a value reads inside a text: a string stands for itself. `literal` is how it reads
inside another value: a string stands between quotes. A value with an integer in it that has too
many digits has neither of them (`written`), however deep the integer is inside.
-/

namespace MappingDdl.Value

/-- A byte between quotes. -/
def byteChars (quote : Char) (b : UInt8) : List Char :=
  let n := b.toNat
  if 32 ≤ n && n < 127 || n == 9 || n == 10 || n == 13 then
    Text.Literal.escapeChar true quote (Char.ofNat n)
  else '\\' :: 'x' :: Text.Literal.hex 2 n

/-- Bytes between quotes, marked by a leading `b`. -/
def bytesLiteral (bs : List UInt8) : String :=
  let q := Text.Literal.quoteFor (bs.map fun b => Char.ofNat b.toNat)
  String.ofList ('b' :: q :: bs.flatMap (byteChars q) ++ [q])

/-- The arguments that make a day, for its literal. -/
def dateArguments (d : Date) : String :=
  s!"{d.year}, {d.month}, {d.day}"

/-- The literal of an offset, given by days and seconds. -/
def offsetLiteral (offset : Int) : String :=
  if offset = 0 then "datetime.timezone.utc"
  else
    let days := offset.fdiv 86400
    let seconds := offset - days * 86400
    let part := if days = 0 then "" else s!"days={days}, "
    s!"datetime.timezone(datetime.timedelta({part}seconds={seconds}))"

/-- The literal of a point in time; seconds and microseconds are left out where they are zero. -/
def timestampLiteral (t : Timestamp) : String :=
  let second := if t.second = 0 ∧ t.microsecond = 0 then "" else s!", {t.second}"
  let micro := if t.microsecond = 0 then "" else s!", {t.microsecond}"
  let offset := (t.offset.map fun o => ", tzinfo=" ++ offsetLiteral o).getD ""
  s!"datetime.datetime({dateArguments t.date}, {t.hour}, {t.minute}{second}{micro}{offset})"

mutual

/-- The text of a value inside another value; `asciiOnly` escapes all other characters. -/
def literal (asciiOnly : Bool) : Value → String
  | null => "None"
  | bool b => if b then "True" else "False"
  | int i => toString i
  | float f => Number.floatText f
  | str s | unpaired s => String.ofList (Text.Literal.quoteChars asciiOnly s.toList)
  | bytes bs => bytesLiteral bs
  | date d => "datetime.date(" ++ dateArguments d ++ ")"
  | timestamp t => timestampLiteral t
  | list xs => "[" ++ literals asciiOnly xs ++ "]"
  | set xs => if xs.isEmpty then "set()" else "\x7b" ++ literals asciiOnly xs ++ "\x7d"
  | pair k v => "(" ++ literal asciiOnly k ++ ", " ++ literal asciiOnly v ++ ")"
  | map es => "\x7b" ++ entryLiterals asciiOnly es ++ "\x7d"

/-- The literals of a list of values, with commas between them. -/
def literals (asciiOnly : Bool) : List Value → String
  | [] => ""
  | [v] => literal asciiOnly v
  | v :: rest => literal asciiOnly v ++ ", " ++ literals asciiOnly rest

/-- The literals of mapping entries, with commas between them. -/
def entryLiterals (asciiOnly : Bool) : List (Value × Value) → String
  | [] => ""
  | [(k, v)] => literal asciiOnly k ++ ": " ++ literal asciiOnly v
  | (k, v) :: rest =>
    literal asciiOnly k ++ ": " ++ literal asciiOnly v ++ ", " ++ entryLiterals asciiOnly rest

end

/-- The text of a value inside a text. -/
def display : Value → String
  | str s | unpaired s => s
  | date d => d.text
  | timestamp t => t.text " "
  | v => literal false v

mutual

/-- Whether every integer in a value has few enough digits to be written out. -/
def isWritable : Value → Bool
  | int i => Text.Integer.isWritable i
  | list xs | set xs => areWritable xs
  | pair k v => isWritable k && isWritable v
  | map es => entriesAreWritable es
  | _ => true

/-- Whether all values of a list can be written out. -/
def areWritable : List Value → Bool
  | [] => true
  | v :: rest => isWritable v && areWritable rest

/-- Whether the keys and values of mapping entries can be written out. -/
def entriesAreWritable : List (Value × Value) → Bool
  | [] => true
  | (k, v) :: rest => isWritable k && isWritable v && entriesAreWritable rest

end

/-- The text that `text` gives for a value, if the value can be written out. -/
def written (text : Value → String) (v : Value) : Except Fault String :=
  if v.isWritable then .ok (text v) else .error .malformed

end MappingDdl.Value
