import MappingDdl.Calendar

/-!
# YAML tags — what kind of value a node stands for

A node with a tag has the kind that the tag names. A plain scalar without one has the kind that its
text shows: `Tag.ofPlain` tells numbers, truth values, dates and nulls from texts.
-/

namespace MappingDdl.Yaml

/-- The kinds of value a tag can name. -/
inductive Tag
  | null
  | bool
  | int
  | float
  | binary
  | timestamp
  | orderedMap
  | pairs
  | set
  | str
  | seq
  | map
  /-- The key whose value is merged into the mapping around it. -/
  | merge
  /-- The key whose value stands for the mapping where a scalar is asked for. -/
  | default
  /-- A tag without a meaning. -/
  | other
  deriving Repr, DecidableEq, Inhabited

namespace Tag

/-- What the names of the common tags start with. -/
def stem : String := "tag:yaml.org,2002:"

/-- The common tags by name. -/
def names : List (String × Tag) :=
  [("null", null), ("bool", bool), ("int", int), ("float", float), ("binary", binary),
    ("timestamp", timestamp), ("omap", orderedMap), ("pairs", pairs), ("set", set), ("str", str),
    ("seq", seq), ("map", map), ("merge", merge), ("value", default)]

/-- The tag of a name. -/
def ofName (name : String) : Tag :=
  ((names.find? fun e => stem ++ e.1 == name).map (·.2)).getD other

/-- Whether the tag stands for a collection, which cannot be a key. -/
def isCollection (t : Tag) : Bool :=
  t == seq || t == map || t == set || t == orderedMap || t == pairs

/-! ## Plain texts -/

/-- The words for truth values. -/
def boolWords : List String :=
  ["yes", "Yes", "YES", "no", "No", "NO", "true", "True", "TRUE", "false", "False", "FALSE",
    "on", "On", "ON", "off", "Off", "OFF"]

/-- The words for null. -/
def nullWords : List String :=
  ["~", "null", "Null", "NULL", ""]

/-- A digit, or an underscore between digits. -/
def isDigitChar (c : Char) : Bool :=
  c.isDigit || c == '_'

/-- A text without its sign. -/
def unsigned : List Char → List Char
  | '-' :: cs => cs
  | '+' :: cs => cs
  | cs => cs

/-- A digit from one to nine and further digits. -/
def isDecimal : List Char → Bool
  | [] => false
  | c :: cs => '1' ≤ c && c ≤ '9' && cs.all isDigitChar

/-- A digit and further digits. -/
def isNumeral : List Char → Bool
  | [] => false
  | c :: cs => c.isDigit && cs.all isDigitChar

/-- A number below sixty in one or two digits. -/
def isSixtieth : List Char → Bool
  | [d] => d.isDigit
  | [t, d] => '0' ≤ t && t ≤ '5' && d.isDigit
  | _ => false

/-- The parts of a text between separators. -/
def splitOn (separator : Char) : List Char → List (List Char)
  | [] => [[]]
  | c :: cs =>
    match splitOn separator cs with
    | [] => [[c]]
    | part :: parts => if c == separator then [] :: part :: parts else (c :: part) :: parts

/-- Numbers between colons, the first of a given form and all others below sixty. -/
def isSexagesimal (isFirst : List Char → Bool) (cs : List Char) : Bool :=
  match splitOn ':' cs with
  | first :: part :: parts => isFirst first && (part :: parts).all isSixtieth
  | _ => false

/-- A whole number: binary, octal, decimal, hexadecimal or in base sixty. -/
def isInt (cs : List Char) : Bool :=
  match unsigned cs with
  | '0' :: 'b' :: ds => !ds.isEmpty && ds.all fun c => c == '0' || c == '1' || c == '_'
  | '0' :: 'x' :: ds => !ds.isEmpty && ds.all fun c =>
      isDigitChar c || ('a' ≤ c && c ≤ 'f') || ('A' ≤ c && c ≤ 'F')
  -- a lone zero is an octal number without further digits
  | '0' :: ds => ds.all fun c => ('0' ≤ c && c ≤ '7') || c == '_'
  | ds => isDecimal ds || isSexagesimal isDecimal ds

/-- An exponent with its sign, or nothing. -/
def isExponent : List Char → Bool
  | [] => true
  | e :: s :: ds =>
    (e == 'e' || e == 'E') && (s == '-' || s == '+') && !ds.isEmpty && ds.all Char.isDigit
  | _ => false

/-- Further digits and an exponent. -/
def isFractionTail (cs : List Char) : Bool :=
  isExponent (cs.dropWhile isDigitChar)

/-- A number with a point: decimal, in base sixty, or one of the words for what is not finite. -/
def isFloat (cs : List Char) : Bool :=
  let body := unsigned cs
  let whole := body.takeWhile (· != '.')
  match body.dropWhile (· != '.') with
  | _ :: rest =>
    -- without digits in front of the point there is no sign, but for infinity
    if whole.isEmpty then
      (body == cs && rest.head?.any Char.isDigit && isFractionTail rest) ||
        ["inf", "Inf", "INF"].contains (String.ofList rest) ||
        (body == cs && ["nan", "NaN", "NAN"].contains (String.ofList rest))
    else (isNumeral whole && isFractionTail rest) ||
      (isSexagesimal isNumeral whole && rest.all isDigitChar)
  | [] => false

/-! ## Dates -/

/-- What the text of a date or point in time gives, number by number. -/
structure TimestampText where
  year : List Char
  month : List Char
  day : List Char
  /-- Hour, minute, second and the digits after the point. -/
  clock : Option (List Char × List Char × List Char × List Char) := none
  /-- The offset: hours and minutes, and whether it is to the west. -/
  offset : Option (Bool × List Char × List Char) := none
  deriving Repr, DecidableEq

/-- Reads at least `least` and at most `most` digits. -/
def digits? (least most : Nat) (cs : List Char) : Option (List Char × List Char) :=
  let ds := (cs.take most).takeWhile Char.isDigit
  if least ≤ ds.length then some (ds, cs.drop ds.length) else none

/-- Reads one given character. -/
def char? (c : Char) : List Char → Option (List Char)
  | [] => none
  | x :: cs => if x == c then some cs else none

/-- The end of the text, before which one line break may stand. -/
def isEnd (cs : List Char) : Bool :=
  cs == [] || cs == ['\n']

/-- Reads the offset at the end of a point in time: nothing, `Z`, or hours and minutes. -/
def offset? (cs : List Char) : Option (Option (Bool × List Char × List Char)) :=
  if isEnd cs then some none
  else match cs.dropWhile fun c => c == ' ' || c == '\t' with
  | 'Z' :: rest => if isEnd rest then some (some (false, [], [])) else none
  | sign :: rest => do
    if sign != '-' && sign != '+' then none
    let (hours, rest) ← digits? 1 2 rest
    if isEnd rest then return some (sign == '-', hours, [])
    let (minutes, rest) ← digits? 2 2 (← char? ':' rest)
    if isEnd rest then return some (sign == '-', hours, minutes) else none
  | [] => none

/-- Reads a date, or a point in time. -/
def timestampText? (cs : List Char) : Option TimestampText := do
  let (year, rest) ← digits? 4 4 cs
  let (month, rest) ← digits? 1 2 (← char? '-' rest)
  let (day, rest) ← digits? 1 2 (← char? '-' rest)
  if isEnd rest then return { year, month, day }
  let rest ← match rest with
    | 'T' :: rest => some rest
    | 't' :: rest => some rest
    | c :: rest => if c == ' ' || c == '\t' then
        some (rest.dropWhile fun c => c == ' ' || c == '\t') else none
    | [] => none
  let (hour, rest) ← digits? 1 2 rest
  let (minute, rest) ← digits? 2 2 (← char? ':' rest)
  let (second, rest) ← digits? 2 2 (← char? ':' rest)
  let (fraction, rest) := match rest with
    | '.' :: rest => (rest.takeWhile Char.isDigit, rest.dropWhile Char.isDigit)
    | rest => ([], rest)
  let offset ← offset? rest
  return { year, month, day, clock := some (hour, minute, second, fraction), offset }

/-- A date with all its digits, or a point in time, and nothing after it. -/
def isTimestamp (cs : List Char) : Bool :=
  match timestampText? cs with
  | some t =>
    cs.getLast? != some '\n' && (t.clock.isSome || (t.month.length == 2 && t.day.length == 2))
  | none => false

/-- The kind of value that a plain text shows. A line break at its end does not count. -/
def ofPlain (text : String) : Tag :=
  let cs := text.toList
  let cs := if cs.length > 1 && cs.getLast? == some '\n' then cs.dropLast else cs
  let s := String.ofList cs
  if boolWords.contains s then bool
  else if isFloat cs then float
  else if isInt cs then int
  else if s == "<<" then merge
  else if nullWords.contains s then null
  else if isTimestamp cs then timestamp
  else if s == "=" then default
  else str

end Tag

end MappingDdl.Yaml
