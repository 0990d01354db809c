import MappingDdl.Json
import MappingDdl.Log
import MappingDdl.Text.Case
import MappingDdl.Text.Given
import MappingDdl.Text.Percent

/-!
# Lines of a log

A record is shown either as a line for people, which names the class, table and dialect at hand, or
as one JSON object with all fields of the context.
-/

namespace MappingDdl

/-- A place in a program. -/
structure LogOrigin where
  file : String
  line : Nat
  function : String
  deriving Repr, DecidableEq, Inhabited

/-- What a line of a log shows. -/
structure LogLine where
  level : String
  logger : String
  message : String
  context : LogContext := {}
  /-- Data attached to the record itself. -/
  data : List (String × Value) := []
  origin : Option LogOrigin := none
  deriving Inhabited

/-- Which parts an object of a log has; its message and data it always has. -/
structure LogParts where
  timestamp : Bool := true
  level : Bool := true
  logger : Bool := true
  context : Bool := true
  deriving Repr, DecidableEq, Inhabited

/-- The ways to show a record. -/
inductive LogStyle
  | human
  | json
  deriving Repr, DecidableEq, Inhabited

namespace LogStyle

/-- The style that is asked for: JSON if it is demanded, or if the format variable names it. -/
def choose (demanded : Bool) (format : Option String) : LogStyle :=
  if demanded || Text.lower (format.getD "") == "json" then json else human

end LogStyle

namespace LogLine

/-- The message with its arguments filled in. Without arguments it stands as it is, and a single
mapping that is not empty gives its entries by name. -/
def fillMessage (message : String) (args : List Value) : Except Fault String :=
  match args with
  | [] => .ok message
  | [.map (e :: es)] => Text.Percent.fill message (.names (e :: es))
  | args => Text.Percent.fill message (.positions args)

/-- The level with blanks up to a width of eight. -/
def paddedLevel (level : String) : String :=
  level ++ String.ofList (List.replicate (8 - level.length) ' ')

/-- The class, table and dialect of a context, in square brackets. -/
def bracketed (c : LogContext) : String :=
  let named := [("class", c.className), ("table", c.table), ("dialect", c.dialect)]
  let parts := named.filterMap fun f => (given f.2).map fun v => f.1 ++ "=" ++ v
  if parts.isEmpty then "" else " [" ++ ", ".intercalate parts ++ "]"

/-- The line for people. -/
def human (time : String) (l : LogLine) : String :=
  s!"{time} " ++ paddedLevel l.level ++ " " ++ l.logger ++ bracketed l.context ++ ": " ++ l.message

/-- An entry of an object. -/
def entry (name : String) (v : Value) : Value × Value :=
  (.str name, v)

/-- Named values as an entry of an object, left out if there are none. -/
def group (name : String) (fields : List (String × Value)) : List (Value × Value) :=
  if fields.isEmpty then [] else [entry name (.map (fields.map fun f => entry f.1 f.2))]

/-- The entries of the object for a record. -/
def entries (parts : LogParts) (time : String) (l : LogLine) : List (Value × Value) :=
  (if parts.timestamp then [entry "timestamp" (.str time)] else []) ++
  (if parts.level then [entry "level" (.str l.level)] else []) ++
  (if parts.logger then [entry "logger" (.str l.logger)] else []) ++
  [entry "message" (.str l.message)] ++
  (if parts.context then group "context" l.context.fields else []) ++
  group "data" l.data ++
  match l.origin with
  | none => []
  | some o => group "source"
      [("file", .str o.file), ("line", .int o.line), ("function", .str o.function)]

/-- The JSON object for a record. -/
def json (parts : LogParts) (time : String) (l : LogLine) : String :=
  Json.text (.map (l.entries parts time))

/-- The line in a given style. -/
def text (style : LogStyle) (time : String) (l : LogLine) : String :=
  match style with
  | .human => l.human time
  | .json => l.json {} time

end LogLine

/-- The line of a record. -/
def LogRecord.line (r : LogRecord) : LogLine where
  level := r.level.text
  logger := r.logger.name
  message := r.message
  context := r.context
  data := r.data

/-! ## Thresholds -/

/-- The levels from which records can be shown, by name. -/
def thresholdNames : List (String × Int) :=
  [("DEBUG", 10), ("INFO", 20), ("WARNING", 30), ("WARN", 30), ("ERROR", 40), ("CRITICAL", 50),
    ("FATAL", 50), ("NOTSET", 0)]

/-- The severity from which records are shown, by the name of a level without regard to case. An
unknown name stands for `INFO`; two names are taken but name no level. -/
def thresholdOfName (name : String) : Except Fault Int :=
  let name := Text.upper name
  if name == "BASIC_FORMAT" then .error .malformed
  else if name == "_STYLES" then .error .wrongKind
  else .ok ((thresholdNames.lookup name).getD 20)

/-- Whether a record is shown. -/
def LogRecord.isShown (threshold : Int) (r : LogRecord) : Bool :=
  threshold ≤ Int.ofNat r.level.severity

namespace LogContext

/-- The context with one of its named fields set or taken away. Other names change nothing. -/
def set (c : LogContext) (name : String) (v : Option String) : LogContext :=
  match name with
  | "mapping" => { c with mapping := v }
  | "class_name" => { c with className := v }
  | "table" => { c with table := v }
  | "dialect" => { c with dialect := v }
  | "component" => { c with component := v }
  | "operation" => { c with operation := v }
  | _ => c

/-- The context with further fields set. -/
def addExtra (c : LogContext) (fields : List (String × Value)) : LogContext :=
  { c with extra := setFields c.extra fields }

end LogContext

end MappingDdl
