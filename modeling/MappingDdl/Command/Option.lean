import MappingDdl.Settings
import MappingDdl.Text.Literal

/-!
# Options of the command line

The options, the names they go by, and what a command line asks for.
-/

namespace MappingDdl

/-- An option. -/
inductive CommandOption
  | help
  | dialect
  | groupBy
  | output
  | schemaName
  | delimiter
  | engine
  /-- Leaves out the statements of one kind. -/
  | without (k : StatementKind)
  | verbose
  | jsonLogs
  | version
  deriving Repr, DecidableEq, Inhabited

namespace CommandOption

/-- All names of options. Where a beginning of a name stands for several options, they are listed in
this order. -/
def names : List (String × CommandOption) :=
  [("-h", help), ("--help", help), ("--dialect", dialect), ("-d", dialect), ("--group-by", groupBy),
    ("--output", output), ("-o", output), ("--schema-name", schemaName),
    ("--delimiter", delimiter), ("--engine", engine), ("--no-schema", without .schema),
    ("--no-drop", without .drop), ("--no-create", without .create),
    ("--no-primary-key", without .primaryKey), ("--no-foreign-key", without .foreignKey),
    ("--no-index", without .index), ("--no-key-generator", without .keyGenerator),
    ("--verbose", verbose), ("-v", verbose), ("--json-logs", jsonLogs), ("--version", version)]

/-- The option of a name. -/
def ofName? (name : String) : Option CommandOption :=
  names.lookup name

/-- An option as messages call it: by all its names. -/
def title (o : CommandOption) : String :=
  "/".intercalate ((names.filter (·.2 == o)).map (·.1))

/-- Whether the option is followed by a value. -/
def takesValue : CommandOption → Bool
  | dialect | groupBy | output | schemaName | delimiter | engine => true
  | _ => false

end CommandOption

/-- The value of an option. -/
inductive OptionValue
  | text (s : String)
  /-- No value at all, which is what a lone `--` after the equals sign leaves. -/
  | nothing
  deriving Repr, DecidableEq, Inhabited

namespace OptionValue

/-- The value written after an equals sign or the letter of the option. -/
def ofAttached (s : String) : OptionValue :=
  if s = "--" then nothing else text s

/-- The value where an empty one does not count. -/
def given? : OptionValue → Option String
  | text s => if s = "" then none else some s
  | nothing => none

/-- The value as a name, which may be empty. -/
def name : OptionValue → String
  | text s => s
  | nothing => ""

/-- The value as it stands in a script: no value shows as an empty list. -/
def shown : OptionValue → String
  | text s => s
  | nothing => "[]"

end OptionValue

/-- What a command line asks for. -/
structure CommandRequest where
  mapping : String := ""
  dialect : Option OptionValue := none
  groupBy : Option OptionValue := none
  output : Option OptionValue := none
  schemaName : Option OptionValue := none
  delimiter : Option OptionValue := none
  engine : Option OptionValue := none
  disabled : List StatementKind := []
  verbose : Bool := false
  jsonLogs : Bool := false
  deriving Repr, DecidableEq, Inhabited

/-- Why a command line is not followed. -/
inductive CommandStop
  | showHelp
  | showVersion
  | ambiguous (word : String) (names : List String)
  | missingValue (o : CommandOption)
  | unexpectedValue (o : CommandOption) (value : String)
  | missingMapping
  | unrecognized (words : List String)
  deriving Repr, DecidableEq, Inhabited

/-- The wording of what is wrong with a command line, if something is. -/
def CommandStop.message? : CommandStop → Option String
  | showHelp | showVersion => none
  | ambiguous word names =>
    some (s!"ambiguous option: {word} could match " ++ ", ".intercalate names)
  | missingValue o => some ("argument " ++ o.title ++ ": expected one argument")
  | unexpectedValue o value =>
    some ("argument " ++ o.title ++ ": ignored explicit argument " ++ Text.Literal.quote value)
  | missingMapping => some "the following arguments are required: mapping"
  | unrecognized words => some ("unrecognized arguments: " ++ " ".intercalate words)

namespace CommandRequest

/-- The request with one more option. The last value of an option counts. -/
def set (r : CommandRequest) (o : CommandOption) (v : OptionValue) :
    Except CommandStop CommandRequest :=
  match o with
  | .help => .error .showHelp
  | .version => .error .showVersion
  | .dialect => .ok { r with dialect := some v }
  | .groupBy => .ok { r with groupBy := some v }
  | .output => .ok { r with output := some v }
  | .schemaName => .ok { r with schemaName := some v }
  | .delimiter => .ok { r with delimiter := some v }
  | .engine => .ok { r with engine := some v }
  | .without k => .ok { r with disabled := k :: r.disabled }
  | .verbose => .ok { r with verbose := true }
  | .jsonLogs => .ok { r with jsonLogs := true }

/-- The file to write, if one is named. -/
def outputPath? (r : CommandRequest) : Option String :=
  r.output.bind (·.given?)

/-- The settings that a request makes of given ones. -/
def applyTo (r : CommandRequest) (s : Settings) : Settings where
  dialect := (r.dialect.bind (·.given?)).getD s.dialect
  groupBy := (r.groupBy.bind (·.given?)).getD s.groupBy
  delimiter := (r.delimiter.map (·.shown)).getD s.delimiter
  schemaName := (r.schemaName.map (·.name)).getD s.schemaName
  engine := (r.engine.map (·.name)).getD s.engine
  toggles := r.disabled.foldl Toggles.disable s.toggles
  types := s.types
  foreignKeys := s.foreignKeys

end CommandRequest

end MappingDdl
