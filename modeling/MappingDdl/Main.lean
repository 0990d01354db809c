import MappingDdl.Command
import Std.Time.DateTime.Timestamp

/-!
# The program

Reads the mapping file, runs the command and writes what its report says. All decisions are the
report's.
-/

namespace MappingDdl

/-- The variables of the environment that the program reads. -/
def variableNames : List String :=
  ["DDLGEN_DIALECT", "DDLGEN_GROUP_BY", "DDLGEN_DELIMITER", "DDLGEN_SCHEMA_NAME",
    "DDLGEN_MYSQL_ENGINE", "DDLGEN_GENERATE_SCHEMA", "DDLGEN_GENERATE_DROP",
    "DDLGEN_GENERATE_CREATE", "DDLGEN_GENERATE_PRIMARY_KEY", "DDLGEN_GENERATE_FOREIGN_KEY",
    "DDLGEN_GENERATE_INDEX", "DDLGEN_GENERATE_KEY_GENERATOR", "DDLGEN_CHAR_LENGTH",
    "DDLGEN_VARCHAR_LENGTH", "DDLGEN_BINARY_LENGTH", "DDLGEN_NUMERIC_PRECISION",
    "DDLGEN_NUMERIC_DECIMALS", "DDLGEN_FLOAT_PRECISION", "DDLGEN_FK_ON_DELETE",
    "DDLGEN_FK_ON_UPDATE", "LOG_LEVEL", "LOG_FORMAT"]

/-- The environment of the program. -/
def readEnvironment : IO Environment :=
  variableNames.filterMapM fun name => do
    return (← IO.getEnv name).map fun v => (name, v)

/-- The kind of a failure to read or write a file. -/
def FileErrorKind.ofError : IO.Error → FileErrorKind
  | .noFileOrDirectory _ _ _ => .notFound
  | .inappropriateType _ _ _ => .isDirectory
  | .permissionDenied _ _ _ => .notPermitted
  | .invalidArgument _ code _ => if code = 36 then .nameTooLong else .notDirectory
  | _ => .notPermitted

/-- An action on files, with the kind of its failure. -/
def attempt {α : Type} (action : IO α) : IO (Except FileErrorKind α) := do
  try return .ok (← action)
  catch e => return .error (.ofError e)

/-- The time of day, to the microsecond. -/
def now : IO Timestamp := do
  let t ← Std.Time.Timestamp.now
  return .ofEpoch (t.toNanosecondsSinceUnixEpoch.val.toNat / 1000)

/-- The text of the time in a line of a given style. -/
def timeText (style : LogStyle) (t : Timestamp) : String :=
  match style with
  | .human => { t with microsecond := 0, offset := none }.text " "
  | .json => t.text "T"

/-- The report of a run, with the content of the mapping file read and the script written. -/
def runCommand (arguments : List String) (env : Environment) : IO CommandReport := do
  let content ← match Command.parse arguments with
    | .error _ => pure (.ok [])
    | .ok r => attempt do
        return (← IO.FS.readBinFile (r.path.text "")).toList
  let report := Command.execute arguments env (fun _ => content) (fun _ _ => .ok ())
  match report.file with
  | none => return report
  | some (path, text) =>
    match ← attempt (IO.FS.writeFile path text) with
    | .ok _ => return report
    | .error k => return Command.execute arguments env (fun _ => content) (fun _ _ => .error k)

/-- Runs the program and writes its report. -/
def runProgram (arguments : List String) : IO UInt32 := do
  let report ← runCommand arguments (← readEnvironment)
  let time := timeText report.style (← now)
  for r in report.records do
    IO.eprintln (r.line.text report.style time)
  for line in report.errorLine do
    IO.eprintln line
  IO.print report.output
  match report.ending with
  | .ok code => return UInt32.ofNat code
  | .error _ => return 1

end MappingDdl

/-- The entry of the program. -/
def main (arguments : List String) : IO UInt32 :=
  MappingDdl.runProgram arguments
