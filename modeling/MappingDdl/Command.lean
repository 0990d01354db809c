import MappingDdl.Command.Arguments
import MappingDdl.Generation
import MappingDdl.Log.Format
import MappingDdl.Mapping.Source
import MappingDdl.Settings.Environment

/-!
# The command — from a command line to a script

A run takes what the command line and the environment ask for, and the content of the mapping file,
and gives the log, the script and the ending. A script is printed, or written to a file if one is
named. Reading and writing themselves are done by the caller: the run is told how each of them
goes.

Main statement: `output_eq_empty_of_path`, nothing is printed where a file is named.
-/

namespace MappingDdl

/-- Why a run has no script. -/
inductive CommandError
  /-- A log level that cannot be set. -/
  | threshold (f : Fault)
  /-- A setting of the environment that cannot be read. -/
  | settings (f : Fault)
  | load (e : LoadError)
  | dialect (e : DialectError)
  | generation (e : GenerationError)
  deriving Repr, DecidableEq, Inhabited

namespace CommandError

/-- The label of an error in the log. Errors without one are not reported by the command. -/
def label? : CommandError → Option String
  | threshold _ | settings _ => none
  | load (.conversion _) => none
  | load _ => some "MappingLoadError"
  | dialect (.unknown _ _) => some "DialectNotFoundError"
  | dialect (.duplicate _) => some "DuplicateDialectError"
  | generation (.unsupportedGrouping _) => some "ConfigurationError"
  | generation (.rendering _) => none
  | generation (.schema e) =>
    match e.kind with
    | .type _ _ _ => some "TypeNotFoundError"
    | .structure _ => some "StructuralMappingError"
    | .validation _ | .conversion _ => none

/-- The wording of an error. -/
def message : CommandError → String
  | threshold _ | settings _ => ""
  | load e => e.message
  | dialect e => e.message
  | generation e => e.message

end CommandError

/-- How a run went. -/
structure CommandReport where
  /-- The records that are shown. -/
  records : List LogRecord := []
  style : LogStyle := .human
  /-- The line that says what went wrong. -/
  errorLine : Option String := none
  /-- What is printed. -/
  output : String := ""
  /-- The file that is written, by path and content. -/
  file : Option (String × String) := none
  /-- The exit code, or an error that the command does not report. -/
  ending : Except CommandError Nat := .ok 0
  deriving Inhabited

namespace CommandRequest

/-- The logger of the command. -/
def logger : Logger := ⟨"main", true⟩

/-- The severity from which records are shown. -/
def threshold (r : CommandRequest) (env : Environment) : Except Fault Int :=
  thresholdOfName (if r.verbose then "DEBUG" else env.text "LOG_LEVEL" "WARNING")

/-- The way records are shown. -/
def style (r : CommandRequest) (env : Environment) : LogStyle :=
  .choose r.jsonLogs (env.lookup "LOG_FORMAT")

/-- The path of the mapping file. -/
def path (r : CommandRequest) : Path :=
  .ofText r.mapping

/-- The context of all work on the mapping. -/
def context (r : CommandRequest) : LogContext :=
  { mapping := some r.mapping }

/-- The text of the script that is asked for, given the content of the mapping file: what comes to
the end of the output, or what is to be written to the file that is named. -/
def script (r : CommandRequest) (s : Settings) (content : Except FileErrorKind (List UInt8)) :
    Traced CommandError String :=
  Traced.inContext r.context do
    let d ← Traced.ofExcept ((Document.ofFile (r.path.text "") content).mapError .load)
    Traced.note .info sourceLogger (d.loadedMessage r.path.name)
    let g ← Traced.ofExcept ((Generator.ofName .builtin none s).mapError .dialect)
    match r.outputPath? with
    | none =>
      let copied := g.copyTo d ""
      let _ ← copied.2.mapError .generation
      return copied.1
    | some _ =>
      let sc ← (g.generate d).mapError .generation
      return sc.text

/-- The report of an error. -/
def failed (style : LogStyle) (log : List LogRecord) (e : CommandError) : CommandReport :=
  match e.label? with
  | none => { records := log, style, ending := .error e }
  | some label =>
    { records := log ++ [{ level := .error, logger, message := s!"{label}: {e.message}" }], style
      errorLine := some ("error: " ++ e.message), ending := .ok 1 }

/-- The report of a script that was made; `write` says how writing a file goes. -/
def finished (r : CommandRequest) (style : LogStyle) (log : List LogRecord) (text : String)
    (write : String → String → Except FileErrorKind Unit) : CommandReport :=
  match r.outputPath? with
  | none => { records := log, style, output := text }
  | some path =>
    match write path text with
    | .ok _ =>
      let record : LogRecord :=
        { level := .info, logger, message := s!"Wrote DDL to {path}", context := r.context }
      { records := log ++ [record], style, file := some (path, text) }
    | .error k =>
      let record : LogRecord :=
        { level := .error, logger, message := s!"Cannot write {path}: " ++ k.message path }
      { records := log ++ [record], style, ending := .ok 1
        errorLine := some (s!"error: cannot write {path}: " ++ k.message path) }

/-- A report in which only records of some severity are shown. -/
def shownFrom (threshold : Int) (c : CommandReport) : CommandReport :=
  { c with records := c.records.filter (·.isShown threshold) }

/-- A run, given the content of the mapping file; `write` says how writing a file goes. -/
def run (r : CommandRequest) (env : Environment) (content : Except FileErrorKind (List UInt8))
    (write : String → String → Except FileErrorKind Unit) : CommandReport :=
  let style := r.style env
  -- the level comes first: if it cannot be set, nothing is logged or read
  match r.threshold env with
  | .error f => { style, ending := .error (.threshold f) }
  | .ok threshold =>
    match Settings.ofEnvironment env with
    | .error f => { style, ending := .error (.settings f) }
    | .ok s =>
      let t := r.script (r.applyTo s) content
      shownFrom threshold <| match t.outcome with
        | .error e => failed style t.log e
        | .ok text => r.finished style t.log text write

theorem output_eq_empty_of_path {r : CommandRequest} {env : Environment}
    {content : Except FileErrorKind (List UInt8)}
    {write : String → String → Except FileErrorKind Unit} {path : String}
    (h : r.outputPath? = some path) : (r.run env content write).output = "" := by
  unfold run
  split
  · rfl
  · split
    · rfl
    · simp only [shownFrom]
      split
      · unfold failed
        split <;> rfl
      · unfold finished
        rw [h]
        simp only
        split <;> rfl

end CommandRequest

namespace Command

/-- The name of the program. -/
def program : String := "ddlgen"

/-- What the program says about itself. -/
def helpText : String :=
  let options := CommandOption.names.map (·.1)
  s!"usage: {program} [options] mapping\n\n" ++
    "Generate a DDL creation script from an object-to-table mapping\n\noptions: " ++
    ", ".intercalate options ++ "\n"

/-- The report of a command line that is not followed. -/
def stopped (s : CommandStop) : CommandReport :=
  match s with
  | .showHelp => { output := helpText }
  | .showVersion => { output := s!"{program} {version}\n" }
  | s =>
    { errorLine := s.message?.map fun m => s!"{program}: error: {m}"
      ending := .ok 2 }

/-- A run of the program; `read` and `write` say how reading the mapping file and writing a file
go. -/
def execute (arguments : List String) (env : Environment)
    (read : Path → Except FileErrorKind (List UInt8))
    (write : String → String → Except FileErrorKind Unit) : CommandReport :=
  match parse arguments with
  | .error s => stopped s
  | .ok r => r.run env (read r.path) write

end Command

end MappingDdl
