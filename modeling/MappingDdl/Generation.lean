import MappingDdl.Dialect.Registry
import MappingDdl.Schema.Build
import MappingDdl.Script
import MappingDdl.Statement.Plan
import MappingDdl.Statement.Render

/-!
# Generation — from a mapping document to a script

`emit` writes the plan of a schema into a script. A `Generator` is set up for one dialect and turns
documents into scripts one after the other; the only thing it carries from one to the next are the
registered key generators, which every run starts anew.

Main statement: `copyTo_eq`, the two ways to generate agree. A failed run adds nothing to a sink
(`copyTo_of_error`), and a run that succeeds adds its script (`copyTo_of_ok`).
-/

namespace MappingDdl

/-- Why a document has no script. -/
inductive GenerationError
  | unsupportedGrouping (value : String)
  | schema (e : SchemaError)
  /-- A statement that cannot be written. -/
  | rendering (f : Fault)
  deriving Repr, DecidableEq, Inhabited

/-- The wording of an unsupported grouping. -/
def groupingMessage (value : String) : String :=
  let valid := ", ".intercalate (Grouping.all.map (·.text))
  s!"Unsupported group_by value '{value}' (expected one of: {valid})"

/-- The wording of a generation error; a statement that cannot be written has none. -/
def GenerationError.message : GenerationError → String
  | unsupportedGrouping value => groupingMessage value
  | schema e => e.message
  | rendering _ => ""

/-- The logger of the emitter. -/
def emitLogger : Logger := ⟨"generator.emitter", true⟩

/-- A script as far as it was written, and how the writing went. -/
structure Emission where
  script : Script
  trace : Traced GenerationError Unit

/-- Writes the steps of a plan into a script, up to the first statement that cannot be written. -/
def emitSteps (st : Style) : Script → List PlanStep → Emission
  | sc, [] => ⟨sc, pure ()⟩
  | sc, .unused generator table :: rest =>
    let e := emitSteps st sc rest
    ⟨e.script, do
      Traced.note .debug emitLogger
        s!"Key generator {generator} unused by table {table}, skipped"
      e.trace⟩
  | sc, .statement s :: rest =>
    match s.render st with
    | .ok text => emitSteps st (sc.statement text) rest
    -- the failed statement stays as far as it was written, without its delimiter
    | .error i => ⟨sc.append i.written, .fail (.rendering i.fault)⟩

/-- The grouping of the settings. -/
def Settings.grouping (s : Settings) : Except GenerationError Grouping :=
  match Grouping.ofText? s.groupBy with
  | some g => .ok g
  | none => .error (.unsupportedGrouping s.groupBy)

/-- Closes the emission of a schema with a record of the number of statements written into `sc`,
which may have statements of its own. -/
def Emission.close (e : Emission) (sc : Script) (s : Schema) (g : Grouping) : Emission :=
  let written := e.script.statements - sc.statements
  ⟨e.script, do
    e.trace
    Traced.note .info emitLogger
      s!"Emitted {written} statements for {s.tables.length} tables ({g.text})"⟩

/-- Writes a schema into a script: the header, then the plan. -/
def emit (fl : Flavor) (settings : Settings) (s : Schema) (sc : Script) (header : List String)
    (mark : String) (format : Formatting := .standard) : Emission :=
  match settings.grouping with
  | .error e => ⟨sc, .fail e⟩
  | .ok g =>
    let start := sc.header header mark
    let plan := Plan.ofSchema fl settings.toggles g s
    (emitSteps (.ofSettings fl settings sc.indent format) start plan).close sc s g

/-- A generator of scripts for one dialect. -/
structure Generator where
  dialect : Dialect
  settings : Settings
  registry : KeyGeneratorRegistry
  deriving Inhabited

namespace Generator

/-- A new generator. -/
def new (d : Dialect) (settings : Settings) : Generator :=
  ⟨d, settings, .initial d⟩

/-- The generator for a dialect name, or for the dialect of the settings where none is given. -/
def ofName (r : DialectRegistry) (name : Option String) (settings : Settings) :
    Except DialectError Generator :=
  let name := (given name).getD settings.dialect
  (r.get (some name)).map fun d => new d settings

/-- The schema of a document. -/
def schema (g : Generator) (d : Document) : Building Schema :=
  Schema.ofDocument g.registry g.settings (g.dialect.catalog g.settings.types) d

/-- Writes a schema into a new script. -/
def render (g : Generator) (s : Schema) : Emission :=
  emit g.dialect.flavor g.settings s { delimiter := g.settings.delimiter } g.dialect.headerLines
    g.dialect.commentMark

/-- The script of a document. The grouping is checked before any other work. -/
def generate (g : Generator) (d : Document) : Traced GenerationError Script := do
  let _ ← Traced.ofExcept g.settings.grouping
  Traced.inContext { dialect := some g.dialect.name } do
    let s ← (g.schema d).mapError .schema
    let e := g.render s
    e.trace
    return e.script

/-- The generator after an attempt to generate from a document. -/
def after (g : Generator) (d : Document) : Generator :=
  match g.settings.grouping with
  | .error _ => g
  | .ok _ => { g with registry := g.registry.afterBuild d }

/-- One run: the generator after it, and the script of the document. -/
def run (g : Generator) (d : Document) : Generator × Traced GenerationError Script :=
  (g.after d, g.generate d)

/-- Copies the script of a document to the end of a sink and counts its statements. A document
without a script leaves the sink as it is. -/
def copyTo (g : Generator) (d : Document) (sink : String) : String × Traced GenerationError Nat :=
  match g.settings.grouping with
  | .error e => (sink, .fail e)
  | .ok _ =>
    let made := Traced.inContext { dialect := some g.dialect.name } do
      let s ← (g.schema d).mapError GenerationError.schema
      let e := g.render s
      e.trace
      return e.script
    -- the sink is not touched before the script is whole
    match made.outcome with
    | .error e => (sink, ⟨made.log, .error e⟩)
    | .ok sc => ((sc.copyTo sink).1, ⟨made.log, .ok sc.statements⟩)

/-- What is copied is the script that a run gives. -/
theorem copyTo_eq (g : Generator) (d : Document) (sink : String) :
    g.copyTo d sink = match (g.generate d).outcome with
      | .error e => (sink, ⟨(g.generate d).log, .error e⟩)
      | .ok sc => (sink ++ sc.text, ⟨(g.generate d).log, .ok sc.statements⟩) := by
  unfold copyTo generate
  cases g.settings.grouping with
  | error e => rfl
  | ok grouping => rfl

theorem copyTo_of_error {g : Generator} {d : Document} {e : GenerationError} (sink : String)
    (h : (g.generate d).outcome = .error e) : (g.copyTo d sink).1 = sink := by
  simp [copyTo_eq, h]

theorem copyTo_of_ok {g : Generator} {d : Document} {sc : Script} (sink : String)
    (h : (g.generate d).outcome = .ok sc) : (g.copyTo d sink).1 = sink ++ sc.text := by
  simp [copyTo_eq, h]

end Generator

end MappingDdl
