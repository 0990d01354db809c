import MappingDdl.Command
import MappingDdl.Proofs.Emission
import MappingDdl.Proofs.Origin

/-!
# Delivery — a script arrives as a whole, or nothing does

A script is made to its end before any of it is handed on. So a run of a generator adds the whole
script of a document to a sink, or it leaves the sink as it is; and a run of the program prints the
script or writes it to one file, or it leaves everything around it as it was. The program acts on
its surroundings (`Surroundings`) by what its report says (`Command.perform`); how files are read
and written is left open (`FileAccess`), but for writing a file being one step.

Main results:

* `Generator.outcome_generate` — the script of a document, or the first thing that is wrong with it.
* `Generator.copyTo_cases` — what a run of a generator adds to a sink.
* `CommandRequest.run_cases` — a report says that nothing was done, or that a script was delivered.
* `Command.all_or_nothing` — what a run of a generator and one of the program leave behind.
-/

namespace MappingDdl

open Statement

/-! ## Generators -/

namespace Generator

variable {g : Generator} {d : Document}

/-- The script that a run starts with: the header of the dialect. -/
def start (g : Generator) : Script :=
  ({ delimiter := g.settings.delimiter } : Script).header g.dialect.headerLines
    g.dialect.commentMark

/-- The style that statements are written in. -/
def style (g : Generator) : Style :=
  .ofSettings g.dialect.flavor g.settings ({ delimiter := g.settings.delimiter } : Script).indent

/-- The statements for a schema, in the order of a grouping. -/
def planned (g : Generator) (grouping : Grouping) (s : Schema) : List Statement :=
  Plan.statements (Plan.ofSchema g.dialect.flavor g.settings.toggles grouping s)

/-- The script with all the given statements. -/
def scriptOf (g : Generator) (xs : List Statement) : Script :=
  g.start.addAll (xs.map (·.text g.style))

/-- A script counts the statements it is made of. -/
theorem statements_scriptOf (g : Generator) (xs : List Statement) :
    (g.scriptOf xs).statements = xs.length := by
  rw [scriptOf, Script.statements_addAll, List.length_map, start, Script.statements_header]
  exact Nat.zero_add _

/-- A schema is written unless one of its statements cannot be. -/
theorem outcome_render {grouping : Grouping} (h : g.settings.grouping = .ok grouping) (s : Schema) :
    (g.render s).trace.outcome =
      emissionOutcome (firstFault? g.style (g.planned grouping s)) := by
  unfold render style planned
  exact outcome_emit h

/-- Without a fault an emission is complete, so its script is known. -/
theorem script_render {grouping : Grouping} (h : g.settings.grouping = .ok grouping) {s : Schema}
    (hNone : firstFault? g.style (g.planned grouping s) = none) :
    (g.render s).script = g.scriptOf (g.planned grouping s) := by
  have hOk : (g.render s).trace.outcome = .ok () := by
    rw [outcome_render h, hNone]
    rfl
  unfold scriptOf start style planned
  unfold render at hOk ⊢
  exact (wrote_of_emit h hOk).script

/-- A document has the script of all statements for its schema, or it has none: because it has no
schema, or because of the first statement that cannot be written. -/
theorem outcome_generate {grouping : Grouping} (h : g.settings.grouping = .ok grouping) :
    (g.generate d).outcome =
      match (g.schema d).outcome with
      | .error e => .error (.schema e)
      | .ok s =>
        match firstFault? g.style (g.planned grouping s) with
        | some f => .error (.rendering f)
        | none => .ok (g.scriptOf (g.planned grouping s)) := by
  unfold generate
  simp only [h, Traced.outcome_bind, Traced.outcome_ofExcept, Traced.outcome_inContext,
    Traced.outcome_mapError, Traced.outcome_pure, outcome_render h]
  -- first the schema, then the statements for it
  cases (g.schema d).outcome with
  | error e => rfl
  | ok s =>
    simp only [Except.mapError, Except.bind]
    cases hFault : firstFault? g.style (g.planned grouping s) with
    | some f => rfl
    | none => exact congrArg Except.ok (script_render h hFault)

/-- With a grouping that is not supported nothing is done, whatever the document. -/
theorem generate_of_error {e : GenerationError} (h : g.settings.grouping = .error e) :
    g.generate d = .fail e := by
  unfold generate
  rw [h]
  rfl

/-- A document with a script has a schema, and its script is that of the planned statements. -/
theorem exists_of_generate {sc : Script} (h : (g.generate d).outcome = .ok sc) :
    ∃ grouping s, g.settings.grouping = .ok grouping ∧ (g.schema d).outcome = .ok s ∧
      sc = g.scriptOf (g.planned grouping s) := by
  cases hGrouping : g.settings.grouping with
  -- without a grouping there is no script
  | error e =>
    rw [generate_of_error hGrouping] at h
    cases h
  | ok grouping =>
    rw [outcome_generate hGrouping] at h
    -- without a schema there is none either
    split at h
    · cases h
    · next s hSchema =>
      split at h
      · cases h
      · cases h
        exact ⟨grouping, s, rfl, hSchema, rfl⟩

/-- A run adds the script of the document to the sink and counts the statements in it, or it fails
like the making of the script and leaves the sink as it is. -/
theorem copyTo_cases (g : Generator) (d : Document) (sink : String) :
    (∃ grouping s, g.settings.grouping = .ok grouping ∧ (g.schema d).outcome = .ok s ∧
        (g.generate d).outcome = .ok (g.scriptOf (g.planned grouping s)) ∧
        g.copyTo d sink = (sink ++ (g.scriptOf (g.planned grouping s)).text,
          ⟨(g.generate d).log, .ok (g.planned grouping s).length⟩)) ∨
      ∃ e, (g.generate d).outcome = .error e ∧
        g.copyTo d sink = (sink, ⟨(g.generate d).log, .error e⟩) := by
  -- the script could not be made, and nothing is copied
  cases h : (g.generate d).outcome with
  | error e =>
    refine Or.inr ⟨e, rfl, ?_⟩
    rw [copyTo_eq, h]
  -- it could, and all of it is copied
  | ok sc =>
    obtain ⟨grouping, s, hGrouping, hSchema, rfl⟩ := exists_of_generate h
    refine Or.inl ⟨grouping, s, hGrouping, hSchema, rfl, ?_⟩
    rw [copyTo_eq, h]
    simp only [statements_scriptOf]

end Generator

/-! ## Reports -/

namespace CommandReport

/-- The report of a run that ended badly: nothing is printed, and no file is written. -/
structure Stops (c : CommandReport) : Prop where
  ending : c.ending ≠ .ok 0
  output : c.output = ""
  file   : c.file = none

/-- The report of a run that ended well: a text is printed, or written to the file that is named. -/
inductive Delivers (c : CommandReport) (text : String)
    (write : String → String → Except FileErrorKind Unit) : Option String → Prop
  | printed (hEnding : c.ending = .ok 0) (hOutput : c.output = text) (hFile : c.file = none) :
      Delivers c text write none
  | written {path : String} (hEnding : c.ending = .ok 0) (hOutput : c.output = "")
      (hFile : c.file = some (path, text)) (hWrite : write path text = .ok ()) :
      Delivers c text write (some path)

end CommandReport

/-- A run that delivers ends well. -/
theorem CommandReport.Delivers.ending {c : CommandReport} {text : String}
    {write : String → String → Except FileErrorKind Unit} {path? : Option String}
    (h : c.Delivers text write path?) : c.ending = .ok 0 := by
  cases h with
  | printed hEnding => exact hEnding
  | written hEnding => exact hEnding

namespace CommandRequest

variable {r : CommandRequest} {env : Environment}
  {content : Except FileErrorKind (List UInt8)}
  {write : String → String → Except FileErrorKind Unit}

/-- The text of a request is that of a script for its document. -/
theorem script_eq_ok {settings : Settings} {text : String}
    (h : (r.script settings content).outcome = .ok text) :
    ∃ d g sc, Document.ofFile (r.path.text "") content = .ok d ∧
      Generator.ofName .builtin none settings = .ok g ∧ (g.generate d).outcome = .ok sc ∧
      text = sc.text := by
  unfold script at h
  -- the document is read, the log is told, the generator is found
  rw [Traced.outcome_inContext] at h
  obtain ⟨d, hDocument, h⟩ := Traced.outcome_bind_eq_ok_iff.1 h
  obtain ⟨⟨⟩, -, h⟩ := Traced.outcome_bind_eq_ok_iff.1 h
  obtain ⟨g, hGenerator, h⟩ := Traced.outcome_bind_eq_ok_iff.1 h
  rw [Traced.outcome_ofExcept, mapError_eq_ok_iff] at hDocument hGenerator
  -- the parts of the run, from reading the document to the generator
  split at h
  · obtain ⟨count, hCopied, h⟩ := Traced.outcome_bind_eq_ok_iff.1 h
    rw [Traced.outcome_mapError, mapError_eq_ok_iff] at hCopied
    rw [Traced.outcome_pure, Except.ok.injEq] at h
    subst h
    -- copying succeeds only with a script, and the output starts out empty
    rcases g.copyTo_cases d "" with ⟨grouping, s, -, -, hScript, hEq⟩ | ⟨e, -, hEq⟩
    · have hText : (g.copyTo d "").1 = (g.scriptOf (g.planned grouping s)).text := by
        rw [hEq, String.empty_append]
      exact ⟨d, g, _, hDocument, hGenerator, hScript, hText⟩
    · rw [hEq] at hCopied
      cases hCopied
  -- a script that is not copied is printed as it is
  · obtain ⟨sc, hScript, h⟩ := Traced.outcome_bind_eq_ok_iff.1 h
    rw [Traced.outcome_mapError, mapError_eq_ok_iff] at hScript
    cases h
    exact ⟨d, g, sc, hDocument, hGenerator, hScript, rfl⟩

/-- A run that failed stops. -/
theorem stops_failed (style : LogStyle) (log : List LogRecord) (e : CommandError) :
    (failed style log e).Stops := by
  unfold failed
  split
  · exact ⟨by simp, rfl, rfl⟩
  · exact ⟨by simp, rfl, rfl⟩

/-- A run with a text delivers it, or stops as the file cannot be written. -/
theorem finished_cases (r : CommandRequest) (style : LogStyle) (log : List LogRecord)
    (text : String) :
    (r.finished style log text write).Stops ∨
      (r.finished style log text write).Delivers text write r.outputPath? := by
  unfold finished
  cases hPath : r.outputPath? with
  | none => exact Or.inr (.printed rfl rfl rfl)
  | some path =>
    dsimp only
    split
    · next hWrite => exact Or.inr (.written rfl rfl rfl hWrite)
    · exact Or.inl ⟨by simp, rfl, rfl⟩

/-- Records that are not shown do not change that a run stopped. -/
theorem stops_shownFrom (threshold : Int) {c : CommandReport} (h : c.Stops) :
    (shownFrom threshold c).Stops :=
  ⟨h.ending, h.output, h.file⟩

/-- Which records are shown makes no difference to what is delivered. -/
theorem delivers_shownFrom (threshold : Int) {c : CommandReport} {text : String}
    {path? : Option String} (h : c.Delivers text write path?) :
    (shownFrom threshold c).Delivers text write path? := by
  cases h with
  | printed hEnding hOutput hFile => exact .printed hEnding hOutput hFile
  | written hEnding hOutput hFile hWrite => exact .written hEnding hOutput hFile hWrite

/-- A run stops, or it delivers the text of a script. -/
theorem run_cases (r : CommandRequest) (env : Environment)
    (content : Except FileErrorKind (List UInt8))
    (write : String → String → Except FileErrorKind Unit) :
    (r.run env content write).Stops ∨
      ∃ settings text, Settings.ofEnvironment env = .ok settings ∧
        (r.script (r.applyTo settings) content).outcome = .ok text ∧
        (r.run env content write).Delivers text write r.outputPath? := by
  unfold run
  dsimp only
  -- each `split` is one way to stop: the level of the log, the settings, the script
  split
  · exact Or.inl ⟨by simp, rfl, rfl⟩
  · next threshold _ =>
    split
    · exact Or.inl ⟨by simp, rfl, rfl⟩
    · next settings hSettings =>
      split
      · exact Or.inl (stops_shownFrom threshold (stops_failed _ _ _))
      · next text hText =>
        -- with a script it is left to print or to write it
        rcases finished_cases r _ _ text with hStops | hDelivers
        · exact Or.inl (stops_shownFrom threshold hStops)
        · exact Or.inr ⟨settings, text, hSettings, hText, delivers_shownFrom threshold hDelivers⟩

end CommandRequest

/-! ## The surroundings of the program -/

/-- How files are read and written. Writing a file is one step: it gives the files with this one put
in, or it fails. -/
structure FileAccess (φ : Type) where
  read : φ → Path → Except FileErrorKind (List UInt8)
  write : φ → String → String → Except FileErrorKind φ

/-- What a run of the program acts on: what was printed so far, and the files. -/
structure Surroundings (φ : Type) where
  printed : String
  files : φ

namespace Command

variable {φ : Type} {fs : FileAccess φ} {w : Surroundings φ}

/-- The surroundings after what a report says was done. -/
def deliver (fs : FileAccess φ) (c : CommandReport) (w : Surroundings φ) : Surroundings φ where
  printed := w.printed ++ c.output
  files := match c.file with
    | none => w.files
    | some (path, text) => (fs.write w.files path text).toOption.getD w.files

/-- A run of the program in its surroundings, with its ending. -/
def perform (fs : FileAccess φ) (arguments : List String) (env : Environment)
    (w : Surroundings φ) : Surroundings φ × Except CommandError Nat :=
  let report := execute arguments env (fs.read w.files) fun path text =>
    (fs.write w.files path text).map fun _ => ()
  (deliver fs report w, report.ending)

/-- What stopped changes nothing around it. -/
theorem deliver_of_stops {c : CommandReport} (h : c.Stops) : deliver fs c w = w := by
  simp [deliver, h.output, h.file]

/-- A report of the program that does not end well is one of a run that stopped. -/
theorem stops_of_execute {arguments : List String} {env : Environment}
    {read : Path → Except FileErrorKind (List UInt8)}
    {write : String → String → Except FileErrorKind Unit}
    (h : (execute arguments env read write).ending ≠ .ok 0) :
    (execute arguments env read write).Stops := by
  unfold execute at h ⊢
  split
  · next s hParse =>
    rw [hParse] at h
    -- help and the version end well, any other stop does not
    cases s with
    | showHelp => exact absurd rfl h
    | showVersion => exact absurd rfl h
    | _ => exact ⟨h, rfl, rfl⟩
  -- with a request the run decides
  · next r hParse =>
    rw [hParse] at h
    rcases r.run_cases env (read r.path) write with hStops | ⟨settings, text, -, -, hDelivers⟩
    -- a run that stopped is what was to be shown
    · exact hStops
    · exact absurd hDelivers.ending h

/-- A run that ends well, on a command line that asks for a script, delivers this script. -/
theorem perform_of_eq_zero {arguments : List String} {env : Environment} {r : CommandRequest}
    (hParse : parse arguments = .ok r) (h : (perform fs arguments env w).2 = .ok 0) :
    ∃ settings d g sc, Settings.ofEnvironment env = .ok settings ∧
      Document.ofFile (r.path.text "") (fs.read w.files r.path) = .ok d ∧
      Generator.ofName .builtin none (r.applyTo settings) = .ok g ∧
      (g.generate d).outcome = .ok sc ∧
      match r.outputPath? with
      | none => (perform fs arguments env w).1 = ⟨w.printed ++ sc.text, w.files⟩
      | some path => ∃ files, fs.write w.files path sc.text = .ok files ∧
          (perform fs arguments env w).1 = ⟨w.printed, files⟩ := by
  -- what the run writes, it writes to the files that were there
  let write (path text : String) := (fs.write w.files path text).map fun _ => ()
  have hReport : execute arguments env (fs.read w.files) write =
      r.run env (fs.read w.files r.path) write := by
    rw [execute, hParse]
  have hAfter : perform fs arguments env w =
      (deliver fs (r.run env (fs.read w.files r.path) write) w,
        (r.run env (fs.read w.files r.path) write).ending) := by
    rw [← hReport]
    rfl
  rw [hAfter] at h ⊢
  rcases r.run_cases env (fs.read w.files r.path) write with
    hStops | ⟨settings, text, hSettings, hText, hDelivers⟩
  -- a run that stopped does not end well
  · exact absurd h hStops.ending
  · obtain ⟨d, g, sc, hDocument, hGenerator, hScript, rfl⟩ :=
      CommandRequest.script_eq_ok hText
    refine ⟨settings, d, g, sc, hSettings, hDocument, hGenerator, hScript, ?_⟩
    -- the output of a report is printed, and its file is written, but never both
    cases hPath : r.outputPath? with
    | none =>
      rw [hPath] at hDelivers
      cases hDelivers with
      | printed _ hOutput hFile => simp [deliver, hOutput, hFile]
    | some path =>
      rw [hPath] at hDelivers
      cases hDelivers with
      | written _ hOutput hFile hWrite =>
        -- the file was written as the report says
        obtain ⟨files, hFiles⟩ : ∃ files, fs.write w.files path sc.text = .ok files := by
          cases hFiles : fs.write w.files path sc.text with
          | error k => simp [write, hFiles, Except.map] at hWrite
          | ok files => exact ⟨files, rfl⟩
        exact ⟨files, hFiles, by simp [deliver, hOutput, hFile, hFiles, Except.toOption]⟩

/-- **All or nothing.** A run of a generator adds the script of a document to the end of a sink and
counts the statements in it, or it fails like the making of the script and leaves the sink as it is.
A grouping that is not supported is refused whatever the document. A run of the program that does
not end well leaves what was printed and all files as they were. One that ends well, where a script
was asked for, has printed what its generator adds to the end of the output, or has written the
script to the file that was named, and nothing else. -/
theorem all_or_nothing :
    (∀ (g : Generator) (d : Document) (sink : String),
      (∃ grouping s, g.settings.grouping = .ok grouping ∧ (g.schema d).outcome = .ok s ∧
        (g.generate d).outcome = .ok (g.scriptOf (g.planned grouping s)) ∧
        g.copyTo d sink = (sink ++ (g.scriptOf (g.planned grouping s)).text,
          ⟨(g.generate d).log, .ok (g.planned grouping s).length⟩)) ∨
      ∃ e, (g.generate d).outcome = .error e ∧
        g.copyTo d sink = (sink, ⟨(g.generate d).log, .error e⟩)) ∧
    (∀ g : Generator, Grouping.ofText? g.settings.groupBy = none → ∀ d sink,
      g.generate d = .fail (.unsupportedGrouping g.settings.groupBy) ∧
        g.copyTo d sink = (sink, .fail (.unsupportedGrouping g.settings.groupBy))) ∧
    ∀ {φ : Type} (fs : FileAccess φ) (arguments : List String) (env : Environment)
      (w : Surroundings φ),
      ((perform fs arguments env w).2 ≠ .ok 0 → (perform fs arguments env w).1 = w) ∧
      ∀ r, parse arguments = .ok r → (perform fs arguments env w).2 = .ok 0 →
        ∃ settings d g sc, Settings.ofEnvironment env = .ok settings ∧
          Document.ofFile (r.path.text "") (fs.read w.files r.path) = .ok d ∧
          Generator.ofName .builtin none (r.applyTo settings) = .ok g ∧
          (g.generate d).outcome = .ok sc ∧
          match r.outputPath? with
          | none => (perform fs arguments env w).1 = ⟨(g.copyTo d w.printed).1, w.files⟩
          | some path => ∃ files, fs.write w.files path sc.text = .ok files ∧
              (perform fs arguments env w).1 = ⟨w.printed, files⟩ := by
  refine ⟨Generator.copyTo_cases, fun g hGroup d sink => ?_, fun fs arguments env w => ⟨?_, ?_⟩⟩
  -- a grouping that is not supported is found before the schema is built
  · have hGrouping : g.settings.grouping = .error (.unsupportedGrouping g.settings.groupBy) := by
      rw [Settings.grouping, hGroup]
    have hGenerate : g.generate d = .fail (.unsupportedGrouping g.settings.groupBy) :=
      Generator.generate_of_error hGrouping
    refine ⟨hGenerate, ?_⟩
    rw [Generator.copyTo_eq, hGenerate]
    rfl
  -- a run that does not end well has stopped, and delivers nothing
  · exact fun h => deliver_of_stops (stops_of_execute h)
  -- one that ends well has delivered the text that copying gives
  · intro r hParse h
    obtain ⟨settings, d, g, sc, hSettings, hDocument, hGenerator, hScript, hDone⟩ :=
      perform_of_eq_zero hParse h
    refine ⟨settings, d, g, sc, hSettings, hDocument, hGenerator, hScript, ?_⟩
    rwa [Generator.copyTo_of_ok w.printed hScript]

/-- A place with one mapping file, which keeps what is written, in order. -/
structure Desk where
  mapping : String
  written : List (String × String) := []

/-- The mapping file is read whatever its path, and any file can be written. -/
def Desk.access : FileAccess Desk where
  read desk _ := .ok desk.mapping.toUTF8.toList
  write desk path text := .ok { desk with written := desk.written ++ [(path, text)] }

/-- A mapping with one class, before anything is printed or written. -/
def Desk.surroundings : Surroundings Desk :=
  ⟨"", { mapping := "classes:\n- name: Item\n  table: item\n" }⟩

/-- With a grouping that is not supported nothing changes, though a file is named. With one that is,
this file is written, and nothing is printed. -/
theorem all_or_nothing_on_desk :
    (perform Desk.access ["item.yaml", "--group-by", "x", "-o", "item.sql"] []
      Desk.surroundings).1 = Desk.surroundings ∧
    (∃ text, (perform Desk.access ["item.yaml", "-o", "item.sql"] [] Desk.surroundings).1 =
      ⟨"", { Desk.surroundings.files with written := [("item.sql", text)] }⟩) ∧
    ∀ d sink, (Generator.new .generic { groupBy := "x" }).copyTo d sink =
      (sink, .fail (.unsupportedGrouping "x")) := by
  obtain ⟨-, hGrouping, hRuns⟩ := all_or_nothing
  refine ⟨?_, ?_, fun d sink => (hGrouping _ (by decide) d sink).2⟩
  -- the first run fails, by its grouping
  · have hFailed : (perform Desk.access ["item.yaml", "--group-by", "x", "-o", "item.sql"] []
        Desk.surroundings).2.toOption ≠ some 0 := by
      decide +kernel
    exact (hRuns _ _ _ _).1 fun h => hFailed (by rw [h, Except.toOption])
  -- the second one ends well
  · obtain ⟨code, hEnding, rfl⟩ : ∃ code, (perform Desk.access ["item.yaml", "-o", "item.sql"] []
        Desk.surroundings).2 = .ok code ∧ code = 0 :=
      exists_ok_of_toOption_map (f := id) (by decide +kernel)
    obtain ⟨r, hParse, hPath⟩ : ∃ r, parse ["item.yaml", "-o", "item.sql"] = .ok r ∧
        r.outputPath? = some "item.sql" := exists_ok_of_toOption_map (by decide +kernel)
    -- so it has written the script to the file that was asked for
    obtain ⟨settings, d, g, sc, -, -, -, -, hDone⟩ := (hRuns _ _ _ _).2 r hParse hEnding
    rw [hPath] at hDone
    obtain ⟨files, hWrite, hAfter⟩ := hDone
    cases hWrite
    exact ⟨sc.text, hAfter⟩

end Command

end MappingDdl
