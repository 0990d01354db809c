import MappingDdl.Proofs.Binding

/-!
# Sessions — one generator, document after document

A generator keeps its registry of key generators from run to run, and its emitter leaves key
generators bound to tables. A run may stop before the registry is reset, between the reset and the
last declaration, or in the middle of a script, and each time it leaves something else behind.

What a run reads of this is little. It resets the registry before it looks a key generator up, so
that only the dialect of the registry counts, and a script does not depend on bindings
(`emitFrom_eq_emit`). `Session.Serves` says what every run keeps: the dialect and the settings that
the session was opened with.

Main result: `Session.runAll_eq_map_run` — each document of a session has the script, or the error,
and the log that it has in a session of its own.
-/

namespace MappingDdl

/-! ## What a build leaves of a registry -/

namespace KeyGeneratorRegistry

/-- Definitions do not change the dialect of a registry. -/
theorem dialect_load (r : KeyGeneratorRegistry) (defs : List KeyGeneratorDef) :
    (r.load defs).1.dialect = r.dialect := by
  induction defs generalizing r with
  | nil => rfl
  | cons d rest ih =>
    rw [load]
    cases KeyGenerator.ofDef r.dialect d with
    | error e => rfl
    | ok g => exact ih (r.insert g)

/-- A build leaves the dialect of a registry, however far it came. -/
theorem dialect_afterBuild (r : KeyGeneratorRegistry) (d : Document) :
    (r.afterBuild d).dialect = r.dialect := by
  unfold afterBuild
  split
  · exact dialect_load r.reset d.keyGenerators
  · rfl

end KeyGeneratorRegistry

/-- Nothing of a registry but its dialect shows in a schema. -/
theorem Schema.ofDocument_eq_of_dialect {r r' : KeyGeneratorRegistry}
    (h : r.dialect = r'.dialect) (settings : Settings) (catalog : TypeCatalog) (d : Document) :
    Schema.ofDocument r settings catalog d = Schema.ofDocument r' settings catalog d := by
  have hReset : r.reset = r'.reset := congrArg KeyGeneratorRegistry.initial h
  unfold Schema.ofDocument
  rw [hReset]

/-! ## Sessions -/

/-- A generator in use: what its key generators are bound to goes with it. -/
structure Session where
  generator : Generator
  bindings : Bindings

namespace Session

/-- A session that has not served any document. -/
def new (d : Dialect) (settings : Settings) : Session :=
  ⟨.new d settings, []⟩

/-- The bindings after an attempt to build a document. A sound document gets new key generators,
which are bound to no table; another one leaves the old ones as they were. -/
def bindingsAfterBuild (σ : Session) (d : Document) : Bindings :=
  if d.structureProblems.isEmpty then [] else σ.bindings

/-- Writes the schema of a document into a new script. -/
def render (σ : Session) (d : Document) (s : Schema) : Bindings × Emission :=
  emitFrom (σ.bindingsAfterBuild d) σ.generator.dialect.flavor σ.generator.settings s
    { delimiter := σ.generator.settings.delimiter } σ.generator.dialect.headerLines
    σ.generator.dialect.commentMark

/-- The script of a document. -/
def generate (σ : Session) (d : Document) : Traced GenerationError Script := do
  let _ ← Traced.ofExcept σ.generator.settings.grouping
  Traced.inContext { dialect := some σ.generator.dialect.name } do
    let s ← (σ.generator.schema d).mapError .schema
    let e := (σ.render d s).2
    e.trace
    return e.script

/-- The session after a document: each stage that the run came to leaves its state. -/
def after (σ : Session) (d : Document) : Session where
  generator := σ.generator.after d
  bindings :=
    match σ.generator.settings.grouping, (σ.generator.schema d).outcome with
    | .error _, _ => σ.bindings
    | .ok _, .error _ => σ.bindingsAfterBuild d
    | .ok _, .ok s => (σ.render d s).1

/-- One run: the session after it, and the script of the document. -/
def run (σ : Session) (d : Document) : Session × Traced GenerationError Script :=
  (σ.after d, σ.generate d)

/-- Runs on documents, one after the other. A document without a script does not end the session. -/
def runAll : Session → List Document → Session × List (Traced GenerationError Script)
  | σ, [] => (σ, [])
  | σ, d :: rest =>
    let (σ, script) := σ.run d
    let (σ, scripts) := σ.runAll rest
    (σ, script :: scripts)

/-! ## What a run keeps -/

/-- A session for a dialect with given settings, whatever documents it has served. -/
structure Serves (σ : Session) (d : Dialect) (settings : Settings) : Prop where
  dialect  : σ.generator.dialect = d
  settings : σ.generator.settings = settings
  registry : σ.generator.registry.dialect = d

variable {σ : Session} {d : Dialect} {settings : Settings}

/-- A new session serves its dialect and settings. -/
theorem serves_new (d : Dialect) (settings : Settings) : (new d settings).Serves d settings :=
  ⟨rfl, rfl, rfl⟩

/-- A session writes what its generator writes. -/
theorem generate_eq_generate (σ : Session) (doc : Document) :
    σ.generate doc = σ.generator.generate doc := by
  -- whatever is bound when the writing starts
  have hRender (s : Schema) : (σ.render doc s).2 = σ.generator.render s :=
    emitFrom_eq_emit _ _ _ _ _ _ _ _
  simp only [generate, Generator.generate, hRender]

/-- A document has the same script in every session for a dialect and settings. -/
theorem Serves.generate_eq (h : σ.Serves d settings) (doc : Document) :
    σ.generate doc = (Generator.new d settings).generate doc := by
  have hSchema : σ.generator.schema doc = (Generator.new d settings).schema doc := by
    unfold Generator.schema
    rw [h.dialect, h.settings]
    exact Schema.ofDocument_eq_of_dialect h.registry _ _ doc
  have hRender (s : Schema) : σ.generator.render s = (Generator.new d settings).render s := by
    unfold Generator.render
    rw [h.dialect, h.settings]
    rfl
  rw [generate_eq_generate, Generator.generate, Generator.generate]
  simp only [hSchema, hRender, h.dialect, h.settings]
  rfl

/-- A run leaves a session for the same dialect and settings, wherever it stopped. -/
theorem Serves.after (h : σ.Serves d settings) (doc : Document) :
    (σ.after doc).Serves d settings := by
  unfold Session.after Generator.after
  cases σ.generator.settings.grouping with
  | error e => exact ⟨h.dialect, h.settings, h.registry⟩
  | ok g =>
    -- the registry may be half loaded, but it is still one for the dialect
    refine ⟨h.dialect, h.settings, ?_⟩
    exact (KeyGeneratorRegistry.dialect_afterBuild _ doc).trans h.registry

/-- A session that serves a dialect and settings answers like a new one, document by document. -/
theorem Serves.runAll_eq (h : σ.Serves d settings) (docs : List Document) :
    (σ.runAll docs).2 = docs.map (Generator.new d settings).generate := by
  -- on the documents: the session that a run leaves serves the rest
  induction docs generalizing σ with
  | nil => rfl
  | cons doc rest ih =>
    calc (σ.runAll (doc :: rest)).2
        = σ.generate doc :: ((σ.after doc).runAll rest).2 := rfl
      _ = (Generator.new d settings).generate doc ::
            rest.map (Generator.new d settings).generate := by
          rw [h.generate_eq doc, ih (h.after doc)]

/-- **Runs do not leak into each other.** In a session each document has the script, or the error,
and the log that it has in a new session, and this is what a new generator gives for it. -/
theorem runAll_eq_map_run (d : Dialect) (settings : Settings) (docs : List Document) :
    ((new d settings).runAll docs).2 = docs.map (fun doc => ((new d settings).run doc).2) ∧
    ∀ doc, ((new d settings).run doc).2 = (Generator.new d settings).generate doc := by
  have hOne (doc : Document) :
      ((new d settings).run doc).2 = (Generator.new d settings).generate doc :=
    (serves_new d settings).generate_eq doc
  refine ⟨?_, hOne⟩
  rw [(serves_new d settings).runAll_eq docs]
  exact List.map_congr_left fun doc _ => (hOne doc).symm

end Session

end MappingDdl
