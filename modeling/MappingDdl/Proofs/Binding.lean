import MappingDdl.Proofs.Emission

/-!
# Bound key generators — an emitter that remembers

One key generator may serve several tables, with a sequence for each. An emitter can let it know
which one it is written for by *binding* it: the generator keeps the table it is bound to, and what
it writes is about that table. Then its text depends on when it is written, and the table stays with
it after the script is done.

This module gives emission in that form. The emitter has tasks, one for each kind of statements and
each table, and the bindings are its state, which goes from task to task and from script to script.
In `emit` there is no such state, a statement carries its table. Both are the same, whatever the
generators were bound to at the start: the only task that writes a key generator binds it first.

Main results:

* `Task.steady_of_mem_ofSchema` — what a task writes does not depend on the bindings.
* `emitFrom_eq_emit` — the emission of a schema from any bindings is that of `emit`.
-/

namespace MappingDdl

/-! ## Bindings -/

/-- The tables that key generators are bound to, latest first. -/
abbrev Bindings := List ((String × Nat) × Table)

namespace Bindings

/-- Binds a key generator to a table. -/
def assign (β : Bindings) (g : KeyGenerator) (t : Table) : Bindings :=
  ((g.name, g.revision), t) :: β

/-- The table that a key generator is bound to. Before its first table a generator has one without
name and columns. -/
def table (β : Bindings) (g : KeyGenerator) : Table :=
  (β.lookup (g.name, g.revision)).getD { name := "" }

/-- A generator has the table that it was bound to last. -/
@[simp] theorem table_assign (β : Bindings) (g : KeyGenerator) (t : Table) :
    (β.assign g t).table g = t := by
  simp [assign, table]

end Bindings

/-! ## Tasks -/

/-- A task of the emitter: given the bindings, the bindings after it and what it writes. -/
abbrev Task := Bindings → Bindings × List PlanStep

namespace Task

/-- Writes without a key generator. -/
def ofSteps (p : List PlanStep) : Task :=
  fun β => (β, p)

/-- Writes a key generator for a table, if a column of the table uses it. The generator is bound to
the table first. -/
def ofKeyGenerator (fl : Flavor) (t : Table) (g : KeyGenerator) : Task := fun β =>
  if (t.columnsOf g).isEmpty then (β, [.unused g.name t.name])
  else
    let β := β.assign g t
    (β, (fl.generatorStatements (β.table g) g).map .statement)

/-- Writes the statements of one kind for a table. -/
def ofTable (fl : Flavor) (k : StatementKind) (t : Table) : Task :=
  match k, t.keyGenerator with
  | .keyGenerator, some g => ofKeyGenerator fl t g
  | k, _ => ofSteps ((fl.tableStatements t k).map .statement)

/-- The tasks of the tables of a schema: kind after kind for each table, or table after table for
each kind. -/
def ofTables (fl : Flavor) (on : Toggles) (s : Schema) : Grouping → List Task
  | .byTable => s.tables.flatMap fun t => (Plan.kinds on).map (ofTable fl · t)
  | .byKind => (Plan.kinds on).flatMap fun k => s.tables.map (ofTable fl k)

/-- The tasks of a schema, its own statements first. -/
def ofSchema (fl : Flavor) (on : Toggles) (g : Grouping) (s : Schema) : List Task :=
  ofSteps (Plan.preamble fl on s) :: ofTables fl on s g

/-- What a task writes where nothing is bound. -/
def steps (task : Task) : List PlanStep :=
  (task []).2

/-- What a task writes does not depend on the bindings. -/
def Steady (task : Task) : Prop :=
  ∀ β, (task β).2 = task.steps

variable {fl : Flavor} {on : Toggles} {g : Grouping} {s : Schema}

/-- A task for a table plans what the table alone plans, whatever the bindings are before. -/
theorem snd_ofTable (fl : Flavor) (k : StatementKind) (t : Table) (β : Bindings) :
    (ofTable fl k t β).2 = Plan.ofTable fl k t := by
  -- only the task of a key generator asks for a binding
  cases hGenerator : t.keyGenerator with
  | none => cases k <;> simp [ofTable, Plan.ofTable, hGenerator, ofSteps]
  | some g =>
    cases k with
    | keyGenerator =>
      -- the generator writes for the table that it was bound to last, which is this one
      simp only [ofTable, Plan.ofTable, hGenerator, ofKeyGenerator, Bindings.table_assign,
        Flavor.tableStatements]
      split <;> rfl
    | _ => simp [ofTable, Plan.ofTable, ofSteps]

/-- So the task of a table does the same under all bindings. -/
theorem steady_ofTable (fl : Flavor) (k : StatementKind) (t : Table) : (ofTable fl k t).Steady :=
  fun β => (snd_ofTable fl k t β).trans (snd_ofTable fl k t []).symm

/-- All tasks of a schema do the same under all bindings. -/
theorem steady_of_mem_ofSchema : ∀ task ∈ ofSchema fl on g s, Steady task := by
  intro task hTask
  rcases List.mem_cons.1 hTask with rfl | hTask
  -- the first task opens the script, and binds nothing
  · exact fun _ => rfl
  -- the others belong to a table each, under both groupings
  · obtain ⟨k, t, rfl⟩ : ∃ k t, task = ofTable fl k t := by
      cases g with
      | byTable =>
        obtain ⟨t, -, hTask⟩ := List.mem_flatMap.1 hTask
        obtain ⟨k, -, rfl⟩ := List.mem_map.1 hTask
        exact ⟨k, t, rfl⟩
      | byKind =>
        obtain ⟨k, -, hTask⟩ := List.mem_flatMap.1 hTask
        obtain ⟨t, -, rfl⟩ := List.mem_map.1 hTask
        exact ⟨k, t, rfl⟩
    exact steady_ofTable fl k t

/-- The tasks of a schema take the steps of its plan, in the same order. -/
theorem flatMap_steps_ofSchema (fl : Flavor) (on : Toggles) (g : Grouping) (s : Schema) :
    (ofSchema fl on g s).flatMap steps = Plan.ofSchema fl on g s := by
  have hTable (k : StatementKind) (t : Table) : steps (ofTable fl k t) = Plan.ofTable fl k t :=
    snd_ofTable fl k t []
  rw [ofSchema, List.flatMap_cons, Plan.ofSchema]
  refine congrArg _ ?_
  cases g with
  | byTable => simp only [ofTables, Plan.tables, List.flatMap_assoc, List.flatMap_map, hTable]
  | byKind => simp only [ofTables, Plan.tables, List.flatMap_assoc, List.flatMap_map, hTable]

end Task

/-! ## Emission with bindings -/

/-- Carries out tasks one after the other, up to the first statement that cannot be written. -/
def emitTasks (st : Style) : Bindings → Script → List Task → Bindings × Emission
  | β, sc, [] => (β, ⟨sc, pure ()⟩)
  | β, sc, task :: rest =>
    let e := emitSteps st sc (task β).2
    match e.trace.outcome with
    | .error _ => ((task β).1, e)
    | .ok _ =>
      let last := emitTasks st (task β).1 e.script rest
      (last.1, ⟨last.2.script, e.trace >>= fun _ => last.2.trace⟩)

/-- Writes a schema into a script, starting from bindings that earlier scripts left. -/
def emitFrom (β : Bindings) (fl : Flavor) (settings : Settings) (s : Schema) (sc : Script)
    (header : List String) (mark : String) (format : Formatting := .standard) :
    Bindings × Emission :=
  match settings.grouping with
  | .error e => (β, ⟨sc, .fail e⟩)
  | .ok g =>
    let written := emitTasks (.ofSettings fl settings sc.indent format) β (sc.header header mark)
      (Task.ofSchema fl settings.toggles g s)
    (written.1, written.2.close sc s g)

/-- Steady tasks write the same from all bindings. -/
theorem emitTasks_eq_emitSteps {st : Style} {tasks : List Task}
    (h : ∀ task ∈ tasks, Task.Steady task) (β : Bindings) (sc : Script) :
    (emitTasks st β sc tasks).2 = emitSteps st sc (tasks.flatMap Task.steps) := by
  -- on the tasks, with the bindings that the first one leaves for the rest
  induction tasks generalizing β sc with
  | nil => rfl
  | cons task rest ih =>
    obtain ⟨hTask, hRest⟩ := List.forall_mem_cons.1 h
    rw [List.flatMap_cons, emitSteps_append, ← hTask β, emitTasks, Emission.andThen]
    cases (emitSteps st sc (task β).2).trace.outcome with
    | error e => rfl
    | ok _ => simp only [ih hRest]

/-- **Bindings do not show in a script.** Whatever tables the key generators were bound to before,
a schema is written as if each statement carried its table. -/
theorem emitFrom_eq_emit (β : Bindings) (fl : Flavor) (settings : Settings) (s : Schema)
    (sc : Script) (header : List String) (mark : String) (format : Formatting) :
    (emitFrom β fl settings s sc header mark format).2 =
      emit fl settings s sc header mark format := by
  unfold emitFrom emit
  cases settings.grouping with
  | error e => rfl
  -- a grouping that is not known fails before there are any tasks
  | ok g =>
    have hSteady : ∀ task ∈ Task.ofSchema fl settings.toggles g s, task.Steady :=
      Task.steady_of_mem_ofSchema
    -- the tasks that bind do the same as the steps that carry their tables
    have hSame : (emitTasks (.ofSettings fl settings sc.indent format) β (sc.header header mark)
        (Task.ofSchema fl settings.toggles g s)).2 =
        emitSteps (.ofSettings fl settings sc.indent format) (sc.header header mark)
          (Plan.ofSchema fl settings.toggles g s) := by
      rw [emitTasks_eq_emitSteps hSteady, Task.flatMap_steps_ofSchema]
    exact congrArg (·.close sc s g) hSame

end MappingDdl
