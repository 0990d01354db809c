import MappingDdl.Log
import MappingDdl.Statement

/-!
# Plans — the statements of a script in their order

A plan lists the statements of a schema, by table or by kind. Under both groupings the schema's own
statements come first, the kinds keep one order and the tables keep theirs. Kinds that are switched
off are left out. Where a table carries a key generator that none of its identity columns uses, the
plan says so instead of a statement.

Main statement: `statements_ofTable`, the statements of a table step by step are those of its kinds.
-/

namespace MappingDdl

/-- A step of a plan. -/
inductive PlanStep
  | statement (s : Statement)
  /-- A key generator that the table does not use. -/
  | unused (generator table : String)
  deriving Inhabited

/-- The statement of a step, if it is one. -/
def PlanStep.statement? : PlanStep → Option Statement
  | statement s => some s
  | unused _ _ => none

namespace Plan

/-- The steps of one kind for a table. -/
def ofTable (fl : Flavor) (k : StatementKind) (t : Table) : List PlanStep :=
  (match k, t.keyGenerator with
    | .keyGenerator, some g => if (t.columnsOf g).isEmpty then [.unused g.name t.name] else []
    | _, _ => []) ++
  (fl.tableStatements t k).map .statement

/-- The steps of a schema's own statements. -/
def preamble (fl : Flavor) (on : Toggles) (s : Schema) : List PlanStep :=
  if on.schema then (fl.schemaStatements (s.name.filter (· != ""))).map .statement else []

/-- The kinds of table statements that are switched on. -/
def kinds (on : Toggles) : List StatementKind :=
  StatementKind.ofTables.filter on.allows

/-- The steps of the tables of a schema under a grouping. -/
def tables (fl : Flavor) (on : Toggles) (s : Schema) : Grouping → List PlanStep
  | .byTable => s.tables.flatMap fun t => (kinds on).flatMap fun k => ofTable fl k t
  | .byKind => (kinds on).flatMap fun k => s.tables.flatMap (ofTable fl k)

/-- The plan of a schema. -/
def ofSchema (fl : Flavor) (on : Toggles) (g : Grouping) (s : Schema) : List PlanStep :=
  preamble fl on s ++ tables fl on s g

/-- The statements of a plan. -/
def statements (p : List PlanStep) : List Statement :=
  p.filterMap (·.statement?)

theorem statements_ofTable (fl : Flavor) (k : StatementKind) (t : Table) :
    statements (ofTable fl k t) = fl.tableStatements t k := by
  have hs (l : List Statement) : (l.map PlanStep.statement).filterMap (·.statement?) = l := by
    induction l <;> simp_all [PlanStep.statement?]
  unfold statements ofTable
  rw [List.filterMap_append, hs]
  split
  · split <;> simp [PlanStep.statement?]
  · simp

end Plan

end MappingDdl
