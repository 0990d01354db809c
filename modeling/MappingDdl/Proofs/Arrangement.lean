import Mathlib.Data.List.Perm.Basic
import MappingDdl.Proofs.Binding

/-!
# Arrangement — the statements of tables, by table and by kind

A plan goes through the tables of a schema and through the kinds of statements. Under one grouping
the tables are outside and the kinds inside, under the other one it is the other way round
(`Plan.arranged`). Both orders hold the same statements, and leaving out a kind leaves the others in
their order, under either grouping.

Only the statements of key generators can fail. They are of one kind, so both orders meet them in
the order of the tables, and the first one that fails is the same.

Main results:

* `Plan.arranged_perm` — the two groupings hold the same statements.
* `Plan.statements_ofSchema_filter` — leaving out kinds is a filter on statements.
* `Plan.firstFaulty?_grouping` — the two groupings stop at the same statement.
-/

namespace MappingDdl

/-! ## Lists of lists -/

section FlatMap

variable {α β γ : Type}

/-- To leave elements out is to have them contribute nothing. -/
theorem flatMap_filter (p : α → Bool) (f : α → List β) (l : List α) :
    (l.filter p).flatMap f = l.flatMap fun a => if p a then f a else [] := by
  induction l with
  | nil => rfl
  | cons a rest ih =>
    rw [List.flatMap_cons, ← ih]
    by_cases h : p a
    · rw [List.filter_cons_of_pos h, List.flatMap_cons, if_pos h]
    · rw [List.filter_cons_of_neg h, if_neg h, List.nil_append]

/-- Rows before columns and columns before rows give the same cells. -/
theorem flatMap_flatMap_perm (f : α → β → List γ) (as : List α) (bs : List β) :
    (as.flatMap fun a => bs.flatMap (f a)).Perm (bs.flatMap fun b => as.flatMap (f · b)) := by
  -- on the columns: the first one is taken out of every row
  induction bs with
  | nil => simp
  | cons b rest ih =>
    simp only [List.flatMap_cons]
    exact (List.flatMap_append_perm as (f · b) fun a => rest.flatMap (f a)).symm.trans
      (ih.append_left _)

end FlatMap

namespace Plan

variable {fl : Flavor} {on : Toggles} {g : Grouping} {s : Schema} {ks : List StatementKind}
  {ts : List Table}

/-! ## Arranged statements -/

/-- The statements of given kinds for given tables, in the order of a grouping. -/
def arranged (fl : Flavor) (ks : List StatementKind) (ts : List Table) :
    Grouping → List Statement
  | .byTable => ts.flatMap fun t => ks.flatMap (fl.tableStatements t)
  | .byKind => ks.flatMap fun k => ts.flatMap (fl.tableStatements · k)

/-- Both groupings arrange the same statements: those of each kind for each table. -/
theorem mem_arranged_iff {x : Statement} :
    x ∈ arranged fl ks ts g ↔ ∃ t ∈ ts, ∃ k ∈ ks, x ∈ fl.tableStatements t k := by
  cases g with
  | byTable => simp only [arranged, List.mem_flatMap]
  | byKind =>
    simp only [arranged, List.mem_flatMap]
    constructor
    -- one order of the two quantifiers is as good as the other
    · rintro ⟨k, hk, t, ht, hx⟩
      exact ⟨t, ht, k, hk, hx⟩
    · rintro ⟨t, ht, k, hk, hx⟩
      exact ⟨k, hk, t, ht, hx⟩

/-- All statements of one kind for a table are kept, or none is. -/
theorem filter_tableStatements (p : StatementKind → Bool) (t : Table) (k : StatementKind) :
    (fl.tableStatements t k).filter (p ·.kind) = if p k then fl.tableStatements t k else [] := by
  split
  -- a statement of a table is of the kind under which it was listed
  · next h =>
    refine List.filter_eq_self.2 fun x hx => ?_
    rw [Flavor.kind_of_mem_tableStatements hx]
    exact h
  · next h =>
    refine List.filter_eq_nil_iff.2 fun x hx => ?_
    rw [Flavor.kind_of_mem_tableStatements hx]
    exact h

/-- To leave out statements by their kind is to leave out the kinds. -/
theorem filter_arranged (p : StatementKind → Bool) :
    (arranged fl ks ts g).filter (p ·.kind) = arranged fl (ks.filter p) ts g := by
  cases g with
  | byTable =>
    simp only [arranged, List.filter_flatMap, filter_tableStatements, flatMap_filter]
  | byKind =>
    simp only [arranged, List.filter_flatMap, filter_tableStatements, flatMap_filter]
    refine congrArg ks.flatMap (funext fun k => ?_)
    by_cases h : p k <;> simp [h]

/-- Both groupings hold the same statements, each of them as often. -/
theorem arranged_perm (fl : Flavor) (ks : List StatementKind) (ts : List Table) :
    (arranged fl ks ts .byTable).Perm (arranged fl ks ts .byKind) :=
  flatMap_flatMap_perm fl.tableStatements ts ks

/-- With one kind of statements there is nothing to group. -/
theorem arranged_singleton (fl : Flavor) (k : StatementKind) (ts : List Table) (g : Grouping) :
    arranged fl [k] ts g = ts.flatMap (fl.tableStatements · k) := by
  cases g with
  | byTable => simp only [arranged, List.flatMap_singleton]
  | byKind => exact List.flatMap_singleton _ _

/-- A kind that is switched on has its statements in the order of the tables, under both groupings;
one that is switched off has none. -/
theorem filter_kind_arranged {k : StatementKind} (hk : k ∈ StatementKind.ofTables) :
    (arranged fl (kinds on) ts g).filter (·.kind = k) =
      if on.allows k then ts.flatMap (fl.tableStatements · k) else [] := by
  have hKinds : (kinds on).filter (· = k) = if on.allows k then [k] else [] := by
    -- each kind is listed once
    have hOne : StatementKind.ofTables.filter (· = k) = [k] := by
      revert hk
      cases k <;> decide
    rw [kinds, List.filter_comm, hOne, List.filter_singleton, Bool.cond_eq_ite]
  rw [filter_arranged (fun l => decide (l = k)), hKinds]
  split
  -- kinds that are switched off have no statements at all
  · exact arranged_singleton fl k ts g
  · cases g with
    | byTable => exact List.flatMap_eq_nil_iff.2 fun t _ => rfl
    | byKind => rfl

/-! ## The statements of a plan -/

/-- The statements of the schema itself. -/
def ownStatements (fl : Flavor) (on : Toggles) (s : Schema) : List Statement :=
  if on.schema then fl.schemaStatements (s.name.filter (· != "")) else []

/-- The statements that belong to no table are about the schema itself. -/
theorem kind_of_mem_ownStatements {x : Statement} (h : x ∈ ownStatements fl on s) :
    x.kind = .schema := by
  unfold ownStatements Flavor.schemaStatements at h
  split at h
  · split at h
    · rcases List.mem_pair.1 h with rfl | rfl <;> rfl
    · cases h
  · cases h

/-- The statements of the tables are not about the schema itself. -/
theorem kind_ne_of_mem_arranged {x : Statement} (h : x ∈ arranged fl (kinds on) ts g) :
    x.kind ≠ .schema := by
  obtain ⟨t, -, k, hk, hx⟩ := mem_arranged_iff.1 h
  rw [Flavor.kind_of_mem_tableStatements hx]
  rintro rfl
  exact absurd (List.mem_of_mem_filter hk) (by decide)

/-- A plan has the statements of the schema itself, then those of its tables in their arrangement.
-/
theorem statements_ofSchema (fl : Flavor) (on : Toggles) (g : Grouping) (s : Schema) :
    statements (ofSchema fl on g s) =
      ownStatements fl on s ++ arranged fl (kinds on) s.tables g := by
  -- blank lines and remarks are no statements, so they are left out on both sides
  have hPreamble : statements (preamble fl on s) = ownStatements fl on s := by
    unfold preamble ownStatements
    split
    · simp only [statements, List.filterMap_map]
      exact List.filterMap_some
    · rfl
  have hTables : statements (tables fl on s g) = arranged fl (kinds on) s.tables g := by
    -- the same holds of the tasks of each table
    have hStep (k : StatementKind) (t : Table) :
        (ofTable fl k t).filterMap (·.statement?) = fl.tableStatements t k :=
      statements_ofTable fl k t
    cases g <;> simp only [statements, tables, arranged, List.filterMap_flatMap, hStep]
  rw [← hPreamble, ← hTables]
  exact List.filterMap_append

/-- A kind of table statements has the same ones in the same order under both groupings. -/
theorem filter_kind_statements {k : StatementKind} (hk : k ∈ StatementKind.ofTables) :
    (statements (ofSchema fl on g s)).filter (·.kind = k) =
      if on.allows k then s.tables.flatMap (fl.tableStatements · k) else [] := by
  have hNone : (ownStatements fl on s).filter (·.kind = k) = [] := by
    refine List.filter_eq_nil_iff.2 fun x hx => ?_
    rw [kind_of_mem_ownStatements hx]
    revert hk
    cases k <;> decide
  rw [statements_ofSchema, List.filter_append, hNone, filter_kind_arranged hk, List.nil_append]

/-- The kinds that are written are those of a full script that the settings allow. -/
theorem kinds_eq_filter (on : Toggles) : kinds on = (kinds {}).filter on.allows := by
  rw [show kinds {} = StatementKind.ofTables from rfl]
  rfl

/-- Switching kinds off leaves out their statements, and nothing else. -/
theorem statements_ofSchema_filter (fl : Flavor) (on : Toggles) (g : Grouping) (s : Schema) :
    statements (ofSchema fl on g s) =
      (statements (ofSchema fl {} g s)).filter (on.allows ·.kind) := by
  have hOwn : (ownStatements fl {} s).filter (on.allows ·.kind) = ownStatements fl on s := by
    have hKept : ∀ x ∈ ownStatements fl {} s, on.allows x.kind = on.schema := fun x hx => by
      rw [kind_of_mem_ownStatements hx]
      rfl
    rw [List.filter_congr hKept]
    cases h : on.schema <;> simp [ownStatements, h]
  -- the schema's own statements are of one kind, those of tables are arranged by kinds
  rw [statements_ofSchema, statements_ofSchema, List.filter_append, hOwn, filter_arranged,
    kinds_eq_filter]

/-- Under both groupings the same statement is the first that cannot be written. -/
theorem firstFaulty?_grouping (fl : Flavor) (on : Toggles) (s : Schema) (st : Style)
    (g g' : Grouping) :
    Statement.firstFaulty? st (statements (ofSchema fl on g s)) =
      Statement.firstFaulty? st (statements (ofSchema fl on g' s)) := by
  -- only the statements of key generators count, and those stand in the order of the tables
  rw [← Statement.firstFaulty?_filter, ← Statement.firstFaulty?_filter st (statements _)]
  simp only [filter_kind_statements (show .keyGenerator ∈ StatementKind.ofTables by decide)]

end Plan

/-! ## Groupings by name -/

/-- A grouping is read from its own text. -/
theorem Grouping.ofText?_text (g : Grouping) : Grouping.ofText? g.text = some g := by
  cases g <;> decide +kernel

/-- Settings with the text of a grouping have this grouping. -/
theorem Settings.grouping_of_text {settings : Settings} {g : Grouping}
    (h : settings.groupBy = g.text) : settings.grouping = .ok g := by
  simp only [Settings.grouping, h, Grouping.ofText?_text]

end MappingDdl
