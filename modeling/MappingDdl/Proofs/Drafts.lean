import MappingDdl.Proofs.Columns
import MappingDdl.Proofs.Emission
import MappingDdl.Proofs.Table
import MappingDdl.Schema.Draft

/-!
# Drafts — what steps on a schema made by hand keep

A draft is worked on step by step, and each step may fail. Whatever is done, and in whatever order,
the names of its tables stay distinct, so do the names in its schema and those of the columns of
each table (`Draft.WellFormed`). A step that fails changes nothing, apart from what a failed writing
has left in the script.

All that a step can do is said once (`Draft.Step`); what runs keep is shown from that.

Main results:

* `Draft.performed_perform` — a step that is taken is one of `Draft.Step`, and one that fails leaves
  all but the script as it was.
* `Draft.WellFormed.run` — every run keeps the names distinct.
* `Draft.mem_tableNames_run_new_iff` — the names in the schema of a draft are those of its tables.
* `Draft.schemaTable?_run_of_replaced` — a table that was replaced while it was in the schema stays
  there for ever.
* `Draft.write_eq_ok` — a writing that succeeds adds the statements of the table, in their order.
-/

namespace MappingDdl

namespace Draft

/-- A step of the work on a draft. -/
inductive Action
  | newTable (name : String)
  | newPrimaryKey (table : String)
  | addColumn (table name type : String) (identity required : Bool) (generator : Option String)
  | addKeyColumn (table column : String)
  | setIdentity (table column : String) (identity : Bool)
  | addForeignKey (table : String) (k : ForeignKey)
  | addIndex (table : String) (i : Index)
  | newGenerator (g : KeyGeneratorDef)
  | bind (table generator : String)
  | addTable (table : String)
  | write (kind : StatementKind) (table : String)

/-- The draft that a computation gives, or the draft there was and an error. -/
def attempt (d : Draft) (x : Except DraftError Draft) : Draft × Except DraftError Unit :=
  match x with
  | .ok d' => (d', .ok ())
  | .error e => (d, .error e)

/-- Takes a step. -/
def perform (d : Draft) : Action → Draft × Except DraftError Unit
  | .newTable name => (d.newTable name, .ok ())
  | .newPrimaryKey table => d.attempt ((d.newPrimaryKey table).map (·.1))
  | .addColumn table name type identity required generator =>
    d.attempt (d.addColumn table name type identity required generator)
  | .addKeyColumn table column => d.attempt (d.addKeyColumn table column)
  | .setIdentity table column identity => d.attempt (d.setIdentity table column identity)
  | .addForeignKey table k => d.attempt (d.addForeignKey table k)
  | .addIndex table i => d.attempt (d.addIndex table i)
  | .newGenerator g => d.attempt ((d.newGenerator g).map (·.1))
  | .bind table generator => d.attempt (d.bind table generator)
  | .addTable table => d.attempt (d.addTable table)
  | .write kind table => d.write kind table

/-- The draft after some steps, of which any may fail. -/
def run (d : Draft) (as : List Action) : Draft :=
  as.foldl (fun d a => (d.perform a).1) d

/-- The drafts differ in the script at most, and in the tables that key generators were last
written for. -/
def SameTables (d d' : Draft) : Prop :=
  ∃ script served, d' = { d with script, served }

/-! ## What a step can do -/

/-- A table comes from another one by a change that keeps its name and repeats no column. -/
structure Revises (t t' : Table) : Prop where
  name    : t'.name = t.name
  columns : t.columnNames.Nodup → t'.columnNames.Nodup

/-- What a step that is taken makes of a draft. -/
inductive Step (d : Draft) : Draft → Prop
  /-- A table is made. -/
  | made (name : String) : Step d (d.newTable name)
  /-- A table is changed. -/
  | revised {name : String} {t t' : Table} (hFind : d.table? name = some t)
      (hRevises : Revises t t') : Step d (d.update t')
  /-- A key generator is made. -/
  | generated (g : KeyGenerator) :
      Step d { d with generators := g :: d.generators.filter (·.name != g.name)
                      revision := d.revision + 1 }
  /-- A table is put into the schema. -/
  | entered {name : String} {t : Table} (hFind : d.table? name = some t)
      (hNew : name ∉ d.tableNames) : Step d { d with entries := d.entries ++ [⟨name, none⟩] }
  /-- Statements are written. -/
  | written {d' : Draft} (hSame : d.SameTables d') : Step d d'

section Names

variable {d d' : Draft} {name : String} {t t' : Table}

/-- A name that must stand for a table does so where a step is taken. -/
theorem table_eq_ok_iff : d.table name = .ok t ↔ d.table? name = some t := by
  unfold table
  cases d.table? name <;> simp

/-- A table is found under its own name. -/
theorem name_eq_of_table? (h : d.table? name = some t) : t.name = name := by
  have hFound := List.find?_some h
  exact beq_iff_eq.1 hFound

/-- What is found is a table of the draft. -/
theorem mem_of_table? (h : d.table? name = some t) : t ∈ d.tables :=
  List.mem_of_find?_eq_some h

end Names

/-! ### Step by step -/

section Steps

variable {d : Draft} {α β : Type} {draft : α → Draft}

/-- Whatever the computation gives, its draft is a step away. -/
def Leads (d : Draft) (draft : α → Draft) (x : Except DraftError α) : Prop :=
  ∀ a, x = .ok a → Step d (draft a)

/-- A step in two parts leads on if its second part does, whatever the first one gives. -/
theorem Leads.bind {x : Except DraftError β} {f : β → Except DraftError α}
    (h : ∀ b, x = .ok b → d.Leads draft (f b)) : d.Leads draft (x >>= f) := by
  intro a hx
  obtain ⟨b, hb, hf⟩ := bind_eq_ok_iff.1 hx
  exact h b hb a hf

/-- Where nothing succeeds, there is nothing to lead to. -/
theorem Leads.error {e : DraftError} : d.Leads draft (.error e) := nofun

/-- What succeeds leads to its result. -/
theorem Leads.ok {a : α} (h : Step d (draft a)) : d.Leads draft (.ok a) := by
  rintro _ ⟨⟩
  exact h

/-- A change of a table that is known is a step. -/
theorem Step.of_table {name : String} {t t' : Table} (hTable : d.table name = .ok t)
    (h : Revises t t') : Step d (d.update t') :=
  .revised (table_eq_ok_iff.1 hTable) h

/-- A table with the same column names is a revision. -/
theorem Revises.of_columnNames_eq {t t' : Table} (hName : t'.name = t.name)
    (hColumns : t'.columnNames = t.columnNames) : Revises t t' :=
  ⟨hName, fun h => hColumns ▸ h⟩

/-- A column that is added is not there twice. -/
theorem Revises.of_addColumn {t t' : Table} {c : Column} (h : t.addColumn c = .ok t') :
    Revises t t' := by
  refine ⟨?_, Table.nodup_columnNames_of_addColumn h⟩
  obtain ⟨-, rfl⟩ := Table.addColumn_eq_ok_iff.1 h
  rfl

/-- An empty primary key revises the table. -/
theorem leads_newPrimaryKey (name : String) : d.Leads (·.1) (d.newPrimaryKey name) := by
  refine .bind fun t hTable => .ok (.of_table hTable ?_)
  exact .of_columnNames_eq rfl rfl

/-- A column that is added revises it, -/
theorem leads_addColumn (table name type : String) (identity required : Bool)
    (generator : Option String) :
    d.Leads id (d.addColumn table name type identity required generator) := by
  refine .bind fun t hTable => .bind fun keyGenerator _ => .bind fun found _ => ?_
  cases found with
  | none => exact .error
  | some type =>
    refine .bind fun t' hAdded => .ok (.of_table hTable ?_)
    exact .of_addColumn (mapError_eq_ok_iff.1 hAdded)

/-- so does a column that joins the key, -/
theorem leads_addKeyColumn (table column : String) :
    d.Leads id (d.addKeyColumn table column) := by
  refine .bind fun t hTable => ?_
  split
  · exact .error
  · exact .ok (.of_table hTable (.of_columnNames_eq rfl (Table.columnNames_addKeyColumn t column)))

/-- a column that becomes an identity column or ceases to be one, -/
theorem leads_setIdentity (table column : String) (identity : Bool) :
    d.Leads id (d.setIdentity table column identity) := by
  refine .bind fun t hTable => ?_
  split
  · exact .error
  · have hNames := Table.columnNames_setIdentity t column identity
    exact .ok (.of_table hTable (Revises.of_columnNames_eq rfl hNames))

/-- a foreign key, -/
theorem leads_addForeignKey (table : String) (k : ForeignKey) :
    d.Leads id (d.addForeignKey table k) := by
  refine .bind fun t hTable => .bind fun _ _ => .ok (.of_table hTable ?_)
  exact .of_columnNames_eq rfl rfl

/-- an index, -/
theorem leads_addIndex (table : String) (i : Index) : d.Leads id (d.addIndex table i) := by
  refine .bind fun t hTable => .ok (.of_table hTable ?_)
  exact .of_columnNames_eq rfl rfl

/-- and a key generator. -/
theorem leads_bind (table generator : String) : d.Leads id (d.bind table generator) := by
  refine .bind fun t hTable => .bind fun g _ => .ok (.of_table hTable ?_)
  exact .of_columnNames_eq rfl rfl

/-- A key generator that is declared comes in under its name. -/
theorem leads_newGenerator (g : KeyGeneratorDef) : d.Leads (·.1) (d.newGenerator g) :=
  .bind fun g _ => .ok (.generated { g with revision := d.revision })

/-- A table enters the schema if no other table has its name there. -/
theorem leads_addTable (name : String) : d.Leads id (d.addTable name) := by
  refine .bind fun t hTable => ?_
  have hFind := table_eq_ok_iff.1 hTable
  split
  · exact .error
  · next hNew =>
    rw [name_eq_of_table? hFind, List.contains_iff_mem] at hNew
    exact .ok (.entered hFind hNew)

/-- A writing changes the script, and remembers what it was for. -/
theorem sameTables_write (d : Draft) (kind : StatementKind) (table : String) :
    d.SameTables (d.write kind table).1 := by
  -- remembering a table for a kind touches the script only
  have hServe (t : Table) (sc : Script) : d.SameTables { d.serve kind t with script := sc } := by
    unfold serve
    split
    · exact ⟨_, _, rfl⟩
    · exact ⟨_, _, rfl⟩
  unfold write
  split
  · exact ⟨_, _, rfl⟩
  -- an unknown table, no statements, or statements that are written or fail
  · split
    · exact ⟨_, _, rfl⟩
    · dsimp only
      split <;> exact hServe _ _

end Steps

/-- The result is that of a step: either it was taken, or it failed, and left all but the script as
it was. -/
def Performed (d : Draft) (r : Draft × Except DraftError Unit) : Prop :=
  r.2 = .ok () ∧ Step d r.1 ∨ (∃ e, r.2 = .error e) ∧ d.SameTables r.1

/-- An attempt is a step, or it changes nothing. -/
theorem performed_attempt {d : Draft} {α : Type} {draft : α → Draft} {x : Except DraftError α}
    (h : d.Leads draft x) : d.Performed (d.attempt (x.map draft)) := by
  cases x with
  | ok a => exact Or.inl ⟨rfl, h a rfl⟩
  | error e => exact Or.inr ⟨⟨e, rfl⟩, _, _, rfl⟩

/-- The same for a step with no result but the draft. -/
theorem performed_attempt_id {d : Draft} {x : Except DraftError Draft} (h : d.Leads id x) :
    d.Performed (d.attempt x) := by
  have hMapped := performed_attempt h
  rwa [Except.map_id] at hMapped

/-- Writing changes the script only, whether it succeeds or not. -/
theorem performed_write (d : Draft) (kind : StatementKind) (table : String) :
    d.Performed (d.write kind table) := by
  have hSame := sameTables_write d kind table
  cases hResult : (d.write kind table).2 with
  | ok u => exact Or.inl ⟨hResult, .written hSame⟩
  | error e => exact Or.inr ⟨⟨e, hResult⟩, hSame⟩

/-- **All that a step can do.** A step that is taken is one of `Step`; one that fails leaves all but
the script as it was. -/
theorem performed_perform (d : Draft) (a : Action) : d.Performed (d.perform a) := by
  -- most steps lead to one of the changes, or fail
  cases a with
  | newTable name => exact Or.inl ⟨rfl, .made name⟩
  | newPrimaryKey table => exact performed_attempt (leads_newPrimaryKey table)
  | addColumn table name type identity required generator =>
    exact performed_attempt_id (leads_addColumn table name type identity required generator)
  | addKeyColumn table column => exact performed_attempt_id (leads_addKeyColumn table column)
  | setIdentity table column identity =>
    exact performed_attempt_id (leads_setIdentity table column identity)
  | addForeignKey table k => exact performed_attempt_id (leads_addForeignKey table k)
  | addIndex table i => exact performed_attempt_id (leads_addIndex table i)
  | newGenerator g =>
    rw [perform]
    exact performed_attempt (leads_newGenerator g)
  | bind table generator => exact performed_attempt_id (leads_bind table generator)
  | addTable table => exact performed_attempt_id (leads_addTable table)
  | write kind table => exact performed_write d kind table

/-! ## Distinct names -/

/-- The names of a draft are distinct: those of its tables, those in its schema, which all stand for
a table, those of its key generators, and those of the columns of each table. -/
structure WellFormed (d : Draft) : Prop where
  tables     : (d.tables.map (·.name)).Nodup
  columns    : ∀ t ∈ d.tables, t.columnNames.Nodup
  entries    : d.tableNames.Nodup
  known      : ∀ e ∈ d.entries, (d.table? e.name).isSome = true
  replaced   : ∀ e ∈ d.entries, ∀ t ∈ e.replaced, t.name = e.name ∧ t.columnNames.Nodup
  generators : (d.generators.map (·.name)).Nodup

section Updates

variable {d : Draft} {t t' : Table} {name : String}

/-- A table takes the place of the one of its name. -/
theorem table?_update (d : Draft) (t : Table) (name : String) :
    (d.update t).table? name = (d.table? name).map fun x => if x.name == t.name then t else x := by
  unfold table? update
  rw [List.find?_map]
  congr 2
  funext x
  simp only [Function.comp_apply]
  split
  · next hSame => rw [beq_iff_eq.1 hSame]
  · rfl

/-- To replace a table by one of its name changes no name. -/
theorem map_name_update (d : Draft) (t : Table) :
    (d.update t).tables.map (·.name) = d.tables.map (·.name) := by
  unfold update
  rw [List.map_map]
  refine List.map_congr_left fun x _ => ?_
  simp only [Function.comp_apply]
  split
  · next hSame => exact (beq_iff_eq.1 hSame).symm
  · rfl

/-- Nothing but a table is changed. -/
theorem WellFormed.update (h : d.WellFormed) (hColumns : t.columnNames.Nodup) :
    -- a table keeps its name when it is changed
    (d.update t).WellFormed where
  tables := map_name_update d t ▸ h.tables
  columns x hx := by
    obtain ⟨y, hy, rfl⟩ := List.mem_map.1 hx
    split
    · exact hColumns
    · exact h.columns y hy
  entries := h.entries
  -- what was found is found, though it may have changed
  known e he := by
    rw [table?_update, Option.isSome_map]
    exact h.known e he
  replaced := h.replaced
  generators := h.generators

/-- An entry of the schema keeps the table that its name stands for, before this is replaced. -/
def keep (old : Table) (name : String) (e : DraftEntry) : DraftEntry :=
  if e.name == name && e.replaced.isNone then ⟨name, some old⟩ else e

/-- An entry that keeps a replaced table keeps its name. -/
@[simp] theorem name_keep (old : Table) (name : String) (e : DraftEntry) :
    (keep old name e).name = e.name := by
  unfold keep
  split
  · next h =>
    rw [Bool.and_eq_true, beq_iff_eq] at h
    exact h.1.symm
  · rfl

/-- A table with a new name comes in at the end. -/
theorem newTable_of_none (h : d.table? name = none) :
    d.newTable name = { d with tables := d.tables ++ [{ name }] } := by
  unfold newTable
  rw [h]

/-- A table with the name of another one replaces it, and the schema keeps the old one. -/
theorem newTable_of_some (h : d.table? name = some t) :
    d.newTable name = { d with entries := d.entries.map (keep t name) }.update { name } := by
  unfold newTable
  rw [h]
  rfl

/-- A name that stands for no table is none of those of the tables. -/
theorem not_mem_of_table?_eq_none (h : d.table? name = none) : name ∉ d.tables.map (·.name) := by
  intro hMem
  obtain ⟨t, ht, hName⟩ := List.mem_map.1 hMem
  have hNot := List.find?_eq_none.1 h t ht
  exact hNot (beq_iff_eq.2 hName)

/-- One table more, with a new name and no columns, leaves the names distinct. -/
theorem WellFormed.append (h : d.WellFormed) (hNone : d.table? name = none) :
    WellFormed { d with tables := d.tables ++ [{ name }] } where
  tables := by
    rw [List.map_append, List.map_singleton, ← List.concat_eq_append]
    exact h.tables.concat (not_mem_of_table?_eq_none hNone)
  columns x hx := by
    -- the new table has no columns, so none of them twice
    rcases List.mem_append.1 hx with hOld | hNew
    · exact h.columns x hOld
    · rw [List.mem_singleton.1 hNew]
      exact List.nodup_nil
  entries := h.entries
  known e he := by
    unfold table?
    rw [List.find?_append, Option.isSome_or]
    exact Bool.or_eq_true_iff.2 (Or.inl (h.known e he))
  replaced := h.replaced
  generators := h.generators

/-- So does a schema that keeps a table of the draft. -/
theorem WellFormed.keep {old : Table} (h : d.WellFormed) (hFind : d.table? name = some old) :
    WellFormed { d with entries := d.entries.map (Draft.keep old name) } where
  tables := h.tables
  columns := h.columns
  entries := by
    unfold tableNames
    rw [List.map_map]
    exact (List.map_congr_left fun e _ => name_keep old name e) ▸ h.entries
  -- an entry keeps its name when it keeps its table
  known e he := by
    obtain ⟨e₀, he₀, rfl⟩ := List.mem_map.1 he
    rw [name_keep]
    exact h.known e₀ he₀
  replaced e he t ht := by
    obtain ⟨e₀, he₀, rfl⟩ := List.mem_map.1 he
    unfold Draft.keep at ht ⊢
    split at ht
    · next hKept =>
      -- the entry keeps the old table, which was found under this name
      rw [if_pos hKept]
      cases ht
      exact ⟨name_eq_of_table? hFind, h.columns _ (mem_of_table? hFind)⟩
    · next hOther =>
      rw [if_neg hOther]
      exact h.replaced e₀ he₀ t ht
  generators := h.generators

/-- A table that is made has no columns; what had its name leaves the draft, but not the schema. -/
theorem WellFormed.newTable (h : d.WellFormed) (name : String) : (d.newTable name).WellFormed := by
  cases hFind : d.table? name with
  | none =>
    rw [newTable_of_none hFind]
    exact h.append hFind
  | some old =>
    rw [newTable_of_some hFind]
    exact (h.keep hFind).update List.nodup_nil

end Updates

/-- A draft with the same tables is as well formed. -/
theorem WellFormed.of_sameTables {d d' : Draft} (hSame : d.SameTables d') (h : d.WellFormed) :
    d'.WellFormed := by
  obtain ⟨script, served, rfl⟩ := hSame
  exact ⟨h.tables, h.columns, h.entries, h.known, h.replaced, h.generators⟩

/-- Every step keeps the names distinct. -/
theorem WellFormed.of_step {d d' : Draft} (hStep : Step d d') (h : d.WellFormed) :
    d'.WellFormed := by
  cases hStep with
  -- the old table leaves the draft, but not the schema
  | made name => exact h.newTable name
  -- a table was changed in a way that keeps its columns different
  | @revised name t t' hFind hRevises =>
    exact h.update (hRevises.columns (h.columns t (mem_of_table? hFind)))
  | generated g =>
    refine { h with generators := ?_ }
    -- a declaration replaces the one before that has its name
    rw [List.map_cons, List.nodup_cons]
    constructor
    · intro hMem
      obtain ⟨g', hg', hName⟩ := List.mem_map.1 hMem
      obtain ⟨-, hOther⟩ := List.mem_filter.1 hg'
      simp [hName] at hOther
    · exact h.generators.sublist (List.filter_sublist.map _)
  | @entered name t hFind hNew =>
    -- the table has entered the schema under a name that was new there
    refine { h with entries := ?_, known := ?_, replaced := ?_ }
    · unfold tableNames
      rw [List.map_append, List.map_singleton, ← List.concat_eq_append]
      exact h.entries.concat hNew
    · intro e he
      rcases List.mem_append.1 he with hOld | hHere
      · exact h.known e hOld
      · rw [List.mem_singleton.1 hHere]
        exact Option.isSome_iff_exists.2 ⟨t, hFind⟩
    -- and nothing has taken its place yet
    · intro e he
      rcases List.mem_append.1 he with hOld | hHere
      · exact h.replaced e hOld
      · rw [List.mem_singleton.1 hHere]
        exact nofun
  | written hSame => exact h.of_sameTables hSame

/-- So does a step that may fail. -/
theorem WellFormed.perform {d : Draft} (h : d.WellFormed) (a : Action) :
    (d.perform a).1.WellFormed := by
  rcases performed_perform d a with ⟨-, hStep⟩ | ⟨-, hSame⟩
  · exact h.of_step hStep
  · exact h.of_sameTables hSame

/-- An empty draft has no names at all. -/
theorem wellFormed_new (dialect : Dialect) (s : Settings) (schema : Option String) :
    (new dialect s schema).WellFormed where
  tables := List.nodup_nil
  columns := nofun
  entries := List.nodup_nil
  known := nofun
  replaced := nofun
  generators := List.nodup_nil

/-- **Names stay distinct.** Whatever steps are taken on a draft, and whichever of them fail, no two
of its tables have one name, nor do two tables of its schema, two of its key generators, or two
columns of a table. -/
theorem WellFormed.run {d : Draft} (h : d.WellFormed) (as : List Action) :
    (d.run as).WellFormed := by
  induction as generalizing d with
  | nil => exact h
  | cons a rest ih => exact ih (h.perform a)

/-- Every name in the schema of a draft stands for a table of this name. -/
theorem WellFormed.mem_tableNames_iff {d : Draft} (h : d.WellFormed) {name : String} :
    name ∈ d.tableNames ↔ ∃ t, d.schemaTable? name = some t ∧ t.name = name ∧
      t.columnNames.Nodup := by
  unfold schemaTable? tableNames
  constructor
  -- the entry of the name either kept its table or finds it among the tables of the draft
  · intro hMem
    obtain ⟨e₀, he₀, hName⟩ := List.mem_map.1 hMem
    obtain ⟨e, hFind⟩ : ∃ e, d.entries.find? (·.name == name) = some e :=
      Option.isSome_iff_exists.1 (List.find?_isSome.2 ⟨e₀, he₀, beq_iff_eq.2 hName⟩)
    have hFound := List.find?_some hFind
    have hEntry : e.name = name := beq_iff_eq.1 hFound
    have hIn := List.mem_of_find?_eq_some hFind
    rw [hFind, Option.bind_some]
    cases hReplaced : e.replaced with
    | some t =>
      obtain ⟨hOwn, hColumns⟩ := h.replaced e hIn t hReplaced
      exact ⟨t, rfl, hOwn.trans hEntry, hColumns⟩
    | none =>
      obtain ⟨t, ht⟩ := Option.isSome_iff_exists.1 (hEntry ▸ h.known e hIn)
      exact ⟨t, ht, name_eq_of_table? ht, h.columns t (mem_of_table? ht)⟩
  -- and the other way round: what is found was entered
  · rintro ⟨t, hSome, -, -⟩
    obtain ⟨e, hFind, -⟩ := Option.bind_eq_some_iff.1 hSome
    have hFound := List.find?_some hFind
    exact List.mem_map.2 ⟨e, List.mem_of_find?_eq_some hFind, beq_iff_eq.1 hFound⟩

/-- **Names and tables.** Whatever is done to a new draft, the names in its schema are those under
which it has a table, and this table has columns with distinct names. -/
theorem mem_tableNames_run_new_iff (dialect : Dialect) (s : Settings) (schema : Option String)
    (as : List Action) (name : String) :
    name ∈ ((new dialect s schema).run as).tableNames ↔
      ∃ t, ((new dialect s schema).run as).schemaTable? name = some t ∧ t.name = name ∧
        t.columnNames.Nodup :=
  ((wellFormed_new dialect s schema).run as).mem_tableNames_iff

/-! ## Tables that were replaced -/

/-- The schema holds a table that the name does not stand for any more. -/
def Holds (d : Draft) (name : String) (t : Table) : Prop :=
  ∃ e, d.entries.find? (·.name == name) = some e ∧ e.replaced = some t

section Replaced

variable {d d' : Draft} {name : String} {t : Table}

/-- It is then the table of this name in the schema. -/
theorem Holds.schemaTable? (h : d.Holds name t) : d.schemaTable? name = some t := by
  obtain ⟨e, hFind, hReplaced⟩ := h
  unfold Draft.schemaTable?
  rw [hFind, Option.bind_some, hReplaced, Option.some_or]

/-- No step changes a table that was replaced. -/
theorem Holds.of_step (hStep : Step d d') (h : d.Holds name t) : d'.Holds name t := by
  obtain ⟨e, hFind, hReplaced⟩ := h
  cases hStep with
  | made new =>
    cases hNew : d.table? new with
    -- a new table does not touch the entries
    | none =>
      rw [newTable_of_none hNew]
      exact ⟨e, hFind, hReplaced⟩
    | some old =>
      rw [newTable_of_some hNew]
      -- the entry has a table to itself already, so it is passed over
      have hKept : keep old new e = e := by
        simp [keep, hReplaced]
      refine ⟨e, ?_, hReplaced⟩
      change (d.entries.map (keep old new)).find? (·.name == name) = some e
      have hNames : (fun e : DraftEntry => e.name == name) ∘ keep old new = (·.name == name) :=
        funext fun x => by simp
      rw [List.find?_map, hNames, hFind, Option.map_some, hKept]
  -- the other changes do not touch the entries, or put one more behind them
  | revised => exact ⟨e, hFind, hReplaced⟩
  | generated => exact ⟨e, hFind, hReplaced⟩
  | entered =>
    refine ⟨e, ?_, hReplaced⟩
    rw [List.find?_append, hFind, Option.some_or]
  | written hSame =>
    obtain ⟨script, served, rfl⟩ := hSame
    exact ⟨e, hFind, hReplaced⟩

/-- So it stays there during a whole run. -/
theorem Holds.run (h : d.Holds name t) (as : List Action) : (d.run as).Holds name t := by
  induction as generalizing d with
  | nil => exact h
  | cons a rest ih =>
    refine ih ?_
    rcases performed_perform d a with ⟨-, hStep⟩ | ⟨-, hSame⟩
    · exact h.of_step hStep
    · exact h.of_step (.written hSame)

/-- A table of the schema is held there once its name stands for a new one. -/
theorem holds_of_newTable (hFind : d.table? name = some t) (hIn : d.isInSchema name = true)
    (hNodup : d.tableNames.Nodup) : (d.newTable name).Holds name t := by
  -- its entry is the only one of this name
  obtain ⟨e, he, hEntry⟩ := List.any_eq_true.1 hIn
  obtain ⟨hName, -⟩ := Bool.and_eq_true_iff.1 hEntry
  obtain rfl : e.name = name := beq_iff_eq.1 hName
  -- and it is given the table that leaves the draft
  have hEntries : d.entries.find? (·.name == e.name) = some e := find?_of_nodup_map hNodup he
  rw [newTable_of_some hFind]
  refine ⟨keep t e.name e, ?_, by rw [keep, if_pos hEntry]⟩
  change (d.entries.map (keep t e.name)).find? (·.name == e.name) = _
  have hNames : (fun x : DraftEntry => x.name == e.name) ∘ keep t e.name = (·.name == e.name) :=
    funext fun x => by simp
  rw [List.find?_map, hNames, hEntries, Option.map_some]

/-- **What is replaced stays.** A table that is in the schema when its name gets a new table is in
the schema ever after, as it was then. -/
theorem schemaTable?_run_of_replaced (h : d.WellFormed) (hFind : d.table? name = some t)
    (hIn : d.isInSchema name = true) (as : List Action) :
    ((d.newTable name).run as).schemaTable? name = some t :=
  ((holds_of_newTable hFind hIn h.entries).run as).schemaTable?

end Replaced

/-! ## Writing -/

/-- The statements of a plan without notes. -/
theorem statements_map_statement (xs : List Statement) :
    Plan.statements (xs.map .statement) = xs := by
  induction xs with
  | nil => rfl
  | cons x rest ih => rw [List.map_cons, statements_statement_cons, ih]

/-- **What is written.** A writing that succeeds adds the texts of the statements of the table to
the script, in their order. -/
theorem write_eq_ok {d : Draft} {kind : StatementKind} {table : String}
    (h : (d.write kind table).2 = .ok ()) : ∃ t xs, d.table? table = some t ∧
      d.statements kind t = .ok xs ∧
      (d.write kind table).1.script = d.script.addAll (xs.map (·.text d.style)) := by
  -- an unknown table has no statements
  cases hTable : d.table table with
  | error e => simp [write, hTable] at h
  | ok t =>
    cases hStatements : d.statements kind t with
    | error e => simp [write, hTable, hStatements] at h
    | ok xs =>
      -- the statements are written as a plan without notes
      have hOutcome := outcome_emitSteps d.style d.script (xs.map .statement)
      rw [statements_map_statement] at hOutcome
      -- none of them can have failed
      cases hFault : Statement.firstFault? d.style xs with
      | none =>
        have hScript : (emitSteps d.style d.script (xs.map .statement)).script =
            d.script.addAll ((Plan.statements (xs.map .statement)).map (·.text d.style)) :=
          script_emitSteps (by rw [statements_map_statement, hFault])
        rw [statements_map_statement] at hScript
        rw [hFault] at hOutcome
        refine ⟨t, xs, table_eq_ok_iff.1 hTable, hStatements, ?_⟩
        simp only [write, hTable, hStatements, hOutcome, emissionOutcome, Option.elim_none]
        exact hScript
      | some f =>
        -- the first statement that fails would have been the outcome
        rw [hFault] at hOutcome
        simp [write, hTable, hStatements, hOutcome, emissionOutcome] at h

end Draft

end MappingDdl
