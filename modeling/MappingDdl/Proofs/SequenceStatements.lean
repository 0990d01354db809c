import MappingDdl.Proofs.DefineBeforeUse
import MappingDdl.Proofs.Generators

/-!
# Sequence statements — which sequences a script creates, and who uses them

A key generator may serve many tables, and tables inherit the generators of others, so a table that
is bound to a sequence generator need not have a column that takes its values from it. A script has
a sequence for a table exactly if it has such a column (`Table.sequenceGenerator?`). The sequence is
named for the table, and in PostgreSQL each of these columns gets it as its default.

The statements of sequences are all that is written for key generators, and they are of one kind. So
what a script says of sequences is known table by table (`Plan.filterMap_statements`), and what it
says for one table stands in one piece (`Plan.infix_statements`), under both groupings.

Main results:

* `Blueprint.sequenceGenerator?_of_table` — which tables of a schema have a sequence.
* `Plan.sequenced` — the sequences of a plan.
* `Schema.sequences_complete` — the sequences of a script.
-/

namespace MappingDdl

/-- What is made of one element stands in one piece in what is made of all. -/
theorem infix_flatMap {α β : Type} {f : α → List β} {l : List α} {a : α} (h : a ∈ l) :
    f a <:+: l.flatMap f :=
  List.infix_of_mem_flatten (List.mem_map_of_mem h)

namespace Table

/-! ## The sequence of a table -/

/-- The key generator for which a table has a sequence: the one of the table, if this is a sequence
generator and an identity column takes its values from it. -/
def sequenceGenerator? (t : Table) : Option KeyGenerator :=
  t.keyGenerator.filter fun g => g.strategy == .sequence && !(t.columnsOf g).isEmpty

variable {t : Table} {g : KeyGenerator}

/-- A table uses a sequence if its generator is one and identity columns are bound to it. -/
theorem sequenceGenerator?_eq_some_iff :
    t.sequenceGenerator? = some g ↔
      t.keyGenerator = some g ∧ g.strategy = .sequence ∧ t.columnsOf g ≠ [] := by
  simp [sequenceGenerator?, Option.filter_eq_some_iff]

end Table

namespace Statement

/-- The table and the key generator of a sequence that a statement creates. -/
def sequence? : Statement → Option (String × KeyGenerator)
  | createSequence table g => some (table, g)
  | _ => none

/-- The table, the column and the key generator of a default. -/
def default? : Statement → Option (String × String × KeyGenerator)
  | setDefault table column g => some (table, column, g)
  | _ => none

/-- Only statements of key generators create sequences. -/
theorem sequence?_of_kind_ne {x : Statement} (h : x.kind ≠ .keyGenerator) : x.sequence? = none := by
  cases x with
  | createSequence => exact absurd rfl h
  | _ => rfl

/-- Only statements of key generators give defaults. -/
theorem default?_of_kind_ne {x : Statement} (h : x.kind ≠ .keyGenerator) : x.default? = none := by
  cases x with
  | setDefault => exact absurd rfl h
  | _ => rfl

end Statement

namespace Flavor

variable {fl : Flavor} {t : Table} {g : KeyGenerator}

/-- The defaults by which the columns of a table use the sequence of a key generator. -/
def sequenceDefaults (fl : Flavor) (t : Table) (g : KeyGenerator) : List Statement :=
  if fl = .postgresql then (t.columnsOf g).map fun c => .setDefault t.name c.name g else []

/-- A sequence is created first, and its defaults follow. -/
theorem generatorStatements_of_sequence (h : g.strategy = .sequence) :
    fl.generatorStatements t g = .createSequence t.name g :: fl.sequenceDefaults t g := by
  unfold generatorStatements sequenceDefaults
  cases fl <;> simp [h]

/-- A table has the statements of its sequence, and no other ones of its key generator. -/
theorem tableStatements_keyGenerator (fl : Flavor) (t : Table) :
    fl.tableStatements t .keyGenerator = t.sequenceGenerator?.toList.flatMap fun g =>
      .createSequence t.name g :: fl.sequenceDefaults t g := by
  cases hSequence : t.sequenceGenerator? with
  | some g =>
    obtain ⟨hBound, hStrategy, hUsed⟩ := Table.sequenceGenerator?_eq_some_iff.1 hSequence
    rw [Option.toList_some, List.flatMap_singleton, ← generatorStatements_of_sequence hStrategy]
    simp [tableStatements, hBound, hUsed]
  | none =>
    refine List.eq_nil_iff_forall_not_mem.2 fun x hx => ?_
    obtain ⟨g, hBound, hUsed, hMem⟩ := mem_tableStatements_keyGenerator_iff.1 hx
    have hStrategy := (mem_generatorStatements_iff.1 hMem).1
    cases hSequence.symm.trans
      (Table.sequenceGenerator?_eq_some_iff.2 ⟨hBound, hStrategy, hUsed⟩)

end Flavor

/-! ## The sequences of a plan -/

/-- Statements `xs` give the tables `ts` the sequences that they use. -/
structure Statement.Sequenced (fl : Flavor) (ts : List Table) (xs : List Statement) : Prop where
  /-- There is one sequence for each table with a sequence generator that it uses, in the order of
  the tables, and no other one. -/
  created  : xs.filterMap (·.sequence?) =
    ts.filterMap fun t => t.sequenceGenerator?.map fun g => (t.name, g)
  /-- In PostgreSQL the columns that use a sequence have it as their default, in their order, and no
  other columns have defaults. -/
  defaults : xs.filterMap (·.default?) =
    if fl = .postgresql then
      ts.flatMap fun t => t.sequenceGenerator?.toList.flatMap fun g =>
        (t.columnsOf g).map fun c => (t.name, c.name, g)
    else []
  /-- The defaults stand right behind their sequence. -/
  followed : ∀ t ∈ ts, ∀ g, t.sequenceGenerator? = some g →
    .createSequence t.name g :: fl.sequenceDefaults t g <:+: xs

namespace Plan

variable {fl : Flavor} {on : Toggles} {grouping : Grouping} {s : Schema} {k : StatementKind}

/-- What only the statements of one kind say is said table by table. -/
theorem filterMap_statements {α : Type} {f : Statement → Option α}
    (hk : k ∈ StatementKind.ofTables) (hOn : on.allows k = true)
    (hf : ∀ x : Statement, x.kind ≠ k → f x = none) :
    (statements (ofSchema fl on grouping s)).filterMap f =
      s.tables.flatMap fun t => (fl.tableStatements t k).filterMap f := by
  have hFilter : (statements (ofSchema fl on grouping s)).filterMap f =
      ((statements (ofSchema fl on grouping s)).filter (·.kind = k)).filterMap f := by
    rw [List.filterMap_filter]
    refine List.filterMap_congr fun x _ => ?_
    by_cases hKind : x.kind = k
    · simp [hKind]
    · simp [hKind, hf x hKind]
  rw [hFilter, filter_kind_statements hk, if_pos hOn, List.filterMap_flatMap]

/-- The statements of one kind for a table stand in one piece. -/
theorem infix_statements (hk : k ∈ StatementKind.ofTables) (hOn : on.allows k = true) {t : Table}
    (ht : t ∈ s.tables) :
    fl.tableStatements t k <:+: statements (ofSchema fl on grouping s) := by
  have hKind : k ∈ kinds on := List.mem_filter.2 ⟨hk, hOn⟩
  rw [statements_ofSchema]
  refine List.IsInfix.trans ?_ (List.suffix_append _ _).isInfix
  cases grouping with
  | byTable =>
    exact (infix_flatMap (f := fl.tableStatements t) hKind).trans
      (infix_flatMap (f := fun t => (kinds on).flatMap (fl.tableStatements t)) ht)
  | byKind =>
    exact (infix_flatMap (f := (fl.tableStatements · k)) ht).trans
      (infix_flatMap (f := fun k => s.tables.flatMap (fl.tableStatements · k)) hKind)

/-- A plan with the statements of key generators has the sequences that its tables use. -/
theorem sequenced (fl : Flavor) (grouping : Grouping) (s : Schema)
    (hOn : on.allows .keyGenerator = true) :
    Statement.Sequenced fl s.tables (statements (ofSchema fl on grouping s)) where
  created := by
    -- only statements of key generators count, and those are written table by table
    rw [filterMap_statements (by decide) hOn fun _ => Statement.sequence?_of_kind_ne,
      List.filterMap_eq_flatMap_toList]
    refine congrArg s.tables.flatMap (funext fun t => ?_)
    rw [fl.tableStatements_keyGenerator]
    -- a table that uses no sequence creates none
    cases t.sequenceGenerator? with
    | none => rfl
    | some g =>
      -- a default creates nothing
      have hNone : (fl.sequenceDefaults t g).filterMap (·.sequence?) = [] := by
        unfold Flavor.sequenceDefaults
        split
        · simp [Statement.sequence?]
        · rfl
      rw [Option.toList_some, List.flatMap_singleton,
        List.filterMap_cons_some (show Statement.sequence? _ = some (t.name, g) from rfl), hNone]
      rfl
  defaults := by
    rw [filterMap_statements (by decide) hOn fun _ => Statement.default?_of_kind_ne]
    -- only PostgreSQL has defaults, one for each column
    by_cases hFlavor : fl = .postgresql
    · rw [if_pos hFlavor]
      refine congrArg s.tables.flatMap (funext fun t => ?_)
      rw [fl.tableStatements_keyGenerator, List.filterMap_flatMap]
      refine congrArg t.sequenceGenerator?.toList.flatMap (funext fun g => ?_)
      rw [List.filterMap_cons_none rfl, Flavor.sequenceDefaults, if_pos hFlavor,
        List.filterMap_map]
      exact congrFun List.filterMap_eq_map (t.columnsOf g)
    · rw [if_neg hFlavor, List.flatMap_eq_nil_iff]
      intro t _
      rw [fl.tableStatements_keyGenerator, List.filterMap_flatMap, List.flatMap_eq_nil_iff]
      intro g _
      rw [List.filterMap_cons_none rfl, Flavor.sequenceDefaults, if_neg hFlavor, List.filterMap_nil]
  followed t ht g hSequence := by
    -- the statements of a table stand in one piece
    have hPiece : fl.tableStatements t .keyGenerator <:+: statements (ofSchema fl on grouping s) :=
      infix_statements (by decide) hOn ht
    rwa [fl.tableStatements_keyGenerator, hSequence, Option.toList_some,
      List.flatMap_singleton] at hPiece

end Plan

/-- Without sequences every schema has a script, under every grouping. -/
theorem outcome_emit_of_no_sequence {fl : Flavor} {settings : Settings} {s : Schema} {sc : Script}
    {header : List String} {mark : String} {format : Formatting} {grouping : Grouping}
    (hGrouping : settings.grouping = .ok grouping)
    (h : ∀ t ∈ s.tables, t.sequenceGenerator? = none) :
    (emit fl settings s sc header mark format).trace.outcome = .ok () := by
  rw [outcome_emit hGrouping, emissionOutcome_eq_ok_iff, Statement.firstFault?_eq_none_iff]
  intro x hx
  refine Statement.fault?_of_kind_ne fun hKind => ?_
  obtain ⟨t, ht, hMem⟩ := Plan.exists_table_of_mem hx (hKind ▸ fun hSchema => by cases hSchema)
  rw [hKind, fl.tableStatements_keyGenerator, h t ht] at hMem
  cases hMem

/-! ## The columns of a sequence -/

/-- The columns that use the key generator of a table are its identity columns with the same one.
Generators with one name and revision are one entry of the registry. -/
theorem Blueprint.mem_columnsOf_iff {b : Blueprint} {built : List Table} {relation : Relation}
    {c : ClassMapping} {name : String} {js js' : List ClassMapping} {t : Table}
    (h : (b.table built relation c name js).outcome = .ok (t, js')) {g : KeyGenerator}
    (hBound : t.keyGenerator = some g) {column : Column} :
    column ∈ t.columnsOf g ↔ column ∈ t.identityColumns ∧ column.keyGenerator = some g := by
  refine List.mem_filter.trans (and_congr_right fun hIdentity => ⟨fun hSame => ?_, fun hOwn => ?_⟩)
  · obtain ⟨g', hOwn, hSame⟩ := (Option.any_eq_true _ _).1 hSame
    obtain ⟨_, hKnown⟩ := exists_get?_of_keyGenerator h hBound
    obtain ⟨_, hKnown'⟩ := exists_get?_of_column h (List.mem_of_mem_filter hIdentity) hOwn
    rw [hOwn, KeyGeneratorRegistry.eq_of_same hKnown' hKnown hSame]
  · rw [hOwn]
    exact g.same_self

/-- The key generator of a table has a sequence for it if it is a sequence generator that an
identity column has too. -/
theorem Blueprint.sequenceGenerator?_of_table {b : Blueprint} {built : List Table}
    {relation : Relation} {c : ClassMapping} {name : String} {js js' : List ClassMapping}
    {t : Table} (h : (b.table built relation c name js).outcome = .ok (t, js'))
    {g : KeyGenerator} :
    t.sequenceGenerator? = some g ↔ t.keyGenerator = some g ∧ g.strategy = .sequence ∧
      ∃ c ∈ t.identityColumns, c.keyGenerator = some g := by
  rw [Table.sequenceGenerator?_eq_some_iff]
  refine and_congr_right fun hBound => and_congr_right fun _ => ?_
  simp only [← mem_columnsOf_iff h hBound]
  exact ⟨List.exists_mem_of_ne_nil _, fun ⟨c, hc⟩ => List.ne_nil_of_mem hc⟩

/-! ## The sequences of a script -/

variable {registry : KeyGeneratorRegistry} {settings : Settings} {catalog : TypeCatalog}
  {d : Document} {s : Schema} {fl : Flavor} {sc : Script} {header : List String} {mark : String}
  {β : Bindings} {format : Formatting}

/-- The statements of a sequence, as a script has them. The sequence has the name that the key
generator gives it for its table, and the increment of the generator. Each column that uses it takes
its next value. -/
structure Table.SequenceWritten (st : Style) (t : Table) (g : KeyGenerator)
    (name : Formatted) (increment : Option Int) : Prop where
  named    : g.sequenceName t.name st.format = .ok name
  stepped  : g.increment = .ok increment
  text     : (Statement.createSequence t.name g).text st =
    if st.flavor = .postgresql then
      "CREATE SEQUENCE IF NOT EXISTS " ++ st.path name.text ++
        increment.elim "" fun i => " INCREMENT BY " ++ (if i < 0 then " " else "") ++ toString i
    else
      "CREATE SEQUENCE " ++ st.flavor.named name.text ++
        increment.elim "" fun i => " INCREMENT BY " ++ toString i
  defaults : st.flavor = .postgresql → ∀ c ∈ t.columnsOf g,
    (Statement.setDefault t.name c.name g).text st =
      "ALTER TABLE " ++ st.path t.name ++ " ALTER COLUMN " ++ st.flavor.named c.name ++
        " SET DEFAULT nextval(" ++ Text.Quoted.apostrophized (st.path name.text) ++ ")"

/-- Sequences whose statements have the words of their kinds are written in this way. -/
theorem Table.exists_sequenceWritten {st : Style} {t : Table} {g : KeyGenerator}
    (h : ∀ x ∈ (.createSequence t.name g :: st.flavor.sequenceDefaults t g : List Statement),
      x.Worded st (x.text st)) :
    ∃ name increment, t.SequenceWritten st g name increment := by
  obtain ⟨hCreate, hDefaults⟩ := List.forall_mem_cons.1 h
  obtain ⟨name, increment, hName, hIncrement, hText⟩ :=
    Statement.exists_of_worded_createSequence hCreate
  refine ⟨name, increment, hName, hIncrement, hText, fun hFlavor c hc => ?_⟩
  have hMem : Statement.setDefault t.name c.name g ∈ st.flavor.sequenceDefaults t g := by
    rw [Flavor.sequenceDefaults, if_pos hFlavor]
    exact List.mem_map_of_mem hc
  exact Statement.text_of_worded_setDefault hName (hDefaults _ hMem)

/-- **The sequences of a script are those that are used.** Where the schema of a document is written
with the statements of key generators, whatever the generators were bound to before, there is one
sequence for each table that has a sequence generator which is also that of an identity column, in
the order of the tables. It has the name that the generator gives it for this very table. In
PostgreSQL one default for each of these columns stands right behind it, and there are no other
defaults. -/
theorem Schema.sequences_complete
    (hBuild : (Schema.ofDocument registry settings catalog d).outcome = .ok s)
    (hOn : settings.toggles.keyGenerator = true)
    (hEmit : (emitFrom β fl settings s sc header mark format).2.trace.outcome = .ok ()) :
    ∃ xs, (emitFrom β fl settings s sc header mark format).2.Wrote
        (.ofSettings fl settings sc.indent format) (sc.header header mark) xs ∧
      Statement.Sequenced fl s.tables xs ∧ (s.tables.map (·.name)).Nodup ∧
      ∀ t ∈ s.tables, ∀ g,
        (t.sequenceGenerator? = some g ↔ t.keyGenerator = some g ∧ g.strategy = .sequence ∧
          ∃ c ∈ t.identityColumns, c.keyGenerator = some g) ∧
        (t.sequenceGenerator? = some g →
          (∀ c, c ∈ t.columnsOf g ↔ c ∈ t.identityColumns ∧ c.keyGenerator = some g) ∧
          ∃ name increment,
            t.SequenceWritten (.ofSettings fl settings sc.indent format) g name increment) := by
  -- what the generators were bound to before has no influence
  rw [emitFrom_eq_emit] at hEmit ⊢
  obtain ⟨js, -, hBuilds⟩ := Schema.exists_junctions_of_ofDocument hBuild
  obtain ⟨grouping, hGrouping⟩ := exists_grouping_of_emit hEmit
  have hWrote := wrote_of_emit hGrouping hEmit
  have hSequenced := Plan.sequenced fl grouping s hOn
  refine ⟨_, hWrote, hSequenced, hBuilds.nodup_names, fun t ht g => ?_⟩
  obtain ⟨o, built, js₀, js₁, hTable⟩ := exists_table_of_ofDocument hBuild ht
  refine ⟨Blueprint.sequenceGenerator?_of_table hTable, fun hSequence => ⟨fun c => ?_, ?_⟩⟩
  -- the columns are those that are bound to the generator
  · exact Blueprint.mem_columnsOf_iff hTable (Table.sequenceGenerator?_eq_some_iff.1 hSequence).1
  -- all statements of the sequence were written, so each of its texts is there
  · refine Table.exists_sequenceWritten fun x hx => hWrote.worded x ?_
    exact (hSequenced.followed t ht g hSequence).subset hx

/-- One key generator numbers orders and lines, with a sequence for each. -/
theorem Schema.sequences_of_numbered :
    ∃ s xs, Schema.ofNumbered.outcome = .ok s ∧
      (emitFrom [] .postgresql {} s {} [] "--").2.Wrote (.ofSettings .postgresql {} "    ")
        (Script.header {} [] "--") xs ∧
      (xs.filterMap (·.sequence?)).map (·.1) = ["order", "line"] ∧
      (xs.filterMap (·.default?)).map (fun p => (p.1, p.2.1)) =
        [("order", "no"), ("line", "no")] := by
  let view (s : Schema) :=
    ((s.tables.filterMap fun t => t.sequenceGenerator?.map fun g => (t.name, g)).map (·.1),
      (s.tables.flatMap fun t => t.sequenceGenerator?.toList.flatMap fun g =>
        (t.columnsOf g).map fun c => (t.name, c.name, g)).map fun p => (p.1, p.2.1))
  -- the names are computed, and the statements are those of the theorem
  obtain ⟨s, hs, hView⟩ : ∃ s, Schema.ofNumbered.outcome = .ok s ∧
      view s = (["order", "line"], [("order", "no"), ("line", "no")]) :=
    exists_ok_of_toOption_map (by decide +kernel)
  obtain ⟨hSequences, hDefaults⟩ := Prod.mk.inj hView
  obtain ⟨s', hs', -, hEmit⟩ := Schema.exists_ofNumbered
  cases Except.ok.inj (hs.symm.trans hs')
  rw [← emitFrom_eq_emit []] at hEmit
  obtain ⟨xs, hWrote, hSequenced, -⟩ := Schema.sequences_complete hs rfl hEmit
  refine ⟨s, xs, hs, hWrote, ?_, ?_⟩
  · rw [hSequenced.created]
    exact hSequences
  · rw [hSequenced.defaults]
    exact hDefaults

end MappingDdl
