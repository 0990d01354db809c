import MappingDdl.Proofs.DefineBeforeUse
import MappingDdl.Proofs.Generators
import MappingDdl.Proofs.Junction

/-!
# Columns of references — why nothing generates them

The value of a column that refers to another table comes from there, so no key generator may give it
one. Columns get their key generators in two places, where the fields of a class are added to its
table and where an inherited identity is merged into it, and both leave out the columns of a field
that refers to a class (`FieldTypes.columns`). A column may become an identity column later, but its
key generator stays as it was. So the columns of a foreign key are bound to nothing, and neither are
the inherited columns of a reference, for which there is no foreign key.

All columns of a junction are of the first kind. A junction is queued with the key generator of the
class that names it first, its table is bound to it, and no column uses it.

Main results:

* `Blueprint.generator_of_foreignKey`, `Blueprint.generator_of_added` — the columns of references
  have no key generator.
* `Blueprint.Queues.exists_owner` — whose key generator a junction is queued with.
* `Schema.references_never_generated` — what follows for the statements of a script.
-/

namespace MappingDdl

/-! ## Statements without a key generator -/

/-- Nothing generates the values of a column of a table: it has no key generator, its definition is
its name and type and whether it must have a value, and no script gives it a default. -/
structure Schema.NeverGenerates (s : Schema) (t : Table) (column : Column) : Prop where
  unbound   : column.keyGenerator = none
  plain     : ∀ st : Style, st.columnText column = " ".intercalate
                ([st.flavor.quote column.name, column.type.ddl] ++
                  if column.isNotNull then ["NOT NULL"] else [])
  noDefault : ∀ (fl : Flavor) (on : Toggles) (grouping : Grouping) (g : KeyGenerator),
                .setDefault t.name column.name g ∉
                  Plan.statements (Plan.ofSchema fl on grouping s)

/-- A column without a key generator is not generated. -/
theorem Column.isGenerated_of_unbound {column : Column} (h : column.keyGenerator = none) :
    column.isGenerated = false := by
  simp [isGenerated, h]

/-- A column is not among those of any key generator if it has none. -/
theorem Table.ne_none_of_mem_columnsOf {t : Table} {g : KeyGenerator} {column : Column}
    (h : column ∈ t.columnsOf g) : column ∈ t.columns ∧ column.keyGenerator ≠ none := by
  obtain ⟨hIdentity, hSame⟩ := List.mem_filter.1 h
  refine ⟨(List.mem_filter.1 hIdentity).1, fun hNone => ?_⟩
  rw [hNone] at hSame
  cases hSame

/-- A table has no statements of key generators if none of its columns has one. -/
theorem Flavor.tableStatements_eq_nil_of_unbound (fl : Flavor) {t : Table}
    (h : ∀ column ∈ t.columns, column.keyGenerator = none) :
    fl.tableStatements t .keyGenerator = [] := by
  refine List.eq_nil_iff_forall_not_mem.2 fun x hx => ?_
  obtain ⟨g, -, hSome, -⟩ := mem_tableStatements_keyGenerator_iff.1 hx
  obtain ⟨column, hColumn⟩ := List.exists_mem_of_ne_nil _ hSome
  obtain ⟨hMem, hBound⟩ := Table.ne_none_of_mem_columnsOf hColumn
  exact hBound (h column hMem)

/-- Where names are distinct, nothing generates a column that has no key generator. -/
theorem Schema.neverGenerates_of_unbound {s : Schema} {t : Table} {column : Column}
    (hNodup : (s.tables.map (·.name)).Nodup) (ht : t ∈ s.tables) (hNames : t.columnNames.Nodup)
    (hColumn : column ∈ t.columns) (h : column.keyGenerator = none) :
    s.NeverGenerates t column where
  unbound := h
  plain st := by
    rw [Style.columnText, Style.columnDefinition, Column.isGenerated_of_unbound h]
    simp
  noDefault fl on grouping g hDefault := by
    -- a default that a script gives is one of the table's own statements
    have hMem : Statement.setDefault t.name column.name g ∈ fl.tableStatements t .keyGenerator :=
      Plan.mem_tableStatements_of_table? hNodup ht hDefault (fun hKind => by cases hKind) rfl
    obtain ⟨g', -, -, hMem⟩ := Flavor.mem_tableStatements_keyGenerator_iff.1 hMem
    obtain ⟨-, hSame | ⟨-, c, hc, hSame⟩⟩ := Flavor.mem_generatorStatements_iff.1 hMem
    -- it creates no sequence
    · cases hSame
    · -- the default is that of the one column with this name, and this column has no generator
      obtain ⟨hIn, hBound⟩ := Table.ne_none_of_mem_columnsOf hc
      have hName : column.name = c.name := (Statement.setDefault.inj hSame).2.1
      rw [← List.inj_on_of_nodup_map hNames hColumn hIn hName] at hBound
      exact hBound h

namespace Blueprint

variable {b : Blueprint} {built : List Table} {relation : Relation} {c : ClassMapping}
  {name : String} {js js' : List ClassMapping} {t : Table} {column : Column}

/-! ## Columns of references -/

/-- The columns of a field that refers to a class have no key generator, whatever generator the
others get. -/
theorem Lays.generator_of_reference {identity : FieldMapping → Bool} {g : Option KeyGenerator}
    {fs : List FieldMapping} {cs : List Column} (h : b.Lays identity g fs cs)
    (hNodup : (fs.flatMap (·.columns)).Nodup) {f : FieldMapping} (hf : f ∈ fs)
    (hSqlType : ∀ s, given f.sqlType = some s → b.columnType? s = .ok none) {r : ClassMapping}
    (hClass : b.document.class? f.type = some r) (hColumn : column ∈ cs)
    (hName : column.name ∈ f.columns) : column.keyGenerator = none := by
  obtain ⟨f', hf', ft, hTypes, hOf⟩ := h.exists_field hColumn
  obtain ⟨hName', hGenerator⟩ := hTypes.generator_eq hOf
  -- no two fields have a column in common
  cases eq_of_mem_flatMap hNodup hf hf' hName hName'
  rw [hGenerator, hTypes.referenced_of_unresolved hSqlType hClass]
  rfl

/-- The columns of a foreign key have no key generator. -/
theorem generator_of_foreignKey (h : (b.table built relation c name js).outcome = .ok (t, js'))
    {k : ForeignKey} (hk : k ∈ t.foreignKeys) (hColumn : column ∈ t.columns)
    (hName : column.name ∈ k.columns) : column.keyGenerator = none := by
  have hFields := fields_ne_nil_of_mem_columnNames h (List.mem_map_of_mem hColumn)
  have hKey : column.name ∈ t.foreignKeys.flatMap (·.columns) :=
    List.mem_flatMap.2 ⟨k, hk, hName⟩
  -- the columns come from the class itself or from the classes above it
  obtain ⟨-, own, added, hOwn, hAdded, hColumns⟩ := merged_of_table h hFields
  rw [hColumns] at hColumn
  rcases List.mem_append.1 hColumn with hHere | hNew
  · -- a column of the class itself; a promotion leaves its generator as it is
    obtain ⟨y, hy, rfl⟩ := List.mem_map.1 hHere
    exact (generator_of_own h hFields hOwn y hy).trans (if_pos hKey)
  · -- foreign keys have columns of the class itself only, and no added one has their names
    have hOwnName : column.name ∈ c.columns := (refers_of_table h).columns_subset hKey
    have hAddedName : column.name ∈ (b.document.merged c).added.flatMap (·.columns) :=
      hAdded.columnNames ▸ List.mem_map_of_mem hNew
    have hNodup := (keyed_of_table h).nodupNames
    rw [columnNames_eq_of_table h hFields] at hNodup
    exact absurd rfl ((List.nodup_append.1 hNodup).2.2 _ hOwnName _ hAddedName)

/-- The columns that an inherited reference adds have no key generator. -/
theorem generator_of_added (h : (b.table built relation c name js).outcome = .ok (t, js'))
    {f : FieldMapping} (hf : f ∈ (b.document.merged c).added)
    (hSqlType : ∀ s, given f.sqlType = some s → b.columnType? s = .ok none) {r : ClassMapping}
    (hClass : b.document.class? f.type = some r) (hColumn : column ∈ t.columns)
    (hName : column.name ∈ f.columns) : column.keyGenerator = none := by
  have hFields := fields_ne_nil_of_mem_columnNames h (List.mem_map_of_mem hColumn)
  have hNodup := (keyed_of_table h).nodupNames
  rw [columnNames_eq_of_table h hFields] at hNodup
  obtain ⟨-, hNodupAdded, hApart⟩ := List.nodup_append.1 hNodup
  obtain ⟨-, own, added, hOwn, hAdded, hColumns⟩ := merged_of_table h hFields
  rw [hColumns] at hColumn
  rcases List.mem_append.1 hColumn with hHere | hNew
  · -- the columns of the class itself have other names
    obtain ⟨y, hy, rfl⟩ := List.mem_map.1 hHere
    have hOwnNames : own.map (·.name) = c.columns := hOwn.columnNames
    have hOwnName : y.name ∈ c.columns := hOwnNames ▸ List.mem_map_of_mem hy
    exact absurd rfl (hApart _ hOwnName _ (List.mem_flatMap.2 ⟨f, hf, hName⟩))
  · exact hAdded.generator_of_reference hNodupAdded hf hSqlType hClass hNew hName

/-! ## Junctions -/

/-- A side changes nothing of the key generator of a junction, and is one of its fields. -/
theorem keyGenerator_of_addSide {j j' c : ClassMapping} {side : String} {columns : List String}
    (h : b.addSide j side c columns = .ok j') :
    j'.keyGenerator = j.keyGenerator ∧ j'.fields ≠ [] := by
  rcases addSide_eq_ok h with ⟨hSome, rfl⟩ | ⟨-, own, -, rfl⟩
  -- the side was there
  · obtain ⟨f, hf⟩ := Option.isSome_iff_exists.1 hSome
    exact ⟨rfl, List.ne_nil_of_mem (List.mem_of_find?_eq_some hf)⟩
  -- the side is new
  · exact ⟨rfl, by simp⟩

/-- A junction of the queue has sides, and the key generator of the class whose association names it
first. -/
theorem Queues.exists_owner {as : List Association} {js : List ClassMapping}
    (h : b.Queues as js) :
    ∀ j ∈ js, j.fields ≠ [] ∧ ∃ a, as.find? (·.field.manyTable == some j.name) = some a ∧
      j.keyGenerator = a.cls.keyGenerator := by
  induction h with
  | nil =>
    intro j hj
    cases hj
  | @snoc as js js' c f table junction hQueues _ hJunction hAdd ih =>
    obtain ⟨r, related, j, j₁, j₂, -, -, hFrom, hName, hSide, hOpposite, -, hMem⟩ :=
      entered_of_addRelation hJunction hAdd
    -- an association at the end is the first one for a new name only
    have hKept : ∀ k ∈ js, ∃ a, (as ++ [(⟨c, f⟩ : Association)]).find?
        (·.field.manyTable == some k.name) = some a ∧ k.keyGenerator = a.cls.keyGenerator := by
      intro k hk
      obtain ⟨-, a, hFirst, hGenerator⟩ := ih k hk
      exact ⟨a, by rw [List.find?_append, hFirst, Option.some_or], hGenerator⟩
    intro k hk
    rcases hMem k hk with rfl | ⟨hOld, -⟩
    -- the junction that was just entered, which keeps its generator while it gets its sides
    · obtain ⟨hGenerator₁, -⟩ := keyGenerator_of_addSide hSide
      obtain ⟨hGenerator₂, hSides⟩ := keyGenerator_of_addSide hOpposite
      rw [(name_of_addSide hOpposite).trans (name_of_addSide hSide), hGenerator₂, hGenerator₁]
      refine ⟨hSides, ?_⟩
      rcases hFrom with hFound | ⟨hNew, rfl⟩
      -- it was in the queue before
      · exact hKept j hFound
      -- it is new, so that no association before has named it
      · rw [hQueues.names_eq, List.mem_eraseDups] at hNew
        have hNone : as.find? (·.field.manyTable == some junction) = none :=
          List.find?_eq_none.2 fun a ha hSame =>
            hNew (List.mem_filterMap.2 ⟨a, ha, by simpa using hSame⟩)
        refine ⟨⟨c, f⟩, ?_, rfl⟩
        rw [List.find?_append, hNone, Option.none_or, List.find?_singleton, hJunction]
        exact if_pos (beq_self_eq_true _)
    -- the other junctions are as they were
    · exact ⟨(ih k hOld).1, hKept k hOld⟩

end Blueprint

/-! ## Schemas -/

section Schema

variable {registry : KeyGeneratorRegistry} {settings : Settings} {catalog : TypeCatalog}
  {d : Document} {s : Schema} {t : Table}

/-- The table of a junction is made from the queue, and bound to the key generator of the class
whose association names it first. -/
theorem Schema.keyGenerator_of_junction
    (h : (Schema.ofDocument registry settings catalog d).outcome = .ok s) (ht : t ∈ s.tables)
    (hJunction : t.name ∈ d.junctionNames) :
    ∃ a, d.associations.find? (·.field.manyTable == some t.name) = some a ∧
      t.keyGenerator = (d.registered registry).get? a.cls.keyGenerator := by
  obtain ⟨js, hQueues, hBuilds⟩ := Schema.exists_junctions_of_ofDocument h
  -- the table is that of a junction of the queue
  have hQueued : t.name ∈ js.map (·.name) := by
    rw [hQueues.names_eq]
    exact hJunction
  obtain ⟨j, hj, hName⟩ := List.mem_map.1 hQueued
  have hOrigin : Origin.ofJunction j ∈ Origin.ofClasses d.classes ++ js.map Origin.ofJunction :=
    List.mem_append_right _ (List.mem_map_of_mem hj)
  obtain ⟨o, ho, built, js₀, js₁, -, hTable⟩ := hBuilds.exists_origin ht
  have hSame : o = Origin.ofJunction j :=
    hBuilds.origin_eq ho hOrigin ((Blueprint.name_of_table hTable).symm.trans hName.symm)
  subst hSame
  -- and the association that made the junction gave it its generator
  obtain ⟨hSides, a, hFirst, hGenerator⟩ := hQueues.exists_owner j hj
  refine ⟨a, hName ▸ hFirst, ?_⟩
  rw [← hGenerator]
  have hParent : given j.parent = none := (hQueues.isJunction j hj).parent ▸ given_none
  exact Blueprint.keyGenerator_of_root hParent hSides hTable

/-- **Columns of references are never generated.** Nothing generates a column of a foreign key, in
the table of a class or of a junction, nor a column that the merge of an inherited identity adds for
a field which refers to a class. The table of a junction has the key generator of the class that
names it first, but no script has a statement of a key generator for it. -/
theorem Schema.references_never_generated
    (h : (Schema.ofDocument registry settings catalog d).outcome = .ok s) (ht : t ∈ s.tables) :
    (∀ k ∈ t.foreignKeys, ∀ column ∈ t.columns, column.name ∈ k.columns →
      s.NeverGenerates t column) ∧
    (∀ c ∈ d.classes, c.mappedTable = some t.name → ∀ f ∈ (d.merged c).added,
      (∀ sql, given f.sqlType = some sql → catalog.get? sql = .ok none) →
      ∀ r, d.class? f.type = some r → ∀ column ∈ t.columns, column.name ∈ f.columns →
        s.NeverGenerates t column) ∧
    (t.name ∈ d.junctionNames →
      (∃ a, d.associations.find? (·.field.manyTable == some t.name) = some a ∧
        t.keyGenerator = (d.registered registry).get? a.cls.keyGenerator) ∧
      ∀ (fl : Flavor) (on : Toggles) (grouping : Grouping),
        ∀ x ∈ Plan.statements (Plan.ofSchema fl on grouping s), x.table? = some t.name →
          x.kind ≠ .keyGenerator) := by
  obtain ⟨js, -, hBuilds⟩ := Schema.exists_junctions_of_ofDocument h
  obtain ⟨o, ho, built, js₀, js₁, -, hTable⟩ := hBuilds.exists_origin ht
  have hUnbound : ∀ column ∈ t.columns, column.keyGenerator = none →
      s.NeverGenerates t column := fun column hColumn =>
    Schema.neverGenerates_of_unbound hBuilds.nodup_names ht
      (Blueprint.keyed_of_table hTable).nodupNames hColumn
  have hKeys : ∀ k ∈ t.foreignKeys, ∀ column ∈ t.columns, column.name ∈ k.columns →
      column.keyGenerator = none := fun k hk column hColumn =>
    Blueprint.generator_of_foreignKey hTable hk hColumn
  refine ⟨fun k hk column hColumn hName => ?_, fun c hc hMapped f hf hSqlType r hClass column
    hColumn hName => ?_, fun hJunction => ⟨?_, fun fl on grouping x hx hAbout hKind => ?_⟩⟩
  -- a column of a foreign key, in any table
  · exact hUnbound column hColumn (hKeys k hk column hColumn hName)
  · -- the table was made from this class and no other one
    have hSame := hBuilds.origin_eq ho (Origin.mem_append_of_class hc hMapped)
      (Blueprint.name_of_table hTable).symm
    subst hSame
    refine hUnbound column hColumn ?_
    exact Blueprint.generator_of_added hTable hf
      (fun sql hGiven => Blueprint.columnType?_eq_ok_iff.2 (hSqlType sql hGiven)) hClass hColumn
      hName
  -- the generator of the junction itself
  · exact Schema.keyGenerator_of_junction h ht hJunction
  · -- each column of a junction is one of a foreign key
    obtain ⟨b, j, u, -, hFind, hTableOf⟩ := Schema.exists_junctionTable h hJunction
    cases hFind.symm.trans (find?_of_nodup_map hBuilds.nodup_names ht)
    have hAll : ∀ column ∈ t.columns, column.keyGenerator = none := by
      intro column hColumn
      have hName : column.name ∈ t.foreignKeys.flatMap (·.columns) :=
        hTableOf.columnNames_eq ▸ List.mem_map_of_mem hColumn
      obtain ⟨k, hk, hMem⟩ := List.mem_flatMap.1 hName
      exact hKeys k hk column hColumn hMem
    have hMem := Plan.mem_tableStatements_of_table? hBuilds.nodup_names ht hx
      (hKind ▸ fun hSchema => by cases hSchema) hAbout
    rw [hKind, fl.tableStatements_eq_nil_of_unbound hAll] at hMem
    cases hMem

end Schema

/-- Details are identified by an order, which has its number from a sequence. Lines extend them,
refer to another order and are linked to orders, and they name the same key generator. -/
def Document.ordered : Document where
  keyGenerators := [{ name := "numbers", strategy := "sequence", params := [] }]
  classes :=
    [{ name := "Order"
       table := some "order"
       keyGenerator := some "numbers"
       fields := [{ name := "no", type := "integer", identity := true, columns := ["no"] }] },
     { name := "Detail"
       fields :=
         [{ name := "order", type := "Order", identity := true, columns := ["order_no"] }] },
     { name := "Line"
       table := some "line"
       parent := some "Detail"
       keyGenerator := some "numbers"
       fields :=
         [{ name := "previous", type := "Order", columns := ["previous_no"] },
          { name := "links", type := "Order", manyTable := some "line_order" }] }]

/-- Its schema in PostgreSQL, with default settings. -/
def Schema.ofOrdered : Building Schema :=
  Schema.ofDocument (.initial .postgresql) {} (Dialect.postgresql.catalog {}) .ordered

/-- The document of the orders has a schema, with references of each kind. -/
theorem Schema.exists_ofOrdered :
    ∃ s line links k previous order, Schema.ofOrdered.outcome = .ok s ∧
      s.table? "line" = some line ∧ line.foreignKeys = [k] ∧ k.columns = ["previous_no"] ∧
      line.column? "previous_no" = some previous ∧ line.column? "order_no" = some order ∧
      s.table? "line_order" = some links ∧
      links.keyGenerator.map (·.strategy) = some .sequence := by
  -- what is computed of the schema
  let view (s : Schema) :=
    ((s.table? "line").map fun t => (t.foreignKeys.map (·.columns),
        (t.column? "previous_no").isSome, (t.column? "order_no").isSome),
      (s.table? "line_order").map fun t => t.keyGenerator.map (·.strategy))
  obtain ⟨s, hs, hView⟩ : ∃ s, Schema.ofOrdered.outcome = .ok s ∧
      view s = (some ([["previous_no"]], true, true), some (some .sequence)) :=
    exists_ok_of_toOption_map (by decide +kernel)
  obtain ⟨hLine, hLinks⟩ := Prod.mk.inj hView
  -- what this says of its tables
  obtain ⟨line, hFindLine, hEq⟩ := Option.map_eq_some_iff.1 hLine
  obtain ⟨links, hFindLinks, hBound⟩ := Option.map_eq_some_iff.1 hLinks
  obtain ⟨hKeys, hEq⟩ := Prod.mk.inj hEq
  obtain ⟨k, hOnly, hColumns⟩ := List.map_eq_singleton_iff.1 hKeys
  obtain ⟨hPrevious, hOrder⟩ := Prod.mk.inj hEq
  obtain ⟨previous, hPrevious⟩ := Option.isSome_iff_exists.1 hPrevious
  obtain ⟨order, hOrder⟩ := Option.isSome_iff_exists.1 hOrder
  exact ⟨s, line, links, k, previous, order, hs, hFindLine, hOnly, hColumns, hPrevious, hOrder,
    hFindLinks, hBound⟩

/-- The sequence of the numbers gives no value to the columns in which a line refers to orders, and
none to the links, whose table is bound to it. -/
theorem Schema.references_of_line :
    ∃ s line links previous order, Schema.ofOrdered.outcome = .ok s ∧
      s.table? "line" = some line ∧ line.column? "previous_no" = some previous ∧
      s.NeverGenerates line previous ∧ line.column? "order_no" = some order ∧
      s.NeverGenerates line order ∧ s.table? "line_order" = some links ∧
      links.keyGenerator.map (·.strategy) = some .sequence ∧
      ∀ x ∈ Plan.statements (Plan.ofSchema .postgresql {} .byTable s),
        x.table? = some "line_order" → x.kind ≠ .keyGenerator := by
  obtain ⟨s, line, links, k, previous, order, hs, hFindLine, hOnly, hColumns, hPrevious, hOrder,
    hFindLinks, hBound⟩ := Schema.exists_ofOrdered
  obtain ⟨hForeign, hAdded, -⟩ :=
    Schema.references_never_generated hs (List.mem_of_find?_eq_some hFindLine)
  obtain ⟨-, -, hJunction⟩ :=
    Schema.references_never_generated hs (List.mem_of_find?_eq_some hFindLinks)
  rw [Schema.name_of_table? hFindLine] at hAdded
  rw [Schema.name_of_table? hFindLinks] at hJunction
  refine ⟨s, line, links, previous, order, hs, hFindLine, hPrevious, ?_, hOrder, ?_, hFindLinks,
    hBound, (hJunction (by decide +kernel)).2 _ _ _⟩
  -- the previous order is a reference of the line itself
  · have hName : previous.name = "previous_no" := by simpa using List.find?_some hPrevious
    refine hForeign k (hOnly ▸ List.mem_cons_self) previous (List.mem_of_find?_eq_some hPrevious) ?_
    rw [hColumns, hName]
    exact List.mem_cons_self
  · -- the order that identifies a line is a field of the class above it
    obtain ⟨c, hc, hMapped, f, hf, hSqlType, hClass, hColumn⟩ :
        ∃ c ∈ Document.ordered.classes, c.mappedTable = some "line" ∧
          ∃ f ∈ (Document.ordered.merged c).added, given f.sqlType = none ∧
            (Document.ordered.class? f.type).isSome = true ∧ "order_no" ∈ f.columns := by
      decide +kernel
    obtain ⟨r, hClass⟩ := Option.isSome_iff_exists.1 hClass
    have hName : order.name = "order_no" := by simpa using List.find?_some hOrder
    exact hAdded c hc hMapped f hf (fun sql hGiven => by cases hSqlType.symm.trans hGiven) r hClass
      order (List.mem_of_find?_eq_some hOrder) (hName ▸ hColumn)

end MappingDdl
