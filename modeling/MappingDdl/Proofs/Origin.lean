import MappingDdl.Dialect
import MappingDdl.Proofs.Association

/-!
# The tables of a schema, and what each of them was made from

A schema has one table for each mapped class, in the order of the document, and then one for each
junction, in the order of the queue. Each table was built when exactly the tables before it were
there. `Blueprint.Builds` says this of a list of tables and the list of their origins, and every
schema that a document has is such a list (`Schema.exists_builds_of_ofDocument`).

Main results:

* `Schema.ofDocument_eq_ok_iff` — the stages of a build.
* `Schema.exists_junctions_of_ofDocument` — the origins of the tables of a schema: the mapped
  classes, and the junctions that the associations of the document queue.
-/

namespace MappingDdl

/-! ## Origins -/

/-- What a table is made from: a class, and the name of its table. -/
structure Origin where
  relation : Relation
  cls : ClassMapping
  table : String

/-- The origins of the tables of mapped classes. -/
def Origin.ofClasses (cs : List ClassMapping) : List Origin :=
  cs.filterMap fun c => c.mappedTable.map fun name => ⟨.oneToOne, c, name⟩

/-- The origin of the table of a junction. -/
def Origin.ofJunction (j : ClassMapping) : Origin :=
  ⟨.manyToMany, j, j.name⟩

/-- A table comes from a class that is mapped to it. -/
theorem Origin.mem_ofClasses_iff {cs : List ClassMapping} {o : Origin} :
    o ∈ ofClasses cs ↔
      o.relation = .oneToOne ∧ o.cls ∈ cs ∧ o.cls.mappedTable = some o.table := by
  simp only [ofClasses, List.mem_filterMap, Option.map_eq_some_iff]
  constructor
  · rintro ⟨c, hc, name, hName, rfl⟩
    exact ⟨rfl, hc, hName⟩
  · rintro ⟨hRelation, hc, hName⟩
    exact ⟨o.cls, hc, o.table, hName, by rw [← hRelation]⟩

/-- A mapped class is where its table comes from. -/
theorem Origin.mem_append_of_class {cs js : List ClassMapping} {c : ClassMapping} {name : String}
    (hc : c ∈ cs) (hMapped : c.mappedTable = some name) :
    (⟨.oneToOne, c, name⟩ : Origin) ∈ ofClasses cs ++ js.map ofJunction :=
  List.mem_append_left _ (mem_ofClasses_iff.2 ⟨rfl, hc, hMapped⟩)

namespace Blueprint

variable {b : Blueprint}

/-- The tables `ts` were built one after the other from the origins `os`. Each of them was built
when exactly those before it were there, and has a new name. -/
inductive Builds (b : Blueprint) : List Table → List Origin → Prop
  | nil : Builds b [] []
  | snoc {ts : List Table} {os : List Origin} {t : Table} {o : Origin}
      {js js' : List ClassMapping} (h : Builds b ts os)
      (hTable : (b.table ts o.relation o.cls o.table js).outcome = .ok (t, js'))
      (hNew : t.name ∉ ts.map (·.name)) : Builds b (ts ++ [t]) (os ++ [o])

section Builds

variable {ts : List Table} {os : List Origin}

/-- A table has the name that it was made for. -/
theorem name_of_table {built : List Table} {relation : Relation} {c : ClassMapping} {name : String}
    {js js' : List ClassMapping} {t : Table}
    (h : (b.table built relation c name js).outcome = .ok (t, js')) : t.name = name :=
  (grows_of_table h).name_eq

/-- Tables have the names of their origins, in the same order, -/
theorem Builds.names_eq (h : b.Builds ts os) : ts.map (·.name) = os.map (·.table) := by
  induction h with
  | nil => rfl
  | snoc _ hTable _ ih => rw [List.map_append, List.map_append, ih, List.map_singleton,
      List.map_singleton, name_of_table hTable]

/-- so there are as many, -/
theorem Builds.length_eq (h : b.Builds ts os) : ts.length = os.length := by
  have := congrArg List.length h.names_eq
  rwa [List.length_map, List.length_map] at this

/-- and no two have the same name. -/
theorem Builds.nodup_names (h : b.Builds ts os) : (ts.map (·.name)).Nodup := by
  induction h with
  | nil => exact List.nodup_nil
  | snoc _ _ hNew ih =>
    rw [List.map_append, List.map_singleton]
    rw [← List.concat_eq_append]
    exact ih.concat hNew

/-- The table at a position was made from the origin at this position, beside the tables before. -/
theorem Builds.table_at (h : b.Builds ts os) {i : Nat} {t : Table} (ht : ts[i]? = some t) :
    ∃ o js js', os[i]? = some o ∧
      (b.table (ts.take i) o.relation o.cls o.table js).outcome = .ok (t, js') := by
  -- on the tables in the order in which they were made
  induction h with
  | nil => cases ht
  | @snoc ts os t' o js js' hBuilds hTable _ ih =>
    -- there are as many tables as origins
    have hLength := hBuilds.length_eq
    rcases Nat.lt_or_ge i ts.length with hOld | hLast
    · -- an earlier table: the last one stands behind all that it was built beside
      have hPrefix : (ts ++ [t']).take i = ts.take i :=
        List.take_append_of_le_length (Nat.le_of_lt hOld)
      rw [List.getElem?_append_left hOld] at ht
      rw [List.getElem?_append_left (hLength ▸ hOld), hPrefix]
      exact ih ht
    · -- the last table, built beside all the others
      have hAt : i = ts.length := by
        have := (List.getElem?_eq_some_iff.1 ht).1
        rw [List.length_append, List.length_singleton] at this
        omega
      subst hAt
      rw [List.getElem?_concat_length] at ht
      cases ht
      refine ⟨o, js, js', ?_, ?_⟩
      · rw [hLength, List.getElem?_concat_length]
      · rw [List.take_left]
        exact hTable

/-- Each table was made from its origin, beside tables that come before it. -/
theorem Builds.exists_origin (h : b.Builds ts os) {t : Table} (ht : t ∈ ts) :
    ∃ o ∈ os, ∃ built js js', built ⊆ ts ∧
      (b.table built o.relation o.cls o.table js).outcome = .ok (t, js') := by
  obtain ⟨i, hi⟩ := List.mem_iff_getElem?.1 ht
  obtain ⟨o, js, js', ho, hTable⟩ := h.table_at hi
  exact ⟨o, List.mem_of_getElem? ho, _, js, js', List.take_subset i ts, hTable⟩

/-- Every origin has a table, which is found under the name that the origin gives it. -/
theorem Builds.exists_table {s : Schema} (h : b.Builds s.tables os) {o : Origin} (ho : o ∈ os) :
    ∃ t built js js', s.table? o.table = some t ∧
      (b.table built o.relation o.cls o.table js).outcome = .ok (t, js') := by
  -- the origin stands somewhere, and a table stands there too
  obtain ⟨i, hi⟩ := List.mem_iff_getElem?.1 ho
  obtain ⟨t, ht⟩ : ∃ t, s.tables[i]? = some t := by
    have hLength := (List.getElem?_eq_some_iff.1 hi).1
    exact ⟨_, List.getElem?_eq_getElem (h.length_eq ▸ hLength)⟩
  obtain ⟨o', js, js', ho', hTable⟩ := h.table_at ht
  cases hi.symm.trans ho'
  refine ⟨t, _, js, js', ?_, hTable⟩
  -- it has the name that the origin gives it
  rw [← name_of_table hTable]
  exact find?_of_nodup_map h.nodup_names (List.mem_of_getElem? ht)

/-- Each origin has a table name of its own. -/
theorem Builds.origin_eq (h : b.Builds ts os) {o o' : Origin} (ho : o ∈ os) (ho' : o' ∈ os)
    (hName : o.table = o'.table) : o = o' :=
  List.inj_on_of_nodup_map (h.names_eq ▸ h.nodup_names) ho ho' hName

/-- No two classes are mapped to one table. -/
theorem Builds.class_eq {cs js : List ClassMapping}
    (h : b.Builds ts (Origin.ofClasses cs ++ js.map Origin.ofJunction)) {c c' : ClassMapping}
    (hc : c ∈ cs) (hc' : c' ∈ cs) {name : String} (hMapped : c.mappedTable = some name)
    (hMapped' : c'.mappedTable = some name) : c = c' := by
  have hSame := h.origin_eq (Origin.mem_append_of_class hc hMapped)
    (Origin.mem_append_of_class hc' hMapped') rfl
  exact congrArg Origin.cls hSame

/-- The table of a mapped class is found under the name that the class is mapped to. -/
theorem Builds.exists_table_of_class {s : Schema} {cs js : List ClassMapping}
    (h : b.Builds s.tables (Origin.ofClasses cs ++ js.map Origin.ofJunction)) {c : ClassMapping}
    (hc : c ∈ cs) {name : String} (hMapped : c.mappedTable = some name) :
    ∃ t built js js', s.table? name = some t ∧
      (b.table built .oneToOne c name js).outcome = .ok (t, js') :=
  h.exists_table (Origin.mem_append_of_class hc hMapped)

end Builds

/-! ## Schemas -/

/-- A table comes in at the end, under a name that no other one has. -/
theorem addTable_eq_ok {s s' : Schema} {t : Table} (h : (addTable s t).outcome = .ok s') :
    s'.tables = s.tables ++ [t] ∧ t.name ∉ s.tables.map (·.name) := by
  have hAdd : s.addTable t = .ok s' := mapError_eq_ok_iff.1 h
  obtain ⟨-, hNew⟩ := Schema.tableNames_addTable hAdd
  unfold Schema.addTable at hAdd
  split at hAdd
  · cases hAdd
  · cases hAdd
    exact ⟨rfl, hNew⟩

/-- A class without a table is passed over. The table of any other one is made and added, and the
rest of the classes follows. -/
theorem addClasses_cons_eq_ok_iff {s : Schema} {js rest : List ClassMapping} {c : ClassMapping}
    {r : Schema × List ClassMapping} :
    (b.addClasses s js (c :: rest)).outcome = .ok r ↔
      (c.mappedTable = none ∧ (b.addClasses s js rest).outcome = .ok r) ∨
        ∃ name t js₁ s₁, c.mappedTable = some name ∧
          (b.table s.tables .oneToOne c name js).outcome = .ok (t, js₁) ∧
          (addTable s t).outcome = .ok s₁ ∧ (b.addClasses s₁ js₁ rest).outcome = .ok r := by
  rw [addClasses]
  cases c.mappedTable with
  -- a class without a table
  | none =>
    simp only [outcome_debug_bind]
    simp
  | some name =>
    simp only [Traced.outcome_bind_eq_ok_iff]
    constructor
    -- a class with one: its table is made, it is entered, and the others follow
    · rintro ⟨⟨t, js₁⟩, hTable, s₁, hAdd, hRest⟩
      exact Or.inr ⟨name, t, js₁, s₁, rfl, hTable, hAdd, hRest⟩
    · rintro (⟨hNone, -⟩ | ⟨name', t, js₁, s₁, hName, hTable, hAdd, hRest⟩)
      · cases hNone
      · cases hName
        exact ⟨(t, js₁), hTable, s₁, hAdd, hRest⟩

/-- The classes of a list in two parts get their tables part by part. -/
theorem addClasses_append_eq_ok_iff {s : Schema} {js cs cs' : List ClassMapping}
    {r : Schema × List ClassMapping} :
    (b.addClasses s js (cs ++ cs')).outcome = .ok r ↔
      ∃ s₁ js₁, (b.addClasses s js cs).outcome = .ok (s₁, js₁) ∧
        (b.addClasses s₁ js₁ cs').outcome = .ok r := by
  induction cs generalizing s js with
  -- no class in front
  | nil => simp [addClasses]
  | cons c rest ih =>
    rw [List.cons_append, addClasses_cons_eq_ok_iff]
    simp only [addClasses_cons_eq_ok_iff, ih]
    constructor
    -- what the first class does is the same in both
    · rintro (⟨hNone, s₁, js₁, hRest, hMore⟩ |
        ⟨name, t, js₂, s₂, hMapped, hTable, hAdd, s₁, js₁, hRest, hMore⟩)
      · exact ⟨s₁, js₁, Or.inl ⟨hNone, hRest⟩, hMore⟩
      · exact ⟨s₁, js₁, Or.inr ⟨name, t, js₂, s₂, hMapped, hTable, hAdd, hRest⟩, hMore⟩
    · rintro ⟨s₁, js₁, ⟨hNone, hRest⟩ | ⟨name, t, js₂, s₂, hMapped, hTable, hAdd, hRest⟩, hMore⟩
      · exact Or.inl ⟨hNone, s₁, js₁, hRest, hMore⟩
      · exact Or.inr ⟨name, t, js₂, s₂, hMapped, hTable, hAdd, s₁, js₁, hRest, hMore⟩

/-- The table of a junction is made and added, and the rest of the junctions follows. -/
theorem addJunctions_cons_eq_ok_iff {s s' : Schema} {j : ClassMapping} {rest : List ClassMapping} :
    (b.addJunctions s (j :: rest)).outcome = .ok s' ↔
      ∃ t js s₁, (b.table s.tables .manyToMany j j.name []).outcome = .ok (t, js) ∧
        (addTable s t).outcome = .ok s₁ ∧ (b.addJunctions s₁ rest).outcome = .ok s' := by
  rw [addJunctions, outcome_debug_bind, Traced.outcome_bind_eq_ok_iff]
  constructor
  · rintro ⟨⟨t, js⟩, hTable, h⟩
    obtain ⟨s₁, hAdd, hRest⟩ := Traced.outcome_bind_eq_ok_iff.1 h
    exact ⟨t, js, s₁, hTable, hAdd, hRest⟩
  · rintro ⟨t, js, s₁, hTable, hAdd, hRest⟩
    exact ⟨(t, js), hTable, Traced.outcome_bind_eq_ok_iff.2 ⟨s₁, hAdd, hRest⟩⟩

/-- With tables for its classes a schema is made from these, and their associations are queued. -/
theorem builds_of_addClasses {s s' : Schema} {os : List Origin} {as : List Association}
    {js js' cs : List ClassMapping} (hBuilds : b.Builds s.tables os) (hQueues : b.Queues as js)
    (h : (b.addClasses s js cs).outcome = .ok (s', js')) :
    b.Builds s'.tables (os ++ Origin.ofClasses cs) ∧
      b.Queues (as ++ (cs.filter (·.mappedTable.isSome)).flatMap (·.associations)) js' := by
  -- on the classes, with what the first one adds to the tables and the queue
  induction cs generalizing s js os as with
  | nil =>
    cases h
    rw [Origin.ofClasses, List.filterMap_nil, List.filter_nil, List.flatMap_nil, List.append_nil,
      List.append_nil]
    exact ⟨hBuilds, hQueues⟩
  | cons c rest ih =>
    rcases addClasses_cons_eq_ok_iff.1 h with
      ⟨hUnmapped, hRest⟩ | ⟨name, t, js₁, s₁, hMapped, hTable, hAdd, hRest⟩
    · -- a class without a table is no origin, and its associations are not looked at
      have hSame : Origin.ofClasses (c :: rest) = Origin.ofClasses rest := by
        simp [Origin.ofClasses, hUnmapped]
      rw [hSame, List.filter_cons_of_neg (by simp [hUnmapped])]
      exact ih hBuilds hQueues hRest
    -- its table is entered, and the queue has its associations
    · obtain ⟨hTables, hNew⟩ := addTable_eq_ok hAdd
      have hStep : b.Builds s₁.tables (os ++ [⟨.oneToOne, c, name⟩]) :=
        hTables ▸ .snoc hBuilds hTable hNew
      have hNext : os ++ Origin.ofClasses (c :: rest) =
          os ++ [⟨.oneToOne, c, name⟩] ++ Origin.ofClasses rest := by
        simp [Origin.ofClasses, hMapped]
      rw [hNext, List.filter_cons_of_pos (by simp [hMapped]), List.flatMap_cons,
        ← List.append_assoc]
      exact ih hStep (hQueues.of_table hMapped hTable) hRest

/-- With tables for junctions it is made from these as well. -/
theorem builds_of_addJunctions {s s' : Schema} {os : List Origin} {js : List ClassMapping}
    (hBuilds : b.Builds s.tables os) (h : (b.addJunctions s js).outcome = .ok s') :
    b.Builds s'.tables (os ++ js.map Origin.ofJunction) := by
  induction js generalizing s os with
  | nil =>
    cases h
    rw [List.map_nil, List.append_nil]
    exact hBuilds
  | cons j rest ih =>
    -- the table of the first junction is entered like that of a class
    obtain ⟨t, js', s₁, hTable, hAdd, hRest⟩ := addJunctions_cons_eq_ok_iff.1 h
    obtain ⟨hTables, hNew⟩ := addTable_eq_ok hAdd
    have hStep : b.Builds s₁.tables (os ++ [Origin.ofJunction j]) :=
      hTables ▸ .snoc hBuilds hTable hNew
    rw [List.map_cons, ← List.singleton_append, ← List.append_assoc]
    exact ih hStep hRest

/-- Junctions stand behind the tables that are there. -/
theorem prefix_of_addJunctions {s s' : Schema} {js : List ClassMapping}
    (h : (b.addJunctions s js).outcome = .ok s') : s.tables <+: s'.tables := by
  induction js generalizing s with
  | nil =>
    cases h
    exact List.prefix_refl _
  | cons j rest ih =>
    obtain ⟨t, js', s₁, -, hAdd, hRest⟩ := addJunctions_cons_eq_ok_iff.1 h
    have hStep : s.tables <+: s₁.tables := ⟨[t], (addTable_eq_ok hAdd).1.symm⟩
    exact hStep.trans (ih hRest)

end Blueprint

/-- A table is found under its own name, -/
theorem Schema.name_of_table? {s : Schema} {name : String} {t : Table}
    (h : s.table? name = some t) : t.name = name := by
  simpa using List.find?_some h

/-- which is a name of the schema. -/
theorem Schema.mem_tableNames_of_table? {s : Schema} {name : String} {t : Table}
    (h : s.table? name = some t) : name ∈ s.tableNames :=
  List.mem_map.2 ⟨t, List.mem_of_find?_eq_some h, Schema.name_of_table? h⟩

section OfDocument

variable {registry : KeyGeneratorRegistry} {settings : Settings} {catalog : TypeCatalog}
  {d : Document} {s : Schema}

/-- What the schema of a document is built from, its key generators registered. -/
def Document.blueprint (d : Document) (registry : KeyGeneratorRegistry) (catalog : TypeCatalog) :
    Blueprint :=
  ⟨d, catalog, (registry.reset.load d.keyGenerators).1⟩

/-- The stages of a build: the structure is sound, the key generators are registered, the classes
get their tables, and then the junctions that were queued on the way. -/
theorem Schema.ofDocument_eq_ok_iff :
    (Schema.ofDocument registry settings catalog d).outcome = .ok s ↔
      d.structureProblems = [] ∧ (registry.reset.load d.keyGenerators).2.outcome = .ok () ∧
        ∃ s₁ js, ((d.blueprint registry catalog).addClasses
            ⟨given (some settings.schemaName), []⟩ [] d.classes).outcome = .ok (s₁, js) ∧
          ((d.blueprint registry catalog).addJunctions s₁ js).outcome = .ok s := by
  unfold Schema.ofDocument
  constructor
  -- the stages follow each other as in the definition
  · intro h
    -- a sound document is built
    split at h
    · next hSound =>
      obtain ⟨⟨⟩, hLoaded, h⟩ := Traced.outcome_bind_eq_ok_iff.1 h
      obtain ⟨⟨s₁, js⟩, hClasses, h⟩ := Traced.outcome_bind_eq_ok_iff.1 h
      obtain ⟨s₂, hJunctions, h⟩ := Traced.outcome_bind_eq_ok_iff.1 h
      obtain ⟨⟨⟩, -, h⟩ := Traced.outcome_bind_eq_ok_iff.1 h
      cases h
      exact ⟨hSound, mapError_eq_ok_iff.1 hLoaded, s₁, js, hClasses, hJunctions⟩
    -- any other one fails with its structure problems
    · cases h
  -- and each stage leads back to its step
  · rintro ⟨hSound, hLoaded, s₁, js, hClasses, hJunctions⟩
    rw [hSound]
    refine Traced.outcome_bind_eq_ok_iff.2 ⟨(), mapError_eq_ok_iff.2 hLoaded, ?_⟩
    refine Traced.outcome_bind_eq_ok_iff.2 ⟨(s₁, js), hClasses, ?_⟩
    exact Traced.outcome_bind_eq_ok_iff.2 ⟨s, hJunctions, rfl⟩

/-- Every schema that a document has was built table by table, from its mapped classes and then
from the junctions that its associations queue. -/
theorem Schema.exists_junctions_of_ofDocument
    (h : (Schema.ofDocument registry settings catalog d).outcome = .ok s) :
    ∃ js, (d.blueprint registry catalog).Queues d.associations js ∧
      (d.blueprint registry catalog).Builds s.tables
        (Origin.ofClasses d.classes ++ js.map Origin.ofJunction) := by
  obtain ⟨-, -, s₁, js, hClasses, hJunctions⟩ := Schema.ofDocument_eq_ok_iff.1 h
  obtain ⟨hBuilds, hQueues⟩ := Blueprint.builds_of_addClasses .nil .nil hClasses
  exact ⟨js, hQueues, Blueprint.builds_of_addJunctions hBuilds hJunctions⟩

/-- The same, where only the document and the catalog of the blueprint count. -/
theorem Schema.exists_queues_of_ofDocument
    (h : (Schema.ofDocument registry settings catalog d).outcome = .ok s) :
    ∃ (b : Blueprint) (js : List ClassMapping), b.document = d ∧ b.catalog = catalog ∧
      b.Queues d.associations js ∧
      b.Builds s.tables (Origin.ofClasses d.classes ++ js.map Origin.ofJunction) := by
  obtain ⟨js, hQueues, hBuilds⟩ := Schema.exists_junctions_of_ofDocument h
  exact ⟨d.blueprint registry catalog, js, rfl, rfl, hQueues, hBuilds⟩

/-- The same, with what is needed of the junctions most often. -/
theorem Schema.exists_builds_of_ofDocument
    (h : (Schema.ofDocument registry settings catalog d).outcome = .ok s) :
    ∃ (b : Blueprint) (js : List ClassMapping), b.document = d ∧ b.catalog = catalog ∧
      (∀ j ∈ js, j.IsJunction) ∧
      b.Builds s.tables (Origin.ofClasses d.classes ++ js.map Origin.ofJunction) := by
  obtain ⟨b, js, hDocument, hCatalog, hQueues, hBuilds⟩ := Schema.exists_queues_of_ofDocument h
  exact ⟨b, js, hDocument, hCatalog, hQueues.isJunction, hBuilds⟩

/-- Every table of a schema was built by the blueprint of its document. -/
theorem Schema.exists_table_of_ofDocument
    (h : (Schema.ofDocument registry settings catalog d).outcome = .ok s) {t : Table}
    (ht : t ∈ s.tables) :
    ∃ (o : Origin) (built : List Table) (js js' : List ClassMapping),
      ((d.blueprint registry catalog).table built o.relation o.cls o.table js).outcome =
        .ok (t, js') := by
  obtain ⟨js, -, hBuilds⟩ := Schema.exists_junctions_of_ofDocument h
  obtain ⟨o, -, built, js₀, js₁, -, hTable⟩ := hBuilds.exists_origin ht
  exact ⟨o, built, js₀, js₁, hTable⟩

end OfDocument

/-! ## A document with tables of every kind -/

/-- What is computed from a result shows that there is one. -/
theorem exists_ok_of_toOption_map {ε α β : Type} {x : Except ε α} {f : α → β} {b : β}
    (h : x.toOption.map f = some b) : ∃ a, x = .ok a ∧ f a = b := by
  cases x with
  | error e => cases h
  | ok a => exact ⟨a, rfl, Option.some.inj h⟩

/-- An item has its identity from two levels above it. A note is identified by its number and its
item, refers to another note, and has items as tags. -/
def Document.sample : Document where
  classes :=
    [{ name := "Base"
       fields := [{ name := "id", type := "integer", identity := true, columns := ["id"] }] },
     { name := "Entity"
       parent := some "Base"
       fields := [{ name := "created", type := "date", columns := ["created"] }] },
     { name := "Item"
       table := some "item"
       parent := some "Entity"
       fields := [{ name := "title", type := "varchar(80)", columns := ["title"] }]
       indexes := [{ name := none, columns := ["title"], unique := true }] },
     { name := "Note"
       table := some "note"
       identity := ["item", "no"]
       fields :=
         [{ name := "no", type := "integer", columns := ["no"] },
          { name := "item", type := "Item", columns := ["item_id"] },
          { name := "next", type := "Note", columns := ["next_no", "next_item"] },
          { name := "tags", type := "Item", manyTable := some "note_item" }] }]

/-- Its schema in standard SQL, with default settings. -/
def Schema.ofSample : Building Schema :=
  Schema.ofDocument (.initial .generic) {} (Dialect.generic.catalog {}) .sample

/-- The sample has three tables. The junction of notes and their tags refers to a note by both of
its identity columns. -/
theorem Schema.exists_ofSample :
    ∃ s item note tags, Schema.ofSample.outcome = .ok s ∧ s.tables = [item, note, tags] ∧
      note.name = "note" ∧ note.columnNames = ["no", "item_id", "next_no", "next_item"] ∧
      tags.name = "note_item" ∧ tags.foreignKeys =
        [⟨"note_item_note", .manyToMany, ["note_no", "note_item_id"], "note", ["no", "item_id"]⟩,
         ⟨"note_item_item", .manyToMany, ["item"], "item", ["id"]⟩] := by
  -- what is computed: the names, the columns of notes, and the keys of the junction
  let view (s : Schema) :=
    (s.tables.map (·.name), s.tables[1]?.map (·.columnNames), s.tables[2]?.map (·.foreignKeys))
  obtain ⟨s, hs, hView⟩ : ∃ s, Schema.ofSample.outcome = .ok s ∧ view s =
      (["item", "note", "note_item"], some ["no", "item_id", "next_no", "next_item"], some
        [⟨"note_item_note", .manyToMany, ["note_no", "note_item_id"], "note", ["no", "item_id"]⟩,
         ⟨"note_item_item", .manyToMany, ["item"], "item", ["id"]⟩]) := by
    refine exists_ok_of_toOption_map ?_
    decide +kernel
  obtain ⟨hNames, hColumns, hKeys⟩ : _ ∧ _ ∧ _ := by
    simpa only [view, Prod.mk.injEq] using hView
  -- there are three tables
  obtain ⟨item, note, tags, hTables⟩ : ∃ item note tags, s.tables = [item, note, tags] :=
    List.length_eq_three.1 (by rw [← List.length_map, hNames]; rfl)
  rw [hTables] at hNames hColumns hKeys
  simp only [List.map_cons, List.map_nil, List.cons.injEq, and_true] at hNames
  exact ⟨s, item, note, tags, hs, hTables, hNames.2.1, Option.some.inj hColumns, hNames.2.2,
    Option.some.inj hKeys⟩

end MappingDdl
