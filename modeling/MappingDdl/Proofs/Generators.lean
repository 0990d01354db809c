import MappingDdl.Proofs.Merging

/-!
# Generators — which key generator a column is bound to

A table has a key generator, and each of its identity columns may have one. The emitter takes a
column for the table's generator only if both are the same one. The columns of a class get the
generator that the class names; the table starts with this one, and the merge of an inherited
identity puts that of a class above in its place. The columns that the merge adds get the new one,
those that it promotes keep the old one.

Main results:

* `Blueprint.generator_of_own` — the generator of a column of the class itself.
* `Blueprint.bindsOne_iff_of_table` — when all identity columns of a table have its generator.
* `Schema.bindsOne_iff` — the same for every table of a schema.
-/

namespace MappingDdl

/-! ## Key generators of a registry -/

namespace KeyGeneratorRegistry

variable {r : KeyGeneratorRegistry} {name name' : Option String} {g g' : KeyGenerator}

/-- What the registry gives is the first key generator of its name there. -/
theorem find?_of_get? (h : r.get? name = some g) :
    r.generators.find? (·.name == g.name) = some g := by
  obtain ⟨n, -, hFind⟩ := Option.bind_eq_some_iff.1 h
  have hName : g.name = Text.upper (Text.trim n) := by simpa using List.find?_some hFind
  rw [hName]
  exact hFind

/-- Two key generators of a registry that are the same have the same strategy and parameters. -/
theorem eq_of_same (h : r.get? name = some g) (h' : r.get? name' = some g')
    (hSame : g.same g' = true) : g = g' := by
  have hName : g.name = g'.name := by
    simp only [KeyGenerator.same, Bool.and_eq_true, beq_iff_eq] at hSame
    exact hSame.1
  have hFind := find?_of_get? h
  rw [hName, find?_of_get? h'] at hFind
  exact (Option.some.inj hFind).symm

end KeyGeneratorRegistry

/-- A key generator is the same as itself. -/
theorem KeyGenerator.same_self (g : KeyGenerator) : g.same g = true := by
  simp [same]

/-- After the merge a table has the key generator that it had, or one of the registry. -/
theorem Lineage.generator_eq (r : KeyGeneratorRegistry) (l : Lineage) (g : Option KeyGenerator) :
    l.generator r g = g ∨ ∃ name, l.generator r g = r.get? name := by
  -- on the lineage, with the generator that the level below leaves
  induction l generalizing g with
  | root => exact Or.inl rfl
  | unknownParent => exact Or.inl rfl
  | cycle => exact Or.inl rfl
  | step c rest ih =>
    rw [generator]
    split
    · -- the parent's own generator replaces the one there is, if it is known
      cases hKnown : r.get? rest.head.keyGenerator with
      | none =>
        rw [Option.none_or]
        exact ih g
      | some g' =>
        rw [Option.some_or]
        rcases ih (some g') with hSame | hOther
        · exact Or.inr ⟨rest.head.keyGenerator, hSame.trans hKnown.symm⟩
        · exact Or.inr hOther
    -- an identity of its own ends the merge
    · exact Or.inl rfl

/-- Every identity column of the table has no key generator, or the one of the table. -/
def Table.BindsOne (t : Table) : Prop :=
  ∀ column ∈ t.identityColumns, ∀ g, column.keyGenerator = some g →
    t.keyGenerator.any (·.same g) = true

instance (t : Table) : Decidable t.BindsOne :=
  decidable_of_iff (∀ column ∈ t.identityColumns,
    column.keyGenerator.all fun g => t.keyGenerator.any (·.same g)) (by
      simp only [Table.BindsOne, Option.all_eq_true])

namespace Blueprint

variable {b : Blueprint} {built : List Table} {relation : Relation} {c : ClassMapping}
  {name : String} {js js' : List ClassMapping} {t : Table} {g : Option KeyGenerator}

/-! ## The columns of a class -/

/-- The columns of foreign keys are columns of the fields they stand for. -/
theorem Refers.columns_subset {fs : List FieldMapping} {ks : List ForeignKey}
    (h : b.Refers relation t fs ks) : ks.flatMap (·.columns) ⊆ fs.flatMap (·.columns) := by
  intro column hColumn
  obtain ⟨k, hk, hMem⟩ := List.mem_flatMap.1 hColumn
  obtain ⟨f, hf, r, hReference⟩ := h.exists_field hk
  exact List.mem_flatMap.2 ⟨f, hf, hReference.columns ▸ hMem⟩

/-- What the columns of one field are bound to. -/
theorem HasTypes.generator_eq {f : FieldMapping} {ft : FieldTypes} (h : b.HasTypes f ft)
    {identity : Bool} {column : Column} (hColumn : column ∈ ft.columns f identity g) :
    column.name ∈ f.columns ∧
      column.keyGenerator = if ft.referenced.isNone then g else none := by
  refine ⟨?_, ?_⟩
  · rw [← h.columnNames identity g]
    exact List.mem_map_of_mem hColumn
  · obtain ⟨p, -, rfl⟩ := List.mem_map.1 hColumn
    rfl

/-- A column has the key generator of its class, or none. -/
theorem generator_of_lays {identity : FieldMapping → Bool} {fs : List FieldMapping}
    {cs : List Column} (h : b.Lays identity g fs cs) :
    ∀ column ∈ cs, column.keyGenerator = none ∨ column.keyGenerator = g := by
  intro column hColumn
  obtain ⟨f, -, ft, hTypes, hOf⟩ := h.exists_field hColumn
  rw [(hTypes.generator_eq hOf).2]
  split
  · exact Or.inr rfl
  · exact Or.inl rfl

/-- The columns of foreign keys have no key generator, and all other columns have that of the
class. -/
theorem generator_of_refers {identity : FieldMapping → Bool} {fs : List FieldMapping}
    {cs : List Column} {ks : List ForeignKey} (h : b.Lays identity g fs cs)
    (hRefers : b.Refers relation t fs ks) (hNodup : (fs.flatMap (·.columns)).Nodup) :
    ∀ column ∈ cs, column.keyGenerator =
      if column.name ∈ ks.flatMap (·.columns) then none else g := by
  -- on the fields, with the foreign keys that are left for the others
  induction h generalizing ks with
  | nil =>
    intro column hColumn
    cases hColumn
  | @cons f ft rest cs hTypes hRest ih =>
    rw [List.flatMap_cons, List.nodup_append] at hNodup
    obtain ⟨-, hNodupRest, hApart⟩ := hNodup
    -- a column of the first field is none of the others', and the other way round
    have hNames : ∀ column ∈ cs, column.name ∈ rest.flatMap (·.columns) := by
      intro column hColumn
      rw [← hRest.columnNames]
      exact List.mem_map_of_mem hColumn
    cases hRefers with
    -- a plain field is no part of a foreign key
    | plain hTypes' hPlain hRefersRest =>
      cases hTypes.unique hTypes'
      intro column hColumn
      rcases List.mem_append.1 hColumn with hHere | hLater
      · obtain ⟨hName, hGenerator⟩ := hTypes.generator_eq hHere
        have hNone : column.name ∉ ks.flatMap (·.columns) := fun hKey =>
          hApart _ hName _ (hRefersRest.columns_subset hKey) rfl
        rw [hGenerator, hPlain, if_neg hNone]
        rfl
      · exact ih hRefersRest hNodupRest column hLater
    -- a reference has a foreign key on all its columns
    | @reference _ r k _ ks' hKey hRefersRest =>
      obtain ⟨types, hTypes', -⟩ := hKey.types
      cases hTypes.unique hTypes'
      rw [List.flatMap_cons, hKey.columns]
      intro column hColumn
      rcases List.mem_append.1 hColumn with hHere | hLater
      -- the column is one of its own
      · obtain ⟨hName, hGenerator⟩ := hTypes.generator_eq hHere
        rw [hGenerator, if_pos (List.mem_append_left _ hName)]
        rfl
      -- or one of another field, which has not got this name
      · have hOther : column.name ∉ f.columns := fun hName =>
          hApart _ hName _ (hNames column hLater) rfl
        rw [ih hRefersRest hNodupRest column hLater]
        simp only [List.mem_append, hOther, false_or]

/-! ## The columns of a table -/

/-- The columns of the class itself start with its key generator, except for references. -/
theorem generator_of_own (h : (b.table built relation c name js).outcome = .ok (t, js'))
    (hFields : c.fields ≠ []) {own : List Column}
    (hOwn : b.Lays c.isIdentity g (c.fields.filter (·.isStored)) own) :
    ∀ column ∈ own, column.keyGenerator =
      if column.name ∈ t.foreignKeys.flatMap (·.columns) then none else g := by
  have hNodup := (keyed_of_table h).nodupNames
  rw [columnNames_eq_of_table h hFields] at hNodup
  exact generator_of_refers hOwn (refers_of_table h) (List.nodup_append.1 hNodup).1

/-- The identity columns of a table have its key generator, or none, exactly if this is so for every
promoted column of the class itself that belongs to no reference. -/
theorem bindsOne_iff_of_table (h : (b.table built relation c name js).outcome = .ok (t, js')) :
    t.BindsOne ↔
      ∀ column ∈ (b.document.merged c).promoted, column ∈ c.columns →
        (∀ k ∈ t.foreignKeys, column ∉ k.columns) →
        ∀ g, b.registry.get? c.keyGenerator = some g →
          ((b.document.lineage c).generator b.registry (some g)).any (·.same g) = true := by
  by_cases hFields : c.fields = []
  · -- a class without fields has a table without columns
    have hNone : c.columns = [] := by rw [ClassMapping.columns, hFields]; rfl
    have hEmpty : t.identityColumns = [] := by
      rcases table_eq_ok_iff.1 h with ⟨-, rfl, -⟩ | ⟨hSome, -⟩
      · rfl
      · exact absurd hFields hSome
    simp [Table.BindsOne, hEmpty, hNone]
  · obtain ⟨hTable, own, added, hOwn, hAdded, hColumns⟩ := merged_of_table h hFields
    have hGenerator := generator_of_own h hFields hOwn
    have hNames : own.map (·.name) = c.columns := hOwn.columnNames
    constructor
    -- what is bound has the generator of the table
    · intro hBinds column hPromoted hMem hPlain g hGiven
      rw [← hNames] at hMem
      obtain ⟨y, hy, rfl⟩ := List.mem_map.1 hMem
      -- the promoted column is an identity column with the generator of the class
      have hThere : y.promote (b.document.merged c).promoted ∈ t.identityColumns := by
        refine List.mem_filter.2 ⟨?_, ?_⟩
        · rw [hColumns]
          exact List.mem_append_left _ (List.mem_map_of_mem hy)
        · rw [Column.promote, List.contains_iff_mem.2 hPromoted, Bool.or_true]
      have hNoKey : y.name ∉ t.foreignKeys.flatMap (·.columns) := by
        simpa using hPlain
      have hOwnGenerator : y.keyGenerator = some g := by
        rw [hGenerator y hy, if_neg hNoKey, hGiven]
      have hSame := hBinds _ hThere g hOwnGenerator
      rwa [hTable, hGiven] at hSame
    -- a bound column is the class's own, and promoted or not, or it was added from above
    · intro hKept x hx g hBound
      obtain ⟨hx, hIdentity⟩ := List.mem_filter.1 hx
      rw [hColumns] at hx
      rcases List.mem_append.1 hx with hHere | hNew
      · obtain ⟨y, hy, rfl⟩ := List.mem_map.1 hHere
        have hOwnGenerator : y.keyGenerator = some g := hBound
        rw [hGenerator y hy] at hOwnGenerator
        split at hOwnGenerator
        · cases hOwnGenerator
        · next hNoKey =>
          rw [hTable, hOwnGenerator]
          rcases Bool.or_eq_true_iff.1 hIdentity with hAlready | hPromoted
          · -- a class with identity columns of its own inherits none, and no generator
            have hSome : (b.document.lineage c).head.identityFields ≠ [] := by
              rw [Document.head_lineage]
              intro hNone
              cases hAlready.symm.trans (hOwn.identity_eq_false hNone y hy)
            rw [Lineage.generator_of_head hSome]
            exact g.same_self
          · refine hKept y.name (List.contains_iff_mem.1 hPromoted) ?_ ?_ g hOwnGenerator
            · exact hNames ▸ List.mem_map_of_mem hy
            · simpa using hNoKey
      -- an added column has the generator with which the merge ends, or none
      · rcases generator_of_lays hAdded x hNew with hNone | hSame
        · cases hNone.symm.trans hBound
        · rw [← hSame, hBound]
          exact g.same_self

/-- A class that extends nothing gives its table the key generator that it names. -/
theorem keyGenerator_of_root (hParent : given c.parent = none) (hFields : c.fields ≠ [])
    (h : (b.table built relation c name js).outcome = .ok (t, js')) :
    t.keyGenerator = b.registry.get? c.keyGenerator := by
  obtain ⟨hTable, -⟩ := merged_of_table h hFields
  rwa [Document.lineage_root hParent] at hTable

/-- The key generator of a table is one of the registry. -/
theorem exists_get?_of_keyGenerator
    (h : (b.table built relation c name js).outcome = .ok (t, js')) {g : KeyGenerator}
    (hBound : t.keyGenerator = some g) : ∃ name, b.registry.get? name = some g := by
  -- without fields nothing was bound
  by_cases hFields : c.fields = []
  · rcases table_eq_ok_iff.1 h with ⟨-, rfl, -⟩ | ⟨hSome, -⟩
    · cases hBound
    · exact absurd hFields hSome
  · obtain ⟨hTable, -⟩ := merged_of_table h hFields
    rw [hTable] at hBound
    -- the generator that the class names, or one from above
    rcases (b.document.lineage c).generator_eq b.registry (b.registry.get? c.keyGenerator) with
      hOwn | ⟨name, hName⟩
    · exact ⟨c.keyGenerator, hOwn.symm.trans hBound⟩
    · exact ⟨name, hName.symm.trans hBound⟩

/-- The key generator of a column is one of the registry. -/
theorem exists_get?_of_column (h : (b.table built relation c name js).outcome = .ok (t, js'))
    {column : Column} (hColumn : column ∈ t.columns) {g : KeyGenerator}
    (hBound : column.keyGenerator = some g) : ∃ name, b.registry.get? name = some g := by
  -- a column belongs to the class itself, or it was added
  have hFields := fields_ne_nil_of_mem_columnNames h (List.mem_map_of_mem hColumn)
  obtain ⟨-, own, added, hOwn, hAdded, hColumns⟩ := merged_of_table h hFields
  rw [hColumns] at hColumn
  rcases List.mem_append.1 hColumn with hHere | hNew
  · obtain ⟨y, hy, rfl⟩ := List.mem_map.1 hHere
    have hOwnBound : y.keyGenerator = some g := hBound
    rcases generator_of_lays hOwn y hy with hNone | hSame
    · cases hNone.symm.trans hOwnBound
    · exact ⟨c.keyGenerator, hSame.symm.trans hOwnBound⟩
  · rcases generator_of_lays hAdded column hNew with hNone | hSame
    · cases hNone.symm.trans hBound
    · exact exists_get?_of_keyGenerator h (hSame.symm.trans hBound)

/-- In a table with one key generator a column that the database generates has the strategy of the
table. -/
theorem strategy_of_bindsOne (h : (b.table built relation c name js).outcome = .ok (t, js'))
    (hBinds : t.BindsOne) {column : Column} (hColumn : column ∈ t.columns)
    (hGenerated : column.isGenerated = true) :
    t.keyGenerator.map (·.strategy) = some .identity := by
  obtain ⟨hIdentity, hStrategy⟩ : column.identity = true ∧
      column.keyGenerator.map (·.strategy) = some .identity := by
    simpa [Column.isGenerated] using hGenerated
  -- the column is bound to a generator with the identity strategy
  obtain ⟨g, hBound, hOf⟩ := Option.map_eq_some_iff.1 hStrategy
  have hSame := hBinds column (List.mem_filter.2 ⟨hColumn, hIdentity⟩) g hBound
  cases hTable : t.keyGenerator with
  | none =>
    rw [hTable] at hSame
    cases hSame
  -- both are of the registry, where the name tells them apart
  | some g' =>
    rw [hTable, Option.any_some] at hSame
    obtain ⟨name, hName⟩ := exists_get?_of_column h hColumn hBound
    obtain ⟨name', hName'⟩ := exists_get?_of_keyGenerator h hTable
    rw [KeyGeneratorRegistry.eq_of_same hName' hName hSame, Option.map_some, hOf]

end Blueprint

/-! ## The tables of a schema -/

/-- The key generators of a run while a document is built. -/
def Document.registered (d : Document) (registry : KeyGeneratorRegistry) : KeyGeneratorRegistry :=
  (registry.reset.load d.keyGenerators).1

/-- **When a table has one key generator.** Every identity column of a table has the key generator
of the table, or none, exactly if the table keeps the generator of its class for the columns that
are promoted: for every column of the class itself that is promoted and belongs to no reference, the
merge of the inherited identity ends with the generator that the class names, if this is known. In a
table of this kind a column that the database generates follows the generator of the table. -/
theorem Schema.bindsOne_iff {registry : KeyGeneratorRegistry} {settings : Settings}
    {catalog : TypeCatalog} {d : Document} {s : Schema}
    (h : (Schema.ofDocument registry settings catalog d).outcome = .ok s) {t : Table}
    (ht : t ∈ s.tables) :
    (t.BindsOne ↔
      ∀ c ∈ d.classes, c.mappedTable = some t.name → ∀ column ∈ (d.merged c).promoted,
        column ∈ c.columns → (∀ k ∈ t.foreignKeys, column ∉ k.columns) →
        ∀ g, (d.registered registry).get? c.keyGenerator = some g →
          ((d.lineage c).generator (d.registered registry) (some g)).any (·.same g) = true) ∧
    (t.BindsOne → ∀ column ∈ t.columns, column.isGenerated = true →
      t.keyGenerator.map (·.strategy) = some .identity) := by
  -- the table is that of a class or of a junction
  obtain ⟨js, hQueues, hBuilds⟩ := Schema.exists_junctions_of_ofDocument h
  obtain ⟨o, ho, built, js₀, js₁, -, hTable⟩ := hBuilds.exists_origin ht
  refine ⟨(Blueprint.bindsOne_iff_of_table hTable).trans ⟨?_, ?_⟩, fun hBinds column hColumn =>
    Blueprint.strategy_of_bindsOne hTable hBinds hColumn⟩
  · intro hKept c hc hMapped
    -- no other class, and no junction, has the table of this class
    have hName : t.name = o.table := Blueprint.name_of_table hTable
    have hSame := hBuilds.origin_eq ho (Origin.mem_append_of_class hc hMapped) hName.symm
    subst hSame
    exact hKept
  · intro hKept
    rcases List.mem_append.1 ho with hClass | hJunction
    · obtain ⟨-, hc, hMapped⟩ := Origin.mem_ofClasses_iff.1 hClass
      have hName : t.name = o.table := Blueprint.name_of_table hTable
      exact hKept o.cls hc (hName ▸ hMapped)
    · -- a junction extends nothing, so none of its columns is promoted
      obtain ⟨j, hj, rfl⟩ := List.mem_map.1 hJunction
      have hParent : given j.parent = none := by rw [(hQueues.isJunction j hj).parent]; rfl
      have hNone : d.merged j = {} := by
        rw [Document.merged, Document.lineage_root hParent, Lineage.merge_root]
      intro column hColumn
      have hPromoted : column ∈ (d.merged j).promoted := hColumn
      rw [hNone] at hPromoted
      cases hPromoted

/-- A person and a visitor extend a party, whose keys the database generates, and declare its
identity again. A visitor names a key generator of another kind. -/
def Document.visits : Document where
  classes :=
    [{ name := "Party"
       keyGenerator := some "IDENTITY"
       fields := [{ name := "id", type := "integer", identity := true, columns := ["id"] }] },
     { name := "Person"
       table := some "person"
       parent := some "Party"
       keyGenerator := some "identity"
       fields := [{ name := "id", type := "integer", columns := ["person_id"] }] },
     { name := "Visitor"
       table := some "visitor"
       parent := some "Party"
       keyGenerator := some "UUID"
       fields := [{ name := "id", type := "integer", columns := ["visitor_id"] }] }]

/-- Its schema in standard SQL, with default settings. -/
def Schema.ofVisits : Building Schema :=
  Schema.ofDocument (.initial .generic) {} (Dialect.generic.catalog {}) .visits

/-- The key of a person has the key generator of its table. -/
theorem Schema.bindsOne_of_person :
    ∃ s t, Schema.ofVisits.outcome = .ok s ∧ s.table? "person" = some t ∧ t.BindsOne := by
  -- the table is there, and the generators are compared on all classes
  let view (s : Schema) := (s.table? "person").map (·.name)
  obtain ⟨s, hs, hView⟩ : ∃ s, Schema.ofVisits.outcome = .ok s ∧ view s = some "person" :=
    exists_ok_of_toOption_map (by decide +kernel)
  obtain ⟨t, hFind, hName⟩ := Option.map_eq_some_iff.1 hView
  have hIff := (Schema.bindsOne_iff hs (List.mem_of_find?_eq_some hFind)).1
  refine ⟨s, t, hs, hFind, hIff.2 fun c hc hMapped column _ _ _ g hGiven => ?_⟩
  rw [hName] at hMapped
  -- each class that has this table names the generator with which its merge ends
  have hAll : ∀ c ∈ Document.visits.classes, c.mappedTable = some "person" →
      ((Document.visits.registered (.initial .generic)).get? c.keyGenerator).all (fun g =>
        ((Document.visits.lineage c).generator (Document.visits.registered (.initial .generic))
          (some g)).any (·.same g)) = true := by
    decide +kernel
  exact (Option.all_eq_true _ _).1 (hAll c hc hMapped) g hGiven

/-- The key of a visitor has another key generator than its table. -/
theorem Schema.not_bindsOne_of_visitor :
    ∃ s t, Schema.ofVisits.outcome = .ok s ∧ s.table? "visitor" = some t ∧
      t.keyColumns = ["visitor_id"] ∧ t.keyGenerator.map (·.strategy) = some .identity ∧
      ¬ t.BindsOne := by
  -- what is computed of the visitor
  let view (s : Schema) := (s.table? "visitor").map fun t =>
    (t.keyColumns, t.keyGenerator.map (·.strategy), decide t.BindsOne)
  obtain ⟨s, hs, hView⟩ : ∃ s, Schema.ofVisits.outcome = .ok s ∧
      view s = some (["visitor_id"], some .identity, false) :=
    exists_ok_of_toOption_map (by decide +kernel)
  obtain ⟨t, hFind, hEq⟩ := Option.map_eq_some_iff.1 hView
  obtain ⟨hKey, hEq⟩ := Prod.mk.inj hEq
  obtain ⟨hGenerator, hBinds⟩ := Prod.mk.inj hEq
  exact ⟨s, t, hs, hFind, hKey, hGenerator, of_decide_eq_false hBinds⟩

end MappingDdl
