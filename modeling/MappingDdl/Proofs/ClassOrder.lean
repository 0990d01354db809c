import MappingDdl.Proofs.Agreement
import MappingDdl.Proofs.Junction

/-!
# The order of classes — what depends on it, and what does not

The tables of classes are built one after the other, each beside those before it, and beside a queue
of junctions that grows on the way. A class finds other classes in the document, by names that no
two of them share, so it finds the same ones wherever they stand. Of the tables before it, it only
asks whether the one that it refers to is there, with the columns that it refers to
(`Blueprint.foreignKey_unique`). This decides whether there is a table, but not which one.

Main results:

* `Document.agrees_of_perm` — documents with the same classes in different orders agree.
* `Blueprint.table_unique` — the table of a class, beside whatever tables it is built.
* `Schema.tables_of_perm` — two schemas of the same classes in different orders.
-/

namespace MappingDdl

/-! ## Finding classes -/

namespace Document

variable {d d' : Document}

/-- Where names are distinct, the order does not matter to who is found under a name. -/
theorem class?_of_perm (hPerm : d.classes.Perm d'.classes) (hSound : d.structureProblems = [])
    (hSound' : d'.structureProblems = []) (name : String) : d'.class? name = d.class? name := by
  -- the names are distinct in both, so what has the name in one document has it in the other
  cases hHere : d.class? name with
  | some c =>
    have hName : c.name = name := by simpa using List.find?_some hHere
    have hThere : c ∈ d'.classes := hPerm.subset (List.mem_of_find?_eq_some hHere)
    rw [← hName]
    exact class?_eq_some hSound' hThere
  | none =>
    -- a class that is found in the second document would be found in the first one
    by_contra hFound
    obtain ⟨c, hThere⟩ := Option.ne_none_iff_exists'.1 hFound
    have hName : c.name = name := by simpa using List.find?_some hThere
    have hc : c ∈ d.classes := hPerm.symm.subset (List.mem_of_find?_eq_some hThere)
    have hSome := class?_eq_some hSound hc
    rw [hName, hHere] at hSome
    cases hSome

/-- Documents with the same classes in different orders agree. -/
theorem agrees_of_perm (hPerm : d.classes.Perm d'.classes) (hSound : d.structureProblems = [])
    (hSound' : d'.structureProblems = []) : d.Agrees d' where
  subset := hPerm.subset
  name c _ := class?_of_perm hPerm hSound hSound' c.name
  parent _ _ name _ := class?_of_perm hPerm hSound hSound' name
  type _ _ f _ := class?_of_perm hPerm hSound hSound' f.type

/-- The associations of a document do not depend on the order of its classes. -/
theorem mem_associations_of_perm (hPerm : d.classes.Perm d'.classes) {a : Association} :
    a ∈ d'.associations ↔ a ∈ d.associations := by
  rw [mem_associations_iff, mem_associations_iff, hPerm.mem_iff]

/-- Nor do the names of the tables of its classes, -/
theorem mem_classTables_of_perm (hPerm : d.classes.Perm d'.classes) {name : String} :
    name ∈ d'.classTables ↔ name ∈ d.classTables :=
  (hPerm.filterMap _).mem_iff.symm

/-- nor those of its junctions. -/
theorem mem_junctionNames_of_perm (hPerm : d.classes.Perm d'.classes) {name : String} :
    name ∈ d'.junctionNames ↔ name ∈ d.junctionNames := by
  simp only [junctionNames, List.mem_eraseDups, List.mem_filterMap, mem_associations_of_perm hPerm]

end Document

/-! ## The table of a class -/

namespace Blueprint

variable {b : Blueprint} {built built' : List Table} {relation : Relation} {c : ClassMapping}
  {g : Option KeyGenerator} {name : String} {t u u' : Table} {js js' js₁ js₁' : List ClassMapping}

/-- What a field makes of a table does not depend on the tables that are there. -/
theorem addField_unique {f : FieldMapping}
    (h : (b.addField built relation c g t f).outcome = .ok u)
    (h' : (b.addField built' relation c g t f).outcome = .ok u') : u' = u := by
  obtain ⟨ft, v, hTypes, hAdd, hRest⟩ := addField_eq_ok_iff.1 h
  obtain ⟨ft', v', hTypes', hAdd', hRest'⟩ := addField_eq_ok_iff.1 h'
  -- both have the same types, so they add the same columns
  have hSame : ft' = ft := hTypes'.unique hTypes
  subst hSame
  have hColumns : v' = v := Except.ok.inj (hAdd'.symm.trans hAdd)
  subst hColumns
  -- neither refers to a class, or both do
  rcases hRest with ⟨hNone, rfl⟩ | ⟨r, k, hSome, hKey, rfl⟩
  · rcases hRest' with ⟨-, rfl⟩ | ⟨r', k', hSome', -, -⟩
    · rfl
    · cases hNone.symm.trans hSome'
  · rcases hRest' with ⟨hNone', -⟩ | ⟨r', k', hSome', hKey', rfl⟩
    · cases hNone'.symm.trans hSome
    · -- both refer to the same class, by the same key
      have hClass : r' = r := Option.some.inj (hSome'.symm.trans hSome)
      subst hClass
      rw [foreignKey_unique rfl hKey hKey']

/-- Fields make the same of a table, whatever tables are there and whatever junctions are queued. -/
theorem addFields_unique {fs : List FieldMapping}
    (h : (b.addFields built relation c g t js fs).outcome = .ok (u, js₁))
    (h' : (b.addFields built' relation c g t js' fs).outcome = .ok (u', js₁')) : u' = u := by
  induction fs generalizing t js js' with
  | nil =>
    cases h
    cases h'
    rfl
  | cons f rest ih =>
    rw [addFields] at h h'
    -- a relation changes the queue only, a stored field the table, and any other field nothing
    by_cases hMany : f.isManyToMany = true
    · rw [if_pos hMany] at h h'
      -- the queues may be different, but no table is
      obtain ⟨queue, -, hRest⟩ := Traced.outcome_bind_eq_ok_iff.1 h
      obtain ⟨queue', -, hRest'⟩ := Traced.outcome_bind_eq_ok_iff.1 h'
      exact ih hRest hRest'
    · rw [if_neg hMany] at h h'
      by_cases hColumns : f.hasColumns = true
      · rw [if_pos hColumns] at h h'
        obtain ⟨v, hField, hRest⟩ := Traced.outcome_bind_eq_ok_iff.1 h
        obtain ⟨v', hField', hRest'⟩ := Traced.outcome_bind_eq_ok_iff.1 h'
        -- both tables are the same when the rest comes
        have hSame : v' = v := addField_unique hField hField'
        subst hSame
        exact ih hRest hRest'
      · rw [if_neg hColumns] at h h'
        exact ih h h'

/-- A class has one table, whatever tables are there and whatever junctions are queued. -/
theorem table_unique (h : (b.table built relation c name js).outcome = .ok (u, js₁))
    (h' : (b.table built' relation c name js').outcome = .ok (u', js₁')) : u' = u := by
  rcases table_eq_ok_iff.1 h with
    ⟨hEmpty, rfl, -⟩ | ⟨hFields, g, v, w, hGenerator, hAdded, hInherit, hIndexes⟩
  · rcases table_eq_ok_iff.1 h' with ⟨-, rfl, -⟩ | ⟨hFields', -⟩
    · rfl
    · exact absurd hEmpty hFields'
  · rcases table_eq_ok_iff.1 h' with
      ⟨hEmpty', -⟩ | ⟨-, g', v', w', hGenerator', hAdded', hInherit', hIndexes'⟩
    · exact absurd hEmpty' hFields
    -- the generator, the fields, the merge and the indexes are the same one after the other
    · have hKeys : g' = g := Except.ok.inj (hGenerator'.symm.trans hGenerator)
      subst hKeys
      have hSame : v' = v := addFields_unique hAdded hAdded'
      subst hSame
      -- the merge and the indexes look at the table and the document only
      have hMerged : w' = w := Except.ok.inj (hInherit'.symm.trans hInherit)
      subst hMerged
      exact Except.ok.inj (hIndexes'.symm.trans hIndexes)

end Blueprint

/-! ## Schemas -/

section Schema

variable {registry : KeyGeneratorRegistry} {settings : Settings} {catalog : TypeCatalog}
  {d d' : Document} {s s' : Schema}

/-- A schema has the tables of classes and those of junctions. -/
theorem Schema.mem_tableNames_iff
    (h : (Schema.ofDocument registry settings catalog d).outcome = .ok s) {name : String} :
    name ∈ s.tableNames ↔ name ∈ d.classTables ∨ name ∈ d.junctionNames := by
  obtain ⟨js, hQueues, hBuilds⟩ := Schema.exists_junctions_of_ofDocument h
  have hNames : s.tableNames = d.classTables ++ d.junctionNames := by
    rw [Schema.tableNames, hBuilds.names_eq_append, hQueues.names_eq]
    rfl
  rw [hNames, List.mem_append]

/-- **Class order only orders.** Two documents have the same key generators, and the same classes in
different orders. Where both have a schema, each mapped class has the same table in both of them,
and the schemas have tables of the same names. -/
theorem Schema.tables_of_perm (hPerm : d.classes.Perm d'.classes)
    (hKeys : d'.keyGenerators = d.keyGenerators)
    (h : (Schema.ofDocument registry settings catalog d).outcome = .ok s)
    (h' : (Schema.ofDocument registry settings catalog d').outcome = .ok s') :
    (∀ c ∈ d.classes, ∀ name, c.mappedTable = some name →
      ∃ t, s.table? name = some t ∧ s'.table? name = some t) ∧
    s.tableNames.Perm s'.tableNames := by
  -- names are different in both documents, so a class is found in either
  obtain ⟨hSound, -⟩ := Schema.ofDocument_eq_ok_iff.1 h
  obtain ⟨hSound', -⟩ := Schema.ofDocument_eq_ok_iff.1 h'
  obtain ⟨js, -, hBuilds⟩ := Schema.exists_junctions_of_ofDocument h
  obtain ⟨js', -, hBuilds'⟩ := Schema.exists_junctions_of_ofDocument h'
  have hAgrees : d.Agrees d' := Document.agrees_of_perm hPerm hSound hSound'
  refine ⟨fun c hc name hMapped => ?_, ?_⟩
  · obtain ⟨t, built, js₀, js₁, hFind, hTable⟩ := hBuilds.exists_table_of_class hc hMapped
    obtain ⟨t', built', js₀', js₁', hFind', hTable'⟩ :=
      hBuilds'.exists_table_of_class (hPerm.subset hc) hMapped
    have hBlueprint : d'.blueprint registry catalog = (d.blueprint registry catalog).on d' := by
      rw [Document.blueprint, hKeys]
      rfl
    -- the second document builds the table of the class as the first one does
    have hOn : ((d.blueprint registry catalog).on d').table built' .oneToOne c name js₀' =
        (d.blueprint registry catalog).table built' .oneToOne c name js₀' :=
      Blueprint.table_on hAgrees (fun _ _ _ _ => rfl) (.of_class hAgrees hc)
    rw [hBlueprint, hOn] at hTable'
    have hSame : t' = t := Blueprint.table_unique hTable hTable'
    exact ⟨t, hFind, hSame ▸ hFind'⟩
  -- the names are those of the mapped classes and of the junctions
  · refine (List.perm_ext_iff_of_nodup hBuilds.nodup_names hBuilds'.nodup_names).2 fun name => ?_
    show name ∈ s.tableNames ↔ name ∈ s'.tableNames
    rw [Schema.mem_tableNames_iff h, Schema.mem_tableNames_iff h',
      Document.mem_classTables_of_perm hPerm, Document.mem_junctionNames_of_perm hPerm]

/-- The classes of the sample, with those that are extended behind those that extend them. -/
def Document.sampleShuffled : Document where
  classes := Document.sample.classes.drop 2 ++ Document.sample.classes.take 2

/-- The sample with its first classes moved behind the others. -/
theorem Document.sample_perm_shuffled : sample.classes.Perm sampleShuffled.classes := by
  show (sample.classes.take 2 ++ sample.classes.drop 2).Perm _
  exact List.perm_append_comm

/-- The table of a note is the same in both schemas of the sample. -/
theorem Schema.tables_of_sampleShuffled :
    ∃ s s' t, Schema.ofSample.outcome = .ok s ∧
      (Schema.ofDocument (.initial .generic) {} (Dialect.generic.catalog {})
        .sampleShuffled).outcome = .ok s' ∧
      s.table? "note" = some t ∧ s'.table? "note" = some t ∧
      s.tableNames.Perm s'.tableNames := by
  -- the sample with its classes in two orders
  obtain ⟨s, -, -, -, hSample, -⟩ := Schema.exists_ofSample
  obtain ⟨s', hShuffled, -⟩ : ∃ s', (Schema.ofDocument (.initial .generic) {}
      (Dialect.generic.catalog {}) .sampleShuffled).outcome = .ok s' ∧ s'.tableNames.length = 3 :=
    exists_ok_of_toOption_map (by decide +kernel)
  have hNote : Document.sample.classes[3] ∈ Document.sample.classes := List.getElem_mem _
  obtain ⟨hTables, hNames⟩ :=
    Schema.tables_of_perm Document.sample_perm_shuffled rfl hSample hShuffled
  obtain ⟨t, hHere, hThere⟩ := hTables _ hNote "note" (by decide)
  exact ⟨s, s', t, hSample, hShuffled, hHere, hThere, hNames⟩

end Schema

end MappingDdl
