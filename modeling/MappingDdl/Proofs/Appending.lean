import MappingDdl.Proofs.Agreement

/-!
# Appending — a document with one more class

A class that comes in at the end of a document changes nothing for the classes before it, as long as
its name is new (`Document.IsFresh`). Its own table is made if all of its fields can be added
(`Blueprint.Admits`), and the junctions are built after it as they were without it.

Main results:

* `Document.IsFresh.agrees` — the two documents agree on the classes that were there.
* `Blueprint.exists_table` — a class whose fields can be added has a table.
* `Schema.exists_ofDocument_append` — the schema after the class has come in.
-/

namespace MappingDdl

/-! ## One more class -/

/-- The document with one more class at its end. -/
def Document.append (d : Document) (x : ClassMapping) : Document :=
  { d with classes := d.classes ++ [x] }

/-- No class of the document has this name, and no field has it as its type. -/
structure Document.IsFresh (d : Document) (name : String) : Prop where
  names : ∀ c ∈ d.classes, c.name ≠ name
  types : ∀ c ∈ d.classes, ∀ f ∈ c.fields, f.type ≠ name

section Append

variable {d : Document} {x : ClassMapping}

/-- A class that comes in at the end is not found under any other name. -/
theorem Document.class?_append {name : String} (h : name ≠ x.name) :
    (d.append x).class? name = d.class? name := by
  have hOther : ¬ (x.name == name) = true := by simpa using h.symm
  rw [class?, append, List.find?_append, List.find?_singleton, if_neg hOther, Option.or_none]
  rfl

/-- A document agrees with itself and one more class, if no class asks for the new name. -/
theorem Document.IsFresh.agrees (h : d.IsFresh x.name) (hSound : d.structureProblems = []) :
    d.Agrees (d.append x) where
  subset := List.subset_append_left _ _
  name c hc := class?_append (h.names c hc)
  parent c hc name hGiven := by
    -- a parent is a class of the document
    obtain ⟨p, hp, rfl⟩ :=
      List.mem_map.1 ((structureProblems_eq_nil_iff.1 hSound).2 c hc name hGiven)
    exact class?_append (h.names p hp)
  type c hc f hf := class?_append (h.types c hc f hf)

/-- With a class of a new name that extends nothing, a sound document stays sound. -/
theorem Document.IsFresh.structureProblems_append (h : d.IsFresh x.name)
    (hSound : d.structureProblems = []) (hParent : given x.parent = none) :
    (d.append x).structureProblems = [] := by
  obtain ⟨hNodup, hParents⟩ := structureProblems_eq_nil_iff.1 hSound
  refine structureProblems_eq_nil_iff.2 ⟨?_, fun c hc p hGiven => ?_⟩
  -- the new name is none of the others
  · rw [append, List.map_append, List.map_singleton, ← List.concat_eq_append]
    refine hNodup.concat fun hMem => ?_
    obtain ⟨c, hc, hName⟩ := List.mem_map.1 hMem
    exact h.names c hc hName
  -- and each parent is still there
  · rw [append, List.map_append, List.mem_append]
    rcases List.mem_append.1 hc with hOld | hNew
    · exact Or.inl (hParents c hOld p hGiven)
    · rw [List.mem_singleton.1 hNew, hParent] at hGiven
      cases hGiven

end Append

namespace Blueprint

variable {b : Blueprint} {built : List Table} {relation : Relation} {c r : ClassMapping}
  {f : FieldMapping} {g : Option KeyGenerator} {t : Table} {name : String} {js : List ClassMapping}

/-! ## Fields that can be added -/

/-- A field of a table with the given name can refer to the class `r` by its identity: the table of
`r` is there, and has a column for each of the field's. -/
structure Target (b : Blueprint) (built : List Table) (name : String) (f : FieldMapping)
    (r : ClassMapping) : Prop where
  noKey : f.manyKey = []
  table : ∃ u columns, r.mappedTable = some u.name ∧ u.name ≠ name ∧
            built.find? (·.name == u.name) = some u ∧
            b.document.identityColumns r = .ok columns ∧
            (∀ column ∈ columns, column ∈ u.columnNames) ∧ columns.length = f.columns.length

/-- A field can be added to a table with the given name: its columns have types, and the class that
it refers to is there. -/
structure Admits (b : Blueprint) (built : List Table) (name : String) (f : FieldMapping) :
    Prop where
  stored : f.isStored = true
  types  : ∃ ft, b.HasTypes f ft ∧ ∀ r, ft.referenced = some r → b.Target built name f r

/-- Columns with new names, distinct among themselves, can all be added. -/
theorem exists_addColumns {identity : Bool} {ps : List (String × ColumnType)}
    (h : (t.columnNames ++ ps.map (·.1)).Nodup) :
    ∃ t', addColumns t f identity g ps = .ok t' := by
  induction ps generalizing t with
  | nil => exact ⟨t, rfl⟩
  | cons p rest ih =>
    -- the first name is not one of the table's, and the others are no names of the table with it
    have hNew : p.1 ∉ t.columnNames := by
      intro hMem
      exact (List.nodup_append.1 h).2.2 p.1 hMem p.1 List.mem_cons_self rfl
    -- the table with the first column, and its key where it belongs to the identity
    let u : Table := { t with columns := t.columns ++ [⟨p.1, p.2, identity, f.required, g⟩] }
    have hAdd : t.addColumn ⟨p.1, p.2, identity, f.required, g⟩ = .ok u :=
      Table.addColumn_eq_ok_iff.2 ⟨hNew, rfl⟩
    have hNames : (if identity then u.addKeyColumn p.1 else u).columnNames =
        t.columnNames ++ [p.1] := by
      split <;> simp [u, Table.columnNames, Table.addKeyColumn]
    -- the other names are still new in it
    obtain ⟨t', hRest⟩ := ih (t := if identity then u.addKeyColumn p.1 else u) (by
      rw [hNames, List.append_assoc]
      exact h)
    exact ⟨t', bind_eq_ok_iff.2 ⟨u, hAdd, hRest⟩⟩

/-- A reference to a table that is there, with as many columns as its key, has a foreign key. -/
theorem exists_foreignKey (hTarget : b.Target built t.name f r) :
    ∃ k, b.foreignKey built t c f r relation = .ok k := by
  obtain ⟨u, columns, hMapped, hOther, hFind, hColumns, hMem, hLength⟩ := hTarget.table
  refine ⟨_, foreignKey_eq_ok_iff.2 ⟨u, columns, ?_, ?_, hMem, hLength, rfl⟩⟩
  · simp only [referenceTable, hMapped, if_neg hOther, hFind]
  · rw [if_pos hTarget.noKey]
    exact hColumns

/-- The columns of a field can be added where they have names of their own. -/
theorem HasTypes.exists_addColumns {ft : FieldTypes} (hTypes : b.HasTypes f ft)
    (hNodup : (t.columnNames ++ f.columns).Nodup) (identity : Bool) (g : Option KeyGenerator) :
    ∃ t', addColumns t f identity g (f.columns.zip ft.types) = .ok t' := by
  refine Blueprint.exists_addColumns ?_
  rwa [List.map_fst_zip (Nat.le_of_eq hTypes.length_types.symm)]

/-- A field that is admitted can be added, and its columns come in at the end. -/
theorem exists_addField (hf : b.Admits built t.name f)
    (hNodup : (t.columnNames ++ f.columns).Nodup) :
    ∃ t', (b.addField built relation c g t f).outcome = .ok t' ∧ t'.name = t.name ∧
      t'.columnNames = t.columnNames ++ f.columns := by
  -- its types are known, and its target is there
  obtain ⟨ft, hTypes, hTarget⟩ := hf.types
  obtain ⟨u, hAdd⟩ := hTypes.exists_addColumns hNodup (c.isIdentity f)
    (if ft.referenced.isNone then g else none)
  have hName : u.name = t.name := (addColumns_eq_ok hAdd).1.name_eq
  have hNames := hTypes.columnNames_of_addColumns hAdd
  -- a field that refers to no class is done with its columns, any other takes a foreign key
  cases hReferenced : ft.referenced with
  | none =>
    exact ⟨u, addField_eq_ok_iff.2 ⟨ft, u, hTypes, hAdd, Or.inl ⟨hReferenced, rfl⟩⟩, hName, hNames⟩
  | some r =>
    obtain ⟨k, hKey⟩ : ∃ k, b.foreignKey built u c f r relation = .ok k :=
      exists_foreignKey (hName ▸ hTarget r hReferenced)
    exact ⟨u.addForeignKey k, addField_eq_ok_iff.2 ⟨ft, u, hTypes, hAdd,
      Or.inr ⟨r, k, hReferenced, hKey, rfl⟩⟩, hName, hNames⟩

/-- Fields that are admitted, with columns of different names, can all be added. -/
theorem exists_addFields {fs : List FieldMapping} (hfs : ∀ f ∈ fs, b.Admits built t.name f)
    (hNodup : (t.columnNames ++ fs.flatMap (·.columns)).Nodup) :
    ∃ t', (b.addFields built relation c g t js fs).outcome = .ok (t', js) := by
  induction fs generalizing t with
  | nil => exact ⟨t, rfl⟩
  | cons f rest ih =>
    -- the columns of the first field are among the names that the others have to be different from
    have hf := hfs f List.mem_cons_self
    rw [List.flatMap_cons, ← List.append_assoc] at hNodup
    obtain ⟨u, hField, hName, hNames⟩ : ∃ u, (b.addField built relation c g t f).outcome = .ok u ∧
        u.name = t.name ∧ u.columnNames = t.columnNames ++ f.columns :=
      exists_addField hf (List.nodup_append.1 hNodup).1
    obtain ⟨t', hRest⟩ := ih (fun f' hf' => hName ▸ hfs f' (List.mem_cons_of_mem _ hf'))
      (hNames ▸ hNodup)
    exact ⟨t', addFields_cons_eq_ok_iff.2 (Or.inr (Or.inl ⟨hf.stored, u, hField, hRest⟩))⟩

/-- A class that extends nothing, and whose fields can be added, has a table. It queues no
junctions. -/
theorem exists_table (hFields : ∀ f ∈ c.fields, b.Admits built name f)
    (hNodup : (c.fields.flatMap (·.columns)).Nodup) (hParent : given c.parent = none)
    (hIndexes : c.indexes = []) :
    ∃ t, (b.table built relation c name js).outcome = .ok (t, js) := by
  -- a class without fields has an empty table
  by_cases hSome : c.fields = []
  · exact ⟨_, table_eq_ok_iff.2 (Or.inl ⟨hSome, rfl, rfl⟩)⟩
  · let g := b.registry.get? c.keyGenerator
    obtain ⟨t, hAdded⟩ : ∃ t, (b.addFields built relation c g
        { ({ name } : Table).withPrimaryKey with keyGenerator := g } js c.fields).outcome =
          .ok (t, js) :=
      exists_addFields hFields hNodup
    -- nothing is inherited and there are no indexes, so the fields make the whole table
    refine ⟨t, table_eq_ok_iff.2
      (Or.inr ⟨hSome, g, t, t, outcome_keyGenerator b c, hAdded, ?_, ?_⟩)⟩
    · rw [Document.lineage_root hParent]
      rfl
    · rw [hIndexes]
      rfl

end Blueprint

/-! ## Schemas -/

section Schema

variable {registry : KeyGeneratorRegistry} {settings : Settings} {catalog : TypeCatalog}
  {d : Document} {s : Schema} {x : ClassMapping}

/-- The schema of a document after a class with new names has come in: its table stands behind those
of the other classes, and all other tables are as they were. -/
theorem Schema.exists_ofDocument_append
    (h : (Schema.ofDocument registry settings catalog d).outcome = .ok s)
    (hFresh : d.IsFresh x.name) (hParent : given x.parent = none) {table : String}
    (hMapped : x.mappedTable = some table) (hNew : table ∉ s.tableNames) :
    ∃ before after js, s.tables = before ++ after ∧
      (d.blueprint registry catalog).Builds before (Origin.ofClasses d.classes) ∧
      ∀ t, (((d.append x).blueprint registry catalog).table before .oneToOne x table js).outcome =
          .ok (t, js) →
        ∃ s', (Schema.ofDocument registry settings catalog (d.append x)).outcome = .ok s' ∧
          s'.tables = before ++ t :: after := by
  obtain ⟨hSound, hLoaded, s₁, js, hClasses, hJunctions⟩ := Schema.ofDocument_eq_ok_iff.1 h
  obtain ⟨hBuilds, hQueues⟩ := Blueprint.builds_of_addClasses .nil .nil hClasses
  have hAgrees : d.Agrees (d.append x) := hFresh.agrees hSound
  obtain ⟨after, hAfter⟩ := Blueprint.prefix_of_addJunctions hJunctions
  refine ⟨s₁.tables, after, js, hAfter.symm, hBuilds, fun t hTable => ?_⟩
  have hName : t.name = table := Blueprint.name_of_table hTable
  have hUnmapped : ∀ r ∈ d.classes, r.mappedTable ≠ some t.name := by
    -- every class that is mapped has a table in the schema, and the new name is none of these
    intro r hr hSame
    obtain ⟨b, js', -, -, -, hAll⟩ := Schema.exists_builds_of_ofDocument h
    obtain ⟨t', -, -, -, hFind, -⟩ := hAll.exists_table_of_class hr hSame
    exact hNew (hName ▸ Schema.mem_tableNames_of_table? hFind)
  have hTreats : ∀ j ∈ js, (d.blueprint registry catalog).Treats (d.append x) j :=
    .of_queues (b := d.blueprint registry catalog) hAgrees hQueues
  -- the junctions are built after the new table, which none of them refers to
  obtain ⟨s', more, hJunctions', hSplit, hSplit'⟩ :=
    Blueprint.exists_addJunctions_on (u := ⟨s₁.name, s₁.tables ++ [t]⟩) hAgrees hTreats hUnmapped
      (hName ▸ hNew) (List.append_nil _).symm rfl hJunctions
  rw [List.nil_append] at hSplit hSplit'
  obtain rfl : after = more := List.append_cancel_left (hAfter.trans hSplit)
  refine ⟨s', ?_, hSplit'⟩
  -- the new table comes in after those of the classes, under a name that none of them has
  have hFirst : t.name ∉ s₁.tables.map (·.name) := by
    intro hMem
    refine hNew (hName ▸ ?_)
    rw [Schema.tableNames, hSplit, List.map_append]
    exact List.mem_append_left _ hMem
  -- its class is the last one in the document
  have hLast : (((d.append x).blueprint registry catalog).addClasses s₁ js [x]).outcome =
      .ok (⟨s₁.name, s₁.tables ++ [t]⟩, js) := by
    refine Blueprint.addClasses_cons_eq_ok_iff.2 (Or.inr ?_)
    exact ⟨table, t, js, _, hMapped, hTable, Blueprint.outcome_addTable hFirst, rfl⟩
  -- and all classes before it are built as they were
  have hClasses' : (((d.append x).blueprint registry catalog).addClasses
      ⟨given (some settings.schemaName), []⟩ [] d.classes).outcome = .ok (s₁, js) := by
    rw [← hClasses]
    exact congrArg Traced.outcome
      (Blueprint.addClasses_on (b := d.blueprint registry catalog) hAgrees (List.Subset.refl _))
  refine Schema.ofDocument_eq_ok_iff.2 ⟨hFresh.structureProblems_append hSound hParent, hLoaded,
    ⟨s₁.name, s₁.tables ++ [t]⟩, js, ?_, hJunctions'⟩
  exact Blueprint.addClasses_append_eq_ok_iff.2 ⟨s₁, js, hClasses', hLast⟩

end Schema

end MappingDdl
