import MappingDdl.Proofs.IdentityTypes
import MappingDdl.Proofs.Integrity

/-!
# Reference types — the two sides of a foreign key

The columns of a reference are typed by a walk over type names (`Document.identityTypes`), from the
class that the field names. The columns that they refer to were typed earlier, each from the field
that declares it (`Blueprint.HasTypes`). Both go by the same names: where a class declares its
identity once, position by position the types are equal.

Main results:

* `Blueprint.HasTypes.reads_names` — the types that a field's columns have are those of the names
  that the walk finds for it.
* `Blueprint.columnTypes_of_fieldNames` — the same for the columns of several fields in a table.
* `Schema.foreignKey_types_eq` — the types on the two sides of a foreign key are equal.
-/

namespace MappingDdl

/-! ## Where a foreign key comes from -/

/-- The foreign key `k` of table `t` was made for the field `f`, which refers to the class `r`. The
field is a stored one of the class of the table, or a side of a junction: a side names no columns of
the other table. -/
structure Document.KeyField (d : Document) (t : Table) (k : ForeignKey) (f : FieldMapping)
    (r : ClassMapping) : Prop where
  source  : match k.relation with
            | .oneToOne => ∃ c ∈ d.classes, c.mappedTable = some t.name ∧ f ∈ c.fields ∧
                f.isStored = true
            | .manyToMany => f.manyKey = []
  name    : k.name = t.name ++ "_" ++ f.name
  columns : k.columns = f.columns
  cls     : d.class? f.type = some r
  table   : r.mappedTable = some k.referenceTable

/-- An identity field has columns. -/
theorem Lineage.columns_ne_nil_of_mem_identity {l : Lineage} {f : FieldMapping}
    (hf : f ∈ l.identity) : f.columns ≠ [] := by
  cases hClass : l.identityClass? with
  | none =>
    rw [Lineage.identity_eq_nil_of_identityClass? hClass] at hf
    cases hf
  | some c =>
    rw [Lineage.identity, hClass] at hf
    exact FieldMapping.columns_ne_nil_of_isStored (ClassMapping.mem_identityFields_iff.1 hf).2.2

namespace Blueprint

variable {b : Blueprint}

/-! ## Types by name -/

/-- A name stands for one column type only. -/
theorem rightUnique_columnType? :
    Relator.RightUnique fun name t => b.columnType? name = .ok (some t) := by
  intro name t t' h h'
  cases h.symm.trans h'
  rfl

/-- One name for each column is read as one type for each. -/
theorem reads_const {name : String} {t : ColumnType} (h : b.columnType? name = .ok (some t))
    (columns : List String) :
    b.Reads (columns.map fun _ => name) (columns.map fun _ => t) := by
  rw [Reads, List.forall₂_map_left_iff, List.forall₂_map_right_iff]
  exact List.forall₂_same.2 fun _ _ => h

/-- The columns of a field have the types of the names that the walk finds for it, unless the walk
stops at an SQL type that is no column type. -/
theorem HasTypes.reads_names {f : FieldMapping} {ft : FieldTypes} {names : List String}
    (hTypes : b.HasTypes f ft) (hNames : b.document.ResolvedNames f names)
    (hKnown : ∀ s, given f.sqlType = some s → b.columnType? s ≠ .ok none) :
    b.Reads names ft.types := by
  -- what the walk finds for the field, and where the field has its types from
  cases hNames with
  -- the walk stops at the SQL type, which the field then has
  | @sqlType s hGiven =>
    cases hTypes with
    | sqlType hGiven' hType =>
      cases hGiven.symm.trans hGiven'
      exact reads_const hType f.columns
    | reference hNone => exact absurd (hNone s hGiven) (hKnown s hGiven)
    | declared hNone => exact absurd (hNone s hGiven) (hKnown s hGiven)
  -- both go on to the same class
  | reference hGiven hClass hNames =>
    cases hTypes with
    | sqlType hGiven' => cases hGiven.symm.trans hGiven'
    | reference _ hClass' hNames' _ hForall =>
      cases hClass.symm.trans hClass'
      cases hNames.symm.trans hNames'
      exact hForall
    | declared _ hClass' => cases hClass.symm.trans hClass'
  -- both take the type as it is declared
  | declared hGiven hClass =>
    cases hTypes with
    | sqlType hGiven' => cases hGiven.symm.trans hGiven'
    | reference _ hClass' => cases hClass.symm.trans hClass'
    | declared _ _ hType => exact reads_const hType f.columns

/-- Where the names that the walk finds for fields are read, so are the SQL types of the fields. -/
theorem sqlType_of_reads {fs : List FieldMapping} {namess : List (List String)}
    {types : List ColumnType} (hNames : List.Forall₂ b.document.ResolvedNames fs namess)
    (hReads : b.Reads namess.flatten types) {f : FieldMapping} (hf : f ∈ fs)
    (hColumns : f.columns ≠ []) {s : String} (hGiven : given f.sqlType = some s) :
    b.columnType? s ≠ .ok none := by
  obtain ⟨names, hMem, hField⟩ := Document.exists_of_mem_forall₂ hNames hf
  cases hField with
  | @sqlType s' hGiven' =>
    cases hGiven.symm.trans hGiven'
    -- the field has a column, so its SQL type is one of the names
    obtain ⟨column, hColumn⟩ := List.exists_mem_of_ne_nil _ hColumns
    have hName : s ∈ namess.flatten :=
      List.mem_flatten.2 ⟨_, hMem, List.mem_map.2 ⟨column, hColumn, rfl⟩⟩
    obtain ⟨t, -, hType⟩ := Document.exists_of_mem_forall₂ hReads hName
    simp [hType]
  | reference hNone => cases hGiven.symm.trans hNone
  | declared hNone => cases hGiven.symm.trans hNone

/-- In a table that has them, the columns of each field have the types of the field. -/
theorem Lays.exists_types {identity : FieldMapping → Bool} {g : Option KeyGenerator}
    {fs : List FieldMapping} {cs : List Column} {t : Table} (h : b.Lays identity g fs cs)
    (hNodup : t.columnNames.Nodup) (hcs : ∀ c ∈ cs, c ∈ t.columns) :
    ∀ f ∈ fs, ∃ ft, b.HasTypes f ft ∧ f.columns.map t.columnType? = ft.types.map some := by
  intro f hf
  obtain ⟨ft, hTypes, hSub⟩ := h.exists_columns hf
  have hTyped := Table.map_columnType? hNodup fun c hc => hcs c (hSub hc)
  rw [hTypes.columnNames, hTypes.columnTypes] at hTyped
  exact ⟨ft, hTypes, hTyped⟩

/-- The columns of fields in a table have the types of the names that the walk finds for these
fields. -/
theorem columnTypes_of_fieldNames {t : Table} {fs : List FieldMapping} {namess : List (List String)}
    (hNames : List.Forall₂ b.document.ResolvedNames fs namess)
    (hTyped : ∀ f ∈ fs, ∃ ft, b.HasTypes f ft ∧ f.columns.map t.columnType? = ft.types.map some)
    (hKnown : ∀ f ∈ fs, ∀ s, given f.sqlType = some s → b.columnType? s ≠ .ok none) :
    ∃ types, b.Reads namess.flatten types ∧
      (fs.flatMap (·.columns)).map t.columnType? = types.map some := by
  -- on the fields, whose names and types stand behind each other
  induction hNames with
  | nil => exact ⟨[], .nil, rfl⟩
  | @cons f names rest namess hField _ ih =>
    obtain ⟨ft, hTypes, hEq⟩ := hTyped f List.mem_cons_self
    obtain ⟨types, hForall, hRest⟩ := ih (fun f' hf' => hTyped f' (List.mem_cons_of_mem _ hf'))
      fun f' hf' => hKnown f' (List.mem_cons_of_mem _ hf')
    have hHead := hTypes.reads_names hField (hKnown f List.mem_cons_self)
    refine ⟨ft.types ++ types, List.rel_append hHead hForall, ?_⟩
    rw [List.flatMap_cons, List.map_append, List.map_append, hEq, hRest]

section Tables

variable {built : List Table} {relation : Relation} {r : ClassMapping} {name : String}
  {js js' : List ClassMapping} {t : Table}

/-- The table of a class has the columns of all identity fields, with their types. -/
theorem types_of_identity (h : (b.table built relation r name js).outcome = .ok (t, js'))
    (hFields : r.fields ≠ []) (hOnce : (b.document.lineage r).DeclaresIdentityOnce) :
    ∀ f ∈ (b.document.lineage r).identity,
      ∃ ft, b.HasTypes f ft ∧ f.columns.map t.columnType? = ft.types.map some := by
  -- the columns are its own and the inherited ones
  obtain ⟨-, g, g', own, inherited, hOwn, hInherited, hColumns⟩ := lays_of_table h hFields hOnce
  have hNodup : t.columnNames.Nodup := (keyed_of_table h).nodupNames
  intro f hf
  -- the field is one of the class's own stored fields, or it came in by the merge
  rw [← Lineage.append_inherited (b.document.head_lineage r)] at hf
  rcases List.mem_append.1 hf with hHere | hAbove
  -- a column of the class itself
  · refine hOwn.exists_types hNodup (fun c hc => ?_) f ?_
    · rw [hColumns]
      exact List.mem_append_left _ hc
    · obtain ⟨hMem, -, hStored⟩ := ClassMapping.mem_identityFields_iff.1 hHere
      exact List.mem_filter.2 ⟨hMem, hStored⟩
  -- an inherited one
  · refine hInherited.exists_types hNodup (fun c hc => ?_) f hAbove
    rw [hColumns]
    exact List.mem_append_right _ hc

/-- In the table of a class that declares its identity once, the identity columns have the types of
the class's identity types. -/
theorem identityTypes_of_table {names : List String} {types : List ColumnType}
    (h : (b.table built relation r name js).outcome = .ok (t, js')) (hFields : r.fields ≠ [])
    (hOnce : (b.document.lineage r).DeclaresIdentityOnce)
    (hNames : b.document.identityTypes r = .ok names) (hTypes : b.Reads names types) :
    ((b.document.lineage r).identity.flatMap (·.columns)).map t.columnType? = types.map some := by
  obtain ⟨namess, hFieldNames, rfl⟩ := Document.fieldNames_of_identityTypes hNames
  have hKnown : ∀ f ∈ (b.document.lineage r).identity, ∀ s, given f.sqlType = some s →
      b.columnType? s ≠ .ok none := fun f hf s hGiven =>
    sqlType_of_reads hFieldNames hTypes hf (Lineage.columns_ne_nil_of_mem_identity hf) hGiven
  obtain ⟨types', hForall, hEq⟩ :=
    columnTypes_of_fieldNames hFieldNames (types_of_identity h hFields hOnce) hKnown
  -- the same names are read as the same types
  rw [rightUnique_columnType?.forall₂ hTypes hForall]
  exact hEq

end Tables

/-! ## Keys and their fields -/

variable {ts : List Table} {t : Table} {k : ForeignKey} {js : List ClassMapping}

/-- Every foreign key was made for a field. -/
theorem Builds.exists_keyField (hSides : ∀ j ∈ js, j.IsJunction)
    (h : b.Builds ts (Origin.ofClasses b.document.classes ++ js.map Origin.ofJunction))
    (ht : t ∈ ts) (hk : k ∈ t.foreignKeys) :
    ∃ f r relation, b.document.KeyField t k f r ∧ b.Reference relation t f r k := by
  -- the table was made from a class or from a junction
  obtain ⟨o, ho, built, js₀, js₁, -, hTable⟩ := h.exists_origin ht
  obtain ⟨f, hf, hStored, r, hReference⟩ := references_of_table hTable hk
  obtain ⟨types, hTypes, -⟩ := hReference.types
  refine ⟨f, r, o.relation, ⟨?_, hReference.name, hReference.columns, hTypes.class?_eq_some,
    hReference.table⟩, hReference⟩
  rw [hReference.relation]
  rcases List.mem_append.1 ho with hClass | hJunction
  -- a field of a class that is mapped to the table
  · obtain ⟨hRelation, hMem, hMapped⟩ := Origin.mem_ofClasses_iff.1 hClass
    rw [hRelation]
    exact ⟨o.cls, hMem, name_of_table hTable ▸ hMapped, hf, hStored⟩
  -- a side of the junction, which names no columns
  · obtain ⟨j, hj, rfl⟩ := List.mem_map.1 hJunction
    exact ((hSides j hj).sides f hf).manyKey

/-- The foreign key of a class was made for one field only. -/
theorem Builds.keyField_eq {s : Schema}
    (h : b.Builds s.tables (Origin.ofClasses b.document.classes ++ js.map Origin.ofJunction))
    (hOne : k.relation = .oneToOne) {f f' : FieldMapping} {r r' : ClassMapping}
    (hField : b.document.KeyField t k f r) (hField' : b.document.KeyField t k f' r') : f = f' := by
  have hSource := hField.source
  have hSource' := hField'.source
  rw [hOne] at hSource hSource'
  obtain ⟨c, hc, hMapped, hf, hStored⟩ := hSource
  obtain ⟨c', hc', hMapped', hf', hStored'⟩ := hSource'
  obtain ⟨u, built, js₀, js₁, -, hTable⟩ := h.exists_table_of_class hc hMapped
  -- one class is mapped to the table, and one of its fields has these columns
  cases h.class_eq hc hc' hMapped hMapped'
  exact field_eq_of_table hTable hf hStored hf' hStored'
    (hField.columns.symm.trans hField'.columns)

/-- The fields that a foreign key could have been made for agree in what they refer to, and in
whether they name columns of the other table. -/
theorem Builds.keyField_agrees {s : Schema}
    (h : b.Builds s.tables (Origin.ofClasses b.document.classes ++ js.map Origin.ofJunction))
    {f f' : FieldMapping} {r r' : ClassMapping} (hField : b.document.KeyField t k f r)
    (hField' : b.document.KeyField t k f' r') (hNoKey : f.manyKey = []) :
    r = r' ∧ f'.manyKey = [] := by
  constructor
  -- one table belongs to one class
  · exact h.class_eq (List.mem_of_find?_eq_some hField.cls) (List.mem_of_find?_eq_some hField'.cls)
      hField.table hField'.table
  · cases hRelation : k.relation with
    -- the field of a class is known from its key
    | oneToOne =>
      rw [← h.keyField_eq hRelation hField hField']
      exact hNoKey
    -- a junction never names columns
    | manyToMany =>
      have hSource' := hField'.source
      rw [hRelation] at hSource'
      exact hSource'

end Blueprint

/-- **Both sides of a foreign key have the same types.** Every foreign key was made for a field. If
the field names no columns of the other table, and the class that it refers to declares its identity
once, then the columns on the two sides have the same types, position by position. -/
theorem Schema.foreignKey_types_eq {registry : KeyGeneratorRegistry} {settings : Settings}
    {catalog : TypeCatalog} {d : Document} {s : Schema}
    (h : (Schema.ofDocument registry settings catalog d).outcome = .ok s)
    {t : Table} (ht : t ∈ s.tables) {k : ForeignKey} (hk : k ∈ t.foreignKeys) :
    (∃ f r, d.KeyField t k f r) ∧
    ∀ f r, d.KeyField t k f r → f.manyKey = [] → (d.lineage r).DeclaresIdentityOnce →
      ∃ u, s.table? k.referenceTable = some u ∧
        ∃ types : List ColumnType, k.columns.map t.columnType? = types.map some ∧
          k.referenceColumns.map u.columnType? = types.map some := by
  obtain ⟨b, js, rfl, -, hSides, hBuilds⟩ := Schema.exists_builds_of_ofDocument h
  -- the field for which the key was made agrees with the given one
  obtain ⟨f₀, r₀, relation, hField₀, hReference⟩ := hBuilds.exists_keyField hSides ht hk
  refine ⟨⟨f₀, r₀, hField₀⟩, fun f r hField hNoKey hOnce => ?_⟩
  obtain ⟨rfl, hNoKey₀⟩ := hBuilds.keyField_agrees hField hField₀ hNoKey
  -- the other table was made from its class
  obtain ⟨u, built, js₀, js₁, hFind, hTable⟩ :=
    hBuilds.exists_table_of_class (List.mem_of_find?_eq_some hField.cls) hField.table
  obtain ⟨hSome, hColumns⟩ := hBuilds.columns_of_target ht hk hFind
  obtain ⟨column, hColumn⟩ := List.exists_mem_of_ne_nil _ hSome
  have hFields := Blueprint.fields_ne_nil_of_mem_columnNames hTable (hColumns column hColumn)
  -- the columns on the other side are the identity columns of the class
  have hKey := hReference.key
  rw [if_pos hNoKey₀, Blueprint.identityColumns_eq_of_table hTable hFields] at hKey
  obtain ⟨types, hTypes, hLocal⟩ := hReference.types
  refine ⟨u, hFind, types, hReference.columns ▸ hLocal, ?_⟩
  -- their types are those that the local columns were given
  rw [← Except.ok.inj hKey]
  cases hTypes with
  | reference _ _ hNames _ hForall =>
    exact Blueprint.identityTypes_of_table hTable hFields hOnce hNames hForall

/-- In the sample a junction refers to notes by a number and by the identity of an item, which the
item has from two levels above it. -/
theorem Schema.types_of_sample_junction :
    ∃ s t u, Schema.ofSample.outcome = .ok s ∧ t ∈ s.tables ∧ t.name = "note_item" ∧
      s.table? "note" = some u ∧
      ∃ types : List ColumnType, ["note_no", "note_item_id"].map t.columnType? = types.map some ∧
        ["no", "item_id"].map u.columnType? = types.map some := by
  obtain ⟨s, item, note, t, hs, hTables, -, -, hName, hKeys⟩ := Schema.exists_ofSample
  have ht : t ∈ s.tables := by simp [hTables]
  have hKey : ⟨"note_item_note", .manyToMany, ["note_no", "note_item_id"], "note",
      ["no", "item_id"]⟩ ∈ t.foreignKeys := by
    rw [hKeys]
    exact List.mem_cons_self
  -- the field would do for this key, and it is one of a junction
  have hField : Document.sample.KeyField t
      ⟨"note_item_note", .manyToMany, ["note_no", "note_item_id"], "note", ["no", "item_id"]⟩
      { name := "note", type := "Note", columns := ["note_no", "note_item_id"] }
      Document.sample.classes[3] :=
    ⟨rfl, by rw [hName]; rfl, rfl, by decide, rfl⟩
  have hOnce : (Document.sample.lineage Document.sample.classes[3]).DeclaresIdentityOnce := by
    decide +kernel
  obtain ⟨u, hu, types, hLocal, hReferenced⟩ :=
    (Schema.foreignKey_types_eq hs ht hKey).2 _ _ hField rfl hOnce
  exact ⟨s, t, u, hs, ht, hName, hu, types, hLocal, hReferenced⟩

end MappingDdl
