import MappingDdl.Proofs.Appending
import MappingDdl.Proofs.ReferenceTypes

/-!
# Referencing — which tables another class can refer to

A field that refers to a class asks for the identity types of this class, and reads all of them as
column types. The walk that finds them takes an SQL type as it is declared, while the table of the
class passes over an SQL type that is no column type. So a class whose table is built may still be
one that no other class can refer to.

Main results:

* `Blueprint.exists_reads_of_table` — the identity types of a class are read if the SQL types in its
  identity are column types.
* `Blueprint.Reference.sqlType_known` — the SQL types in the identity of a class that is referred to
  are column types.
* `Schema.referencing_iff` — when another class can refer to a table with a primary key.
-/

namespace MappingDdl

namespace Blueprint

/-! ## The identity that a reference asks for -/

variable {b : Blueprint} {built : List Table} {relation : Relation} {r : ClassMapping}
  {f : FieldMapping} {t u : Table} {name : String} {js js' : List ClassMapping}
  {fs : List FieldMapping} {ks : List ForeignKey}

/-- The walk over identity types succeeds for a class whose table has a primary key: it goes on only
to classes that the table was built with. -/
theorem exists_identityTypes_of_table (hSound : b.document.structureProblems = [])
    (hr : r ∈ b.document.classes)
    (h : (b.table built relation r name js).outcome = .ok (u, js')) (hFields : r.fields ≠ [])
    (hOnce : (b.document.lineage r).DeclaresIdentityOnce)
    (hSome : (b.document.lineage r).identity ≠ []) :
    ∃ names, b.document.identityTypes r = .ok names := by
  -- it is enough that the walk comes to an end from the classes that the identity refers to
  refine (Document.exists_identityTypes_iff hSound hr).2 ?_
  refine Document.acc_of_lineageFrom hSome fun f hf hGiven q hClass => ?_
  obtain ⟨ft, hTypes, -⟩ := types_of_identity h hFields hOnce f hf
  cases hTypes with
  | sqlType hGiven' => cases hGiven.symm.trans hGiven'
  | reference _ hClass' hNames =>
    cases hClass.symm.trans hClass'
    exact Document.acc_of_identityTypesFrom hNames
  | declared _ hNone => cases hNone.symm.trans hClass

/-- Where the SQL types in the identity of a class are column types, all of its identity types are
read, one for each column of the primary key. -/
theorem exists_reads_of_table (hSound : b.document.structureProblems = [])
    (hr : r ∈ b.document.classes)
    (h : (b.table built relation r name js).outcome = .ok (u, js')) (hFields : r.fields ≠ [])
    (hOnce : (b.document.lineage r).DeclaresIdentityOnce)
    (hSome : (b.document.lineage r).identity ≠ [])
    (hKnown : ∀ f ∈ (b.document.lineage r).identity, ∀ s, given f.sqlType = some s →
      b.columnType? s ≠ .ok none) :
    ∃ names types, b.document.identityTypes r = .ok names ∧ b.Reads names types ∧
      names.length = u.keyColumns.length := by
  obtain ⟨names, hNames⟩ := exists_identityTypes_of_table hSound hr h hFields hOnce hSome
  obtain ⟨namess, hFieldNames, rfl⟩ := Document.fieldNames_of_identityTypes hNames
  obtain ⟨types, hReads, hEq⟩ :=
    columnTypes_of_fieldNames hFieldNames (types_of_identity h hFields hOnce) hKnown
  refine ⟨_, types, hNames, hReads, ?_⟩
  -- there is one type for each identity column, and these are the primary key
  have hLength := congrArg List.length hEq
  rw [List.length_map, List.length_map] at hLength
  rw [hReads.length_eq, keyColumns_eq_of_table h hFields hOnce, hLength]

/-- A table with a primary key is that of a class with an identity. -/
theorem identity_ne_nil_of_table (h : (b.table built relation r name js).outcome = .ok (u, js'))
    (hFields : r.fields ≠ []) (hOnce : (b.document.lineage r).DeclaresIdentityOnce)
    (hKey : u.keyColumns ≠ []) : (b.document.lineage r).identity ≠ [] := by
  intro hNone
  have hColumns := keyColumns_eq_of_table h hFields hOnce
  exact hKey (hColumns.trans (congrArg (List.flatMap _) hNone))

/-! ## The foreign keys of references -/

/-- Where a class is referred to, the SQL types in its identity are column types. -/
theorem Reference.sqlType_known {k : ForeignKey} (h : b.Reference relation t f r k)
    {g : FieldMapping} (hg : g ∈ (b.document.lineage r).identity) {sqlType : String}
    (hGiven : given g.sqlType = some sqlType) : b.columnType? sqlType ≠ .ok none := by
  obtain ⟨types, hTypes, -⟩ := h.types
  cases hTypes with
  | reference _ _ hNames _ hReads =>
    obtain ⟨namess, hFieldNames, rfl⟩ := Document.fieldNames_of_identityTypes hNames
    exact sqlType_of_reads hFieldNames hReads hg (Lineage.columns_ne_nil_of_mem_identity hg) hGiven

/-- A field whose type is no class has no foreign key. -/
theorem Refers.of_cons_plain (h : b.Refers relation t (f :: fs) ks)
    (hClass : b.document.class? f.type = none) : b.Refers relation t fs ks := by
  cases h with
  | plain _ _ hRest => exact hRest
  | reference hKey => cases hKey.class?_eq_some.symm.trans hClass

/-- A field whose type is a class has the first foreign key. -/
theorem Refers.of_cons_reference (h : b.Refers relation t (f :: fs) ks)
    (hSqlType : given f.sqlType = none) (hClass : b.document.class? f.type = some r) :
    ∃ k rest, ks = k :: rest ∧ b.Reference relation t f r k ∧ b.Refers relation t fs rest := by
  cases h with
  | plain hTypes hPlain => cases hPlain.symm.trans (hTypes.referenced_eq_some hSqlType hClass)
  | reference hKey hRest =>
    cases hKey.class?_eq_some.symm.trans hClass
    exact ⟨_, _, rfl, hKey, hRest⟩

end Blueprint

/-! ## A class that refers to another one -/

/-- The field has one column, whose type is a column type and no class. -/
structure Document.Plain (d : Document) (catalog : TypeCatalog) (f : FieldMapping) : Prop where
  column    : ∃ column, f.columns = [column]
  manyTable : f.manyTable = none
  sqlType   : given f.sqlType = none
  noClass   : d.class? f.type = none
  type      : ∃ type, catalog.get? f.type = .ok (some type)

/-- The field refers to the class by its identity. -/
structure FieldMapping.RefersTo (f : FieldMapping) (r : ClassMapping) : Prop where
  type      : f.type = r.name
  sqlType   : given f.sqlType = none
  manyTable : f.manyTable = none
  manyKey   : f.manyKey = []

/-- The class `x` is new to the document. It has a plain field and a field that refers to the class
`r`, in either order, and extends nothing. -/
structure Document.Referrer (d : Document) (catalog : TypeCatalog) (x r : ClassMapping)
    (plain reference : FieldMapping) : Prop where
  fresh     : d.IsFresh x.name
  parent    : given x.parent = none
  indexes   : x.indexes = []
  fields    : x.fields = [plain, reference] ∨ x.fields = [reference, plain]
  isPlain   : (d.append x).Plain catalog plain
  refersTo  : reference.RefersTo r
  distinct  : (plain.columns ++ reference.columns).Nodup

/-- The class `r` of the document has the table `u`, with a primary key that is not empty, and
declares its identity once. -/
structure Schema.HasKey (s : Schema) (d : Document) (r : ClassMapping) (u : Table) : Prop where
  mem      : r ∈ d.classes
  table    : r.mappedTable = some u.name
  found    : s.table? u.name = some u
  nonempty : u.keyColumns ≠ []
  once     : (d.lineage r).DeclaresIdentityOnce

section Referrer

variable {registry : KeyGeneratorRegistry} {settings : Settings} {catalog : TypeCatalog}
  {d : Document} {s : Schema} {x r : ClassMapping} {plain reference : FieldMapping} {table : String}

/-- A class whose table has a primary key has fields. -/
theorem Schema.HasKey.fields_ne_nil {u : Table} (hu : s.HasKey d r u) {b : Blueprint}
    {built : List Table} {relation : Relation} {js js' : List ClassMapping}
    (hTable : (b.table built relation r u.name js).outcome = .ok (u, js')) : r.fields ≠ [] := by
  obtain ⟨column, hColumn⟩ := List.exists_mem_of_ne_nil _ hu.nonempty
  have hMem := (Blueprint.keyed_of_table hTable).mem_columnNames column hColumn
  exact Blueprint.fields_ne_nil_of_mem_columnNames hTable hMem

/-- As many columns as a key has are at least one. -/
theorem Schema.HasKey.columns_ne_nil {u : Table} (hu : s.HasKey d r u) {columns : List String}
    (hLength : columns.length = u.keyColumns.length) : columns ≠ [] := by
  rw [← List.length_pos_iff, hLength, List.length_pos_iff]
  exact hu.nonempty

/-- The new class has two fields: the plain one and the reference. -/
theorem Document.Referrer.mem_fields_iff (hx : d.Referrer catalog x r plain reference)
    {f : FieldMapping} : f ∈ x.fields ↔ f = plain ∨ f = reference := by
  rcases hx.fields with hFields | hFields
  · rw [hFields, List.mem_pair]
  · rw [hFields, List.mem_pair, or_comm]

/-- Both of them are stored. -/
theorem Document.Referrer.isStored (hx : d.Referrer catalog x r plain reference)
    (hSome : reference.columns ≠ []) {f : FieldMapping} (hf : f ∈ x.fields) :
    f.isStored = true := by
  rcases hx.mem_fields_iff.1 hf with rfl | rfl
  · obtain ⟨column, hColumn⟩ := hx.isPlain.column
    simp [FieldMapping.isStored, FieldMapping.hasColumns, FieldMapping.isManyToMany, hColumn,
      hx.isPlain.manyTable]
  · simp [FieldMapping.isStored, FieldMapping.hasColumns, FieldMapping.isManyToMany, hSome,
      hx.refersTo.manyTable]

/-- The reference is to the class that it was made for. -/
theorem Document.Referrer.class?_eq_some (hx : d.Referrer catalog x r plain reference)
    (hSound : d.structureProblems = []) (hr : r ∈ d.classes) :
    (d.append x).class? reference.type = some r := by
  rw [hx.refersTo.type, class?_append (hx.fresh.names r hr)]
  exact Document.class?_eq_some hSound hr

/-- Where the document still has a schema, the table of the new class has one foreign key, which
stands for its reference. -/
theorem Document.Referrer.exists_key (hx : d.Referrer catalog x r plain reference)
    (hSound : d.structureProblems = []) (hr : r ∈ d.classes)
    (hMapped : x.mappedTable = some table) (hSome : reference.columns ≠ [])
    (h : (Schema.ofDocument registry settings catalog (d.append x)).outcome = .ok s) :
    ∃ (b : Blueprint) (t : Table) (k : ForeignKey), b.document = d.append x ∧
      b.catalog = catalog ∧ s.table? table = some t ∧ t.foreignKeys = [k] ∧
      b.Reference .oneToOne t reference r k := by
  obtain ⟨b, js, hDocument, hCatalog, -, hBuilds⟩ := Schema.exists_builds_of_ofDocument h
  have hLast : x ∈ (d.append x).classes := List.mem_append_right _ List.mem_cons_self
  -- the new class has a table, which stands behind all others
  obtain ⟨t, built, js₀, js₁, hFind, hTable⟩ := hBuilds.exists_table_of_class hLast hMapped
  -- its foreign keys are those of its fields
  have hRefers := Blueprint.refers_of_table hTable
  rw [List.filter_eq_self.2 fun f hf => hx.isStored hSome hf] at hRefers
  -- the reference goes to the class, and the plain field to none
  have hClass : b.document.class? reference.type = some r :=
    hDocument ▸ hx.class?_eq_some hSound hr
  have hNoClass : b.document.class? plain.type = none := hDocument ▸ hx.isPlain.noClass
  -- the plain field makes no foreign key, whichever of the two comes first
  rcases hx.fields with hFields | hFields
  · rw [hFields] at hRefers
    obtain ⟨k, rest, hKeys, hReference, hRest⟩ :=
      (hRefers.of_cons_plain hNoClass).of_cons_reference hx.refersTo.sqlType hClass
    cases hRest
    exact ⟨b, t, k, hDocument, hCatalog, hFind, hKeys, hReference⟩
  · rw [hFields] at hRefers
    obtain ⟨k, rest, hKeys, hReference, hRest⟩ :=
      hRefers.of_cons_reference hx.refersTo.sqlType hClass
    cases hRest.of_cons_plain hNoClass
    exact ⟨b, t, k, hDocument, hCatalog, hFind, hKeys, hReference⟩

/-- The fields of the new class can be added where the identity types of the other class are
read. -/
theorem Document.Referrer.admits (hx : d.Referrer catalog x r plain reference)
    (hSound : d.structureProblems = []) (hr : r ∈ d.classes) (hSome : reference.columns ≠ [])
    {b : Blueprint} (hDocument : b.document = d.append x) (hCatalog : b.catalog = catalog)
    {built : List Table} (hTarget : b.Target built table reference r) {names : List String}
    {types : List ColumnType} (hNames : d.identityTypes r = .ok names)
    (hReads : b.Reads names types) (hLength : names.length = reference.columns.length) :
    ∀ f ∈ x.fields, b.Admits built table f := by
  -- both fields are stored
  intro f hf
  refine ⟨hx.isStored hSome hf, ?_⟩
  rcases hx.mem_fields_iff.1 hf with rfl | rfl
  -- the plain field has the type that it declares
  · obtain ⟨type, hType⟩ := hx.isPlain.type
    refine ⟨_, .declared (by simp [hx.isPlain.sqlType]) (hDocument ▸ hx.isPlain.noClass)
      (Blueprint.columnType?_eq_ok_iff.2 (hCatalog ▸ hType)), fun r' hNone => ?_⟩
    cases hNone
  -- the reference has the types of the identity
  · have hNames' : b.document.identityTypes r = .ok names := by
      rw [hDocument, (hx.fresh.agrees hSound).identityTypes_eq hr]
      exact hNames
    refine ⟨_, .reference (by simp [hx.refersTo.sqlType])
      (hDocument ▸ hx.class?_eq_some hSound hr) hNames' hLength hReads, fun r' hReferenced => ?_⟩
    cases hReferenced
    exact hTarget

/-- So the new class has a table, beside those that are there. -/
theorem Document.Referrer.exists_table (hx : d.Referrer catalog x r plain reference)
    (hSound : d.structureProblems = []) (hr : r ∈ d.classes) (hSome : reference.columns ≠ [])
    {b : Blueprint} (hDocument : b.document = d.append x) (hCatalog : b.catalog = catalog)
    {built : List Table} (hTarget : b.Target built table reference r) {names : List String}
    {types : List ColumnType} (hNames : d.identityTypes r = .ok names)
    (hReads : b.Reads names types) (hLength : names.length = reference.columns.length)
    (js : List ClassMapping) : ∃ t, (b.table built .oneToOne x table js).outcome = .ok (t, js) := by
  have hAdmits := hx.admits hSound hr hSome hDocument hCatalog hTarget hNames hReads hLength
  refine Blueprint.exists_table hAdmits ?_ hx.parent hx.indexes
  rcases hx.fields with hFields | hFields
  · simpa [hFields] using hx.distinct
  · have hSwapped := List.nodup_append_comm.1 hx.distinct
    simpa [hFields] using hSwapped

/-- The table of the class was made from it. -/
theorem Schema.HasKey.exists_table {u : Table} (hu : s.HasKey d r u)
    (h : (Schema.ofDocument registry settings catalog d).outcome = .ok s) :
    ∃ built js js',
      ((d.blueprint registry catalog).table built .oneToOne r u.name js).outcome =
        .ok (u, js') := by
  obtain ⟨js, -, hBuilds⟩ := Schema.exists_junctions_of_ofDocument h
  obtain ⟨u', built, js₀, js₁, hFind, hTable⟩ := hBuilds.exists_table_of_class hu.mem hu.table
  cases hFind.symm.trans hu.found
  exact ⟨built, js₀, js₁, hTable⟩

/-- The identity columns of a class are the primary key of its table. -/
theorem Schema.HasKey.identityColumns_eq {u : Table} (hu : s.HasKey d r u)
    (h : (Schema.ofDocument registry settings catalog d).outcome = .ok s) :
    d.identityColumns r = .ok u.keyColumns := by
  obtain ⟨built, js, js', hTable⟩ := hu.exists_table h
  have hFields := hu.fields_ne_nil hTable
  rw [Blueprint.keyColumns_eq_of_table hTable hFields hu.once]
  exact Blueprint.identityColumns_eq_of_table hTable hFields

/-- If the SQL types in the identity of a class are column types, another class can refer to it, and
its own table stays as it was. -/
theorem Document.Referrer.exists_ofDocument (hx : d.Referrer catalog x r plain reference)
    (h : (Schema.ofDocument registry settings catalog d).outcome = .ok s) {u : Table}
    (hu : s.HasKey d r u) (hMapped : x.mappedTable = some table) (hNew : table ∉ s.tableNames)
    (hLength : reference.columns.length = u.keyColumns.length)
    (hKnown : ∀ f ∈ (d.lineage r).identity, ∀ sqlType, given f.sqlType = some sqlType →
      catalog.get? sqlType ≠ .ok none) :
    ∃ s', (Schema.ofDocument registry settings catalog (d.append x)).outcome = .ok s' ∧
      s'.table? u.name = some u := by
  -- what is there before the new class comes in
  have hSound := (Schema.ofDocument_eq_ok_iff.1 h).1
  obtain ⟨before, after, js, hSplit, hBuilds, hAppend⟩ :=
    Schema.exists_ofDocument_append h hx.fresh hx.parent hMapped hNew
  -- the table of `r` is one of those of the classes
  have hOrigin : (⟨.oneToOne, r, u.name⟩ : Origin) ∈ Origin.ofClasses d.classes :=
    Origin.mem_ofClasses_iff.2 ⟨rfl, hu.mem, hu.table⟩
  obtain ⟨u', built, js₀, js₁, hFirst, hTable⟩ :=
    Blueprint.Builds.exists_table (s := ⟨s.name, before⟩) hBuilds hOrigin
  have hBefore : before.find? (·.name == u.name) = some u' := hFirst
  obtain rfl : u' = u := by
    have hFind := hu.found
    rw [Schema.table?, hSplit, List.find?_append, hBefore] at hFind
    exact Option.some.inj hFind
  -- it has an identity, with types that can be read
  have hFields := hu.fields_ne_nil hTable
  have hIdentity : (d.lineage r).identity ≠ [] :=
    Blueprint.identity_ne_nil_of_table hTable hFields hu.once hu.nonempty
  obtain ⟨names, types, hNames, hReads, hCount⟩ :=
    Blueprint.exists_reads_of_table hSound hu.mem hTable hFields hu.once hIdentity
      fun f hf sqlType hGiven => mt Blueprint.columnType?_eq_ok_iff.1 (hKnown f hf sqlType hGiven)
  -- the new table is another one
  have hOther : u'.name ≠ table := by
    rintro rfl
    exact hNew (Schema.mem_tableNames_of_table? hu.found)
  have hColumns : (d.append x).identityColumns r = .ok u'.keyColumns := by
    rw [(hx.fresh.agrees hSound).identityColumns_eq hu.mem, hu.identityColumns_eq h]
  -- the parts of a target: its table, its key, and as many columns as the reference has
  have hTarget : ((d.append x).blueprint registry catalog).Target before table reference r :=
    ⟨hx.refersTo.manyKey, u', u'.keyColumns, hu.table, hOther, hBefore, hColumns,
      (Blueprint.keyed_of_table hTable).mem_columnNames, hLength.symm⟩
  have hSome : reference.columns ≠ [] := hu.columns_ne_nil hLength
  -- so the new class has a table, and the schema is there
  obtain ⟨t, hNewTable⟩ := hx.exists_table hSound hu.mem hSome rfl rfl hTarget hNames hReads
    (hCount.trans hLength.symm) js
  obtain ⟨s', hs', hTables⟩ := hAppend t hNewTable
  refine ⟨s', hs', ?_⟩
  -- the table of `r` stands before the new one
  rw [Schema.table?, hTables, List.find?_append, hBefore]
  rfl

/-- If a document has a schema after another class has come in that refers to `r`, then the SQL
types in the identity of `r` are column types, and the new table has one foreign key, to the
identity of `r`. -/
theorem Document.Referrer.known_and_exists_key (hx : d.Referrer catalog x r plain reference)
    (hSound : d.structureProblems = []) (hr : r ∈ d.classes)
    (hMapped : x.mappedTable = some table) (hSome : reference.columns ≠ [])
    (h : (Schema.ofDocument registry settings catalog (d.append x)).outcome = .ok s) :
    (∀ f ∈ (d.lineage r).identity, ∀ sqlType, given f.sqlType = some sqlType →
      catalog.get? sqlType ≠ .ok none) ∧
    ∃ t k, s.table? table = some t ∧ t.foreignKeys = [k] ∧ k.columns = reference.columns ∧
      r.mappedTable = some k.referenceTable ∧ d.identityColumns r = .ok k.referenceColumns := by
  have hAgrees := hx.fresh.agrees hSound
  -- the new table has one foreign key
  obtain ⟨b, t, k, hDocument, hCatalog, hFind, hKeys, hReference⟩ :=
    hx.exists_key hSound hr hMapped hSome h
  have hLineage : b.document.lineage r = d.lineage r := by
    rw [hDocument, hAgrees.lineage_eq hr]
  refine ⟨fun f hf sqlType hGiven => ?_, t, k, hFind, hKeys, hReference.columns, hReference.table,
    ?_⟩
  -- what it refers to was read as types
  · rw [← hCatalog]
    exact mt Blueprint.columnType?_eq_ok_iff.2 (hReference.sqlType_known (hLineage ▸ hf) hGiven)
  -- and its columns are those of the identity
  · have hColumns := hReference.key
    rw [if_pos hx.refersTo.manyKey, hDocument, hAgrees.identityColumns_eq hr] at hColumns
    exact hColumns

/-- **Which tables can be referred to.** Let a class have a table with a primary key, and declare
its identity once. A new class that refers to it, with one column for each of the key, has a table
exactly if every SQL type that an identity field of the class declares is a column type. The new
table then has one foreign key, which refers to the primary key in order, and the other table is as
it was. -/
theorem Schema.referencing_iff
    (h : (Schema.ofDocument registry settings catalog d).outcome = .ok s) {u : Table}
    (hu : s.HasKey d r u) (hx : d.Referrer catalog x r plain reference)
    (hMapped : x.mappedTable = some table) (hNew : table ∉ s.tableNames)
    (hLength : reference.columns.length = u.keyColumns.length) :
    ((∃ s', (Schema.ofDocument registry settings catalog (d.append x)).outcome = .ok s') ↔
      ∀ f ∈ (d.lineage r).identity, ∀ sqlType, given f.sqlType = some sqlType →
        catalog.get? sqlType ≠ .ok none) ∧
    ∀ s', (Schema.ofDocument registry settings catalog (d.append x)).outcome = .ok s' →
      s'.table? u.name = some u ∧
      ∃ t k, s'.table? table = some t ∧ t.foreignKeys = [k] ∧ k.columns = reference.columns ∧
        k.referenceTable = u.name ∧ k.referenceColumns = u.keyColumns := by
  have hSound := (Schema.ofDocument_eq_ok_iff.1 h).1
  have hSome : reference.columns ≠ [] := hu.columns_ne_nil hLength
  refine ⟨⟨?_, fun hKnown => ?_⟩, fun s' h' => ?_⟩
  -- what the new schema shows, and what the old one allows
  · rintro ⟨s', h'⟩
    exact (hx.known_and_exists_key hSound hu.mem hMapped hSome h').1
  · obtain ⟨s', h', -⟩ := hx.exists_ofDocument h hu hMapped hNew hLength hKnown
    exact ⟨s', h'⟩
  · obtain ⟨hKnown, t, k, hFind, hKeys, hColumns, hTable, hKey⟩ :=
      hx.known_and_exists_key hSound hu.mem hMapped hSome h'
    -- a document has one schema at most
    obtain ⟨s'', h'', hKept⟩ := hx.exists_ofDocument h hu hMapped hNew hLength hKnown
    cases h''.symm.trans h'
    refine ⟨hKept, t, k, hFind, hKeys, hColumns, ?_, ?_⟩
    · exact (Option.some.inj (hu.table.symm.trans hTable)).symm
    · exact (Except.ok.inj ((hu.identityColumns_eq h).symm.trans hKey)).symm

end Referrer

/-! ## Two references -/

/-- What is known to have a type has one. -/
theorem TypeCatalog.exists_of_isSome {catalog : TypeCatalog} {name : String}
    (h : (catalog.get? name).toOption.map (·.isSome) = some true) :
    ∃ type, catalog.get? name = .ok (some type) := by
  obtain ⟨o, hType, hSome⟩ := exists_ok_of_toOption_map h
  obtain ⟨type, rfl⟩ := Option.isSome_iff_exists.1 hSome
  exact ⟨type, hType⟩

/-- What is computed from a schema shows that a class has a key in it. -/
theorem Schema.exists_hasKey {outcome : Except SchemaError Schema} {d : Document}
    {r : ClassMapping} {name : String} {key names : List String} (hr : r ∈ d.classes)
    (hMapped : r.mappedTable = some name) (hSome : key ≠ [])
    (hOnce : (d.lineage r).DeclaresIdentityOnce)
    (h : (outcome.toOption.map fun s => ((s.table? name).map (·.keyColumns), s.tableNames)) =
      some (some key, names)) :
    ∃ s u, outcome = .ok s ∧ s.HasKey d r u ∧ u.name = name ∧ u.keyColumns = key ∧
      s.tableNames = names := by
  obtain ⟨s, hs, hView⟩ := exists_ok_of_toOption_map h
  obtain ⟨hKey, hNames⟩ := Prod.mk.inj hView
  obtain ⟨u, hFind, hColumns⟩ := Option.map_eq_some_iff.1 hKey
  obtain rfl := Schema.name_of_table? hFind
  exact ⟨s, u, hs, ⟨hr, hMapped, hFind, hColumns ▸ hSome, hOnce⟩, rfl, hColumns, hNames⟩

/-- A book is identified by its shelf and a number, which has an SQL type of its own. -/
def Document.shelved : Document where
  classes :=
    [{ name := "Shelf"
       table := some "shelf"
       fields := [{ name := "id", type := "integer", identity := true, columns := ["id"] }] },
     { name := "Book"
       table := some "book"
       identity := ["shelf", "no"]
       fields :=
         [{ name := "shelf", type := "Shelf", columns := ["shelf_id"] },
          { name := "no", type := "integer", columns := ["no"], sqlType := some "smallint" }] }]

/-- A loan refers to a book. -/
def ClassMapping.loan : ClassMapping where
  name := "Loan"
  table := some "loan"
  fields :=
    [{ name := "id", type := "integer", identity := true, columns := ["id"] },
     { name := "book", type := "Book", columns := ["book_shelf", "book_no"] }]

/-- A loan refers to a book, which is on a shelf. -/
theorem ClassMapping.referrer_loan :
    Document.shelved.Referrer (Dialect.generic.catalog {}) .loan Document.shelved.classes[1]
      loan.fields[0] loan.fields[1] where
  fresh := ⟨by decide, by decide⟩
  parent := rfl
  indexes := rfl
  fields := Or.inl rfl
  isPlain := ⟨⟨"id", rfl⟩, rfl, rfl, by decide, TypeCatalog.exists_of_isSome (by decide +kernel)⟩
  refersTo := ⟨rfl, rfl, rfl, rfl⟩
  distinct := by decide

/-- A loan refers to both columns of the primary key of books, as `smallint` is a column type. -/
theorem Schema.referencing_loan :
    ∃ s' t k, (Schema.ofDocument (.initial .generic) {} (Dialect.generic.catalog {})
        (Document.shelved.append .loan)).outcome = .ok s' ∧ s'.table? "loan" = some t ∧
      t.foreignKeys = [k] ∧ k.columns = ["book_shelf", "book_no"] ∧ k.referenceTable = "book" ∧
      k.referenceColumns = ["shelf_id", "no"] := by
  -- books have a key of two columns
  obtain ⟨s, u, hs, hBook, hName, hColumns, hTables⟩ :
      ∃ s u, (Schema.ofDocument (.initial .generic) {} (Dialect.generic.catalog {})
          .shelved).outcome = .ok s ∧ s.HasKey .shelved Document.shelved.classes[1] u ∧
        u.name = "book" ∧ u.keyColumns = ["shelf_id", "no"] ∧ s.tableNames = ["shelf", "book"] :=
    Schema.exists_hasKey (by decide) (by decide) (List.cons_ne_nil _ _)
      (by decide +kernel) (by decide +kernel)
  have hNew : "loan" ∉ s.tableNames := by
    rw [hTables]
    decide
  have hLength : ClassMapping.loan.fields[1].columns.length = u.keyColumns.length := by
    rw [hColumns]
    rfl
  obtain ⟨hBuilds, hKey⟩ :=
    Schema.referencing_iff hs hBook ClassMapping.referrer_loan (by decide) hNew hLength
  have hIdentity : (Document.shelved.lineage Document.shelved.classes[1]).identity =
      Document.shelved.classes[1].fields := by
    decide +kernel
  -- only the number has an SQL type
  have hKnown : ∀ f ∈ (Document.shelved.lineage Document.shelved.classes[1]).identity, ∀ sqlType,
      given f.sqlType = some sqlType → (Dialect.generic.catalog {}).get? sqlType ≠ .ok none := by
    intro f hf sqlType hGiven
    rw [hIdentity] at hf
    rcases List.mem_pair.1 hf with rfl | rfl
    · cases hGiven
    · obtain rfl : "smallint" = sqlType := by
        refine Option.some.inj (Eq.trans ?_ hGiven)
        decide
      obtain ⟨type, hType⟩ : ∃ type, (Dialect.generic.catalog {}).get? "smallint" =
          .ok (some type) := TypeCatalog.exists_of_isSome (by decide +kernel)
      simp [hType]
  -- so a loan can refer to them
  obtain ⟨s', hs'⟩ := hBuilds.2 hKnown
  obtain ⟨-, t, k, hFind, hKeys, hLocal, hTable, hReferenced⟩ := hKey s' hs'
  rw [hName] at hTable
  rw [hColumns] at hReferenced
  exact ⟨s', t, k, hs', hFind, hKeys, hLocal, hTable, hReferenced⟩

/-- A code has an SQL type that is no column type, so its column is an integer. -/
def Document.coded : Document where
  classes :=
    [{ name := "Code"
       table := some "code"
       fields :=
         [{ name := "id", type := "integer", identity := true, columns := ["id"]
            sqlType := some "weird" }] }]

/-- An entry refers to a code. -/
def ClassMapping.entry : ClassMapping where
  name := "Entry"
  table := some "entry"
  fields :=
    [{ name := "id", type := "integer", identity := true, columns := ["id"] },
     { name := "code", type := "Code", columns := ["code_id"] }]

/-- Codes have a table with a primary key, which no entry can refer to. -/
theorem Schema.no_reference_to_code :
    (∃ s u, (Schema.ofDocument (.initial .generic) {} (Dialect.generic.catalog {})
        .coded).outcome = .ok s ∧ s.HasKey .coded Document.coded.classes[0] u ∧
      u.keyColumns = ["id"] ∧ "entry" ∉ s.tableNames) ∧
    Document.coded.Referrer (Dialect.generic.catalog {}) .entry Document.coded.classes[0]
      ClassMapping.entry.fields[0] ClassMapping.entry.fields[1] ∧
    ∀ s', (Schema.ofDocument (.initial .generic) {} (Dialect.generic.catalog {})
        (Document.coded.append .entry)).outcome ≠ .ok s' := by
  refine ⟨?_, ?_, fun s' h' => ?_⟩
  -- codes have a table with a key
  · obtain ⟨s, u, hs, hCode, -, hColumns, hTables⟩ :
        ∃ s u, (Schema.ofDocument (.initial .generic) {} (Dialect.generic.catalog {})
            .coded).outcome = .ok s ∧ s.HasKey .coded Document.coded.classes[0] u ∧
          u.name = "code" ∧ u.keyColumns = ["id"] ∧ s.tableNames = ["code"] :=
      Schema.exists_hasKey (by decide) (by decide) (List.cons_ne_nil _ _)
        (by decide +kernel) (by decide +kernel)
    refine ⟨s, u, hs, hCode, hColumns, ?_⟩
    rw [hTables]
    decide
  -- an entry refers to them in a way that is allowed
  · exact {
      fresh := ⟨by decide, by decide⟩
      parent := rfl
      indexes := rfl
      fields := Or.inl rfl
      isPlain :=
        ⟨⟨"id", rfl⟩, rfl, rfl, by decide, TypeCatalog.exists_of_isSome (by decide +kernel)⟩
      refersTo := ⟨rfl, rfl, rfl, rfl⟩
      distinct := by decide }
  -- but the schema cannot be built
  · have hNone : (Schema.ofDocument (.initial .generic) {} (Dialect.generic.catalog {})
        (Document.coded.append .entry)).outcome.toOption.isSome = false := by
      decide +kernel
    rw [h'] at hNone
    cases hNone

end MappingDdl
