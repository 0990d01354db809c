import MappingDdl.Proofs.FurtherField
import MappingDdl.Proofs.Referencing

/-!
# Self references — a field that refers to its own class

A reference to the class that is being built goes to the table as it is at that moment: it has the
columns of the fields before, while those of the fields behind and of an inherited identity are not
there yet. So a class can refer to itself exactly where the whole identity is declared before the
field, and can be read.

Main results:

* `Blueprint.exists_table_of_self` — the table of a class that refers to itself.
* `Schema.selfReference_iff` — when a class can refer to itself.
-/

namespace MappingDdl

/-! ## Classes that refer to themselves -/

/-- A field refers to a class also once it is one of its fields. -/
theorem FieldMapping.RefersTo.insertField {f : FieldMapping} {c : ClassMapping} {i : Nat}
    (h : f.RefersTo c) : f.RefersTo (c.insertField i f) :=
  ⟨h.type, h.sqlType, h.manyTable, h.manyKey⟩

/-- A class that has the whole identity among its own fields, and declares it once, has it from
nowhere else. -/
theorem Lineage.DeclaresIdentityOnce.identityFields_ne_nil {l : Lineage}
    (h : l.DeclaresIdentityOnce) (hSome : l.identity ≠ [])
    (hOwn : ∀ g ∈ l.identity, g ∈ l.head.fields) : l.head.identityFields ≠ [] := by
  intro hNone
  obtain ⟨g, hg⟩ := List.exists_mem_of_ne_nil _ hSome
  obtain ⟨cs, hList⟩ := l.toList_eq_head_cons
  have hBelow : l.head ∈ l.belowIdentity := by
    rw [belowIdentity, hList, List.takeWhile_cons_of_pos (by simpa using hNone)]
    exact List.mem_cons_self
  -- the field would have been declared again, by itself
  have hAgain := h l.head hBelow g (hOwn g hg) g hg
  simp [FieldMapping.isNamed] at hAgain

namespace Blueprint

variable {b : Blueprint} {built : List Table} {relation : Relation} {c : ClassMapping}
  {f : FieldMapping} {g : Option KeyGenerator} {t t' u : Table} {name : String}
  {js js' : List ClassMapping}

/-! ## Columns -/

/-- The columns of a table belong to the stored fields of its class and to the inherited identity
fields, each column to one of them. -/
theorem columnNames_eq_flatMap (h : (b.table built relation c name js).outcome = .ok (t, js'))
    (hFields : c.fields ≠ []) (hOnce : (b.document.lineage c).DeclaresIdentityOnce) :
    t.columnNames = (c.fields.filter (·.isStored) ++
      (b.document.lineage c).inherited).flatMap (·.columns) := by
  obtain ⟨-, g, g', own, inherited, hOwn, hInherited, hColumns⟩ := lays_of_table h hFields hOnce
  rw [Table.columnNames, hColumns, List.map_append, hOwn.columnNames, hInherited.columnNames,
    List.flatMap_append]

/-- A field of a class that has a column of the identity is an identity field. -/
theorem eq_of_identity_column (h : (b.table built relation c name js).outcome = .ok (t, js'))
    (hFields : c.fields ≠ []) (hOnce : (b.document.lineage c).DeclaresIdentityOnce)
    {own g : FieldMapping} (hOwn : own ∈ c.fields) (hStored : own.isStored = true)
    (hg : g ∈ (b.document.lineage c).identity) {column : String} (hHere : column ∈ own.columns)
    (hThere : column ∈ g.columns) : own = g := by
  have hNodup := (keyed_of_table h).nodupNames
  rw [columnNames_eq_flatMap h hFields hOnce] at hNodup
  refine eq_of_mem_flatMap hNodup (List.mem_append_left _ (List.mem_filter.2 ⟨hOwn, hStored⟩)) ?_
    hHere hThere
  rw [← Lineage.append_inherited (b.document.head_lineage c)] at hg
  rcases List.mem_append.1 hg with hHead | hAbove
  · obtain ⟨hMem, -, hIs⟩ := ClassMapping.mem_identityFields_iff.1 hHead
    exact List.mem_append_left _ (List.mem_filter.2 ⟨hMem, hIs⟩)
  · exact List.mem_append_right _ hAbove

/-- A field that refers to the class being built gets its columns and a foreign key to the table as
it is, where the columns of the identity are there already. -/
theorem exists_addField_of_self (hMapped : c.mappedTable = some t.name)
    (hClass : b.document.class? f.type = some c) (hf : f.RefersTo c)
    (hPlain : c.isIdentity f = false) {names columns : List String} {types : List ColumnType}
    (hNames : b.document.identityTypes c = .ok names) (hReads : b.Reads names types)
    (hLength : names.length = f.columns.length)
    (hColumns : b.document.identityColumns c = .ok columns)
    (hCount : columns.length = f.columns.length) (hFound : columns ⊆ t.columnNames)
    (hNodup : (t.columnNames ++ f.columns).Nodup) :
    ∃ t' cs, (b.addField built relation c g t f).outcome = .ok t' ∧
      cs.map (·.name) = f.columns ∧ t.Inserts cs
        [⟨t.name ++ "_" ++ f.name, relation, f.columns, t.name, columns⟩] t' := by
  have hTypes : b.HasTypes f ⟨types, some c⟩ :=
    .reference (by simp [hf.sqlType]) hClass hNames hLength hReads
  obtain ⟨u, hAdd⟩ := hTypes.exists_addColumns hNodup false none
  obtain rfl := addColumns_plain hAdd
  let cs : List Column := (f.columns.zip types).map fun p => ⟨p.1, p.2, false, f.required, none⟩
  let k : ForeignKey := ⟨t.name ++ "_" ++ f.name, relation, f.columns, t.name, columns⟩
  have hKey : b.foreignKey built { t with columns := t.columns ++ cs } c f c relation = .ok k := by
    refine foreignKey_eq_ok_iff.2 ⟨{ t with columns := t.columns ++ cs }, columns, ?_, ?_,
      fun column hColumn => ?_, hCount, rfl⟩
    -- the table of the class is the one that is being built
    · simp only [referenceTable, hMapped, if_true]
    -- without named columns it refers to those of the identity
    · rw [if_pos hf.manyKey]
      exact hColumns
    -- they were there already
    · rw [Table.columnNames, List.map_append]
      exact List.mem_append_left _ (hFound hColumn)
  refine ⟨_, cs, addField_eq_ok_iff.2 ⟨_, _, hTypes, ?_, Or.inr ⟨c, k, rfl, hKey, rfl⟩⟩, ?_, ?_⟩
  · rw [hPlain]
    exact hAdd
  · exact hTypes.columnNames false none
  · exact ⟨⟨t.columns, [], by simp, by simp [cs, Table.addForeignKey]⟩,
      ⟨t.foreignKeys, [], by simp, by simp [k, Table.addForeignKey]⟩, rfl, rfl, rfl, rfl⟩

/-- A field that refers to the class being built is added only where the columns of the identity are
there already, or are its own. -/
theorem identityColumns_of_addField_self (hMapped : c.mappedTable = some t.name)
    (hClass : b.document.class? f.type = some c) (hf : f.RefersTo c)
    (h : (b.addField built relation c g t f).outcome = .ok t') :
    ∃ columns, b.document.identityColumns c = .ok columns ∧
      ∀ column ∈ columns, column ∈ t.columnNames ++ f.columns := by
  obtain ⟨ft, u, hTypes, hAdd, hRest⟩ := addField_eq_ok_iff.1 h
  have hReferenced := hTypes.referenced_eq_some hf.sqlType hClass
  have hName : u.name = t.name := (addColumns_eq_ok hAdd).1.name_eq
  have hNames := hTypes.columnNames_of_addColumns hAdd
  -- a field that refers to a class has a foreign key
  rcases hRest with ⟨hPlain, -⟩ | ⟨r, k, hSome, hKey, -⟩
  · cases hPlain.symm.trans hReferenced
  · cases hSome.symm.trans hReferenced
    obtain ⟨v, columns, hTable, hIdentity, hFound, -⟩ := foreignKey_eq_ok_iff.1 hKey
    -- the table of the class is the one that is being built
    have hSelf : u = v := by
      simp only [referenceTable, hMapped, hName, if_true] at hTable
      exact Except.ok.inj hTable
    rw [if_pos hf.manyKey] at hIdentity
    exact ⟨columns, hIdentity, fun column hColumn => hNames ▸ hSelf ▸ hFound column hColumn⟩

end Blueprint

/-- The field refers to its own class `c`, which has the table `u`. It is no identity field, and has
new columns, one for each of the primary key. -/
structure ClassMapping.RefersToItself (c : ClassMapping) (i : Nat) (f : FieldMapping) (u : Table) :
    Prop where
  refersTo : f.RefersTo c
  plain    : (c.insertField i f).isIdentity f = false
  length   : f.columns.length = u.keyColumns.length
  fresh    : (u.columnNames ++ f.columns).Nodup

/-- The field is not part of the identity, so the class keeps it. -/
theorem ClassMapping.RefersToItself.keepsIdentity {c : ClassMapping} {i : Nat} {f : FieldMapping}
    {u : Table} (h : c.RefersToItself i f u) : c.KeepsIdentity f :=
  keepsIdentity_of_isIdentity h.plain

/-- A field that refers to its own class has a column for each one of the key. -/
theorem ClassMapping.RefersToItself.isStored {c : ClassMapping} {i : Nat} {f : FieldMapping}
    {u : Table} (h : c.RefersToItself i f u) (hKey : u.keyColumns ≠ []) : f.isStored = true := by
  have hSome : f.columns ≠ [] := by
    rw [← List.length_pos_iff, h.length, List.length_pos_iff]
    exact hKey
  simp [FieldMapping.isStored, FieldMapping.hasColumns, FieldMapping.isManyToMany, hSome,
    h.refersTo.manyTable]

namespace Blueprint

section SelfReference

variable {b : Blueprint} {built built' : List Table} {c : ClassMapping} {f : FieldMapping}
  {t u : Table} {js js' js₀ js₁ : List ClassMapping} {i : Nat}

/-- In the revised document the type of the field is the revised class. -/
theorem class?_insertField (hSound : b.document.structureProblems = [])
    (hc : c ∈ b.document.classes) (hf : c.RefersToItself i f u) :
    (b.revise (c.swap (c.insertField i f))).document.class? f.type =
      some (c.insertField i f) := by
  rw [document_revise, (hf.keepsIdentity.revision i).class?_revise,
    hf.refersTo.type, Document.class?_eq_some hSound hc, Option.map_some, ClassMapping.swap_self]

/-- A class whose identity is declared before the field, and can be read, has a table with the
field: the one that it had, with more columns and one more foreign key. -/
theorem exists_table_of_self (hSound : b.document.structureProblems = [])
    (hc : c ∈ b.document.classes) (hMapped : c.mappedTable = some u.name)
    (h : (b.table built .oneToOne c u.name js).outcome = .ok (u, js')) (hFields : c.fields ≠ [])
    (hOnce : (b.document.lineage c).DeclaresIdentityOnce) (hKey : u.keyColumns ≠ [])
    (hOwn : c.identityFields ≠ []) (hf : c.RefersToItself i f u)
    (hBefore : ∀ g ∈ (b.document.lineage c).identity, g ∈ c.fields.take i)
    (hKnown : ∀ g ∈ (b.document.lineage c).identity, ∀ s, given g.sqlType = some s →
      b.columnType? s ≠ .ok none) :
    ∃ t cs, ((b.revise (c.swap (c.insertField i f))).table built .oneToOne (c.insertField i f)
        u.name js).outcome = .ok (t, js') ∧ cs.map (·.name) = f.columns ∧
      u.Inserts cs [⟨u.name ++ "_" ++ f.name, .oneToOne, f.columns, u.name, u.keyColumns⟩] t := by
  have hφ := hf.keepsIdentity.revision i
  have hSwap := ClassMapping.swap_self c (c.insertField i f)
  have hKeyColumns := keyColumns_eq_of_table h hFields hOnce
  have hHead : (b.document.lineage c).head = c := b.document.head_lineage c
  have hStored : ∀ g ∈ (b.document.lineage c).identity, g.isStored = true := by
    intro g hg
    rw [Lineage.identity_of_head hHead hOwn] at hg
    exact (ClassMapping.mem_identityFields_iff.1 hg).2.2
  -- the new columns belong to none of the other fields
  have hApart : ∀ own ∈ c.fields, own.isStored = true → List.Disjoint own.columns f.columns := by
    intro own hMem hIsStored column hHere
    refine (List.nodup_append'.1 hf.fresh).2.2 ?_
    rw [columnNames_eq_flatMap h hFields hOnce]
    exact List.mem_flatMap.2
      ⟨own, List.mem_append_left _ (List.mem_filter.2 ⟨hMem, hIsStored⟩), hHere⟩
  -- what the field refers to, before the class was revised and after
  obtain ⟨names, types, hNames, hReads, hCount⟩ :=
    exists_reads_of_table hSound hc h hFields hOnce (identity_ne_nil_of_table h hFields hOnce hKey)
      hKnown
  have hNames' := (hφ.identityTypes_revise b.document c).trans hNames
  have hColumns' := (hφ.identityColumns_revise b.document c).trans
    (identityColumns_eq_of_table h hFields)
  rw [hSwap] at hNames' hColumns'
  rw [← hKeyColumns] at hColumns'
  -- the fields before have made the columns of the identity, and none of the new ones
  obtain ⟨g, v, queued, hTake, hNext⟩ := exists_table_insertField hf.keepsIdentity
    (Document.declaresAgainAlike_swap fun hNone => absurd hNone hOwn) hFields h
  obtain ⟨hName, hNames₁, hNodup⟩ := columnNames_of_addFields hTake
  have hFound : u.keyColumns ⊆ v.columnNames := by
    intro column hColumn
    rw [hKeyColumns] at hColumn
    obtain ⟨g, hg, hHere⟩ := List.mem_flatMap.1 hColumn
    rw [hNames₁]
    exact List.mem_flatMap.2 ⟨g, List.mem_filter.2 ⟨hBefore g hg, hStored g hg⟩, hHere⟩
  have hNew : (v.columnNames ++ f.columns).Nodup := by
    refine List.nodup_append'.2 ⟨hNodup, (List.nodup_append'.1 hf.fresh).2.1, ?_⟩
    intro column hColumn
    rw [hNames₁] at hColumn
    obtain ⟨own, hMem, hHere⟩ := List.mem_flatMap.1 hColumn
    obtain ⟨hTaken, hIsStored⟩ := List.mem_filter.1 hMem
    exact hApart own (List.mem_of_mem_take hTaken) hIsStored hHere
  -- so the field goes in where it stands, and the fields behind it follow
  obtain ⟨w, cs, hField, hNames₂, hInserts⟩ :=
    exists_addField_of_self (b := b.revise (c.swap (c.insertField i f))) (c := c.insertField i f)
      (t := v) (g := g) (hMapped.trans (congrArg some hName.symm)) (class?_insertField hSound hc hf)
      hf.refersTo.insertField hf.plain hNames' hReads (hCount.trans hf.length.symm) hColumns'
      hf.length.symm hFound hNew
  rw [hName] at hInserts
  obtain ⟨t, hTable, hInserts'⟩ := hNext w cs _
    (addFields_cons_eq_ok_iff.2 (Or.inr (Or.inl ⟨hf.isStored hKey, w, hField, rfl⟩))) hInserts
    (fun own hMem hIsStored => hNames₂ ▸ hApart own hMem hIsStored)
    (fun hNone => absurd hNone hOwn)
  exact ⟨t, cs, hTable, hNames₂, hInserts'⟩

/-- If a class has a table with the field, its identity is declared before the field, and can be
read. -/
theorem identity_before_of_table (hSound : b.document.structureProblems = [])
    (hc : c ∈ b.document.classes) (hMapped : c.mappedTable = some u.name)
    (h : (b.table built .oneToOne c u.name js).outcome = .ok (u, js')) (hFields : c.fields ≠ [])
    (hOnce : (b.document.lineage c).DeclaresIdentityOnce) (hKey : u.keyColumns ≠ [])
    (hf : c.RefersToItself i f u)
    (h' : ((b.revise (c.swap (c.insertField i f))).table built' .oneToOne (c.insertField i f)
      u.name js₀).outcome = .ok (t, js₁)) :
    ∀ g ∈ (b.document.lineage c).identity, g ∈ c.fields.take i ∧
      ∀ s, given g.sqlType = some s → b.columnType? s ≠ .ok none := by
  have hφ := hf.keepsIdentity.revision i
  have hSwap := ClassMapping.swap_self c (c.insertField i f)
  have hClass := class?_insertField hSound hc hf
  have hKeyColumns := keyColumns_eq_of_table h hFields hOnce
  have hStored := hf.isStored hKey
  have hIdentity := Lineage.identity_map hφ (b.document.lineage c)
  rw [← hφ.lineage_revise, hSwap] at hIdentity
  intro g hg
  refine ⟨?_, fun s hGiven => ?_⟩
  -- the table was made with the field, so the field was added at its place
  · rcases table_eq_ok_iff.1 h' with ⟨hNone, -⟩ | ⟨-, gen, v, w, -, hAdded, -⟩
    · exact absurd hNone (List.ne_nil_of_mem ClassMapping.mem_insertField)
    -- what the fields in front have made is what the foreign key looks up its columns in
    obtain ⟨v₁, queued, hTake, hRest⟩ := addFields_append_eq_ok_iff.1 hAdded
    obtain ⟨hName, hNames, -⟩ := columnNames_of_addFields hTake
    obtain ⟨v₂, hField⟩ : ∃ v₂, ((b.revise (c.swap (c.insertField i f))).addField built' .oneToOne
        (c.insertField i f) gen v₁ f).outcome = .ok v₂ := by
      rcases addFields_cons_eq_ok_iff.1 hRest with
        ⟨hMany, -⟩ | ⟨-, v₂, hField, -⟩ | ⟨-, hNoColumns, -⟩
      · simp [FieldMapping.isStored, hMany] at hStored
      · exact ⟨v₂, hField⟩
      · simp [FieldMapping.isStored, hNoColumns] at hStored
    obtain ⟨columns, hColumns, hFound⟩ := identityColumns_of_addField_self
      (c := c.insertField i f) (hMapped.trans (congrArg some hName.symm)) hClass
      hf.refersTo.insertField hField
    -- a column of the identity field is one of those that the fields before have made
    have hSame := hφ.identityColumns_revise b.document c
    rw [hSwap] at hSame
    obtain rfl : columns = u.keyColumns := by
      rw [hKeyColumns]
      exact Except.ok.inj (hColumns.symm.trans
        (hSame.trans (identityColumns_eq_of_table h hFields)))
    obtain ⟨column, hColumn⟩ :=
      List.exists_mem_of_ne_nil _ (Lineage.columns_ne_nil_of_mem_identity hg)
    have hInKey : column ∈ u.keyColumns := hKeyColumns ▸ List.mem_flatMap.2 ⟨g, hg, hColumn⟩
    have hInTable : column ∈ u.columnNames := (keyed_of_table h).mem_columnNames column hInKey
    -- either a field in front has made the column, or it is new, which it cannot be
    rcases List.mem_append.1 (hFound column hInKey) with hBefore | hNew
    · rw [hNames] at hBefore
      obtain ⟨own, hOwn, hHere⟩ := List.mem_flatMap.1 hBefore
      obtain ⟨hTaken, hIsStored⟩ := List.mem_filter.1 hOwn
      exact eq_of_identity_column h hFields hOnce (List.mem_of_mem_take hTaken) hIsStored hg hHere
        hColumn ▸ hTaken
    · exact absurd hNew ((List.nodup_append'.1 hf.fresh).2.2 hInTable)
  -- the types of the reference were read
  · obtain ⟨k, -, hReference⟩ := (refers_of_table h').exists_key
      (List.mem_filter.2 ⟨ClassMapping.mem_insertField, hStored⟩) hf.refersTo.sqlType hClass
    exact hReference.sqlType_known (hIdentity.symm ▸ hg) hGiven

end SelfReference

end Blueprint

section Schema

variable {registry : KeyGeneratorRegistry} {settings : Settings} {catalog : TypeCatalog}
  {d : Document} {s : Schema} {c : ClassMapping} {i : Nat} {f : FieldMapping} {u : Table}

/-- The tables of a schema have different names, so there is no other one for the class. -/
theorem Schema.HasKey.eq_of_mem (hu : s.HasKey d c u)
    (h : (Schema.ofDocument registry settings catalog d).outcome = .ok s) {t : Table}
    (ht : t ∈ s.tables) (hName : t.name = u.name) : t = u := by
  obtain ⟨js, -, hBuilds⟩ := Schema.exists_junctions_of_ofDocument h
  have hFind : s.table? t.name = some t := find?_of_nodup_map hBuilds.nodup_names ht
  rw [hName, hu.found] at hFind
  exact (Option.some.inj hFind).symm

/-- If the identity of the class is declared before the field, and can be read, the document has a
schema with the field. Only the table of the class is another one. -/
theorem Schema.HasKey.exists_ofDocument_insertField (hu : s.HasKey d c u)
    (h : (Schema.ofDocument registry settings catalog d).outcome = .ok s)
    (hf : c.RefersToItself i f u)
    (hBefore : ∀ g ∈ (d.lineage c).identity, g ∈ c.fields.take i ∧
      ∀ sqlType, given g.sqlType = some sqlType → catalog.get? sqlType ≠ .ok none) :
    ∃ s' before after t cs k,
      (Schema.ofDocument registry settings catalog (d.insertField c i f)).outcome = .ok s' ∧
      s.tables = before ++ u :: after ∧ s'.tables = before ++ t :: after ∧
      cs.map (·.name) = f.columns ∧ u.Inserts cs [k] t ∧ k.columns = f.columns ∧
      k.referenceTable = u.name ∧ k.referenceColumns = u.keyColumns := by
  have hSound := (Schema.ofDocument_eq_ok_iff.1 h).1
  have hφ := hf.keepsIdentity.revision i
  -- the identity is declared by fields of the class itself, those in front of the new one
  have hOwn : c.identityFields ≠ [] := by
    obtain ⟨built, js, js', hTable⟩ := hu.exists_table h
    have hSome := Blueprint.identity_ne_nil_of_table hTable (hu.fields_ne_nil hTable) hu.once
      hu.nonempty
    have hHead := d.head_lineage c
    exact hHead ▸ hu.once.identityFields_ne_nil hSome fun g hg =>
      hHead.symm ▸ List.mem_of_mem_take (hBefore g hg).1
  -- the class stands among others, which are not revised
  obtain ⟨first, last, hClasses⟩ := List.append_of_mem hu.mem
  obtain ⟨before, t, after, js, js', hSplit, -, hTable, hNext⟩ := Schema.exists_ofDocument_revise hφ
    (Document.declaresAgainAlike_swap fun hNone => absurd hNone hOwn)
    (fun x hx => ClassMapping.swap_of_ne hx) h hClasses hu.table
  obtain rfl : t = u := hu.eq_of_mem h (hSplit ▸ List.mem_append_right _ List.mem_cons_self)
    (Blueprint.name_of_table hTable)
  -- its new table has all of the columns of the old one
  obtain ⟨v, cs, hTable', hNames, hInserts⟩ := Blueprint.exists_table_of_self hSound hu.mem
    hu.table hTable (hu.fields_ne_nil hTable) hu.once hu.nonempty hOwn hf
    (fun g hg => (hBefore g hg).1) fun g hg sqlType hGiven =>
      mt Blueprint.columnType?_eq_ok_iff.1 ((hBefore g hg).2 sqlType hGiven)
  have hs' := hNext v hInserts.subset_columnNames (by
    rw [ClassMapping.swap_self]
    exact hTable')
  exact ⟨_, before, after, v, cs, _, hs', hSplit, rfl, hNames, hInserts, rfl, rfl, rfl⟩

/-- If the document has a schema with the field, the identity of the class is declared before the
field, and can be read. -/
theorem Schema.HasKey.identity_before (hu : s.HasKey d c u)
    (h : (Schema.ofDocument registry settings catalog d).outcome = .ok s)
    (hf : c.RefersToItself i f u) {s' : Schema}
    (h' : (Schema.ofDocument registry settings catalog (d.insertField c i f)).outcome = .ok s') :
    ∀ g ∈ (d.lineage c).identity, g ∈ c.fields.take i ∧
      ∀ sqlType, given g.sqlType = some sqlType → catalog.get? sqlType ≠ .ok none := by
  have hSound := (Schema.ofDocument_eq_ok_iff.1 h).1
  obtain ⟨built, js, js', hTable⟩ := hu.exists_table h
  -- the revised class has a table as well, of the same name
  have hMem : c.insertField i f ∈ (d.insertField c i f).classes :=
    List.mem_map.2 ⟨c, hu.mem, ClassMapping.swap_self c _⟩
  obtain ⟨queue, -, hBuilds⟩ := Schema.exists_junctions_of_ofDocument h'
  obtain ⟨t, built', js₀, js₁, -, hTable'⟩ := hBuilds.exists_table_of_class hMem hu.table
  -- the table was made with the field, which says where the identity is declared
  intro g hg
  obtain ⟨hBefore, hKnown⟩ := Blueprint.identity_before_of_table hSound hu.mem hu.table hTable
    (hu.fields_ne_nil hTable) hu.once hu.nonempty hf hTable' g hg
  exact ⟨hBefore, fun sqlType hGiven =>
    mt (Blueprint.columnType?_eq_ok_iff (b := d.blueprint registry catalog)).2
      (hKnown sqlType hGiven)⟩

/-- **When a class can refer to itself.** Let a class have a table with a primary key, and declare
its identity once. With one more field that refers to the class itself, the document has a schema
exactly if the whole identity is declared by the fields before, each SQL type there being a column
type. The table of the class then has the columns of the field and one more foreign key, from these
to its own primary key. In everything else it is as it was, and so are all other tables. -/
theorem Schema.selfReference_iff
    (h : (Schema.ofDocument registry settings catalog d).outcome = .ok s) (hu : s.HasKey d c u)
    (hf : c.RefersToItself i f u) :
    ((∃ s', (Schema.ofDocument registry settings catalog (d.insertField c i f)).outcome = .ok s') ↔
      ∀ g ∈ (d.lineage c).identity, g ∈ c.fields.take i ∧
        ∀ sqlType, given g.sqlType = some sqlType → catalog.get? sqlType ≠ .ok none) ∧
    ∀ s', (Schema.ofDocument registry settings catalog (d.insertField c i f)).outcome = .ok s' →
      ∃ before after t cs k, s.tables = before ++ u :: after ∧ s'.tables = before ++ t :: after ∧
        cs.map (·.name) = f.columns ∧ u.Inserts cs [k] t ∧ k.columns = f.columns ∧
        k.referenceTable = u.name ∧ k.referenceColumns = u.keyColumns := by
  refine ⟨⟨?_, fun hBefore => ?_⟩, fun s' h' => ?_⟩
  -- where there is a schema with the field, the identity stands in front of it
  · rintro ⟨s', h'⟩
    exact hu.identity_before h hf h'
  -- where it does, there is one
  · obtain ⟨s', -, -, -, -, -, h', -⟩ := hu.exists_ofDocument_insertField h hf hBefore
    exact ⟨s', h'⟩
  · obtain ⟨s'', before, after, t, cs, k, h'', hTables⟩ :=
      hu.exists_ofDocument_insertField h hf (hu.identity_before h hf h')
    -- a document has one schema at most
    cases h''.symm.trans h'
    exact ⟨before, after, t, cs, k, hTables⟩

end Schema

/-! ## A tree -/

/-- A node has a number. -/
def Document.nodes : Document where
  classes :=
    [{ name := "Node"
       table := some "node"
       fields := [{ name := "id", type := "integer", identity := true, columns := ["id"] }] }]

/-- A field of a node that refers to another node. -/
def FieldMapping.parentNode : FieldMapping where
  name := "parent"
  type := "Node"
  columns := ["parent_id"]

/-- The document of the nodes has a schema, with a table that has a key and nothing else. -/
theorem Schema.exists_ofNodes :
    ∃ s u, (Schema.ofDocument (.initial .generic) {} (Dialect.generic.catalog {})
        .nodes).outcome = .ok s ∧ s.HasKey .nodes Document.nodes.classes[0] u ∧
      u.name = "node" ∧ u.keyColumns = ["id"] ∧ u.columnNames = ["id"] ∧ u.foreignKeys = [] := by
  let view (s : Schema) := (s.table? "node").map fun u =>
    (u.keyColumns, u.columnNames, u.foreignKeys)
  obtain ⟨s, hs, hView⟩ : ∃ s, (Schema.ofDocument (.initial .generic) {}
      (Dialect.generic.catalog {}) .nodes).outcome = .ok s ∧
      view s = some (["id"], ["id"], []) := by
    refine exists_ok_of_toOption_map ?_
    decide +kernel
  obtain ⟨u, hFind, hTable⟩ := Option.map_eq_some_iff.1 hView
  obtain ⟨hKey, hColumns, hKeys⟩ : _ ∧ _ ∧ _ := by simpa only [Prod.mk.injEq] using hTable
  have hName := Schema.name_of_table? hFind
  refine ⟨s, u, hs, ⟨List.getElem_mem _, ?_, hName ▸ hFind, ?_, ?_⟩, hName, hKey, hColumns, hKeys⟩
  · rw [hName]
    decide
  · rw [hKey]
    exact List.cons_ne_nil _ _
  · decide +kernel

/-- The parent of a node refers to the node, wherever it is declared. -/
theorem FieldMapping.refersToItself_parentNode {i : Nat} {u : Table}
    (hPlain : (Document.nodes.classes[0].insertField i .parentNode).isIdentity .parentNode = false)
    (hKey : u.keyColumns = ["id"]) (hColumns : u.columnNames = ["id"]) :
    Document.nodes.classes[0].RefersToItself i .parentNode u where
  refersTo := ⟨rfl, rfl, rfl, rfl⟩
  plain := hPlain
  length := by
    rw [hKey]
    rfl
  fresh := by
    rw [hColumns]
    decide

/-- A node can refer to another one behind its number. -/
theorem Schema.selfReference_of_node :
    ∃ s' t k, (Schema.ofDocument (.initial .generic) {} (Dialect.generic.catalog {})
        (Document.nodes.insertField Document.nodes.classes[0] 1 .parentNode)).outcome = .ok s' ∧
      t ∈ s'.tables ∧ t.name = "node" ∧ t.foreignKeys = [k] ∧ k.columns = ["parent_id"] ∧
      k.referenceTable = "node" ∧ k.referenceColumns = ["id"] := by
  obtain ⟨s, u, hs, hNode, hName, hKey, hColumns, hKeys⟩ := Schema.exists_ofNodes
  have hParent : Document.nodes.classes[0].RefersToItself 1 .parentNode u :=
    FieldMapping.refersToItself_parentNode (by decide) hKey hColumns
  obtain ⟨hBuilds, hAll⟩ := Schema.selfReference_iff hs hNode hParent
  have hIdentity : (Document.nodes.lineage Document.nodes.classes[0]).identity =
      Document.nodes.classes[0].fields := by
    decide +kernel
  -- the only identity field is the first field, which has no SQL type
  obtain ⟨s', hs'⟩ := hBuilds.2 (by
    intro g hg
    rw [hIdentity] at hg
    obtain rfl := List.mem_singleton.1 hg
    exact ⟨List.mem_singleton.2 rfl, fun sqlType hGiven => by cases hGiven⟩)
  obtain ⟨before, after, t, cs, k, -, hTables, -, hInserts, hLocal, hTable, hReferenced⟩ :=
    hAll s' hs'
  -- the table had no foreign key before, so it has just the new one
  obtain ⟨keys, keys', hOld, hNew⟩ := hInserts.foreignKeys
  rw [hKeys] at hOld
  obtain ⟨rfl, rfl⟩ := List.append_eq_nil_iff.1 hOld.symm
  refine ⟨s', t, k, hs', ?_, hInserts.name.trans hName, hNew, hLocal, hTable.trans hName,
    hReferenced.trans hKey⟩
  rw [hTables]
  exact List.mem_append_right _ List.mem_cons_self

/-- No node can refer to another one before its number. -/
theorem Schema.no_selfReference_at_front :
    (∃ s u, (Schema.ofDocument (.initial .generic) {} (Dialect.generic.catalog {})
        .nodes).outcome = .ok s ∧ s.HasKey .nodes Document.nodes.classes[0] u ∧
      Document.nodes.classes[0].RefersToItself 0 .parentNode u) ∧
    ∀ s', (Schema.ofDocument (.initial .generic) {} (Dialect.generic.catalog {})
      (Document.nodes.insertField Document.nodes.classes[0] 0 .parentNode)).outcome ≠ .ok s' := by
  refine ⟨?_, fun s' h' => ?_⟩
  -- the hypotheses hold at the front too
  · obtain ⟨s, u, hs, hNode, -, hKey, hColumns, -⟩ := Schema.exists_ofNodes
    exact ⟨s, u, hs, hNode, FieldMapping.refersToItself_parentNode (by decide) hKey hColumns⟩
  -- but the schema cannot be built
  · have hNone : (Schema.ofDocument (.initial .generic) {} (Dialect.generic.catalog {})
        (Document.nodes.insertField Document.nodes.classes[0] 0
          .parentNode)).outcome.toOption.isSome = false := by
      decide +kernel
    rw [h'] at hNone
    cases hNone

end MappingDdl
