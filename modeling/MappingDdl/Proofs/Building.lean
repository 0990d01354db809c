import MappingDdl.Proofs.Columns

/-!
# Building a table — from the fields of a class to its indexes

One statement for each function of the schema builder that works on a table, in the order in which
they call each other. The table grows in steps (`Table.Grows`), its columns are those of the stored
fields in the order of their declaration, and every foreign key stands for the reference of a field
(`Blueprint.Reference`). What the fields done so far have made of a table is the invariant
`Blueprint.Contributed`; it is kept by one field (`Contributed.of_addField`), and so by all of them
(`Contributed.of_addFields`).

Main results:

* `Blueprint.table_eq_ok_iff` — the stages a table goes through.
* `Blueprint.grows_of_table` — every table is built in steps from an empty one.
* `Blueprint.refers_of_table` — the foreign keys stand for the referring fields of the class, in
  order.
* `Blueprint.indexes_of_table` — the indexes are the declared ones, in order.
* `Blueprint.lays_of_inheritFields`, `Blueprint.inherit_step_eq_ok` — one level of the merge of an
  inherited identity.
-/

namespace MappingDdl

namespace Blueprint

variable {b : Blueprint}

/-! ## Foreign keys -/

/-- The foreign key `k` of table `t` stands for the reference of field `f` to class `r`. -/
structure Reference (b : Blueprint) (relation : Relation) (t : Table) (f : FieldMapping)
    (r : ClassMapping) (k : ForeignKey) : Prop where
  name     : k.name = t.name ++ "_" ++ f.name
  relation : k.relation = relation
  columns  : k.columns = f.columns
  types    : ∃ types, b.HasTypes f ⟨types, some r⟩ ∧
               f.columns.map t.columnType? = types.map some
  table    : r.mappedTable = some k.referenceTable
  /-- The columns on the other side: those that the field names, or the identity of the class. -/
  key      : if f.manyKey = [] then b.document.identityColumns r = .ok k.referenceColumns
             else k.referenceColumns = f.manyKey

/-- A reference leads to the table that its class is mapped to, here or among those before. -/
theorem referenceTable_eq_ok {built : List Table} {t u : Table} {c r : ClassMapping}
    {f : FieldMapping} (h : referenceTable built t c f r = .ok u) :
    u ∈ t :: built ∧ r.mappedTable = some u.name := by
  unfold referenceTable at h
  split at h
  · cases h
  · next name hTable =>
    -- the table itself counts first, then the tables built before
    split at h
    · next hEq =>
      cases h
      exact ⟨List.mem_cons_self, hEq ▸ hTable⟩
    -- not this table, so one of those before it
    · split at h
      · next v hFind =>
        cases h
        have hName : u.name = name := by simpa using List.find?_some hFind
        exact ⟨List.mem_cons_of_mem _ (List.mem_of_find?_eq_some hFind), hName ▸ hTable⟩
      · cases h

/-- A foreign key is made exactly when it fits: the other table is there, and has each of the
columns that the field's refer to, one by one. -/
theorem foreignKey_eq_ok_iff {built : List Table} {t : Table} {c r : ClassMapping}
    {f : FieldMapping} {relation : Relation} {k : ForeignKey} :
    b.foreignKey built t c f r relation = .ok k ↔
      ∃ u columns, referenceTable built t c f r = .ok u ∧
        (if f.manyKey = [] then b.document.identityColumns r = .ok columns
          else columns = f.manyKey) ∧
        (∀ column ∈ columns, column ∈ u.columnNames) ∧ columns.length = f.columns.length ∧
        k = ⟨t.name ++ "_" ++ f.name, relation, f.columns, u.name, columns⟩ := by
  -- the other table is found first, in both cases
  rw [foreignKey, bind_eq_ok_iff]
  refine exists_congr fun u => ?_
  -- what follows is the same for both sources of the columns on the other side
  extract_lets check
  have hCheck (columns : List String) : check columns = .ok k ↔
      (∀ column ∈ columns, column ∈ u.columnNames) ∧ columns.length = f.columns.length ∧
        k = ⟨t.name ++ "_" ++ f.name, relation, f.columns, u.name, columns⟩ := by
    dsimp only [check]
    split
    · next column hSome =>
      -- a column was found that the other table does not have
      have hMissing : ¬ ∀ column ∈ columns, column ∈ u.columnNames := fun hAll => by
        simpa [hAll column (List.mem_of_find?_eq_some hSome)] using List.find?_some hSome
      exact ⟨fun h => (by cases h), fun h => absurd h.1 hMissing⟩
    · next hNone =>
      have hFound : ∀ column ∈ columns, column ∈ u.columnNames := by simpa using hNone
      -- all columns are there; their number decides the rest
      by_cases hLength : columns.length = f.columns.length
      · rw [if_neg (by simpa using hLength)]
        exact ⟨fun h => ⟨hFound, hLength, (Except.ok.inj h).symm⟩, fun h => congrArg _ h.2.2.symm⟩
      · rw [if_pos (by simpa using hLength)]
        exact ⟨fun h => (by cases h), fun h => absurd h.2.1 hLength⟩
  -- it is left to say where the columns come from
  rw [exists_and_left]
  refine and_congr_right fun _ => ?_
  simp only [← hCheck]
  -- from the identity of the class, or from the field itself
  by_cases hMany : f.manyKey = []
  · rw [if_pos (List.isEmpty_iff.2 hMany)]
    simp only [if_pos hMany, bind_eq_ok_iff, mapError_eq_ok_iff]
  · rw [if_neg (by simpa using hMany)]
    simp only [if_neg hMany, exists_eq_left]
    rfl

/-- The same, where it does not matter which of the tables that are there the key goes to. -/
theorem foreignKey_eq_ok {built : List Table} {t : Table} {c r : ClassMapping} {f : FieldMapping}
    {relation : Relation} {k : ForeignKey}
    (h : b.foreignKey built t c f r relation = .ok k) :
    ∃ u ∈ t :: built, ∃ columns, r.mappedTable = some u.name ∧
      (if f.manyKey = [] then b.document.identityColumns r = .ok columns
        else columns = f.manyKey) ∧
      (∀ column ∈ columns, column ∈ u.columnNames) ∧ columns.length = f.columns.length ∧
      k = ⟨t.name ++ "_" ++ f.name, relation, f.columns, u.name, columns⟩ := by
  obtain ⟨u, columns, hTable, hKey⟩ := foreignKey_eq_ok_iff.1 h
  obtain ⟨hMem, hMapped⟩ := referenceTable_eq_ok hTable
  exact ⟨u, hMem, columns, hMapped, hKey⟩

/-- A foreign key is known from its field and the name of its table. The tables that are there only
decide whether there is one. -/
theorem foreignKey_unique {built built' : List Table} {t t' : Table} {c r : ClassMapping}
    {f : FieldMapping} {relation : Relation} {k k' : ForeignKey} (hName : t'.name = t.name)
    (h : b.foreignKey built t c f r relation = .ok k)
    (h' : b.foreignKey built' t' c f r relation = .ok k') : k' = k := by
  -- both keys were made in the same way
  obtain ⟨u, -, columns, hMapped, hKey, -, -, rfl⟩ := foreignKey_eq_ok h
  obtain ⟨u', -, columns', hMapped', hKey', -, -, rfl⟩ := foreignKey_eq_ok h'
  have hTable : u'.name = u.name := Option.some.inj (hMapped'.symm.trans hMapped)
  -- on the same columns: those of the class, or those that are named
  have hColumns : columns' = columns := by
    by_cases hMany : f.manyKey = []
    · rw [if_pos hMany] at hKey hKey'
      exact Except.ok.inj (hKey'.symm.trans hKey)
    · rw [if_neg hMany] at hKey hKey'
      exact hKey'.trans hKey.symm
  rw [hName, hTable, hColumns]

section References

variable {built : List Table} {relation : Relation} {t t' : Table} {f : FieldMapping}
  {fs fs' : List FieldMapping} {k : ForeignKey} {ks ks' : List ForeignKey}

/-- The columns of a reference are columns of its table. -/
theorem Reference.mem_columnNames {r : ClassMapping} {k : ForeignKey}
    (h : b.Reference relation t f r k) {column : String} (hColumn : column ∈ f.columns) :
    column ∈ t.columnNames := by
  obtain ⟨types, -, hEq⟩ := h.types
  have hMem : t.columnType? column ∈ types.map some := hEq ▸ List.mem_map_of_mem hColumn
  obtain ⟨type, -, hType⟩ := List.mem_map.1 hMem
  exact Table.isSome_columnType?_iff.1 (hType ▸ rfl)

/-- A reference is to the class that the document finds under the type of the field. -/
theorem Reference.class?_eq_some {r : ClassMapping} (h : b.Reference relation t f r k) :
    b.document.class? f.type = some r := by
  obtain ⟨types, hTypes, -⟩ := h.types
  exact hTypes.class?_eq_some

/-- A reference stands for the same field after its table has grown. -/
theorem Reference.of_grows {r : ClassMapping} {k : ForeignKey} (h : b.Reference relation t f r k)
    (hGrow : t.Grows built t') : b.Reference relation t' f r k where
  name := hGrow.name_eq ▸ h.name
  relation := h.relation
  columns := h.columns
  types := by
    -- the columns that it is about have not changed their types
    obtain ⟨types, hTypes, hEq⟩ := h.types
    refine ⟨types, hTypes, hEq ▸ List.map_congr_left fun column hColumn => ?_⟩
    exact hGrow.columnType?_eq (h.mem_columnNames hColumn)
  table := h.table
  key := h.key

/-- The foreign keys `ks` of table `t` are those of the fields that refer to a class, one for each
of them, in order. -/
inductive Refers (b : Blueprint) (relation : Relation) (t : Table) :
    List FieldMapping → List ForeignKey → Prop
  | nil : Refers b relation t [] []
  | plain {f : FieldMapping} {ft : FieldTypes} {fs : List FieldMapping} {ks : List ForeignKey}
      (hTypes : b.HasTypes f ft) (hPlain : ft.referenced = none)
      (hRest : Refers b relation t fs ks) : Refers b relation t (f :: fs) ks
  | reference {f : FieldMapping} {r : ClassMapping} {k : ForeignKey} {fs : List FieldMapping}
      {ks : List ForeignKey} (hKey : b.Reference relation t f r k)
      (hRest : Refers b relation t fs ks) : Refers b relation t (f :: fs) (k :: ks)

/-- Foreign keys stand for fields in two parts as well. -/
theorem Refers.append (h : b.Refers relation t fs ks) (h' : b.Refers relation t fs' ks') :
    b.Refers relation t (fs ++ fs') (ks ++ ks') := by
  induction h with
  | nil => exact h'
  | plain hTypes hPlain _ ih => exact .plain hTypes hPlain ih
  | reference hKey _ ih => exact .reference hKey ih

/-- They stand for the same fields while the table grows. -/
theorem Refers.of_grows (h : b.Refers relation t fs ks) (hGrow : t.Grows built t') :
    b.Refers relation t' fs ks := by
  induction h with
  | nil => exact .nil
  | plain hTypes hPlain _ ih => exact .plain hTypes hPlain ih
  | reference hKey _ ih => exact .reference (hKey.of_grows hGrow) ih

/-- Each foreign key stands for a field that refers to a class. -/
theorem Refers.exists_field (h : b.Refers relation t fs ks) (hk : k ∈ ks) :
    ∃ f ∈ fs, ∃ r, b.Reference relation t f r k := by
  induction h with
  | nil => cases hk
  -- a field that refers to nothing has none of the keys
  | plain _ _ _ ih =>
    obtain ⟨f, hf, hReference⟩ := ih hk
    exact ⟨f, List.mem_cons_of_mem _ hf, hReference⟩
  -- a reference has the first key, and the others belong to the rest
  | @reference f r k' _ _ hKey _ ih =>
    rcases List.mem_cons.1 hk with rfl | hRest
    · exact ⟨f, List.mem_cons_self, r, hKey⟩
    · obtain ⟨f', hf', hReference⟩ := ih hRest
      exact ⟨f', List.mem_cons_of_mem _ hf', hReference⟩

/-- Each field that refers to a class has a foreign key that stands for it. -/
theorem Refers.exists_key (h : b.Refers relation t fs ks) (hf : f ∈ fs)
    (hSqlType : given f.sqlType = none) {r : ClassMapping}
    (hClass : b.document.class? f.type = some r) : ∃ k ∈ ks, b.Reference relation t f r k := by
  induction h with
  | nil => cases hf
  | @plain f' ft _ _ hTypes hPlain _ ih =>
    -- the field would refer to the class, and then it would have a key
    rcases List.mem_cons.1 hf with rfl | hRest
    · cases hPlain.symm.trans (hTypes.referenced_eq_some hSqlType hClass)
    · exact ih hRest
  | @reference f' r' k _ _ hKey _ ih =>
    -- the key is the one of this field, or of one behind it
    rcases List.mem_cons.1 hf with rfl | hRest
    · cases hKey.class?_eq_some.symm.trans hClass
      exact ⟨k, List.mem_cons_self, hKey⟩
    · obtain ⟨k', hk', hReference⟩ := ih hRest
      exact ⟨k', List.mem_cons_of_mem _ hk', hReference⟩

/-- Where all fields refer to classes, the foreign keys have the columns of the fields, in order. -/
theorem Refers.flatMap_columns (h : b.Refers relation t fs ks)
    (hAll : ∀ f ∈ fs, given f.sqlType = none ∧ ∃ r, b.document.class? f.type = some r) :
    ks.flatMap (·.columns) = fs.flatMap (·.columns) := by
  induction h with
  | nil => rfl
  | @plain f ft _ _ hTypes hPlain _ _ =>
    obtain ⟨hSqlType, r, hClass⟩ := hAll f List.mem_cons_self
    cases hPlain.symm.trans (hTypes.referenced_eq_some hSqlType hClass)
  | reference hKey _ ih =>
    rw [List.flatMap_cons, List.flatMap_cons, hKey.columns,
      ih fun f hf => hAll f (List.mem_cons_of_mem _ hf)]

end References

/-! ## Fields -/

/-- What the fields done so far have made of the table `start` of class `c`. -/
structure Contributed (b : Blueprint) (built : List Table) (relation : Relation)
    (c : ClassMapping) (g : Option KeyGenerator) (start : Table) (done : List FieldMapping)
    (t : Table) : Prop where
  grows      : start.Grows built t
  keyed      : t.Keyed
  inOrder    : t.KeyInOrder
  lays       : ∃ cs, b.Lays c.isIdentity g done cs ∧ t.columns = start.columns ++ cs
  keys       : b.Refers relation t done t.foreignKeys
  indexes    : t.indexes = start.indexes

section Fields

variable {built : List Table} {relation : Relation} {c : ClassMapping} {g : Option KeyGenerator}
  {start t t' : Table} {f : FieldMapping} {done : List FieldMapping}

/-- A field is added if its types are known and its columns come in; a reference takes a foreign key
as well. -/
theorem addField_eq_ok_iff :
    (b.addField built relation c g t f).outcome = .ok t' ↔ ∃ ft u, b.HasTypes f ft ∧
      addColumns t f (c.isIdentity f) (if ft.referenced.isNone then g else none)
        (f.columns.zip ft.types) = .ok u ∧
      (ft.referenced = none ∧ t' = u ∨
        ∃ r k, ft.referenced = some r ∧ b.foreignKey built u c f r relation = .ok k ∧
          t' = u.addForeignKey k) := by
  -- the types, then the columns, then the foreign key, as they are asked for
  rw [addField, Traced.outcome_bind_eq_ok_iff]
  refine exists_congr fun ft => ?_
  rw [fieldTypes_eq_ok_iff, exists_and_left]
  refine and_congr_right fun _ => ?_
  rw [Traced.outcome_bind_eq_ok_iff]
  refine exists_congr fun u => ?_
  rw [Traced.outcome_ofExcept, mapError_eq_ok_iff]
  refine and_congr_right fun _ => ?_
  cases ft.referenced with
  | none => simp [eq_comm]
  | some r => simp [Traced.outcome_bind_eq_ok_iff, eq_comm (a := t')]

/-- The foreign key made after the columns of its field fits, and stands for the field. -/
theorem fits_and_reference_of_foreignKey {r : ClassMapping} {ft : FieldTypes} {k : ForeignKey}
    (hKeyed : t.Keyed) (hStored : f.hasColumns = true) (hTypes : b.HasTypes f ft)
    (hReferenced : ft.referenced = some r)
    (hColumns : ∀ column ∈ ft.columns f (c.isIdentity f) g, column ∈ t.columns)
    (hDistinct : f.columns.Nodup) (h : b.foreignKey built t c f r relation = .ok k) :
    k.Fits built t ∧ b.Reference relation t f r k := by
  obtain ⟨u, hTarget, columns, hMapped, hKey, hFound, hLength, rfl⟩ := foreignKey_eq_ok h
  -- the new columns have the types that were asked for, each under its name
  have hTyped : f.columns.map t.columnType? = ft.types.map some := by
    have := Table.map_columnType? hKeyed.nodupNames hColumns
    rwa [hTypes.columnNames, hTypes.columnTypes] at this
  have hReference : b.Reference relation t f r
      ⟨t.name ++ "_" ++ f.name, relation, f.columns, u.name, columns⟩ :=
    ⟨rfl, rfl, rfl, ⟨ft.types, hReferenced ▸ hTypes, hTyped⟩, hMapped, hKey⟩
  refine ⟨⟨?_, hLength.symm, hDistinct, fun _ => hReference.mem_columnNames, ?_⟩, hReference⟩
  · simpa [FieldMapping.hasColumns] using hStored
  · exact ⟨u, hTarget, rfl, hFound⟩

/-- The empty table is what no fields have made of it. -/
theorem contributed_nil (built : List Table) (relation : Relation) (c : ClassMapping)
    (g : Option KeyGenerator) (name : String) :
    b.Contributed built relation c g ({ name } : Table).withPrimaryKey []
      { ({ name } : Table).withPrimaryKey with keyGenerator := g } := by
  refine ⟨.single (.columns (.keyGenerator g)), ?_, rfl, ⟨[], .nil, rfl⟩, .nil, rfl⟩
  exact (Table.keyed_withPrimaryKey name).of_columnStep (.keyGenerator g)

/-- A stored field contributes its columns and, where it refers to a class, a foreign key. -/
theorem Contributed.of_addField (hStored : f.hasColumns = true)
    (hDone : b.Contributed built relation c g start done t)
    (h : (b.addField built relation c g t f).outcome = .ok t') :
    b.Contributed built relation c g start (done ++ [f]) t' := by
  obtain ⟨ft, u, hTypes, hAdd, hRest⟩ := addField_eq_ok_iff.1 h
  obtain ⟨hGrow, hColumns⟩ := addColumns_eq_ok hAdd
  have hGrows : t.Grows built u := hGrow.grows
  have hKeyed : u.Keyed := hDone.keyed.of_grows hGrows
  have hOrder : u.KeyInOrder := keyInOrder_of_addColumns hAdd hDone.keyed hDone.inOrder
  -- its columns go behind those that were laid before
  have hLays : ∃ cs, b.Lays c.isIdentity g (done ++ [f]) cs ∧ u.columns = start.columns ++ cs := by
    obtain ⟨cs, hLays, hStart⟩ := hDone.lays
    refine ⟨_, hLays.append (.singleton hTypes), ?_⟩
    rw [hColumns, hStart, List.append_assoc]
    rfl
  have hIndexes : u.indexes = start.indexes := hGrow.foreignKeys_eq.2.trans hDone.indexes
  -- the columns come first; the foreign keys so far stand for their fields as before
  have hKeys : b.Refers relation u done u.foreignKeys :=
    hGrow.foreignKeys_eq.1 ▸ hDone.keys.of_grows hGrows
  rcases hRest with ⟨hPlain, rfl⟩ | ⟨r, k, hReferenced, hKey, rfl⟩
  -- a field that refers to nothing is done
  · refine ⟨hDone.grows.trans hGrows, hKeyed, hOrder, hLays, ?_, hIndexes⟩
    have hLast := hKeys.append (.plain hTypes hPlain .nil)
    rwa [List.append_nil] at hLast
  · -- then the foreign key, on the columns that were added last
    have hNew : ∀ column ∈ ft.columns f (c.isIdentity f) g, column ∈ u.columns := by
      intro column hColumn
      rw [hColumns]
      exact List.mem_append_right _ hColumn
    have hDistinct : f.columns.Nodup := by
      have hSub : f.columns.Sublist u.columnNames := by
        rw [← hTypes.columnNames (c.isIdentity f) g, Table.columnNames, hColumns, List.map_append]
        exact List.sublist_append_right _ _
      exact hSub.nodup hKeyed.nodupNames
    obtain ⟨hFits, hReference⟩ := fits_and_reference_of_foreignKey hKeyed hStored hTypes
      hReferenced hNew hDistinct hKey
    have hStep : u.Grows built (u.addForeignKey k) := .single (.foreignKey hFits)
    refine ⟨hDone.grows.trans (hGrows.trans hStep), hKeyed.of_grows hStep, hOrder, hLays, ?_,
      hIndexes⟩
    exact (hKeys.of_grows hStep).append (.reference (hReference.of_grows hStep) .nil)

/-- The three ways a field is treated: a many-to-many relation goes to its junction, a field with
columns to the table, and any other field nowhere. -/
theorem addFields_cons_eq_ok_iff {js js' : List ClassMapping} {rest : List FieldMapping} :
    (b.addFields built relation c g t js (f :: rest)).outcome = .ok (t', js') ↔
      (f.isManyToMany = true ∧ ∃ queued, (b.addRelation js c t.name f).outcome = .ok queued ∧
        (b.addFields built relation c g t queued rest).outcome = .ok (t', js')) ∨
      (f.isStored = true ∧ ∃ u, (b.addField built relation c g t f).outcome = .ok u ∧
        (b.addFields built relation c g u js rest).outcome = .ok (t', js')) ∨
      (f.isManyToMany = false ∧ f.hasColumns = false ∧
        (b.addFields built relation c g t js rest).outcome = .ok (t', js')) := by
  -- each way leads to one of the three, and the other conditions exclude it
  rw [addFields]
  cases hMany : f.isManyToMany with
  | true => simp [Traced.outcome_bind_eq_ok_iff, FieldMapping.isStored, hMany]
  | false =>
    cases hColumns : f.hasColumns with
    | true => simp [Traced.outcome_bind_eq_ok_iff, FieldMapping.isStored, hMany, hColumns]
    | false => simp [FieldMapping.isStored, hColumns]

/-- The fields of a list in two parts are added part by part. -/
theorem addFields_append_eq_ok_iff {js js' : List ClassMapping} {fs fs' : List FieldMapping} :
    (b.addFields built relation c g t js (fs ++ fs')).outcome = .ok (t', js') ↔
      ∃ u queued, (b.addFields built relation c g t js fs).outcome = .ok (u, queued) ∧
        (b.addFields built relation c g u queued fs').outcome = .ok (t', js') := by
  -- on the first part; the second one starts with the table and the queue that it leaves
  induction fs generalizing t js with
  | nil => simp [addFields]
  | cons f rest ih =>
    rw [List.cons_append, addFields_cons_eq_ok_iff]
    simp only [addFields_cons_eq_ok_iff, ih]
    constructor
    -- what the first field does is the same, and the rest is split by the hypothesis
    · rintro (⟨hMany, queued, hRelation, u, js₁, hRest, hMore⟩ |
        ⟨hStored, v, hField, u, js₁, hRest, hMore⟩ | ⟨hMany, hNone, u, js₁, hRest, hMore⟩)
      · exact ⟨u, js₁, Or.inl ⟨hMany, queued, hRelation, hRest⟩, hMore⟩
      · exact ⟨u, js₁, Or.inr (Or.inl ⟨hStored, v, hField, hRest⟩), hMore⟩
      · exact ⟨u, js₁, Or.inr (Or.inr ⟨hMany, hNone, hRest⟩), hMore⟩
    · rintro ⟨u, js₁, ⟨hMany, queued, hRelation, hRest⟩ | ⟨hStored, v, hField, hRest⟩ |
        ⟨hMany, hNone, hRest⟩, hMore⟩
      · exact Or.inl ⟨hMany, queued, hRelation, u, js₁, hRest, hMore⟩
      · exact Or.inr (Or.inl ⟨hStored, v, hField, u, js₁, hRest, hMore⟩)
      · exact Or.inr (Or.inr ⟨hMany, hNone, u, js₁, hRest, hMore⟩)

/-- The stored fields of a class contribute one after the other. -/
theorem Contributed.of_addFields {js js' : List ClassMapping} {fs : List FieldMapping}
    (hDone : b.Contributed built relation c g start done t)
    (h : (b.addFields built relation c g t js fs).outcome = .ok (t', js')) :
    b.Contributed built relation c g start (done ++ fs.filter (·.isStored)) t' := by
  -- on the fields, with those that have contributed so far
  induction fs generalizing t js done with
  | nil =>
    cases h
    rw [List.filter_nil, List.append_nil]
    exact hDone
  | cons f rest ih =>
    rw [List.filter_cons]
    rcases addFields_cons_eq_ok_iff.1 h with
      ⟨hMany, queued, -, hRest⟩ | ⟨hStored, u, hField, hRest⟩ | ⟨-, hNoColumns, hRest⟩
    -- a relation puts nothing into the table
    · rw [if_neg (by simp [FieldMapping.isStored, hMany])]
      exact ih hDone hRest
    -- a stored field contributes, and so does the rest after it
    · have hColumns : f.hasColumns = true := by
        simp only [FieldMapping.isStored, Bool.and_eq_true] at hStored
        exact hStored.1
      have hNext := ih (hDone.of_addField hColumns hField) hRest
      rw [if_pos hStored]
      rwa [List.append_assoc] at hNext
    -- a field without columns puts nothing into it either
    · rw [if_neg (by simp [FieldMapping.isStored, hNoColumns])]
      exact ih hDone hRest

end Fields

/-! ## Inherited identity -/

section Inheritance

variable {t t' : Table} {c parent : ClassMapping} {g : Option KeyGenerator}

/-- Promoting columns that are there takes one step for each of them. -/
theorem columnsGrow_promote {columns : List String}
    (h : ∀ column ∈ columns, column ∈ t.columnNames) :
    t.ColumnsGrow
      (columns.foldl (fun t column => (t.setIdentity column true).addKeyColumn column) t) := by
  induction columns generalizing t with
  | nil => exact .refl
  | cons column rest ih =>
    refine .head (.promote (h column List.mem_cons_self)) (ih fun other hOther => ?_)
    rw [Table.columnNames_addKeyColumn, Table.columnNames_setIdentity]
    exact h other (List.mem_cons_of_mem _ hOther)

/-- A promotion takes steps on the columns of the table. -/
theorem columnsGrow_of_promote? {f : FieldMapping} {columns : List String}
    (h : promote? t c f = some (t', columns)) : t.ColumnsGrow t' := by
  unfold promote? at h
  split at h
  · cases h
  -- the class has a field of the name, all of whose columns are in the table
  · next f' hFind =>
    split at h
    · next hAll =>
      simp only [Bool.and_eq_true, List.all_eq_true, List.contains_iff_mem] at hAll
      cases h
      exact columnsGrow_promote hAll.2
    · cases h

/-- An inherited identity field is promoted where the class declares it again, or is added. -/
theorem inheritFields_cons_eq_ok_iff {f : FieldMapping} {rest : List FieldMapping} :
    (b.inheritFields c parent g t (f :: rest)).outcome = .ok t' ↔
      (∃ u columns, promote? t c f = some (u, columns) ∧
        (b.inheritFields c parent g u rest).outcome = .ok t') ∨
      (promote? t c f = none ∧ ∃ ft u, b.HasTypes f ft ∧
        addColumns t f true (if ft.referenced.isNone then g else none) (f.columns.zip ft.types) =
          .ok u ∧
        (b.inheritFields c parent g u rest).outcome = .ok t') := by
  rw [inheritFields]
  cases promote? t c f with
  -- the field is declared again
  | some p =>
    obtain ⟨u, columns⟩ := p
    dsimp only
    rw [outcome_debug_bind]
    simp
  -- it is not, and goes through the stages of a new one
  | none =>
    simp [Traced.outcome_bind_eq_ok_iff, fieldTypes_eq_ok_iff, mapError_eq_ok_iff,
      outcome_debug_bind]

/-- So do inherited fields, promoted or added. -/
theorem columnsGrow_of_inheritFields {fs : List FieldMapping}
    (h : (b.inheritFields c parent g t fs).outcome = .ok t') : t.ColumnsGrow t' := by
  induction fs generalizing t with
  | nil =>
    cases h
    exact .refl
  | cons f rest ih =>
    rcases inheritFields_cons_eq_ok_iff.1 h with
      ⟨u, columns, hPromote, hRest⟩ | ⟨-, ft, u, -, hAdd, hRest⟩
    -- promoted
    · exact (columnsGrow_of_promote? hPromote).trans (ih hRest)
    -- added
    · exact (addColumns_eq_ok hAdd).1.trans (ih hRest)

/-- Where the class declares none of the fields again, their columns are added in order. -/
theorem lays_of_inheritFields {fs : List FieldMapping} (hKeyed : t.Keyed) (hOrder : t.KeyInOrder)
    (hOnce : ∀ f ∈ fs, c.field? f.name = none)
    (h : (b.inheritFields c parent g t fs).outcome = .ok t') :
    t'.KeyInOrder ∧ ∃ cs, b.Lays (fun _ => true) g fs cs ∧ t'.columns = t.columns ++ cs := by
  induction fs generalizing t with
  | nil =>
    cases h
    exact ⟨hOrder, [], .nil, (List.append_nil _).symm⟩
  | cons f rest ih =>
    -- the class has no field of this name, so there is nothing to promote
    have hNone : promote? t c f = none := by
      rw [promote?, hOnce f List.mem_cons_self]
    rcases inheritFields_cons_eq_ok_iff.1 h with
      ⟨u, columns, hPromote, -⟩ | ⟨-, ft, u, hTypes, hAdd, hRest⟩
    · cases hNone.symm.trans hPromote
    -- its columns come behind those of the table, and the rest behind them
    · obtain ⟨hGrow, hColumns⟩ := addColumns_eq_ok hAdd
      obtain ⟨hOrder', cs, hLays, hRestColumns⟩ :=
        ih (hKeyed.of_columnsGrow hGrow) (keyInOrder_of_addColumns hAdd hKeyed hOrder)
          (fun f' hf' => hOnce f' (List.mem_cons_of_mem _ hf')) hRest
      refine ⟨hOrder', _, .cons hTypes hLays, ?_⟩
      rw [hRestColumns, hColumns, List.append_assoc]
      rfl

/-- One level of the merge: either the class has no identity of its own and gets that of its
parent, whose key generator comes in where it is known, or it has, and the walk ends there. -/
theorem inherit_step_eq_ok_iff {rest : Lineage} :
    (b.inherit t (.step c rest)).outcome = .ok t' ↔
      (c.ownIdentityColumns = [] ∧ ∃ u,
        (b.inheritFields c rest.head ((b.registry.get? rest.head.keyGenerator).or t.keyGenerator)
          { t with keyGenerator := (b.registry.get? rest.head.keyGenerator).or t.keyGenerator }
          rest.head.identityFields).outcome = .ok u ∧ (b.inherit u rest).outcome = .ok t') ∨
      (c.ownIdentityColumns ≠ [] ∧ b.checkIdentity c rest.head = .ok () ∧ t' = t) := by
  rw [inherit]
  dsimp only
  by_cases hOwn : c.ownIdentityColumns = []
  · rw [if_pos (List.isEmpty_iff.2 hOwn), Traced.outcome_bind_eq_ok_iff]
    -- a key generator of the parent replaces that of the table
    cases b.registry.get? rest.head.keyGenerator with
    | none => simp [hOwn]
    | some gen => simp [hOwn]
  · rw [if_neg (by simpa using hOwn), Traced.outcome_bind_eq_ok_iff]
    constructor
    · rintro ⟨⟨⟩, hCheck, hSame⟩
      exact Or.inr ⟨hOwn, hCheck, (Except.ok.inj hSame).symm⟩
    -- on the lineage, with the table that the level below leaves
    · rintro (⟨hNone, -⟩ | ⟨-, hCheck, rfl⟩)
      · exact absurd hNone hOwn
      · exact ⟨(), hCheck, rfl⟩

/-- The same, where it does not matter which key generator the table gets. -/
theorem inherit_step_eq_ok {rest : Lineage}
    (h : (b.inherit t (.step c rest)).outcome = .ok t') :
    (c.ownIdentityColumns = [] ∧ ∃ g u, (b.inheritFields c rest.head g { t with keyGenerator := g }
          rest.head.identityFields).outcome = .ok u ∧ (b.inherit u rest).outcome = .ok t') ∨
      (c.ownIdentityColumns ≠ [] ∧ b.checkIdentity c rest.head = .ok () ∧ t' = t) :=
  (inherit_step_eq_ok_iff.1 h).imp_left fun ⟨hOwn, u, hFields, hRest⟩ =>
    ⟨hOwn, _, u, hFields, hRest⟩

/-- Merging the inherited identity takes steps on columns only. -/
theorem columnsGrow_of_inherit {l : Lineage} (h : (b.inherit t l).outcome = .ok t') :
    t.ColumnsGrow t' := by
  induction l generalizing t with
  | root =>
    cases h
    exact .refl
  | unknownParent => cases h
  | cycle => cases h
  | step c rest ih =>
    -- where anything is merged, the table takes the generator of the parent first
    rcases inherit_step_eq_ok h with ⟨-, g, u, hFields, hRest⟩ | ⟨-, -, rfl⟩
    · exact .head (.keyGenerator g) ((columnsGrow_of_inheritFields hFields).trans (ih hRest))
    · exact .refl

end Inheritance

/-! ## Indexes -/

end Blueprint

/-- The index that a table of a given name gets for a declared one. -/
def IndexDef.index (i : IndexDef) (table : String) : Index :=
  ⟨(given i.name).getD (indexName table i.columns i.unique), i.unique, i.columns⟩

namespace Blueprint

variable {b : Blueprint}

/-- Adding indexes puts one for each declaration at the end, and changes nothing else. -/
theorem addIndexes_eq_ok (built : List Table) {t t' : Table} {is : List IndexDef}
    (h : addIndexes t is = .ok t') :
    t.Grows built t' ∧ t' = { t with indexes := t.indexes ++ is.map (·.index t.name) } := by
  induction is generalizing t with
  | nil =>
    cases h
    exact ⟨.refl, by simp⟩
  | cons i rest ih =>
    rw [addIndexes] at h
    split at h
    · cases h
    -- all columns of the index are there, or it would have failed
    · next hNone =>
      have hColumns : ∀ column ∈ i.columns, column ∈ t.columnNames := by simpa using hNone
      obtain ⟨hGrow, hEq⟩ := ih h
      have hStep : t.Step built (t.addIndex (i.index t.name)) := .index hColumns
      refine ⟨.head hStep hGrow, ?_⟩
      rw [hEq]
      simp [Table.addIndex, IndexDef.index]

/-! ## Tables -/

section Tables

variable {built : List Table} {relation : Relation} {c : ClassMapping} {name : String}
  {js js' : List ClassMapping} {t : Table}

/-- The key generator of a class is the one that the registry has under its name, if any. -/
theorem outcome_keyGenerator (b : Blueprint) (c : ClassMapping) :
    (b.keyGenerator c).outcome = .ok (b.registry.get? c.keyGenerator) := by
  unfold keyGenerator
  split
  -- none is asked for
  · next hNone => simp [KeyGeneratorRegistry.get?, hNone]
  · next name hGiven =>
    -- a name that is given is asked for again as it is
    have hName : b.registry.get? (some name) = b.registry.get? c.keyGenerator := by
      rw [(given_eq_some_iff.1 hGiven).1]
    rw [← hName]
    split
    -- a known one is taken, an unknown one gives a warning and nothing else
    · next g hKnown => simp [hKnown]
    · next hUnknown =>
      rw [hUnknown]
      exact Traced.outcome_bind_eq_ok_iff.2 ⟨(), rfl, rfl⟩

/-- The stages of a table: the key generator, the columns and foreign keys of its class, the
inherited identity, the indexes. A class without fields has an empty table, whatever it extends. -/
theorem table_eq_ok_iff :
    (b.table built relation c name js).outcome = .ok (t, js') ↔
      (c.fields = [] ∧ t = ({ name } : Table).withPrimaryKey ∧ js' = js) ∨
      (c.fields ≠ [] ∧ ∃ g u w, (b.keyGenerator c).outcome = .ok g ∧
        (b.addFields built relation c g { ({ name } : Table).withPrimaryKey with keyGenerator := g }
          js c.fields).outcome = .ok (u, js') ∧
        (b.inherit u (b.document.lineage c)).outcome = .ok w ∧
        addIndexes w c.indexes = .ok t) := by
  rw [table, Traced.outcome_inContext]
  dsimp only
  -- a class without fields stops before anything is asked for
  by_cases hFields : c.fields = []
  · rw [if_pos (List.isEmpty_iff.2 hFields), outcome_debug_bind]
    simp [hFields, eq_comm]
  · rw [if_neg (by simpa using hFields)]
    simp only [Traced.outcome_bind_eq_ok_iff, Traced.outcome_ofExcept, outcome_debug_bind]
    constructor
    -- the stages are those of the equation, one after the other
    · rintro ⟨g, hGenerator, ⟨u, queued⟩, hAdded, w, hInherit, t', hIndexes, hSame⟩
      cases hSame
      exact Or.inr ⟨hFields, g, u, w, hGenerator, hAdded, hInherit, hIndexes⟩
    · rintro (⟨hNone, -⟩ | ⟨-, g, u, w, hGenerator, hAdded, hInherit, hIndexes⟩)
      · exact absurd hNone hFields
      · exact ⟨g, hGenerator, (u, js'), hAdded, w, hInherit, t, hIndexes, rfl⟩

/-- The same, with what the fields of the class contribute before anything is inherited. -/
theorem stages_of_table (h : (b.table built relation c name js).outcome = .ok (t, js')) :
    (c.fields = [] ∧ t = ({ name } : Table).withPrimaryKey) ∨
      (c.fields ≠ [] ∧ ∃ g u w,
        b.Contributed built relation c g ({ name } : Table).withPrimaryKey
          (c.fields.filter (·.isStored)) u ∧
        (b.inherit u (b.document.lineage c)).outcome = .ok w ∧ addIndexes w c.indexes = .ok t) := by
  rcases table_eq_ok_iff.1 h with
    ⟨hEmpty, hTable, -⟩ | ⟨hFields, g, u, w, -, hAdded, hInherit, hIndexes⟩
  · exact Or.inl ⟨hEmpty, hTable⟩
  · exact Or.inr ⟨hFields, g, u, w, (contributed_nil built relation c g name).of_addFields hAdded,
      hInherit, hIndexes⟩

/-- The same for a class that has fields. -/
theorem contributed_of_table (h : (b.table built relation c name js).outcome = .ok (t, js'))
    (hFields : c.fields ≠ []) :
    ∃ g u w, b.Contributed built relation c g ({ name } : Table).withPrimaryKey
        (c.fields.filter (·.isStored)) u ∧
      (b.inherit u (b.document.lineage c)).outcome = .ok w ∧ addIndexes w c.indexes = .ok t := by
  rcases stages_of_table h with ⟨hEmpty, -⟩ | ⟨-, hStages⟩
  · exact absurd hEmpty hFields
  · exact hStages

/-- Every table is built in steps from the empty table of its name. -/
theorem grows_of_table (h : (b.table built relation c name js).outcome = .ok (t, js')) :
    ({ name } : Table).withPrimaryKey.Grows built t := by
  rcases stages_of_table h with ⟨-, rfl⟩ | ⟨-, g, u, w, hContributed, hInherit, hIndexes⟩
  · exact .refl
  · have hMerged : u.Grows built w := (columnsGrow_of_inherit hInherit).grows
    exact (hContributed.grows.trans hMerged).trans (addIndexes_eq_ok built hIndexes).1

/-- Every table is keyed, -/
theorem keyed_of_table (h : (b.table built relation c name js).outcome = .ok (t, js')) :
    t.Keyed :=
  (Table.keyed_withPrimaryKey name).of_grows (grows_of_table h)

/-- and refers to tables before it and to itself only. -/
theorem closed_of_table (h : (b.table built relation c name js).outcome = .ok (t, js')) :
    t.Closed built :=
  (Table.closed_withPrimaryKey built name).of_grows (grows_of_table h)

/-- The foreign keys of a table are those of the stored fields of its class, in order. -/
theorem refers_of_table (h : (b.table built relation c name js).outcome = .ok (t, js')) :
    b.Refers relation t (c.fields.filter (·.isStored)) t.foreignKeys := by
  rcases stages_of_table h with ⟨hEmpty, rfl⟩ | ⟨-, g, u, w, hContributed, hInherit, hIndexes⟩
  · rw [hEmpty]
    exact .nil
  · have hMerge := columnsGrow_of_inherit hInherit
    obtain ⟨hGrow, hEq⟩ := addIndexes_eq_ok built hIndexes
    -- neither the merge nor the indexes bring in a foreign key
    have hKept : t.foreignKeys = u.foreignKeys := by
      rw [hEq]
      exact hMerge.foreignKeys_eq.1
    rw [hKept]
    exact hContributed.keys.of_grows (hMerge.grows.trans hGrow)

/-- Every foreign key of a table stands for a stored field of its class. -/
theorem references_of_table (h : (b.table built relation c name js).outcome = .ok (t, js'))
    {k : ForeignKey} (hk : k ∈ t.foreignKeys) :
    ∃ f ∈ c.fields, f.isStored = true ∧ ∃ r, b.Reference relation t f r k := by
  obtain ⟨f, hf, r, hReference⟩ := (refers_of_table h).exists_field hk
  obtain ⟨hMem, hStored⟩ := List.mem_filter.1 hf
  exact ⟨f, hMem, hStored, r, hReference⟩

/-- Only the table of a class with fields has columns. -/
theorem fields_ne_nil_of_mem_columnNames
    (h : (b.table built relation c name js).outcome = .ok (t, js')) {column : String}
    (hColumn : column ∈ t.columnNames) : c.fields ≠ [] := by
  rcases stages_of_table h with ⟨-, rfl⟩ | ⟨hFields, -⟩
  · cases hColumn
  · exact hFields

/-- Two stored fields of a class have no column in common. -/
theorem disjoint_columns_of_table (h : (b.table built relation c name js).outcome = .ok (t, js'))
    {f f' : FieldMapping} (hf : f ∈ c.fields) (hStored : f.isStored = true) (hf' : f' ∈ c.fields)
    (hStored' : f'.isStored = true) (hNe : f ≠ f') : List.Disjoint f.columns f'.columns := by
  obtain ⟨g, u, w, hContributed, -, -⟩ := contributed_of_table h (List.ne_nil_of_mem hf)
  obtain ⟨cs, hLays, hColumns⟩ := hContributed.lays
  have hNames : u.columnNames = (c.fields.filter (·.isStored)).flatMap (·.columns) := by
    rw [← hLays.columnNames, Table.columnNames, hColumns]
    rfl
  -- the columns of the fields stand one after the other, and column names are distinct
  have hNodup : ((c.fields.filter (·.isStored)).flatMap (·.columns)).Nodup :=
    hNames ▸ hContributed.keyed.nodupNames
  intro column hHere hThere
  exact hNe (eq_of_mem_flatMap hNodup (List.mem_filter.2 ⟨hf, hStored⟩)
    (List.mem_filter.2 ⟨hf', hStored'⟩) hHere hThere)

/-- No two stored fields of a class have the same columns. -/
theorem field_eq_of_table (h : (b.table built relation c name js).outcome = .ok (t, js'))
    {f f' : FieldMapping} (hf : f ∈ c.fields) (hStored : f.isStored = true) (hf' : f' ∈ c.fields)
    (hStored' : f'.isStored = true) (hSame : f.columns = f'.columns) : f = f' := by
  by_contra hNe
  have hApart := disjoint_columns_of_table h hf hStored hf' hStored' hNe
  obtain ⟨column, hColumn⟩ :=
    List.exists_mem_of_ne_nil _ (FieldMapping.columns_ne_nil_of_isStored hStored)
  exact hApart hColumn (hSame ▸ hColumn)

/-- The indexes of a table are the declared ones, in order; a class without fields has none. -/
theorem indexes_of_table (h : (b.table built relation c name js).outcome = .ok (t, js')) :
    t.indexes = if c.fields = [] then [] else c.indexes.map (·.index name) := by
  rcases stages_of_table h with ⟨hEmpty, rfl⟩ | ⟨hFields, g, u, w, hContributed, hInherit, hIndexes⟩
  · rw [if_pos hEmpty]
    rfl
  · have hMerge := columnsGrow_of_inherit hInherit
    have hName : w.name = name := hMerge.name_eq.trans hContributed.grows.name_eq
    have hNone : w.indexes = [] := hMerge.foreignKeys_eq.2.trans hContributed.indexes
    rw [if_neg hFields, (addIndexes_eq_ok built hIndexes).2, hNone, hName]
    rfl

end Tables

end Blueprint

end MappingDdl
