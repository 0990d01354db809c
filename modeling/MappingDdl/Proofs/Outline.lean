import MappingDdl.Proofs.Agreement

/-!
# Outlines — the part of a schema that the dialect has no say in

The outline of a schema is all of it but the types of columns and the key generators. Two builds of
one document, with different catalogs and registries, work on tables that differ, but whose outlines
are equal. Each function of the schema builder keeps it so. It asks the catalog for types and the
registry for generators, and both answers go where the outline does not show them. The one question
that counts is whether an SQL type is known, for a field with an unknown one may refer to a class.

Main results:

* `Blueprint.HasTypes.referenced_eq` — under both catalogs a field refers to the same class.
* `Blueprint.outline_of_addFields` — what fields make of two tables with equal outlines.
* `Blueprint.outline_of_table` — the tables of a class, and the junctions that it queues.
* `Schema.outline_eq_of_known` — two schemas of a document.
-/

namespace MappingDdl

/-! ## Outlines -/

/-- The column without its type and its key generator. -/
def Column.outline (c : Column) : Column :=
  { c with type := default, keyGenerator := none }

/-- The table without types and key generators. -/
def Table.outline (t : Table) : Table :=
  { t with columns := t.columns.map (·.outline), keyGenerator := none }

/-- The schema without types and key generators. -/
def Schema.outline (s : Schema) : Schema :=
  { s with tables := s.tables.map (·.outline) }

namespace Table

variable {t u : Table} {c : Column}

/-- An outline shows the name of the table, -/
@[simp] theorem name_outline : t.outline.name = t.name := rfl

/-- so tables with one outline have one name, -/
theorem name_eq_of_outline {t' : Table} (h : t'.outline = t.outline) : t'.name = t.name := by
  rw [← name_outline, h, name_outline]

/-- and it shows the names of the columns. -/
@[simp] theorem columnNames_outline : t.outline.columnNames = t.columnNames := by
  simp only [columnNames, outline, List.map_map]
  rfl

/-- To add a column to the key shows in the outline as such, -/
theorem outline_addKeyColumn (name : String) :
    (t.addKeyColumn name).outline = t.outline.addKeyColumn name := rfl

/-- and so does a column that becomes an identity column, -/
theorem outline_setIdentity (name : String) (identity : Bool) :
    (t.setIdentity name identity).outline = t.outline.setIdentity name identity := by
  simp only [outline, setIdentity, List.map_map]
  congr 1
  refine List.map_congr_left fun c _ => ?_
  show Column.outline (if c.name == name then { c with identity } else c) =
    if c.name == name then { c.outline with identity } else c.outline
  split <;> rfl

/-- or one that is added. -/
theorem outline_addColumn (h : t.addColumn c = .ok u) :
    t.outline.addColumn c.outline = .ok u.outline := by
  obtain ⟨hNew, rfl⟩ := addColumn_eq_ok_iff.1 h
  refine addColumn_eq_ok_iff.2 ⟨?_, ?_⟩
  · rw [columnNames_outline]
    exact hNew
  · simp only [outline, List.map_append, List.map_singleton]

end Table

/-- A table that is added shows its own outline. -/
theorem Schema.outline_addTable {s s' : Schema} {t : Table} (h : s.addTable t = .ok s') :
    s'.outline = { s.outline with tables := s.outline.tables ++ [t.outline] } := by
  unfold Schema.addTable at h
  split at h
  · cases h
  · cases h
    simp only [outline, List.map_append, List.map_singleton]

/-! ## Known types -/

/-- Whether a type expression names a column type. -/
def TypeCatalog.knows (c : TypeCatalog) (q : String) : Bool :=
  match c.get? q with
  | .ok (some _) => true
  | _ => false

/-- A catalog knows a name that has a type, -/
theorem TypeCatalog.knows_of_some {c : TypeCatalog} {q : String} {t : ColumnType}
    (h : c.get? q = .ok (some t)) : c.knows q = true := by
  rw [knows, h]

/-- and no other one. -/
theorem TypeCatalog.knows_of_none {c : TypeCatalog} {q : String} (h : c.get? q = .ok none) :
    c.knows q = false := by
  rw [knows, h]

/-- The SQL types that the fields of a document declare. -/
def Document.sqlTypes (d : Document) : List String :=
  d.classes.flatMap fun c => c.fields.filterMap fun f => given f.sqlType

/-- The SQL type of the field, if it declares one, is known to both catalogs or to neither. -/
def FieldMapping.KnownAlike (c c' : TypeCatalog) (f : FieldMapping) : Prop :=
  ∀ q, given f.sqlType = some q → c'.knows q = c.knows q

/-- Catalogs that know the same SQL types of a document know the same of each field. -/
theorem Document.knownAlike {d : Document} {catalog catalog' : TypeCatalog}
    (h : ∀ q ∈ d.sqlTypes, catalog'.knows q = catalog.knows q) :
    ∀ c ∈ d.classes, ∀ f ∈ c.fields, f.KnownAlike catalog catalog' := by
  intro c hc f hf q hGiven
  exact h q (List.mem_flatMap.2 ⟨c, hc, List.mem_filterMap.2 ⟨f, hf, hGiven⟩⟩)

namespace Blueprint

/-- The blueprint for another catalog and other key generators. -/
def under (b : Blueprint) (catalog' : TypeCatalog) (registry' : KeyGeneratorRegistry) : Blueprint :=
  { b with catalog := catalog', registry := registry' }

variable {b : Blueprint} {catalog' : TypeCatalog} {registry' : KeyGeneratorRegistry}

/-- A column type was known, -/
theorem knows_of_columnType? {q : String} {t : ColumnType} (h : b.columnType? q = .ok (some t)) :
    b.catalog.knows q = true :=
  TypeCatalog.knows_of_some (columnType?_eq_ok_iff.1 h)

/-- and what has none was not. -/
theorem knows_of_columnType?_none {q : String} (h : b.columnType? q = .ok none) :
    b.catalog.knows q = false :=
  TypeCatalog.knows_of_none (columnType?_eq_ok_iff.1 h)

/-- A field gets the types of its columns from its SQL type under both catalogs, or under neither,
and so it refers to the same class. -/
theorem HasTypes.referenced_eq {f : FieldMapping} {ft ft' : FieldTypes}
    (hKnown : f.KnownAlike b.catalog catalog') (h : b.HasTypes f ft)
    (h' : (b.under catalog' registry').HasTypes f ft') : ft'.referenced = ft.referenced := by
  -- an SQL type that one of them knows is not passed over by the other one
  have hApart {q : String} {t : ColumnType} (hGiven : given f.sqlType = some q)
      (hType : b.columnType? q = .ok (some t))
      (hNone : (b.under catalog' registry').columnType? q = .ok none) : False := by
    have hHere := knows_of_columnType? hType
    have hThere : catalog'.knows q = false := knows_of_columnType?_none hNone
    rw [hKnown q hGiven, hHere] at hThere
    cases hThere
  have hApart' {q : String} {t : ColumnType} (hGiven : given f.sqlType = some q)
      (hType : (b.under catalog' registry').columnType? q = .ok (some t))
      (hNone : b.columnType? q = .ok none) : False := by
    have hHere := knows_of_columnType?_none hNone
    have hThere : catalog'.knows q = true := knows_of_columnType? hType
    rw [hKnown q hGiven, hHere] at hThere
    cases hThere
  -- the types come from an SQL type, a reference or the declared type, and from the same under both
  cases h with
  -- an SQL type refers to nothing
  | sqlType hGiven hType =>
    cases h' with
    | sqlType => rfl
    | reference hNone => exact (hApart hGiven hType (hNone _ hGiven)).elim
    | declared => rfl
  -- a reference refers to the same class, as the document is the same
  | reference hNone hClass =>
    cases h' with
    | sqlType hGiven hType => exact (hApart' hGiven hType (hNone _ hGiven)).elim
    | reference _ hClass' => exact hClass'.symm.trans hClass
    | declared _ hClass' => cases hClass'.symm.trans hClass
  -- a declared type refers to nothing
  | declared _ hClass =>
    cases h' with
    | sqlType => rfl
    | reference _ hClass' => cases hClass'.symm.trans hClass
    | declared => rfl

/-! ## Columns -/

section Columns

variable {c parent : ClassMapping} {f : FieldMapping} {identity : Bool} {g g' : Option KeyGenerator}
  {t t' u u' : Table}

/-- Columns are added to an outline as they are to the table. -/
theorem outline_addColumns {ps : List (String × ColumnType)}
    (h : addColumns t f identity g ps = .ok u) :
    addColumns t.outline f identity none (ps.map fun p => (p.1, default)) = .ok u.outline := by
  -- on the columns, with the table that the first one leaves
  induction ps generalizing t with
  | nil =>
    cases h
    rfl
  | cons p rest ih =>
    -- the first column is added to both
    obtain ⟨v, hAdd, hRest⟩ := bind_eq_ok_iff.1 h
    have hKey : (if identity then v.addKeyColumn p.1 else v).outline =
        if identity then v.outline.addKeyColumn p.1 else v.outline := by
      split <;> rfl
    refine bind_eq_ok_iff.2 ⟨v.outline, Table.outline_addColumn hAdd, ?_⟩
    rw [← hKey]
    exact ih hRest

/-- What the columns of a field make of a table shows their names, but not their types. -/
theorem outline_of_addColumns {ft ft' : FieldTypes} (hSame : t'.outline = t.outline)
    (hTypes : b.HasTypes f ft) (hTypes' : (b.under catalog' registry').HasTypes f ft')
    (h : addColumns t f identity g (f.columns.zip ft.types) = .ok u)
    (h' : addColumns t' f identity g' (f.columns.zip ft'.types) = .ok u') :
    u'.outline = u.outline := by
  -- the types are forgotten, so only the names of the columns are left
  have hNames {types : List ColumnType} (hLength : types.length = f.columns.length) :
      (f.columns.zip types).map (fun p => (p.1, (default : ColumnType))) =
        f.columns.map fun name => (name, default) := by
    have hFirst : (f.columns.zip types).map (·.1) = f.columns :=
      List.map_fst_zip (Nat.le_of_eq hLength.symm)
    rw [← congrArg (List.map fun name => (name, (default : ColumnType))) hFirst, List.map_map]
    rfl
  have hOk := outline_addColumns h
  have hOk' := outline_addColumns h'
  rw [hNames hTypes.length_types] at hOk
  rw [hNames hTypes'.length_types, hSame] at hOk'
  exact Except.ok.inj (hOk'.symm.trans hOk)

/-- To promote columns shows in the outline as such. -/
theorem outline_promote {columns : List String} :
    (columns.foldl (fun t column => (t.setIdentity column true).addKeyColumn column) t).outline =
      columns.foldl (fun t column => (t.setIdentity column true).addKeyColumn column)
        t.outline := by
  induction columns generalizing t with
  | nil => rfl
  | cons column rest ih =>
    rw [List.foldl_cons, List.foldl_cons, ih, Table.outline_addKeyColumn,
      Table.outline_setIdentity]

/-- Whether the columns of a field are promoted can be seen from the outline. -/
theorem promote?_outline :
    promote? t.outline c f = (promote? t c f).map fun p => (p.1.outline, p.2) := by
  unfold promote?
  cases c.field? f.name with
  | none => rfl
  | some own =>
    simp only [Table.columnNames_outline]
    split
    · simp only [Option.map_some, outline_promote]
    · rfl

/-- A field makes equal outlines of equal outlines. -/
theorem outline_of_addField {built built' : List Table} {relation : Relation}
    (hKnown : f.KnownAlike b.catalog catalog') (hSame : t'.outline = t.outline)
    (h : (b.addField built relation c g t f).outcome = .ok u)
    (h' : ((b.under catalog' registry').addField built' relation c g' t' f).outcome = .ok u') :
    u'.outline = u.outline := by
  -- the field has been added under both
  obtain ⟨ft, v, hTypes, hAdd, hRest⟩ := addField_eq_ok_iff.1 h
  obtain ⟨ft', v', hTypes', hAdd', hRest'⟩ := addField_eq_ok_iff.1 h'
  have hColumns : v'.outline = v.outline :=
    outline_of_addColumns hSame hTypes hTypes' hAdd hAdd'
  have hReferenced := hTypes.referenced_eq hKnown hTypes'
  -- it refers to nothing under both
  rcases hRest with ⟨hNone, rfl⟩ | ⟨r, k, hSome, hKey, rfl⟩
  · rcases hRest' with ⟨-, rfl⟩ | ⟨r', k', hSome', -, -⟩
    · exact hColumns
    · cases hNone.symm.trans (hReferenced.symm.trans hSome')
  · rcases hRest' with ⟨hNone', -⟩ | ⟨r', k', hSome', hKey', rfl⟩
    · cases hNone'.symm.trans (hReferenced.trans hSome)
    · -- both tables have the same name, and so have their foreign keys
      have hClass : r' = r := Option.some.inj (hSome'.symm.trans (hReferenced.trans hSome))
      subst hClass
      have hName : v'.name = v.name := Table.name_eq_of_outline hColumns
      have hSameKey : k' = k := foreignKey_unique (b := b) hName hKey hKey'
      subst hSameKey
      exact congrArg (·.addForeignKey k') hColumns

/-- Fields make tables with equal outlines of tables with equal outlines, and queue the same
junctions. -/
theorem outline_of_addFields {built built' : List Table} {relation : Relation}
    {js js₁ js₁' : List ClassMapping} {fs : List FieldMapping}
    (hKnown : ∀ f ∈ fs, f.KnownAlike b.catalog catalog') (hSame : t'.outline = t.outline)
    (h : (b.addFields built relation c g t js fs).outcome = .ok (u, js₁))
    (h' : ((b.under catalog' registry').addFields built' relation c g' t' js fs).outcome =
      .ok (u', js₁')) :
    u'.outline = u.outline ∧ js₁' = js₁ := by
  -- on the fields, with the tables and the queue that the first one leaves
  induction fs generalizing t t' js with
  | nil =>
    cases h
    cases h'
    exact ⟨hSame, rfl⟩
  | cons f rest ih =>
    -- what is asked of the fields is asked of the rest
    have hRestKnown : ∀ f' ∈ rest, f'.KnownAlike b.catalog catalog' :=
      fun f' hf' => hKnown f' (List.mem_cons_of_mem _ hf')
    rw [addFields] at h h'
    by_cases hMany : f.isManyToMany = true
    · rw [if_pos hMany] at h h'
      obtain ⟨queue, hRelation, hRest⟩ := Traced.outcome_bind_eq_ok_iff.1 h
      obtain ⟨queue', hRelation', hRest'⟩ := Traced.outcome_bind_eq_ok_iff.1 h'
      -- a junction is made from the document and the name of the table
      have hQueue : queue' = queue := by
        rw [Table.name_eq_of_outline hSame] at hRelation'
        exact Except.ok.inj (hRelation'.symm.trans hRelation)
      subst hQueue
      exact ih hRestKnown hSame hRest hRest'
    · rw [if_neg hMany] at h h'
      -- a stored field, or one that is left out
      by_cases hColumns : f.hasColumns = true
      · rw [if_pos hColumns] at h h'
        obtain ⟨v, hField, hRest⟩ := Traced.outcome_bind_eq_ok_iff.1 h
        obtain ⟨v', hField', hRest'⟩ := Traced.outcome_bind_eq_ok_iff.1 h'
        have hStep : v'.outline = v.outline :=
          outline_of_addField (hKnown f List.mem_cons_self) hSame hField hField'
        exact ih hRestKnown hStep hRest hRest'
      · rw [if_neg hColumns] at h h'
        exact ih hRestKnown hSame h h'

/-! ## Inherited identity -/

/-- So do inherited fields, which are promoted under both or under neither. -/
theorem outline_of_inheritFields {fs : List FieldMapping} (hSame : t'.outline = t.outline)
    (h : (b.inheritFields c parent g t fs).outcome = .ok u)
    (h' : ((b.under catalog' registry').inheritFields c parent g' t' fs).outcome = .ok u') :
    u'.outline = u.outline := by
  induction fs generalizing t t' with
  | nil =>
    cases h
    cases h'
    exact hSame
  | cons f rest ih =>
    -- whether a field is promoted is told by the names of the columns
    have hPromoted : (promote? t' c f).map (fun p => (p.1.outline, p.2)) =
        (promote? t c f).map fun p => (p.1.outline, p.2) := by
      rw [← promote?_outline, ← promote?_outline, hSame]
    rcases inheritFields_cons_eq_ok_iff.1 h with
      ⟨v, columns, hPromote, hRest⟩ | ⟨hNone, ft, v, hTypes, hAdd, hRest⟩
    -- promoted under both
    · rcases inheritFields_cons_eq_ok_iff.1 h' with
        ⟨v', columns', hPromote', hRest'⟩ | ⟨hNone', -⟩
      · rw [hPromote, hPromote'] at hPromoted
        have hStep : v'.outline = v.outline := congrArg Prod.fst (Option.some.inj hPromoted)
        exact ih hStep hRest hRest'
      · rw [hPromote, hNone'] at hPromoted
        cases hPromoted
    -- added under both
    · rcases inheritFields_cons_eq_ok_iff.1 h' with
        ⟨v', columns', hPromote', hRest'⟩ | ⟨-, ft', v', hTypes', hAdd', hRest'⟩
      · rw [hNone, hPromote'] at hPromoted
        cases hPromoted
      · exact ih (outline_of_addColumns hSame hTypes hTypes' hAdd hAdd') hRest hRest'

/-- The merge of an inherited identity keeps outlines equal: which classes it takes columns from is
written in the lineage. -/
theorem outline_of_inherit {l : Lineage} (hSame : t'.outline = t.outline)
    (h : (b.inherit t l).outcome = .ok u)
    (h' : ((b.under catalog' registry').inherit t' l).outcome = .ok u') :
    u'.outline = u.outline := by
  -- on the lineage, with the tables that the level below leaves
  induction l generalizing t t' with
  | root =>
    cases h
    cases h'
    exact hSame
  | unknownParent => cases h
  | cycle => cases h
  | step c rest ih =>
    -- an identity of its own ends the merge under both
    rcases inherit_step_eq_ok h with ⟨hEmpty, k, v, hFields, hRest⟩ | ⟨hOwn, -, rfl⟩
    · rcases inherit_step_eq_ok h' with ⟨-, k', v', hFields', hRest'⟩ | ⟨hOwn', -⟩
      · -- the key generators of the parent do not show
        have hStart : ({ t' with keyGenerator := k' } : Table).outline =
            ({ t with keyGenerator := k } : Table).outline := hSame
        exact ih (outline_of_inheritFields hStart hFields hFields') hRest hRest'
      · exact absurd hEmpty hOwn'
    · rcases inherit_step_eq_ok h' with ⟨hEmpty', -⟩ | ⟨-, -, rfl⟩
      · exact absurd hEmpty' hOwn
      · exact hSame

end Columns

/-! ## Tables -/

section Tables

variable {built built' : List Table} {relation : Relation} {c : ClassMapping} {name : String}
  {t t' : Table} {js js₁ js₁' cs : List ClassMapping} {s s' s₁ s₁' : Schema}

/-- Indexes are named for the table, and the outline has its name. -/
theorem outline_of_addIndexes {is : List IndexDef} {u u' : Table} (hSame : t'.outline = t.outline)
    (h : addIndexes t is = .ok u) (h' : addIndexes t' is = .ok u') : u'.outline = u.outline := by
  obtain ⟨-, rfl⟩ := addIndexes_eq_ok [] h
  obtain ⟨-, rfl⟩ := addIndexes_eq_ok [] h'
  let append (o : Table) : Table := { o with indexes := o.indexes ++ is.map (·.index o.name) }
  show append t'.outline = append t.outline
  rw [hSame]

/-- The tables of a class have equal outlines, and it queues the same junctions. -/
theorem outline_of_table (hKnown : ∀ f ∈ c.fields, f.KnownAlike b.catalog catalog')
    (h : (b.table built relation c name js).outcome = .ok (t, js₁))
    (h' : ((b.under catalog' registry').table built' relation c name js).outcome =
      .ok (t', js₁')) :
    t'.outline = t.outline ∧ js₁' = js₁ := by
  rcases table_eq_ok_iff.1 h with
    ⟨hEmpty, rfl, rfl⟩ | ⟨hFields, g, v, w, -, hAdded, hInherit, hIndexes⟩
  -- a class without fields
  · rcases table_eq_ok_iff.1 h' with ⟨-, rfl, rfl⟩ | ⟨hFields', -⟩
    · exact ⟨rfl, rfl⟩
    · exact absurd hEmpty hFields'
  · rcases table_eq_ok_iff.1 h' with
      ⟨hEmpty', -⟩ | ⟨-, g', v', w', -, hAdded', hInherit', hIndexes'⟩
    · exact absurd hEmpty' hFields
    -- any other one starts from the same outline
    · let start (g : Option KeyGenerator) : Table :=
        { ({ name } : Table).withPrimaryKey with keyGenerator := g }
      have hStart : (start g').outline = (start g).outline := rfl
      -- its fields are added, and what it inherits, and its indexes
      obtain ⟨hColumns, hQueue⟩ := outline_of_addFields hKnown hStart hAdded hAdded'
      have hMerged : w'.outline = w.outline := outline_of_inherit hColumns hInherit hInherit'
      exact ⟨outline_of_addIndexes hMerged hIndexes hIndexes', hQueue⟩

/-- A table with the same outline makes schemas of the same outline. -/
theorem outline_of_addTable (hSame : s'.outline = s.outline) (hTable : t'.outline = t.outline)
    (h : (addTable s t).outcome = .ok s₁) (h' : (addTable s' t').outcome = .ok s₁') :
    s₁'.outline = s₁.outline := by
  have hAdd : s.addTable t = .ok s₁ := mapError_eq_ok_iff.1 h
  have hAdd' : s'.addTable t' = .ok s₁' := mapError_eq_ok_iff.1 h'
  rw [Schema.outline_addTable hAdd, Schema.outline_addTable hAdd', hSame, hTable]

/-- The classes of a document make the same outline, and queue the same junctions, -/
theorem outline_of_addClasses (hKnown : ∀ c ∈ cs, ∀ f ∈ c.fields, f.KnownAlike b.catalog catalog')
    (hSame : s'.outline = s.outline) (h : (b.addClasses s js cs).outcome = .ok (s₁, js₁))
    (h' : ((b.under catalog' registry').addClasses s' js cs).outcome = .ok (s₁', js₁')) :
    s₁'.outline = s₁.outline ∧ js₁' = js₁ := by
  induction cs generalizing s s' js with
  | nil =>
    cases h
    cases h'
    exact ⟨hSame, rfl⟩
  | cons c rest ih =>
    have hRestKnown : ∀ c' ∈ rest, ∀ f ∈ c'.fields, f.KnownAlike b.catalog catalog' :=
      fun c' hc' => hKnown c' (List.mem_cons_of_mem _ hc')
    rcases addClasses_cons_eq_ok_iff.1 h with
      ⟨hNone, hRest⟩ | ⟨name, t, js₂, s₂, hMapped, hTable, hAdd, hRest⟩
    -- a class without a table is passed over under both
    · rcases addClasses_cons_eq_ok_iff.1 h' with ⟨-, hRest'⟩ | ⟨name', -, -, -, hMapped', -⟩
      · exact ih hRestKnown hSame hRest hRest'
      · cases hNone.symm.trans hMapped'
    · rcases addClasses_cons_eq_ok_iff.1 h' with
        ⟨hNone', -⟩ | ⟨name', t', js₂', s₂', hMapped', hTable', hAdd', hRest'⟩
      · cases hNone'.symm.trans hMapped
      -- the table has the same name under both
      · obtain rfl : name' = name := Option.some.inj (hMapped'.symm.trans hMapped)
        obtain ⟨hOutline, hQueue⟩ := outline_of_table (hKnown c List.mem_cons_self) hTable hTable'
        subst hQueue
        exact ih hRestKnown (outline_of_addTable hSame hOutline hAdd hAdd') hRest hRest'

/-- which make the same outline as well. -/
theorem outline_of_addJunctions
    (hKnown : ∀ j ∈ js, ∀ f ∈ j.fields, f.KnownAlike b.catalog catalog')
    (hSame : s'.outline = s.outline) (h : (b.addJunctions s js).outcome = .ok s₁)
    (h' : ((b.under catalog' registry').addJunctions s' js).outcome = .ok s₁') :
    s₁'.outline = s₁.outline := by
  induction js generalizing s s' with
  | nil =>
    cases h
    cases h'
    exact hSame
  | cons j rest ih =>
    have hRestKnown : ∀ k ∈ rest, ∀ f ∈ k.fields, f.KnownAlike b.catalog catalog' :=
      fun k hk => hKnown k (List.mem_cons_of_mem _ hk)
    -- the junction is the same, so its tables are alike
    obtain ⟨t, js₂, s₂, hTable, hAdd, hRest⟩ := addJunctions_cons_eq_ok_iff.1 h
    obtain ⟨t', js₂', s₂', hTable', hAdd', hRest'⟩ := addJunctions_cons_eq_ok_iff.1 h'
    obtain ⟨hOutline, -⟩ := outline_of_table (hKnown j List.mem_cons_self) hTable hTable'
    exact ih hRestKnown (outline_of_addTable hSame hOutline hAdd hAdd') hRest hRest'

end Tables

end Blueprint

/-! ## Schemas -/

section Schema

variable {registry registry' : KeyGeneratorRegistry} {settings : Settings}
  {catalog catalog' : TypeCatalog} {d : Document} {s s' : Schema}

/-- **The model does not depend on the dialect.** Where two catalogs know the same of the SQL types
that a document declares, its schemas under both have equal outlines: the same tables in the same
order, with the same columns, keys and indexes. -/
theorem Schema.outline_eq_of_known (hKnown : ∀ q ∈ d.sqlTypes, catalog'.knows q = catalog.knows q)
    (h : (Schema.ofDocument registry settings catalog d).outcome = .ok s)
    (h' : (Schema.ofDocument registry' settings catalog' d).outcome = .ok s') :
    s'.outline = s.outline := by
  -- the stages of both builds
  obtain ⟨-, -, s₁, js, hClasses, hJunctions⟩ := Schema.ofDocument_eq_ok_iff.1 h
  obtain ⟨-, -, s₁', js', hClasses', hJunctions'⟩ := Schema.ofDocument_eq_ok_iff.1 h'
  obtain ⟨-, hQueues⟩ := Blueprint.builds_of_addClasses .nil .nil hClasses
  have hFields := Document.knownAlike hKnown
  -- the classes make the same outline
  obtain ⟨hOutline, hQueue⟩ := Blueprint.outline_of_addClasses
    (b := d.blueprint registry catalog) hFields rfl hClasses hClasses'
  subst hQueue
  have hSides : ∀ j ∈ js', ∀ f ∈ j.fields, f.KnownAlike catalog catalog' := by
    -- a side of a junction declares no SQL type
    intro j hj f hf q hGiven
    rw [((hQueues.isJunction j hj).sides f hf).sqlType] at hGiven
    cases hGiven
  exact Blueprint.outline_of_addJunctions (b := d.blueprint registry catalog) hSides hOutline
    hJunctions hJunctions'

/-- An account refers to its owner by a column whose SQL type is no column type. The owners are
numbered by a sequence, where there are sequences. -/
def Document.accounts : Document where
  classes :=
    [{ name := "Owner"
       table := some "owner"
       keyGenerator := some "SEQUENCE"
       fields :=
         [{ name := "id", type := "integer", identity := true, columns := ["id"] },
          { name := "name", type := "string", columns := ["name"], sqlType := some "varchar(40)" },
          { name := "notes", type := "clob", columns := ["notes"] }] },
     { name := "Account"
       table := some "account"
       fields :=
         [{ name := "no", type := "integer", identity := true, columns := ["no"] },
          { name := "owner", type := "Owner", columns := ["owner_id"], sqlType := some "key" }] }]

/-- MySQL has other types than standard SQL and no sequences. The schemas differ in nothing else. -/
theorem Schema.outline_of_accounts :
    ∃ s s', (Schema.ofDocument (.initial .generic) {} (Dialect.generic.catalog {})
        .accounts).outcome = .ok s ∧
      (Schema.ofDocument (.initial .mysql) {} (Dialect.mysql.catalog {})
        .accounts).outcome = .ok s' ∧
      s.tables.map (·.keyGenerator.isSome) = [true, false] ∧
      s'.tables.map (·.keyGenerator.isSome) = [false, false] ∧ s'.outline = s.outline := by
  -- the numbers are given by a sequence in one dialect
  obtain ⟨s, hs, hKeys⟩ : ∃ s, (Schema.ofDocument (.initial .generic) {}
      (Dialect.generic.catalog {}) .accounts).outcome = .ok s ∧
        s.tables.map (·.keyGenerator.isSome) = [true, false] :=
    exists_ok_of_toOption_map (by decide +kernel)
  -- and by no generator in the other one
  obtain ⟨s', hs', hKeys'⟩ : ∃ s', (Schema.ofDocument (.initial .mysql) {}
      (Dialect.mysql.catalog {}) .accounts).outcome = .ok s' ∧
        s'.tables.map (·.keyGenerator.isSome) = [false, false] :=
    exists_ok_of_toOption_map (by decide +kernel)
  exact ⟨s, s', hs, hs', hKeys, hKeys', Schema.outline_eq_of_known (by decide +kernel) hs hs'⟩

end Schema

end MappingDdl
