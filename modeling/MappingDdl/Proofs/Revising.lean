import MappingDdl.Proofs.Appending
import MappingDdl.Proofs.Merging

/-!
# Revised documents — what a build asks of a class

Of a class other classes ask its name, its table, what it extends, its key generator and its
identity fields. Where all classes of a document are revised in a way that keeps these
(`Revision`), every walk over the document gives what it gave. So a class that stays as it is has
the same table, and a class that is revised may have more columns and foreign keys in its table:
all that is built behind it stays the same (`Schema.exists_ofDocument_revise`).

Main results:

* `Revision.follows` — the walks over classes in a revised document.
* `Table.Inserts`, `Blueprint.exists_addFields_revise` — a table with more columns and foreign keys
  takes the columns of further fields as the one without them does.
* `Schema.exists_ofDocument_revise` — the schema after one class was revised.
-/

namespace MappingDdl

/-- The document with all classes revised. -/
def Document.revise (d : Document) (φ : ClassMapping → ClassMapping) : Document :=
  { d with classes := d.classes.map φ }

/-- The blueprint with all classes revised. -/
def Blueprint.revise (b : Blueprint) (φ : ClassMapping → ClassMapping) : Blueprint :=
  b.on (b.document.revise φ)

namespace Revision

variable {φ : ClassMapping → ClassMapping} {d : Document}

/-! ## Walks over classes -/

/-- A name stands for the revised class that it stood for. -/
theorem class?_revise (h : Revision φ) (d : Document) (name : String) :
    (d.revise φ).class? name = (d.class? name).map φ := by
  have hKept : (fun c : ClassMapping => c.name == name) ∘ φ = fun c => c.name == name := by
    funext c
    rw [Function.comp_apply, h.name]
  rw [Document.class?, Document.revise, List.find?_map, hKept]
  rfl

/-- A revision keeps the names of the classes. -/
theorem names_revise (h : Revision φ) (cs : List ClassMapping) :
    (cs.map φ).map (·.name) = cs.map (·.name) := by
  rw [List.map_map]
  exact List.map_congr_left fun c _ => h.name c

/-- The revised document finds the revised classes under all names. -/
theorem follows (h : Revision φ) (d : Document) : d.Follows (d.revise φ) φ fun _ => True where
  revision := h
  mem _ _ := trivial
  names c _ := by
    rw [Document.revise, List.any_map]
    refine congrArg (List.any d.classes) (funext fun c' => ?_)
    rw [Function.comp_apply, h.name]
  parent _ _ name _ := h.class?_revise d name
  type _ _ f _ := h.class?_revise d f.type

/-- The classes above a revised class are the revised ones of those above it. -/
theorem lineage_revise (h : Revision φ) (d : Document) (c : ClassMapping) :
    (d.revise φ).lineage (φ c) = (d.lineage c).map φ :=
  (h.follows d).lineage_eq trivial

/-- A revision keeps the identity columns of every class. -/
theorem identityColumns_revise (h : Revision φ) (d : Document) (c : ClassMapping) :
    (d.revise φ).identityColumns (φ c) = d.identityColumns c :=
  (h.follows d).identityColumns_eq trivial

/-- A revision keeps the types of the identity columns. -/
theorem identityTypes_revise (h : Revision φ) (d : Document) (c : ClassMapping) :
    (d.revise φ).identityTypes (φ c) = d.identityTypes c :=
  (h.follows d).identityTypes_eq trivial

/-- A revision brings no problem with the names and parents of the classes. -/
theorem classProblems_map (h : Revision φ) {names seen : List String} {cs : List ClassMapping} :
    Document.classProblems names seen (cs.map φ) = Document.classProblems names seen cs := by
  induction cs generalizing seen with
  | nil => rfl
  | cons c rest ih =>
    rw [List.map_cons, Document.classProblems, Document.classProblems, h.name, h.parent, ih]

/-- A revised document has the same structure problems. -/
theorem structureProblems_revise (h : Revision φ) (d : Document) :
    (d.revise φ).structureProblems = d.structureProblems := by
  rw [Document.structureProblems, Document.structureProblems, Document.revise]
  rw [h.names_revise, h.classProblems_map]

end Revision

namespace Document

/-- Where a class has no identity fields, the revised one declares the identity fields of the
classes of the document again as it did. -/
def DeclaresAgainAlike (d : Document) (φ : ClassMapping → ClassMapping) : Prop :=
  ∀ c, c.identityFields = [] → ∀ p ∈ d.classes, ∀ f ∈ p.identityFields, ∀ columns,
    (φ c).redeclared? columns f = c.redeclared? columns f

/-- Above a class there are classes of the document. -/
theorem tail_lineage_subset (d : Document) (c : ClassMapping) :
    (d.lineage c).toList.tail ⊆ d.classes := by
  rw [lineage]
  rcases lineageFrom_cases d (without d.classes c.name) c with
    ⟨-, hEq⟩ | ⟨name, -, hEq⟩ | ⟨p, hExtends, -, hEq⟩ | ⟨p, -, -, hEq⟩
  · rw [hEq]
    exact List.nil_subset _
  · rw [hEq]
    exact List.nil_subset _
  · rw [hEq]
    exact toList_lineageFrom_subset hExtends.mem_classes
  · rw [hEq]
    exact List.nil_subset _

end Document

/-! ## Tables with more columns -/

/-- The table `u` has the columns `cs` and the foreign keys `ks` besides those of `t`, in one place
each, and is like `t` in everything else. -/
structure Table.Inserts (cs : List Column) (ks : List ForeignKey) (t u : Table) : Prop where
  columns      : ∃ before after, t.columns = before ++ after ∧ u.columns = before ++ (cs ++ after)
  foreignKeys  : ∃ before after, t.foreignKeys = before ++ after ∧
                   u.foreignKeys = before ++ (ks ++ after)
  name         : u.name = t.name
  primaryKey   : u.primaryKey = t.primaryKey
  indexes      : u.indexes = t.indexes
  keyGenerator : u.keyGenerator = t.keyGenerator

namespace Table.Inserts

variable {cs : List Column} {ks : List ForeignKey} {t u : Table}

/-- A table without anything more is the table. -/
theorem refl (t : Table) : t.Inserts [] [] t :=
  ⟨⟨t.columns, [], by simp⟩, ⟨t.foreignKeys, [], by simp⟩, rfl, rfl, rfl, rfl⟩

/-- And there is no other one. -/
theorem eq_of_nil (h : t.Inserts [] [] u) : u = t := by
  obtain ⟨⟨before, after, hColumns, hColumns'⟩, ⟨keys, keys', hKeys, hKeys'⟩, hName, hPrimary,
    hIndexes, hGenerator⟩ := h
  rw [List.nil_append, ← hColumns] at hColumns'
  rw [List.nil_append, ← hKeys] at hKeys'
  cases t
  cases u
  simp_all

/-- The columns are those from before and the inserted ones. -/
theorem mem_columnNames_iff (h : t.Inserts cs ks u) {name : String} :
    name ∈ u.columnNames ↔ name ∈ t.columnNames ∨ name ∈ cs.map (·.name) := by
  obtain ⟨before, after, hColumns, hColumns'⟩ := h.columns
  rw [columnNames, columnNames, hColumns, hColumns']
  simp only [List.map_append, List.mem_append]
  tauto

/-- No column is lost. -/
theorem subset_columnNames (h : t.Inserts cs ks u) : t.columnNames ⊆ u.columnNames :=
  fun _ hName => h.mem_columnNames_iff.2 (Or.inl hName)

/-- A column that has a name of its own is added to both tables. -/
theorem exists_addColumn (h : t.Inserts cs ks u) {t' : Table} {c : Column}
    (hApart : c.name ∉ cs.map (·.name)) (hAdd : t.addColumn c = .ok t') :
    ∃ u', u.addColumn c = .ok u' ∧ t'.Inserts cs ks u' := by
  obtain ⟨hNew, rfl⟩ := addColumn_eq_ok_iff.1 hAdd
  have hNew' : c.name ∉ u.columnNames := fun hMem =>
    (h.mem_columnNames_iff.1 hMem).elim hNew hApart
  refine ⟨_, addColumn_eq_ok_iff.2 ⟨hNew', rfl⟩, ?_, h.foreignKeys, h.name, h.primaryKey, h.indexes,
    h.keyGenerator⟩
  obtain ⟨before, after, hColumns, hColumns'⟩ := h.columns
  exact ⟨before, after ++ [c], by simp [hColumns], by simp [hColumns']⟩

/-- A column can be made part of the key of both tables. -/
theorem addKeyColumn (h : t.Inserts cs ks u) (name : String) :
    (t.addKeyColumn name).Inserts cs ks (u.addKeyColumn name) := by
  refine ⟨h.columns, h.foreignKeys, h.name, ?_, h.indexes, h.keyGenerator⟩
  simp only [Table.addKeyColumn, h.primaryKey]

/-- A column that was not inserted can be made the identity of both tables. -/
theorem setIdentity (h : t.Inserts cs ks u) {name : String} (hApart : name ∉ cs.map (·.name)) :
    (t.setIdentity name true).Inserts cs ks (u.setIdentity name true) := by
  -- no inserted column has this name, so none of them is touched
  have hKept : cs.map (Column.promote [name]) = cs := by
    refine (List.map_congr_left fun c hc => ?_).trans (List.map_id' cs)
    have hName : c.name ≠ name := fun hSame => hApart (List.mem_map.2 ⟨c, hc, hSame⟩)
    simp [Column.promote, hName]
  obtain ⟨before, after, hColumns, hColumns'⟩ := h.columns
  refine ⟨⟨before.map (Column.promote [name]), after.map (Column.promote [name]), ?_, ?_⟩,
    h.foreignKeys, h.name, h.primaryKey, h.indexes, h.keyGenerator⟩
  · rw [Table.columns_setIdentity, hColumns, List.map_append]
  · rw [Table.columns_setIdentity, hColumns', List.map_append, List.map_append, hKept]

/-- Columns that have names of their own are promoted in both tables. -/
theorem promote (h : t.Inserts cs ks u) {columns : List String}
    (hApart : columns.Disjoint (cs.map (·.name))) :
    (columns.foldl (fun t column => (t.setIdentity column true).addKeyColumn column) t).Inserts
      cs ks
      (columns.foldl (fun t column => (t.setIdentity column true).addKeyColumn column) u) := by
  induction columns generalizing t u with
  | nil => exact h
  | cons column rest ih =>
    obtain ⟨hHead, hRest⟩ := List.disjoint_cons_left.1 hApart
    exact ih ((h.setIdentity hHead).addKeyColumn column) hRest

/-- Both tables can be given a generator. -/
theorem withKeyGenerator (h : t.Inserts cs ks u) (g : Option KeyGenerator) :
    Table.Inserts cs ks { t with keyGenerator := g } { u with keyGenerator := g } :=
  ⟨h.columns, h.foreignKeys, h.name, h.primaryKey, h.indexes, rfl⟩

/-- A foreign key can be put at the end of both tables. -/
theorem addForeignKey (h : t.Inserts cs ks u) (k : ForeignKey) :
    (t.addForeignKey k).Inserts cs ks (u.addForeignKey k) := by
  obtain ⟨before, after, hKeys, hKeys'⟩ := h.foreignKeys
  refine ⟨h.columns, ⟨before, after ++ [k], ?_, ?_⟩, h.name, h.primaryKey, h.indexes,
    h.keyGenerator⟩
  · rw [Table.addForeignKey, hKeys, List.append_assoc]
  · rw [Table.addForeignKey, hKeys', List.append_assoc, List.append_assoc]

/-- An index can be put at the end of both tables. -/
theorem addIndex (h : t.Inserts cs ks u) (i : Index) :
    (t.addIndex i).Inserts cs ks (u.addIndex i) :=
  ⟨h.columns, h.foreignKeys, h.name, h.primaryKey, congrArg (· ++ [i]) h.indexes, h.keyGenerator⟩

end Table.Inserts

/-- Table by table, the second list has the same names and at least the columns of the first. -/
abbrev Table.Covers : List Table → List Table → Prop :=
  List.Forall₂ fun t u => u.name = t.name ∧ t.columnNames ⊆ u.columnNames

/-- Tables cover themselves. -/
theorem Table.Covers.refl (ts : List Table) : Table.Covers ts ts :=
  List.forall₂_same.2 fun _ _ => ⟨rfl, List.Subset.refl _⟩

/-- Tables that cover others have their names, in the same order. -/
theorem Table.Covers.names_eq {ts us : List Table} (h : Table.Covers ts us) :
    us.map (·.name) = ts.map (·.name) := by
  induction h with
  | nil => rfl
  | cons hHead _ ih => rw [List.map_cons, List.map_cons, ih, hHead.1]

/-- Tables can be covered piece by piece. -/
theorem Table.Covers.append {ts us ts' us' : List Table} (h : Table.Covers ts us)
    (h' : Table.Covers ts' us') : Table.Covers (ts ++ ts') (us ++ us') :=
  List.rel_append h h'

/-- Where a table is found by its name, one that covers it is found by the same name. -/
theorem Table.Covers.exists_find? {ts us : List Table} (h : Table.Covers ts us) {name : String}
    {t : Table} (hFind : ts.find? (·.name == name) = some t) :
    ∃ u, us.find? (·.name == name) = some u ∧ u.name = t.name ∧
      t.columnNames ⊆ u.columnNames := by
  induction h with
  | nil => cases hFind
  | @cons t' u' ts us hHead _ ih =>
    rw [List.find?_cons] at hFind
    rw [List.find?_cons, hHead.1]
    -- the first table is the one, or both look further
    cases hName : t'.name == name with
    | true =>
      rw [hName] at hFind
      cases hFind
      exact ⟨u', rfl, hHead⟩
    | false =>
      rw [hName] at hFind
      exact ih hFind

namespace Blueprint

variable {b : Blueprint} {φ : ClassMapping → ClassMapping} {built built' : List Table}
  {relation : Relation} {c c' r : ClassMapping} {f : FieldMapping} {fs : List FieldMapping}
  {g : Option KeyGenerator} {cs : List Column} {ks : List ForeignKey} {t t' u : Table}
  {name : String} {js js' : List ClassMapping}

/-- Revising a blueprint is revising its document. -/
@[simp] theorem document_revise : (b.revise φ).document = b.document.revise φ := rfl

/-! ## Fields -/

/-- A field has the types that it had, and refers to the revised class. -/
theorem HasTypes.revise (hφ : Revision φ) {ft : FieldTypes} (h : b.HasTypes f ft) :
    (b.revise φ).HasTypes f ⟨ft.types, ft.referenced.map φ⟩ := by
  have hClass : (b.revise φ).document.class? f.type = (b.document.class? f.type).map φ :=
    hφ.class?_revise b.document f.type
  cases h with
  -- a type that was given does not depend on the classes
  | sqlType hGiven hType => exact .sqlType hGiven hType
  -- a class is found by its name as before, and has the same types
  | @reference r names types hSqlType hFound hNames hLength hReads =>
    refine .reference hSqlType ?_ ?_ hLength hReads
    · rw [hClass, hFound]
      rfl
    · rw [document_revise, hφ.identityTypes_revise]
      exact hNames
  -- no class is found by a name that was none before
  | declared hSqlType hNone hType =>
    refine .declared hSqlType ?_ hType
    rw [hClass, hNone]
    rfl

/-- Columns that have names of their own can be added to both tables. -/
theorem exists_addColumns_of_inserts (hInserts : t.Inserts cs ks u) {identity : Bool}
    {ps : List (String × ColumnType)} (hApart : ∀ p ∈ ps, p.1 ∉ cs.map (·.name))
    (h : addColumns t f identity g ps = .ok t') :
    ∃ u', addColumns u f identity g ps = .ok u' ∧ t'.Inserts cs ks u' := by
  induction ps generalizing t u with
  | nil =>
    cases h
    exact ⟨u, rfl, hInserts⟩
  | cons p rest ih =>
    obtain ⟨v, hAdd, hRest⟩ := bind_eq_ok_iff.1 h
    obtain ⟨w, hAdd', hNext⟩ := hInserts.exists_addColumn (hApart p List.mem_cons_self) hAdd
    -- as a key column or not, it is in both tables now
    have hJoined : (if identity then v.addKeyColumn p.1 else v).Inserts cs ks
        (if identity then w.addKeyColumn p.1 else w) := by
      split
      · exact hNext.addKeyColumn p.1
      · exact hNext
    obtain ⟨u', hMore, hInserts'⟩ :=
      ih hJoined (fun q hq => hApart q (List.mem_cons_of_mem _ hq)) hRest
    exact ⟨u', bind_eq_ok_iff.2 ⟨w, hAdd', hMore⟩, hInserts'⟩

/-- The table that a reference goes to is there under its name, with at least its columns. -/
theorem exists_referenceTable_revise (hφ : Revision φ) (hCovers : Table.Covers built built')
    (hInserts : t.Inserts cs ks u) {v : Table} (h : referenceTable built t c f r = .ok v) :
    ∃ w, referenceTable built' u c' f (φ r) = .ok w ∧ w.name = v.name ∧
      v.columnNames ⊆ w.columnNames := by
  unfold referenceTable at h ⊢
  rw [hφ.mappedTable]
  cases hMapped : r.mappedTable with
  | none =>
    rw [hMapped] at h
    cases h
  | some name =>
    simp only [hMapped] at h
    by_cases hOwn : name = t.name
    · -- the table that is being built, in both cases
      rw [if_pos hOwn] at h
      cases h
      exact ⟨u, if_pos (hOwn.trans hInserts.name.symm), hInserts.name, hInserts.subset_columnNames⟩
    -- a table that was built before has one that covers it
    · rw [if_neg hOwn] at h
      split at h
      · next v' hFind =>
        cases h
        obtain ⟨w, hFind', hKept⟩ := hCovers.exists_find? hFind
        refine ⟨w, ?_, hKept⟩
        simp only [if_neg (hInserts.name ▸ hOwn), hFind']
      · cases h

/-- A foreign key is the same for both tables. -/
theorem foreignKey_revise (hφ : Revision φ) (hCovers : Table.Covers built built')
    (hInserts : t.Inserts cs ks u) {k : ForeignKey}
    (h : b.foreignKey built t c f r relation = .ok k) :
    (b.revise φ).foreignKey built' u c' f (φ r) relation = .ok k := by
  obtain ⟨v, columns, hTable, hKey, hFound, hLength, rfl⟩ := foreignKey_eq_ok_iff.1 h
  obtain ⟨w, hTable', hName, hSub⟩ := exists_referenceTable_revise hφ hCovers hInserts hTable
  refine foreignKey_eq_ok_iff.2 ⟨w, columns, hTable', ?_, fun column hColumn =>
    hSub (hFound column hColumn), hLength, ?_⟩
  -- the key columns are those of the same class, and its table has them still
  · rw [document_revise, hφ.identityColumns_revise]
    exact hKey
  · rw [hInserts.name, hName]

/-- A field contributes the same to both tables, if its columns have names of their own. -/
theorem exists_addField_revise (hφ : Revision φ) (hCovers : Table.Covers built built')
    (hInserts : t.Inserts cs ks u) (hIdentity : c'.isIdentity f = c.isIdentity f)
    (hApart : List.Disjoint f.columns (cs.map (·.name)))
    (h : (b.addField built relation c g t f).outcome = .ok t') :
    ∃ u', ((b.revise φ).addField built' relation c' g u f).outcome = .ok u' ∧
      t'.Inserts cs ks u' := by
  obtain ⟨ft, v, hTypes, hAdd, hRest⟩ := addField_eq_ok_iff.1 h
  have hNew : ∀ p ∈ f.columns.zip ft.types, p.1 ∉ cs.map (·.name) :=
    fun p hp => hApart (List.of_mem_zip hp).1
  obtain ⟨w, hAdd', hInserts'⟩ := exists_addColumns_of_inserts hInserts hNew hAdd
  have hAdded : addColumns u f (c'.isIdentity f)
      (if (ft.referenced.map φ).isNone then g else none) (f.columns.zip ft.types) = .ok w := by
    rw [hIdentity, Option.isNone_map]
    exact hAdd'
  -- a plain field ends here, a reference adds its foreign key
  rcases hRest with ⟨hPlain, rfl⟩ | ⟨r, k, hReferenced, hKey, rfl⟩
  · refine ⟨w, addField_eq_ok_iff.2 ⟨_, w, hTypes.revise hφ, hAdded, Or.inl ⟨?_, rfl⟩⟩, hInserts'⟩
    rw [hPlain]
    rfl
  · refine ⟨w.addForeignKey k, addField_eq_ok_iff.2 ⟨_, w, hTypes.revise hφ, hAdded, Or.inr
      ⟨φ r, k, ?_, foreignKey_revise hφ hCovers hInserts' hKey, rfl⟩⟩, hInserts'.addForeignKey k⟩
    rw [hReferenced]
    rfl

/-- A many-to-many relation is entered in the same way. -/
theorem addRelation_revise (hφ : Revision φ) :
    (b.revise φ).addRelation js (φ c) name f = b.addRelation js c name f := by
  have hSide (r j : ClassMapping) (side : String) (columns : List String) :
      (b.revise φ).addSide j side (φ r) columns = b.addSide j side r columns := by
    simp only [addSide, sideColumns, document_revise, hφ.identityColumns_revise, hφ.name]
  rw [addRelation, addRelation, document_revise, hφ.class?_revise]
  cases b.document.class? f.type with
  | none => simp only [Option.map_none, hφ.name]
  | some r => simp only [Option.map_some, hφ.name, hφ.mappedTable, hφ.keyGenerator, hSide]

/-- The fields of a class contribute the same to both tables, if their columns have names of their
own. -/
theorem exists_addFields_revise (hφ : Revision φ) (hCovers : Table.Covers built built')
    (hInserts : t.Inserts cs ks u) (hIdentity : ∀ f ∈ fs, (φ c).isIdentity f = c.isIdentity f)
    (hApart : ∀ f ∈ fs, f.isStored = true → List.Disjoint f.columns (cs.map (·.name)))
    (h : (b.addFields built relation c g t js fs).outcome = .ok (t', js')) :
    ∃ u', ((b.revise φ).addFields built' relation (φ c) g u js fs).outcome = .ok (u', js') ∧
      t'.Inserts cs ks u' := by
  induction fs generalizing t u js with
  | nil =>
    cases h
    exact ⟨u, rfl, hInserts⟩
  | cons f rest ih =>
    have hNext {v w : Table} (hInserts' : v.Inserts cs ks w) {queued : List ClassMapping}
        (hRest : (b.addFields built relation c g v queued rest).outcome = .ok (t', js')) :=
      ih hInserts' (fun f' hf' => hIdentity f' (List.mem_cons_of_mem _ hf'))
        (fun f' hf' => hApart f' (List.mem_cons_of_mem _ hf')) hRest
    rcases addFields_cons_eq_ok_iff.1 h with
      ⟨hMany, queued, hRelation, hRest⟩ | ⟨hStored, v, hField, hRest⟩ | ⟨hMany, hNone, hRest⟩
    -- a relation is queued as before, and leaves the table alone
    · obtain ⟨u', hMore, hInserts'⟩ := hNext hInserts hRest
      refine ⟨u', addFields_cons_eq_ok_iff.2 (Or.inl ⟨hMany, queued, ?_, hMore⟩), hInserts'⟩
      rw [addRelation_revise hφ, hInserts.name]
      exact hRelation
    -- a stored field goes into both tables
    · obtain ⟨w, hField', hStep⟩ := exists_addField_revise hφ hCovers hInserts
        (hIdentity f List.mem_cons_self) (hApart f List.mem_cons_self hStored) hField
      obtain ⟨u', hMore, hInserts'⟩ := hNext hStep hRest
      exact ⟨u', addFields_cons_eq_ok_iff.2 (Or.inr (Or.inl ⟨hStored, w, hField', hMore⟩)),
        hInserts'⟩
    -- a field that is neither is left out of both
    · obtain ⟨u', hMore, hInserts'⟩ := hNext hInserts hRest
      exact ⟨u', addFields_cons_eq_ok_iff.2 (Or.inr (Or.inr ⟨hMany, hNone, hMore⟩)), hInserts'⟩

/-! ## Inherited identity -/

/-- A field that is declared again in columns that are there, apart from the new ones, is so in both
tables. -/
theorem redeclared?_of_inserts (hInserts : t.Inserts cs ks u)
    (hApart : ∀ own ∈ c.fields, own.isStored = true → own.columns.Disjoint (cs.map (·.name))) :
    c.redeclared? u.columnNames f = c.redeclared? t.columnNames f := by
  refine Option.ext fun own => ?_
  rw [ClassMapping.redeclared?_eq_some_iff, ClassMapping.redeclared?_eq_some_iff]
  refine and_congr_right fun hField => and_congr_right fun hStored => ?_
  have hOwn := hApart own (List.mem_of_find?_eq_some hField) hStored
  refine ⟨fun hSub column hColumn => ?_, fun hSub =>
    List.Subset.trans hSub hInserts.subset_columnNames⟩
  rcases hInserts.mem_columnNames_iff.1 (hSub hColumn) with hOld | hNew
  · exact hOld
  · exact absurd hNew (hOwn hColumn)

/-- Inherited identity fields contribute the same to both tables, if all columns have names of their
own. -/
theorem exists_inheritFields_revise (hφ : Revision φ) (hInserts : t.Inserts cs ks u)
    (hAgain : ∀ f ∈ fs, ∀ columns, c'.redeclared? columns f = c.redeclared? columns f)
    (hOwn : ∀ own ∈ c.fields, own.isStored = true → own.columns.Disjoint (cs.map (·.name)))
    (hApart : ∀ f ∈ fs, f.columns.Disjoint (cs.map (·.name))) {p : ClassMapping}
    (p' : ClassMapping) (h : (b.inheritFields c p g t fs).outcome = .ok t') :
    ∃ u', ((b.revise φ).inheritFields c' p' g u fs).outcome = .ok u' ∧ t'.Inserts cs ks u' := by
  induction fs generalizing t u with
  | nil =>
    cases h
    exact ⟨u, rfl, hInserts⟩
  | cons f rest ih =>
    have hNext {v w : Table} (hInserts' : v.Inserts cs ks w)
        (hRest : (b.inheritFields c p g v rest).outcome = .ok t') :=
      ih hInserts' (fun f' hf' => hAgain f' (List.mem_cons_of_mem _ hf'))
        (fun f' hf' => hApart f' (List.mem_cons_of_mem _ hf')) hRest
    have hSame : c'.redeclared? u.columnNames f = c.redeclared? t.columnNames f :=
      (hAgain f List.mem_cons_self _).trans (redeclared?_of_inserts hInserts hOwn)
    rcases inheritFields_cons_eq_ok_iff.1 h with
      -- the field is declared again, and the column of the class takes its place
      ⟨v, columns, hPromote, hRest⟩ | ⟨hNone, ft, v, hTypes, hAdd, hRest⟩
    · rw [promote?_eq, Option.map_eq_some_iff] at hPromote
      obtain ⟨own, hSome, hEq⟩ := hPromote
      obtain ⟨rfl, rfl⟩ := Prod.mk.inj hEq
      obtain ⟨hField, hStored, -⟩ := ClassMapping.redeclared?_eq_some_iff.1 hSome
      obtain ⟨u', hMore, hInserts'⟩ :=
        hNext (hInserts.promote (hOwn own (List.mem_of_find?_eq_some hField) hStored)) hRest
      refine ⟨u', inheritFields_cons_eq_ok_iff.2 (Or.inl ⟨_, own.columns, ?_, hMore⟩), hInserts'⟩
      rw [promote?_eq, hSame, hSome]
      rfl
    -- it is not, and its columns are added under their own names
    · rw [promote?_eq, Option.map_eq_none_iff] at hNone
      obtain ⟨w, hAdd', hStep⟩ := exists_addColumns_of_inserts hInserts
        (fun q hq => hApart f List.mem_cons_self (List.of_mem_zip hq).1) hAdd
      obtain ⟨u', hMore, hInserts'⟩ := hNext hStep hRest
      refine ⟨u', inheritFields_cons_eq_ok_iff.2
        (Or.inr ⟨?_, _, w, hTypes.revise hφ, ?_, hMore⟩), hInserts'⟩
      · rw [promote?_eq, hSame, hNone]
        rfl
      · rw [Option.isNone_map]
        exact hAdd'

/-- Whether the identities of a class and its parent agree does not change. -/
theorem checkIdentity_revise (hφ : Revision φ) :
    (b.revise φ).checkIdentity (φ c) (φ r) = b.checkIdentity c r := by
  simp only [checkIdentity, document_revise, hφ.identityTypes_revise, hφ.name]
  simp only [revise, sameTypes_on]

/-- The merge along the revised lineage gives both tables the same. Where anything comes from above,
the columns of the fields along the lineage have names of their own. -/
theorem exists_inherit_revise (hφ : Revision φ) (hAgain : b.document.DeclaresAgainAlike φ)
    (hInserts : t.Inserts cs ks u) {l : Lineage} (hAbove : l.toList.tail ⊆ b.document.classes)
    (hApart : l.head.identityFields = [] → ∀ p ∈ l.toList, ∀ own ∈ p.fields, own.isStored = true →
      own.columns.Disjoint (cs.map (·.name)))
    (h : (b.inherit t l).outcome = .ok t') :
    ∃ u', ((b.revise φ).inherit u (l.map φ)).outcome = .ok u' ∧ t'.Inserts cs ks u' := by
  induction l generalizing t u with
  -- at the end of the lineage there is nothing to merge
  | root =>
    cases h
    exact ⟨u, rfl, hInserts⟩
  | unknownParent => cases h
  | cycle => cases h
  | step c rest ih =>
    rw [Lineage.map]
    rcases inherit_step_eq_ok_iff.1 h with ⟨hOwn, v, hFields, hRest⟩ | ⟨hOwn, hCheck, rfl⟩
    -- without an identity of its own the class takes the fields of its parent
    · have hNone : c.identityFields = [] := ClassMapping.ownIdentityColumns_eq_nil_iff.1 hOwn
      have hAll := hApart hNone
      have hParent : rest.head ∈ b.document.classes := hAbove rest.head_mem_toList
      obtain ⟨w, hFields', hStep⟩ := exists_inheritFields_revise hφ
        (hInserts.withKeyGenerator ((b.registry.get? rest.head.keyGenerator).or t.keyGenerator))
        (hAgain c hNone rest.head hParent) (hAll c List.mem_cons_self)
        (fun f hf => by
          obtain ⟨hMem, -, hStored⟩ := ClassMapping.mem_identityFields_iff.1 hf
          exact hAll _ (List.mem_cons_of_mem _ rest.head_mem_toList) f hMem hStored)
        (φ rest.head) hFields
      -- and goes on with those of the classes above
      obtain ⟨u', hMore, hInserts'⟩ := ih hStep
        (fun p hp => hAbove (List.mem_of_mem_tail hp))
        (fun _ p hp => hAll p (List.mem_cons_of_mem _ hp)) hRest
      refine ⟨u', inherit_step_eq_ok_iff.2 (Or.inl ⟨(hφ.ownIdentityColumns c).trans hOwn, w, ?_,
        hMore⟩), hInserts'⟩
      rw [Lineage.head_map, hφ.keyGenerator, hφ.identityFields, hInserts.keyGenerator]
      exact hFields'
    -- with one it is only compared with its parent
    · refine ⟨u, inherit_step_eq_ok_iff.2 (Or.inr ⟨?_, ?_, rfl⟩), hInserts⟩
      · rwa [hφ.ownIdentityColumns]
      · rwa [Lineage.head_map, checkIdentity_revise hφ]

/-! ## Tables -/

/-- Indexes can be added to both tables, since no column is lost. -/
theorem exists_addIndexes_of_inserts (hInserts : t.Inserts cs ks u) {is : List IndexDef}
    (h : addIndexes t is = .ok t') : ∃ u', addIndexes u is = .ok u' ∧ t'.Inserts cs ks u' := by
  induction is generalizing t u with
  | nil =>
    cases h
    exact ⟨u, rfl, hInserts⟩
  | cons i rest ih =>
    rw [addIndexes] at h ⊢
    split at h
    · cases h
    -- every column of the index was there, so it still is
    · next hNone =>
      have hColumns : i.columns.find? (fun column => !u.columnNames.contains column) = none := by
        simp only [List.find?_eq_none, Bool.not_eq_true', Bool.not_eq_false,
          List.contains_iff_mem] at hNone ⊢
        exact fun column hColumn => hInserts.subset_columnNames (hNone column hColumn)
      simp only [hColumns, hInserts.name]
      exact ih (hInserts.addIndex _) h

/-- What the fields of a revised class have made goes through the merge and the indexes as
before. -/
theorem exists_table_of_inserts (hφ : Revision φ) (hAgain : b.document.DeclaresAgainAlike φ)
    (hSome : (φ c).fields ≠ []) (hIndexed : (φ c).indexes = c.indexes)
    (hApart : c.identityFields = [] → ∀ p ∈ (b.document.lineage c).toList, ∀ own ∈ p.fields,
      own.isStored = true → own.columns.Disjoint (cs.map (·.name)))
    {v v' w : Table} (hGenerator : (b.keyGenerator c).outcome = .ok g)
    (hAdded : ((b.revise φ).addFields built' relation (φ c) g
      { ({ name } : Table).withPrimaryKey with keyGenerator := g } js (φ c).fields).outcome =
        .ok (v', js'))
    (hInserts : v.Inserts cs ks v')
    (hInherit : (b.inherit v (b.document.lineage c)).outcome = .ok w)
    (hIndexes : addIndexes w c.indexes = .ok t) :
    ∃ u, ((b.revise φ).table built' relation (φ c) name js).outcome = .ok (u, js') ∧
      t.Inserts cs ks u := by
  obtain ⟨w', hInherit', hMerged⟩ := exists_inherit_revise hφ hAgain hInserts
    (b.document.tail_lineage_subset c) (by rwa [Document.head_lineage]) hInherit
  obtain ⟨u, hIndexes', hInserts'⟩ := exists_addIndexes_of_inserts hMerged hIndexes
  refine ⟨u, table_eq_ok_iff.2 (Or.inr ⟨hSome, g, v', w', ?_, hAdded, ?_, ?_⟩), hInserts'⟩
  · rw [outcome_keyGenerator, hφ.keyGenerator, ← hGenerator, outcome_keyGenerator]
    rfl
  · rw [document_revise, hφ.lineage_revise]
    exact hInherit'
  · rw [hIndexed]
    exact hIndexes'

/-- A class that stays as it is has the same table. -/
theorem table_revise (hφ : Revision φ) (hAgain : b.document.DeclaresAgainAlike φ)
    (hCovers : Table.Covers built built') (hSame : φ c = c)
    (h : (b.table built relation c name js).outcome = .ok (t, js')) :
    ((b.revise φ).table built' relation c name js).outcome = .ok (t, js') := by
  rcases table_eq_ok_iff.1 h with
    hEmpty | ⟨hFields, g, u, w, hGenerator, hAdded, hInherit, hIndexes⟩
  · exact table_eq_ok_iff.2 (Or.inl hEmpty)
  · obtain ⟨u', hAdded', hInserts⟩ := exists_addFields_revise hφ hCovers (.refl _)
      (fun f _ => by rw [hSame]) (fun f _ _ => List.disjoint_nil_right _) hAdded
    obtain ⟨t', hTable, hInserts'⟩ := exists_table_of_inserts hφ hAgain (c := c)
      (by rwa [hSame]) (by rw [hSame]) (fun _ _ _ _ _ _ => List.disjoint_nil_right _) hGenerator
      (by rwa [hSame] at hAdded' ⊢) hInserts hInherit hIndexes
    -- nothing is inserted, so the two tables are one
    rwa [hSame, hInserts'.eq_of_nil] at hTable

/-- A table that can be added to a schema can be added to one with the same names. -/
theorem outcome_addTable_of_covers {s s' s₁ : Schema} (hCovers : Table.Covers s.tables s'.tables)
    (hName : u.name = t.name) (h : (addTable s t).outcome = .ok s₁) :
    (addTable s' u).outcome = .ok ⟨s'.name, s'.tables ++ [u]⟩ := by
  refine outcome_addTable ?_
  rw [hCovers.names_eq, hName]
  exact (addTable_eq_ok h).2

/-- A schema with one table more has it at the end. -/
theorem eq_of_addTable {s s₁ : Schema} (h : (addTable s t).outcome = .ok s₁) :
    s₁ = ⟨s.name, s.tables ++ [t]⟩ :=
  Except.ok.inj (h.symm.trans (outcome_addTable (addTable_eq_ok h).2))

/-- Classes that stay as they are have the same tables, and queue the same junctions. -/
theorem exists_addClasses_revise (hφ : Revision φ) (hAgain : b.document.DeclaresAgainAlike φ)
    {xs : List ClassMapping} (hSame : ∀ x ∈ xs, φ x = x) {s s₁ : Schema}
    (h : (b.addClasses s js xs).outcome = .ok (s₁, js')) :
    ∃ more, s₁ = ⟨s.name, s.tables ++ more⟩ ∧ ∀ s' : Schema, Table.Covers s.tables s'.tables →
      ((b.revise φ).addClasses s' js xs).outcome = .ok (⟨s'.name, s'.tables ++ more⟩, js') := by
  induction xs generalizing s js with
  | nil =>
    cases h
    exact ⟨[], by rw [List.append_nil], fun s' _ => by rw [List.append_nil]; rfl⟩
  | cons x rest ih =>
    have hRestSame : ∀ x ∈ rest, φ x = x := fun x hx => hSame x (List.mem_cons_of_mem _ hx)
    rcases addClasses_cons_eq_ok_iff.1 h with
      ⟨hUnmapped, hRest⟩ | ⟨name, t, js₁, s₂, hMapped, hTable, hAdd, hRest⟩
    -- a class without a table adds none
    · obtain ⟨more, hTables, hMore⟩ := ih hRestSame hRest
      exact ⟨more, hTables, fun s' hCovers =>
        addClasses_cons_eq_ok_iff.2 (Or.inl ⟨hUnmapped, hMore s' hCovers⟩)⟩
    -- the table is the same next to more columns, so both schemas go on with it
    · obtain rfl := eq_of_addTable hAdd
      obtain ⟨more, hTables, hMore⟩ := ih hRestSame hRest
      refine ⟨t :: more, ?_, fun s' hCovers => ?_⟩
      · rw [hTables, List.append_assoc, List.singleton_append]
      · have hTable' := table_revise hφ hAgain hCovers (hSame x List.mem_cons_self) hTable
        have hAdd' := outcome_addTable_of_covers hCovers rfl hAdd
        have hNext := hMore ⟨s'.name, s'.tables ++ [t]⟩ (hCovers.append (.refl [t]))
        rw [List.append_assoc, List.singleton_append] at hNext
        exact addClasses_cons_eq_ok_iff.2 (Or.inr ⟨name, t, js₁, _, hMapped, hTable', hAdd', hNext⟩)

/-- Junctions that stay as they are have the same tables. -/
theorem exists_addJunctions_revise (hφ : Revision φ)
    (hAgain : b.document.DeclaresAgainAlike φ) (hSame : ∀ j ∈ js, φ j = j)
    {s s₁ : Schema} (h : (b.addJunctions s js).outcome = .ok s₁) :
    ∃ more, s₁ = ⟨s.name, s.tables ++ more⟩ ∧ ∀ s' : Schema, Table.Covers s.tables s'.tables →
      ((b.revise φ).addJunctions s' js).outcome = .ok ⟨s'.name, s'.tables ++ more⟩ := by
  induction js generalizing s with
  | nil =>
    cases h
    exact ⟨[], by rw [List.append_nil], fun s' _ => by rw [List.append_nil]; rfl⟩
  | cons j rest ih =>
    -- a junction has its table like a class
    obtain ⟨t, js₁, s₂, hTable, hAdd, hRest⟩ := addJunctions_cons_eq_ok_iff.1 h
    obtain rfl := eq_of_addTable hAdd
    obtain ⟨more, hTables, hMore⟩ := ih (fun k hk => hSame k (List.mem_cons_of_mem _ hk)) hRest
    refine ⟨t :: more, ?_, fun s' hCovers => ?_⟩
    · rw [hTables, List.append_assoc, List.singleton_append]
    · have hTable' := table_revise hφ hAgain hCovers (hSame j List.mem_cons_self) hTable
      have hAdd' := outcome_addTable_of_covers hCovers rfl hAdd
      have hNext := hMore ⟨s'.name, s'.tables ++ [t]⟩ (hCovers.append (.refl [t]))
      rw [List.append_assoc, List.singleton_append] at hNext
      exact addJunctions_cons_eq_ok_iff.2 ⟨t, js₁, _, hTable', hAdd', hNext⟩

end Blueprint

/-! ## Schemas -/

section Schema

variable {φ : ClassMapping → ClassMapping} {registry : KeyGeneratorRegistry} {settings : Settings}
  {catalog : TypeCatalog} {d : Document} {s : Schema} {c : ClassMapping} {name : String}

/-- No junction is a class of the document that is mapped to a table: it would have the same. -/
theorem Schema.ne_of_junction {js : List ClassMapping} {b : Blueprint} {ts : List Table}
    {cs : List ClassMapping} (h : b.Builds ts (Origin.ofClasses cs ++ js.map Origin.ofJunction))
    (hJunctions : ∀ j ∈ js, j.IsJunction) (hc : c ∈ cs) (hMapped : c.mappedTable = some name) :
    ∀ j ∈ js, j ≠ c := by
  rintro j hj rfl
  have hName : name = j.name := by
    have hTable := (given_eq_some_iff.1 hMapped).1
    rw [(hJunctions j hj).table] at hTable
    exact (Option.some.inj hTable).symm
  have hOrigin : Origin.ofJunction j ∈ Origin.ofClasses cs ++ js.map Origin.ofJunction :=
    List.mem_append_right _ (List.mem_map_of_mem hj)
  have hSame := h.origin_eq (Origin.mem_append_of_class hc hMapped) hOrigin hName
  cases congrArg Origin.relation hSame

/-- The schema after one class was revised. If the class gets a table with at least the columns
that it had, and queues the same junctions, all other tables are as they were. -/
theorem Schema.exists_ofDocument_revise (hφ : Revision φ)
    (hAgain : d.DeclaresAgainAlike φ) (hOthers : ∀ x, x ≠ c → φ x = x)
    (h : (Schema.ofDocument registry settings catalog d).outcome = .ok s)
    {first last : List ClassMapping} (hSplit : d.classes = first ++ c :: last)
    (hMapped : c.mappedTable = some name) :
    ∃ before t after js js', s.tables = before ++ t :: after ∧
      (d.blueprint registry catalog).Queues
        ((first.filter (·.mappedTable.isSome)).flatMap (·.associations)) js ∧
      ((d.blueprint registry catalog).table before .oneToOne c name js).outcome = .ok (t, js') ∧
      ∀ u, t.columnNames ⊆ u.columnNames →
        (((d.revise φ).blueprint registry catalog).table before .oneToOne (φ c) name js).outcome =
          .ok (u, js') →
        (Schema.ofDocument registry settings catalog (d.revise φ)).outcome =
          .ok ⟨s.name, before ++ u :: after⟩ := by
  obtain ⟨hSound, hLoaded, s₁, js, hClasses, hJunctions⟩ := Schema.ofDocument_eq_ok_iff.1 h
  obtain ⟨hBuilds, hQueues⟩ := Blueprint.builds_of_addClasses .nil .nil hClasses
  have hAll := Blueprint.builds_of_addJunctions hBuilds hJunctions
  have hc : c ∈ d.classes := hSplit ▸ List.mem_append_right _ List.mem_cons_self
  have hJunction : ∀ j ∈ js, φ j = j := fun j hj =>
    hOthers j (Schema.ne_of_junction hAll hQueues.isJunction hc hMapped j hj)
  -- the class stands among others, which stay as they are
  have hApart : c ∉ first ++ last := by
    have hNodup := (Document.structureProblems_eq_nil_iff.1 hSound).1.of_map
    rw [hSplit, List.nodup_middle] at hNodup
    exact (List.nodup_cons.1 hNodup).1
  have hSame : ∀ x ∈ first ++ last, φ x = x := fun x hx =>
    hOthers x fun hEq => hApart (hEq ▸ hx)
  have hFixed {xs : List ClassMapping} (h : ∀ x ∈ xs, φ x = x) : xs.map φ = xs :=
    (List.map_congr_left h).trans (List.map_id' xs)
  have hRevised : (d.revise φ).classes = first ++ φ c :: last := by
    rw [Document.revise, hSplit, List.map_append, List.map_cons,
      hFixed fun x hx => hSame x (List.mem_append_left _ hx),
      hFixed fun x hx => hSame x (List.mem_append_right _ hx)]
  -- the classes in front, the class itself and those behind it are built one after the other
  rw [hSplit] at hClasses
  obtain ⟨s₂, js₂, hFirst, hClasses⟩ := Blueprint.addClasses_append_eq_ok_iff.1 hClasses
  rcases Blueprint.addClasses_cons_eq_ok_iff.1 hClasses with
    ⟨hNone, -⟩ | ⟨name', t, js₃, s₃, hMapped', hTable, hAdd, hLast⟩
  · cases hNone.symm.trans hMapped
  cases hMapped'.symm.trans hMapped
  obtain rfl := Blueprint.eq_of_addTable hAdd
  -- those in front are the same as before
  obtain ⟨before, rfl, hFirst'⟩ := Blueprint.exists_addClasses_revise hφ hAgain
    (fun x hx => hSame x (List.mem_append_left _ hx)) hFirst
  -- those behind it and the junctions are added to whatever the class has made
  obtain ⟨after, rfl, hLast'⟩ := Blueprint.exists_addClasses_revise hφ hAgain
    (fun x hx => hSame x (List.mem_append_right _ hx)) hLast
  obtain ⟨joined, rfl, hJoined⟩ :=
    Blueprint.exists_addJunctions_revise hφ hAgain hJunction hJunctions
  have hQueued := (Blueprint.builds_of_addClasses .nil .nil hFirst).2
  refine ⟨before, t, after ++ joined, js₂, js₃, ?_, hQueued, hTable, fun u hSub hTable' => ?_⟩
  · simp
  · have hName : u.name = t.name :=
      (Blueprint.name_of_table hTable').trans (Blueprint.name_of_table hTable).symm
    -- the new table has the columns of the old one, which is all that the others ask for
    have hCovers : Table.Covers (before ++ [t]) (before ++ [u]) :=
      (Table.Covers.refl before).append (.cons ⟨hName, hSub⟩ .nil)
    have hClasses' : (((d.revise φ).blueprint registry catalog).addClasses
        ⟨given (some settings.schemaName), []⟩ [] (d.revise φ).classes).outcome =
          .ok (⟨given (some settings.schemaName), before ++ [u] ++ after⟩, js) := by
      rw [hRevised]
      refine Blueprint.addClasses_append_eq_ok_iff.2
        ⟨_, js₂, hFirst' ⟨given (some settings.schemaName), []⟩ .nil, ?_⟩
      refine Blueprint.addClasses_cons_eq_ok_iff.2 (Or.inr
        ⟨name, u, js₃, ⟨given (some settings.schemaName), before ++ [u]⟩,
          (hφ.mappedTable c).trans hMapped, hTable', ?_, hLast' _ hCovers⟩)
      exact Blueprint.outcome_addTable_of_covers (Table.Covers.refl before) hName hAdd
    have hJoined' := hJoined ⟨given (some settings.schemaName), before ++ [u] ++ after⟩
      (hCovers.append (.refl after))
    simp only [List.append_assoc, List.singleton_append] at hClasses' hJoined'
    exact Schema.ofDocument_eq_ok_iff.2
      ⟨hφ.structureProblems_revise d ▸ hSound, hLoaded, _, js, hClasses', hJoined'⟩

end Schema

end MappingDdl
