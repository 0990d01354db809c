import Mathlib.Data.List.Nodup
import Mathlib.Data.List.Pairwise
import Mathlib.Logic.Relation
import MappingDdl.Schema

/-!
# Growing tables — the steps by which a table is built

A table starts empty, with an empty primary key. Columns are added to it, columns become part of
its primary key, foreign keys and indexes are put on columns that are there. Each of these is a
*step*. What holds of an empty table and is kept by every step holds of every table that is built
in steps, whatever mapping the steps come from.

* `Table.ColumnStep` — a step on columns, primary key or key generator. It keeps the foreign keys,
  the indexes, and every column name with its type.
* `Table.Step` — such a step, or the addition of a foreign key that fits or of an index on columns
  of the table.

Main results:

* `Table.Keyed.of_grows` — the primary key keeps consisting of exactly the identity columns, and
  column names stay distinct.
* `Table.Closed.of_grows` — foreign keys and indexes keep naming columns that are there.
* `Table.Grows.columnType?_eq` — a column that is there keeps its type.
-/

namespace MappingDdl

/-- What has a name of its own in a list is found under it. -/
theorem find?_of_nodup_map {α : Type} {name : α → String} {l : List α} {a : α}
    (hNodup : (l.map name).Nodup) (ha : a ∈ l) : l.find? (name · == name a) = some a := by
  cases hFound : l.find? (name · == name a) with
  | none =>
    rw [List.find?_eq_none] at hFound
    exact absurd (beq_self_eq_true (name a)) (hFound a ha)
  | some a' =>
    have hName : name a' = name a := by simpa using List.find?_some hFound
    have hMem : a' ∈ l := List.mem_of_find?_eq_some hFound
    exact congrArg some (List.inj_on_of_nodup_map hNodup hMem ha hName)

/-- What is put together without repetition came from one place each. -/
theorem eq_of_mem_flatMap {α β : Type} {f : α → List β} {l : List α} (h : (l.flatMap f).Nodup)
    {a a' : α} (ha : a ∈ l) (ha' : a' ∈ l) {x : β} (hx : x ∈ f a) (hx' : x ∈ f a') : a = a' := by
  have hSymm : Std.Symm (Function.onFun List.Disjoint f) := ⟨fun _ _ => List.disjoint_symm⟩
  by_contra hNe
  exact (List.nodup_flatMap.1 h).2.forall ha ha' hNe hx hx'

/-! ## Operations on primary keys -/

namespace PrimaryKey

@[simp] theorem name_insert (k : PrimaryKey) (column : String) :
    (k.insert column).name = k.name := by
  unfold insert
  split <;> rfl

/-- A key with one more column has the columns from before and this one. -/
@[simp] theorem mem_columns_insert {k : PrimaryKey} {column other : String} :
    other ∈ (k.insert column).columns ↔ other ∈ k.columns ∨ other = column := by
  unfold insert
  split
  -- a column that is in the key already is not entered again
  · next h =>
    have hMem : column ∈ k.columns := by simpa using h
    exact ⟨Or.inl, fun h => h.elim id fun he => he ▸ hMem⟩
  · simp

/-- No column is in a key twice. -/
theorem nodup_columns_insert {k : PrimaryKey} (column : String) (h : k.columns.Nodup) :
    (k.insert column).columns.Nodup := by
  unfold insert
  split
  · exact h
  · next hNot =>
    have hMem : column ∉ k.columns := by simpa using hNot
    rw [← List.concat_eq_append]
    exact h.concat hMem

end PrimaryKey

namespace Table

/-! ## Operations on tables -/

/-- The type of the column of a given name. -/
def columnType? (t : Table) (name : String) : Option ColumnType :=
  (t.column? name).map (·.type)

@[simp] theorem columnNames_addKeyColumn (t : Table) (name : String) :
    (t.addKeyColumn name).columnNames = t.columnNames := rfl

@[simp] theorem columnNames_setIdentity (t : Table) (name : String) (identity : Bool) :
    (t.setIdentity name identity).columnNames = t.columnNames := by
  simp only [columnNames, setIdentity, List.map_map]
  refine List.map_congr_left fun c _ => ?_
  simp only [Function.comp_apply]
  split <;> rfl

/-- The names are those of the columns. -/
theorem mem_columnNames_iff {t : Table} {name : String} :
    name ∈ t.columnNames ↔ ∃ c ∈ t.columns, c.name = name := by
  simp [columnNames]

/-- A column has a type if it is there. -/
theorem isSome_columnType?_iff {t : Table} {name : String} :
    (t.columnType? name).isSome ↔ name ∈ t.columnNames := by
  simp [columnType?, column?, columnNames]

/-- Where column names are distinct, a column is found under its name. -/
theorem columnType?_of_mem {t : Table} {c : Column} (hNodup : t.columnNames.Nodup)
    (hc : c ∈ t.columns) : t.columnType? c.name = some c.type := by
  rw [columnType?, column?, find?_of_nodup_map hNodup hc]
  rfl

/-- Columns of a table are found with their own types, where names are different. -/
theorem map_columnType? {t : Table} {cs : List Column} (hNodup : t.columnNames.Nodup)
    (hcs : ∀ c ∈ cs, c ∈ t.columns) :
    (cs.map (·.name)).map t.columnType? = (cs.map (·.type)).map some := by
  rw [List.map_map, List.map_map]
  exact List.map_congr_left fun c hc => columnType?_of_mem hNodup (hcs c hc)

/-- What adding a column does to everything but the columns. -/
theorem addColumn_eq_ok_iff {t t' : Table} {c : Column} :
    t.addColumn c = .ok t' ↔
      c.name ∉ t.columnNames ∧ t' = { t with columns := t.columns ++ [c] } := by
  unfold addColumn
  split
  · next h => simp_all
  · next h => simp_all [eq_comm]

/-- A column is found by its name as before, as an identity if it became one. -/
theorem column?_setIdentity (t : Table) (column name : String) (identity : Bool) :
    (t.setIdentity column identity).column? name =
      (t.column? name).map fun c => if c.name == column then { c with identity } else c := by
  simp only [setIdentity, column?, List.find?_map]
  congr 2
  funext c
  simp only [Function.comp_apply]
  split <;> rfl

/-- Becoming an identity changes no type. -/
theorem columnType?_setIdentity (t : Table) (column name : String) (identity : Bool) :
    (t.setIdentity column identity).columnType? name = t.columnType? name := by
  simp only [columnType?, column?_setIdentity, Option.map_map]
  congr 1
  funext c
  simp only [Function.comp_apply]
  split <;> rfl

/-- The columns are those from before, one of them as an identity. -/
theorem mem_columns_setIdentity {t : Table} {column : String} {c : Column} :
    c ∈ (t.setIdentity column true).columns ↔
      ∃ c' ∈ t.columns, c = if c'.name = column then { c' with identity := true } else c' := by
  simp only [setIdentity, List.mem_map, beq_iff_eq]
  exact ⟨fun ⟨c', hc', h⟩ => ⟨c', hc', h.symm⟩, fun ⟨c', hc', h⟩ => ⟨c', hc', h.symm⟩⟩

/-! ## Steps -/

/-- A step on the columns, the primary key or the key generator of a table. -/
inductive ColumnStep : Table → Table → Prop
  /-- A new column, which joins the primary key if it is an identity column. -/
  | column {t t' : Table} (c : Column) (h : t.addColumn c = .ok t') :
      ColumnStep t (if c.identity then t'.addKeyColumn c.name else t')
  /-- A column that is there becomes an identity column. -/
  | promote {t : Table} {name : String} (h : name ∈ t.columnNames) :
      ColumnStep t ((t.setIdentity name true).addKeyColumn name)
  | keyGenerator {t : Table} (g : Option KeyGenerator) : ColumnStep t { t with keyGenerator := g }

end Table

/-- What a foreign key needs to stand in a table beside the tables that are built already: two
parallel lists, one of distinct columns of the table, the other of columns of the table itself or
of one of the others. -/
structure ForeignKey.Fits (built : List Table) (t : Table) (k : ForeignKey) : Prop where
  nonempty : k.columns ≠ []
  parallel : k.columns.length = k.referenceColumns.length
  nodup    : k.columns.Nodup
  columns  : ∀ column ∈ k.columns, column ∈ t.columnNames
  target   : ∃ u ∈ t :: built, u.name = k.referenceTable ∧
               ∀ column ∈ k.referenceColumns, column ∈ u.columnNames

namespace Table

/-- A step of building a table beside the tables that are built already. -/
inductive Step (built : List Table) : Table → Table → Prop
  | columns {t t' : Table} (h : ColumnStep t t') : Step built t t'
  | foreignKey {t : Table} {k : ForeignKey} (h : k.Fits built t) : Step built t (t.addForeignKey k)
  | index {t : Table} {i : Index} (h : ∀ column ∈ i.columns, column ∈ t.columnNames) :
      Step built t (t.addIndex i)

/-- One table becomes the other by steps on columns. -/
abbrev ColumnsGrow : Table → Table → Prop :=
  Relation.ReflTransGen ColumnStep

/-- One table becomes the other by steps of building. -/
abbrev Grows (built : List Table) : Table → Table → Prop :=
  Relation.ReflTransGen (Step built)

/-- A table that only grows in its columns grows. -/
theorem ColumnsGrow.grows {built : List Table} {t t' : Table} (h : t.ColumnsGrow t') :
    t.Grows built t' :=
  Relation.ReflTransGen.mono (fun _ _ => Step.columns) _ _ h

/-! ## What no step changes -/

/-- A step keeps the name of the table. -/
theorem ColumnStep.name_eq {t t' : Table} (h : ColumnStep t t') : t'.name = t.name := by
  cases h with
  | column c hAdd =>
    obtain ⟨-, rfl⟩ := addColumn_eq_ok_iff.1 hAdd
    split <;> rfl
  | promote => rfl
  | keyGenerator => rfl

/-- A step with columns keeps the foreign keys and the indexes. -/
theorem ColumnStep.foreignKeys_eq {t t' : Table} (h : ColumnStep t t') :
    t'.foreignKeys = t.foreignKeys ∧ t'.indexes = t.indexes := by
  cases h with
  | column c hAdd =>
    obtain ⟨-, rfl⟩ := addColumn_eq_ok_iff.1 hAdd
    split <;> exact ⟨rfl, rfl⟩
  | promote => exact ⟨rfl, rfl⟩
  | keyGenerator => exact ⟨rfl, rfl⟩

/-- A step keeps the columns there are, with their types. -/
theorem ColumnStep.columnType?_eq {t t' : Table} (h : ColumnStep t t') {name : String}
    (hName : name ∈ t.columnNames) : t'.columnType? name = t.columnType? name := by
  cases h with
  | column c hAdd =>
    obtain ⟨-, rfl⟩ := addColumn_eq_ok_iff.1 hAdd
    -- the new column stands behind the others, where the search does not come
    have hFind : (t.columns ++ [c]).find? (·.name == name) = t.columns.find? (·.name == name) := by
      obtain ⟨c', hc', rfl⟩ := mem_columnNames_iff.1 hName
      have hSome : (t.columns.find? (·.name == c'.name)).isSome := by
        rw [List.find?_isSome]
        exact ⟨c', hc', by simp⟩
      rw [List.find?_append, Option.or_of_isSome hSome]
    split
    · exact congrArg (Option.map (·.type)) hFind
    · exact congrArg (Option.map (·.type)) hFind
  -- a promotion touches no type
  | promote => exact columnType?_setIdentity t _ name true
  | keyGenerator => rfl

/-- A table keeps its name as its columns grow. -/
theorem ColumnsGrow.name_eq {t t' : Table} (h : t.ColumnsGrow t') : t'.name = t.name := by
  induction h with
  | refl => rfl
  | tail _ hStep ih => rw [hStep.name_eq, ih]

/-- It keeps its foreign keys and its indexes. -/
theorem ColumnsGrow.foreignKeys_eq {t t' : Table} (h : t.ColumnsGrow t') :
    t'.foreignKeys = t.foreignKeys ∧ t'.indexes = t.indexes := by
  induction h with
  | refl => exact ⟨rfl, rfl⟩
  | tail _ hStep ih => exact ⟨hStep.foreignKeys_eq.1.trans ih.1, hStep.foreignKeys_eq.2.trans ih.2⟩

variable {built : List Table} {t t' : Table}

/-- Every step keeps the name of the table. -/
theorem Step.name_eq (h : Step built t t') : t'.name = t.name := by
  cases h with
  | columns h => exact h.name_eq
  | foreignKey => rfl
  | index => rfl

/-- Every step keeps the columns there are, with their types. -/
theorem Step.columnType?_eq (h : Step built t t') {name : String} (hName : name ∈ t.columnNames) :
    t'.columnType? name = t.columnType? name := by
  cases h with
  | columns h => exact h.columnType?_eq hName
  | foreignKey => rfl
  | index => rfl

/-- So no step loses a column. -/
theorem Step.subset_columnNames (h : Step built t t') : t.columnNames ⊆ t'.columnNames := by
  intro name hName
  rw [← isSome_columnType?_iff, h.columnType?_eq hName, isSome_columnType?_iff]
  exact hName

/-- A table keeps its name as it grows. -/
theorem Grows.name_eq (h : t.Grows built t') : t'.name = t.name := by
  induction h with
  | refl => rfl
  | tail _ hStep ih => rw [hStep.name_eq, ih]

/-- It loses no column. -/
theorem Grows.subset_columnNames (h : t.Grows built t') : t.columnNames ⊆ t'.columnNames := by
  induction h with
  | refl => exact List.Subset.refl _
  | tail _ hStep ih => exact List.Subset.trans ih hStep.subset_columnNames

/-- And no column gets another type. -/
theorem Grows.columnType?_eq (h : t.Grows built t') {name : String}
    (hName : name ∈ t.columnNames) : t'.columnType? name = t.columnType? name := by
  induction h with
  | refl => rfl
  | tail hGrow hStep ih =>
    -- the column is there after the steps in front, so that the last one keeps it too
    rw [hStep.columnType?_eq (Grows.subset_columnNames hGrow hName), ih]

/-! ## The primary key consists of the identity columns -/

/-- The primary key of a table is named for the table, has distinct columns, and consists of exactly
the identity columns; the names of all columns are distinct. -/
structure Keyed (t : Table) : Prop where
  key        : t.primaryKey = some ⟨"pk_" ++ t.name, t.keyColumns⟩
  nodupKey   : t.keyColumns.Nodup
  mem_key    : ∀ name, name ∈ t.keyColumns ↔ ∃ c ∈ t.columns, c.name = name ∧ c.identity = true
  nodupNames : t.columnNames.Nodup

/-- The columns of the primary key are in the table. -/
theorem Keyed.mem_columnNames (h : t.Keyed) :
    ∀ column ∈ t.keyColumns, column ∈ t.columnNames := by
  intro column hColumn
  obtain ⟨c, hc, hName, -⟩ := (h.mem_key column).1 hColumn
  exact List.mem_map.2 ⟨c, hc, hName⟩

/-- A table without columns, with an empty primary key. -/
theorem keyed_withPrimaryKey (name : String) : Keyed ({ name } : Table).withPrimaryKey where
  key := rfl
  nodupKey := List.nodup_nil
  mem_key := by simp [withPrimaryKey, keyColumns]
  nodupNames := List.nodup_nil

/-- A primary key that gets a column keeps its name. -/
theorem Keyed.primaryKey_addKeyColumn (h : t.Keyed) (name : String) :
    (t.addKeyColumn name).primaryKey =
      some ((⟨"pk_" ++ t.name, t.keyColumns⟩ : PrimaryKey).insert name) := by
  rw [addKeyColumn, h.key]
  rfl

/-- And its columns from before. -/
theorem Keyed.keyColumns_addKeyColumn (h : t.Keyed) (name : String) :
    (t.addKeyColumn name).keyColumns =
      ((⟨"pk_" ++ t.name, t.keyColumns⟩ : PrimaryKey).insert name).columns := by
  rw [keyColumns, h.primaryKey_addKeyColumn]
  rfl

/-- When a column joins the primary key, it is enough that exactly this column became an identity
column: the columns may have changed in any way that fits. -/
theorem Keyed.of_addKeyColumn {name : String} (h : t.Keyed) (cs : List Column)
    (hNodup : (cs.map (·.name)).Nodup)
    (hMem : ∀ other, (∃ c ∈ cs, c.name = other ∧ c.identity = true) ↔
      (∃ c ∈ t.columns, c.name = other ∧ c.identity = true) ∨ other = name) :
    Keyed { t.addKeyColumn name with columns := cs } := by
  have hKey : (t.addKeyColumn name).keyColumns =
      ({ t.addKeyColumn name with columns := cs } : Table).keyColumns := rfl
  refine ⟨?_, ?_, fun other => ?_, hNodup⟩
  -- the name of the key
  · rw [← hKey, h.keyColumns_addKeyColumn]
    refine (h.primaryKey_addKeyColumn name).trans (congrArg some ?_)
    exact congrArg (PrimaryKey.mk · _) (PrimaryKey.name_insert _ name)
  -- no column is in it twice
  · rw [← hKey, h.keyColumns_addKeyColumn]
    exact PrimaryKey.nodup_columns_insert name h.nodupKey
  -- its columns are the identity columns
  · rw [← hKey, h.keyColumns_addKeyColumn, PrimaryKey.mem_columns_insert, h.mem_key]
    exact (hMem other).symm

/-- A new column keeps the primary key and the identity in step. -/
theorem Keyed.of_column {c : Column} (hAdd : t.addColumn c = .ok t') (hKeyed : t.Keyed) :
    Keyed (if c.identity then t'.addKeyColumn c.name else t') := by
  have hNodup := nodup_columnNames_of_addColumn hAdd hKeyed.nodupNames
  obtain ⟨-, rfl⟩ := addColumn_eq_ok_iff.1 hAdd
  split
  · next hIdentity =>
    -- the key gains the name of the new column, and so do the identity columns
    refine hKeyed.of_addKeyColumn (t.columns ++ [c]) hNodup fun other => ?_
    simp only [List.mem_append, List.mem_singleton, or_and_right, exists_or, exists_eq_left,
      hIdentity, and_true]
    exact or_congr_right eq_comm
  -- a column that is no identity leaves both as they are
  · next hIdentity =>
    refine ⟨hKeyed.key, hKeyed.nodupKey, fun other => (hKeyed.mem_key other).trans ?_, hNodup⟩
    simp [or_and_right, exists_or, hIdentity]

/-- So does a column that becomes an identity. -/
theorem Keyed.of_promote {name : String} (hName : name ∈ t.columnNames) (hKeyed : t.Keyed) :
    Keyed ((t.setIdentity name true).addKeyColumn name) := by
  have hNodup : (t.setIdentity name true).columnNames.Nodup := by
    rw [columnNames_setIdentity]
    exact hKeyed.nodupNames
  refine hKeyed.of_addKeyColumn (t.setIdentity name true).columns hNodup fun other => ?_
  simp only [mem_columns_setIdentity]
  constructor
  · -- an identity column was one before, or it is the promoted one
    rintro ⟨_, ⟨c, hc, rfl⟩, rfl, hIdentity⟩
    by_cases hEq : c.name = name
    · exact Or.inr (by simp [hEq])
    · rw [if_neg hEq] at hIdentity
      exact Or.inl ⟨c, hc, by simp [hEq], hIdentity⟩
  -- and the other way round: those from before are still there, under their names
  · rintro (⟨c, hc, hOther, hIdentity⟩ | rfl)
    · refine ⟨_, ⟨c, hc, rfl⟩, ?_⟩
      split <;> simp [hOther, hIdentity]
    · obtain ⟨c, hc, hEq⟩ := mem_columnNames_iff.1 hName
      exact ⟨_, ⟨c, hc, rfl⟩, by simp [hEq]⟩

/-- So does every step with columns. -/
theorem Keyed.of_columnStep (h : ColumnStep t t') (hKeyed : t.Keyed) : t'.Keyed := by
  cases h with
  | column c hAdd => exact hKeyed.of_column hAdd
  | promote hName => exact hKeyed.of_promote hName
  | keyGenerator => exact ⟨hKeyed.key, hKeyed.nodupKey, hKeyed.mem_key, hKeyed.nodupNames⟩

/-- And every other step, since it does not touch them. -/
theorem Keyed.of_step (h : Step built t t') (hKeyed : t.Keyed) : t'.Keyed := by
  cases h with
  | columns h => exact hKeyed.of_columnStep h
  | foreignKey => exact ⟨hKeyed.key, hKeyed.nodupKey, hKeyed.mem_key, hKeyed.nodupNames⟩
  | index => exact ⟨hKeyed.key, hKeyed.nodupKey, hKeyed.mem_key, hKeyed.nodupNames⟩

/-- Every table built in steps from a keyed one is keyed. -/
theorem Keyed.of_grows (h : t.Grows built t') (hKeyed : t.Keyed) : t'.Keyed := by
  induction h with
  | refl => exact hKeyed
  | tail _ hStep ih => exact ih.of_step hStep

/-- Primary key and identity stay in step as the columns grow. -/
theorem Keyed.of_columnsGrow (h : t.ColumnsGrow t') (hKeyed : t.Keyed) : t'.Keyed :=
  hKeyed.of_grows (h.grows : t.Grows [] t')

/-- The primary key lists the identity columns in the order of the table. -/
def KeyInOrder (t : Table) : Prop :=
  t.keyColumns = t.identityColumns.map (·.name)

/-- A new column keeps the order of the primary key. A promoted one need not: it may stand before
other identity columns. -/
theorem KeyInOrder.of_column {c : Column} (hAdd : t.addColumn c = .ok t') (hKeyed : t.Keyed)
    (hOrder : t.KeyInOrder) : KeyInOrder (if c.identity then t'.addKeyColumn c.name else t') := by
  obtain ⟨hNew, rfl⟩ := addColumn_eq_ok_iff.1 hAdd
  -- the key consists of columns that are there, so the new one goes to its end
  have hAbsent : c.name ∉ t.keyColumns := by
    rw [hKeyed.mem_key]
    rintro ⟨c', hc', hName, -⟩
    exact hNew (mem_columnNames_iff.2 ⟨c', hc', hName⟩)
  unfold KeyInOrder identityColumns at *
  split
  -- an identity column goes to the end of both
  · next hIdentity =>
    refine (hKeyed.keyColumns_addKeyColumn c.name).trans ?_
    rw [PrimaryKey.insert, if_neg (by simpa using hAbsent)]
    simp [hOrder, addKeyColumn, hIdentity]
  -- another one to the end of neither
  · next hIdentity =>
    refine hOrder.trans ?_
    simp [hIdentity]

/-! ## Foreign keys and indexes name columns that are there -/

/-- All foreign keys of the table fit, and its indexes are on columns of the table. -/
structure Closed (built : List Table) (t : Table) : Prop where
  foreignKeys : ∀ k ∈ t.foreignKeys, k.Fits built t
  indexes     : ∀ i ∈ t.indexes, ∀ column ∈ i.columns, column ∈ t.columnNames

/-- A new table refers to nothing. -/
theorem closed_withPrimaryKey (built : List Table) (name : String) :
    Closed built ({ name } : Table).withPrimaryKey where
  foreignKeys := by simp [withPrimaryKey]
  indexes := by simp [withPrimaryKey]

end Table

/-- A foreign key that fits keeps fitting while its table grows. -/
theorem ForeignKey.Fits.of_step {built : List Table} {t t' : Table} {k : ForeignKey}
    (hFits : k.Fits built t) (h : t.Step built t') : k.Fits built t' where
  nonempty := hFits.nonempty
  parallel := hFits.parallel
  nodup := hFits.nodup
  columns := fun column hColumn => h.subset_columnNames (hFits.columns column hColumn)
  target := by
    obtain ⟨u, hMem, hName, hColumns⟩ := hFits.target
    rcases List.mem_cons.1 hMem with rfl | hBuilt
    · -- a reference of the table to itself follows it
      exact ⟨t', List.mem_cons_self, h.name_eq.trans hName,
        fun column hColumn => h.subset_columnNames (hColumns column hColumn)⟩
    · exact ⟨u, List.mem_cons_of_mem _ hBuilt, hName, hColumns⟩

namespace Table

variable {built : List Table} {t t' : Table}

/-- A step makes no reference dangle, neither one from before nor its own. -/
theorem Closed.of_step (h : Step built t t') (hClosed : t.Closed built) : t'.Closed built := by
  have hKept : ∀ k ∈ t.foreignKeys, k.Fits built t' :=
    fun k hk => (hClosed.foreignKeys k hk).of_step h
  have hNames := h.subset_columnNames
  cases h with
  -- what was referred to is still there, among more columns
  | columns h =>
    obtain ⟨hForeignKeys, hIndexes⟩ := h.foreignKeys_eq
    exact ⟨hForeignKeys ▸ hKept, hIndexes ▸ fun i hi column hColumn =>
      hNames (hClosed.indexes i hi column hColumn)⟩
  -- a foreign key is only added where it fits
  | foreignKey hFits =>
    refine ⟨fun k hk => ?_, hClosed.indexes⟩
    rcases List.mem_append.1 hk with hOld | hNew
    · exact hKept k hOld
    · rw [List.mem_singleton.1 hNew]
      exact hFits.of_step (.foreignKey hFits)
  -- an index is only added for columns that are there
  | index hColumns =>
    refine ⟨hKept, fun i hi => ?_⟩
    rcases List.mem_append.1 hi with hOld | hNew
    · exact hClosed.indexes i hOld
    · rw [List.mem_singleton.1 hNew]
      exact hColumns

/-- Every table built in steps from a closed one is closed. -/
theorem Closed.of_grows (h : t.Grows built t') (hClosed : t.Closed built) : t'.Closed built := by
  induction h with
  | refl => exact hClosed
  | tail _ hStep ih => exact ih.of_step hStep

end Table

end MappingDdl
