import MappingDdl.Proofs.Origin

/-!
# Integrity — keys and references of a schema

What every schema of a document keeps to, whatever the document says. A primary key consists of
exactly the identity columns. A foreign key goes from columns of its table to columns of a table of
the schema that was there when it was made: one built before, or the table itself. As a table only
grows afterwards, the columns on both sides are still there in the end
(`Table.Closed.of_grows`).

Main results:

* `Schema.primaryKey_eq_identity` — the primary key of every table.
* `Schema.references_closed` — the foreign keys and indexes of every table.
-/

namespace MappingDdl

namespace Blueprint

variable {b : Blueprint} {ts : List Table} {os : List Origin} {t : Table}

/-! ## Positions -/

/-- A table name stands at one position. -/
theorem Builds.position_eq (h : b.Builds ts os) {u : Table} {i j : Nat} (hi : ts[i]? = some t)
    (hj : ts[j]? = some u) (hName : t.name = u.name) : i = j := by
  have hAt : (ts.map (·.name))[i]? = some t.name := by
    rw [List.getElem?_map, hi]
    rfl
  have hAt' : (ts.map (·.name))[j]? = some u.name := by
    rw [List.getElem?_map, hj]
    rfl
  have hLength : i < (ts.map (·.name)).length := (List.getElem?_eq_some_iff.1 hAt).1
  exact (List.getElem?_inj hLength h.nodup_names).1 (hAt.trans (hName ▸ hAt'.symm))

/-- Every foreign key fits beside the tables that stand before its own. -/
theorem Builds.fits_of_foreignKey (h : b.Builds ts os) {i : Nat} (ht : ts[i]? = some t)
    {k : ForeignKey} (hk : k ∈ t.foreignKeys) : k.Fits (ts.take i) t := by
  obtain ⟨o, js, js', -, hTable⟩ := h.table_at ht
  exact (closed_of_table hTable).foreignKeys k hk

/-- What a foreign key refers to stands at its own table or before. -/
theorem Builds.target_of_foreignKey (h : b.Builds ts os) {i : Nat} (ht : ts[i]? = some t)
    {k : ForeignKey} (hk : k ∈ t.foreignKeys) :
    ∃ j ≤ i, ∃ u, ts[j]? = some u ∧ u.name = k.referenceTable ∧
      ∀ column ∈ k.referenceColumns, column ∈ u.columnNames := by
  obtain ⟨u, hMem, hName, hColumns⟩ := (h.fits_of_foreignKey ht hk).target
  -- the table itself, or one before it
  rcases List.mem_cons.1 hMem with rfl | hBefore
  · exact ⟨i, Nat.le_refl i, u, ht, hName, hColumns⟩
  · obtain ⟨j, hj⟩ := List.mem_iff_getElem?.1 hBefore
    have hLt : j < i := by
      have := (List.getElem?_eq_some_iff.1 hj).1
      rw [List.length_take] at this
      omega
    rw [List.getElem?_take_of_lt hLt] at hj
    exact ⟨j, Nat.le_of_lt hLt, u, hj, hName, hColumns⟩

/-- The table that a foreign key names has all columns that it refers to, and at least one. -/
theorem Builds.columns_of_target {s : Schema} (h : b.Builds s.tables os) (ht : t ∈ s.tables)
    {k : ForeignKey} (hk : k ∈ t.foreignKeys) {u : Table}
    (hu : s.table? k.referenceTable = some u) :
    k.referenceColumns ≠ [] ∧ ∀ column ∈ k.referenceColumns, column ∈ u.columnNames := by
  obtain ⟨i, hi⟩ := List.mem_iff_getElem?.1 ht
  have hFits := h.fits_of_foreignKey hi hk
  obtain ⟨j, -, u', hj, hName, hColumns⟩ := h.target_of_foreignKey hi hk
  -- names are distinct, so the table found by name is the one that the foreign key was made for
  have hFind : s.table? u'.name = some u' :=
    find?_of_nodup_map h.nodup_names (List.mem_of_getElem? hj)
  rw [hName] at hFind
  cases hu.symm.trans hFind
  refine ⟨fun hNone => hFits.nonempty ?_, hColumns⟩
  rw [← List.length_eq_zero_iff, hFits.parallel, hNone]
  rfl

end Blueprint

/-! ## Primary keys -/

section Schema

variable {registry : KeyGeneratorRegistry} {settings : Settings} {catalog : TypeCatalog}
  {d : Document} {s : Schema}

/-- **The primary key of a table is its identity.** It is named for the table, its columns are
distinct, and they are exactly the identity columns of the table. -/
theorem Schema.primaryKey_eq_identity
    (h : (Schema.ofDocument registry settings catalog d).outcome = .ok s)
    {t : Table} (ht : t ∈ s.tables) :
    ∃ key, t.primaryKey = some key ∧ key.name = "pk_" ++ t.name ∧ key.columns.Nodup ∧
      (∀ name, name ∈ key.columns ↔ ∃ c ∈ t.columns, c.name = name ∧ c.identity = true) ∧
      t.columnNames.Nodup := by
  obtain ⟨b, js, -, -, -, hBuilds⟩ := Schema.exists_builds_of_ofDocument h
  obtain ⟨o, -, built, js₀, js₁, -, hTable⟩ := hBuilds.exists_origin ht
  have hKeyed : t.Keyed := Blueprint.keyed_of_table hTable
  exact ⟨_, hKeyed.key, rfl, hKeyed.nodupKey, hKeyed.mem_key, hKeyed.nodupNames⟩

/-- The primary key of the notes of the sample, which have four columns. -/
theorem Schema.primaryKey_of_sample_note :
    ∃ s t key, Schema.ofSample.outcome = .ok s ∧ t ∈ s.tables ∧
      t.columnNames = ["no", "item_id", "next_no", "next_item"] ∧
      t.primaryKey = some key ∧ key.name = "pk_note" ∧ key.columns.Nodup ∧
      (∀ name, name ∈ key.columns ↔ ∃ c ∈ t.columns, c.name = name ∧ c.identity = true) := by
  obtain ⟨s, item, t, tags, hs, hTables, hName, hColumns, -⟩ := Schema.exists_ofSample
  have ht : t ∈ s.tables := by simp [hTables]
  obtain ⟨key, hKey, hKeyName, hNodup, hIdentity, -⟩ := Schema.primaryKey_eq_identity hs ht
  refine ⟨s, t, key, hs, ht, hColumns, hKey, ?_, hNodup, hIdentity⟩
  rw [hKeyName, hName]
  rfl

/-! ## Foreign keys and indexes -/

/-- **The references of a schema are closed.** A foreign key has two parallel lists: distinct
columns of its table, and columns of a table that stands at the same position or before, and at no
later one. An index has columns of its table, as the class of the table declares them. -/
theorem Schema.references_closed
    (h : (Schema.ofDocument registry settings catalog d).outcome = .ok s)
    {i : Nat} {t : Table} (ht : s.tables[i]? = some t) :
    (∀ k ∈ t.foreignKeys,
      k.columns ≠ [] ∧ k.columns.length = k.referenceColumns.length ∧
      k.columns.Nodup ∧ (∀ column ∈ k.columns, column ∈ t.columnNames) ∧
      (∃ j ≤ i, ∃ u, s.tables[j]? = some u ∧ u.name = k.referenceTable ∧
        ∀ column ∈ k.referenceColumns, column ∈ u.columnNames) ∧
      ∀ j u, s.tables[j]? = some u → u.name = k.referenceTable → j ≤ i) ∧
    ∀ (n : Nat) (x : Index), t.indexes[n]? = some x →
      (∀ column ∈ x.columns, column ∈ t.columnNames) ∧
      ∃ c ∈ d.classes, c.mappedTable = some t.name ∧
        ∃ declared, c.indexes[n]? = some declared ∧ x.columns = declared.columns := by
  obtain ⟨b, js, -, -, hSides, hBuilds⟩ := Schema.exists_builds_of_ofDocument h
  refine ⟨fun k hk => ?_, fun n x hx => ?_⟩
  · have hFits := hBuilds.fits_of_foreignKey ht hk
    have hTarget := hBuilds.target_of_foreignKey ht hk
    refine ⟨hFits.nonempty, hFits.parallel, hFits.nodup, hFits.columns, hTarget, ?_⟩
    -- the name stands at one position only, and that one is not later
    intro j u hu hName
    obtain ⟨j', hLe, u', hu', hName', -⟩ := hTarget
    rw [hBuilds.position_eq hu hu' (hName.trans hName'.symm)]
    exact hLe
  · obtain ⟨o, js₀, js₁, ho, hTable⟩ := hBuilds.table_at ht
    refine ⟨(Blueprint.closed_of_table hTable).indexes x (List.mem_of_getElem? hx), ?_⟩
    have hIndexes := Blueprint.indexes_of_table hTable
    -- a class without fields has no indexes, and neither has a junction
    have hDeclared : t.indexes = o.cls.indexes.map (·.index o.table) := by
      by_cases hFields : o.cls.fields = []
      · rw [hIndexes, if_pos hFields] at hx
        cases hx
      · rw [hIndexes, if_neg hFields]
    rw [hDeclared, List.getElem?_map, Option.map_eq_some_iff] at hx
    obtain ⟨declared, hAt, rfl⟩ := hx
    -- the table comes from its class, or from a junction
    rcases List.mem_append.1 (List.mem_of_getElem? ho) with hClass | hJunction
    · obtain ⟨-, hMem, hMapped⟩ := Origin.mem_ofClasses_iff.1 hClass
      have hName : t.name = o.table := Blueprint.name_of_table hTable
      exact ⟨o.cls, hMem, hName ▸ hMapped, declared, hAt, rfl⟩
    · obtain ⟨j, hj, rfl⟩ := List.mem_map.1 hJunction
      have hNone : (Origin.ofJunction j).cls.indexes = [] := (hSides j hj).indexes
      rw [hNone] at hAt
      cases hAt

/-- In the sample the junction of notes and items refers to the two tables before it. -/
theorem Schema.references_of_sample_junction :
    ∃ s t, Schema.ofSample.outcome = .ok s ∧ s.tables[2]? = some t ∧ t.foreignKeys.length = 2 ∧
      ∀ k ∈ t.foreignKeys, k.columns.length = k.referenceColumns.length ∧
        ∃ j ≤ 2, ∃ u, s.tables[j]? = some u ∧ u.name = k.referenceTable ∧
          ∀ column ∈ k.referenceColumns, column ∈ u.columnNames := by
  obtain ⟨s, item, note, t, hs, hTables, -, -, -, hKeys⟩ := Schema.exists_ofSample
  have ht : s.tables[2]? = some t := by simp [hTables]
  refine ⟨s, t, hs, ht, by rw [hKeys]; rfl, fun k hk => ?_⟩
  obtain ⟨-, hParallel, -, -, hTarget, -⟩ := (Schema.references_closed hs ht).1 k hk
  exact ⟨hParallel, hTarget⟩

end Schema

end MappingDdl
