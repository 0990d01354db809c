import MappingDdl.Proofs.Integrity
import MappingDdl.Proofs.Sequences

/-!
# Define before use — the order of the statements of a script

A script can be run from top to bottom: a table is created before anything is added to it, and a
foreign key is declared after the table and the primary key that it refers to.

Both groupings keep one rule (`Plan.pairwise_arranged`): of two statements the later one is about a
later table, or it does not rank lower, where statements rank in the order in which a table is
dropped, created and completed. So a statement of lower rank about the same table or an earlier one
stands before (`lt_of_rank_lt`). It remains to know that the statement which defines something is
there at all, and, for foreign keys, that they never refer to a later table
(`Blueprint.Builds.target_of_foreignKey`).

Main result: `Schema.script_defines_before_use`.
-/

namespace MappingDdl

/-- What has a name of its own in a list is all that is left under it. -/
theorem filter_of_nodup_map {α : Type} {name : α → String} {l : List α} {a : α}
    (hNodup : (l.map name).Nodup) (ha : a ∈ l) : l.filter (name · == name a) = [a] := by
  induction l with
  | nil => cases ha
  | cons b rest ih =>
    obtain ⟨hNew, hRest⟩ := List.nodup_cons.1 hNodup
    rcases List.mem_cons.1 ha with rfl | hMem
    -- the element itself, and no other one of its name behind it
    · have hOthers : ∀ c ∈ rest, ¬ (name c == name a) = true := fun c hc hEq =>
        hNew (List.mem_map.2 ⟨c, hc, by simpa using hEq⟩)
      rw [List.filter_cons_of_pos (by simp), List.filter_eq_nil_iff.2 hOthers]
    -- one behind the first, which has another name
    · have hOther : ¬ name b = name a := fun hEq => hNew (List.mem_map.2 ⟨a, hMem, hEq.symm⟩)
      rw [List.filter_cons_of_neg (by simpa using hOther), ih hRest hMem]

/-! ## The rank of a statement -/

/-- The place of a kind in the order of kinds. -/
def StatementKind.rank (k : StatementKind) : Nat :=
  (StatementKind.schema :: StatementKind.ofTables).idxOf k

namespace Statement

/-- The place of a statement among those about one table: by its kind, and defaults after the
sequence that they use. -/
def rank (x : Statement) : Nat :=
  2 * x.kind.rank + match x with
    | setDefault _ _ _ => 1
    | _ => 0

/-- The table that a statement is about. -/
def table? : Statement → Option String
  | createSchema _ | setSearchPath _ => none
  | createTable t => some t.name
  | dropTable table | addPrimaryKey table _ | addForeignKey table _ | createIndex table _
  | createSequence table _ | setDefault table _ _ => some table

/-- The position of the table that a statement is about. -/
def position (names : List String) (x : Statement) : Nat :=
  (x.table?.map (names.idxOf ·)).getD 0

/-- Whether a statement creates the table of a given name. -/
def creates (name : String) : Statement → Bool
  | createTable t => t.name == name
  | _ => false

/-- The table to which a statement adds a key, an index or a default. -/
def altered? : Statement → Option String
  | addPrimaryKey table _ | addForeignKey table _ | createIndex table _
  | setDefault table _ _ => some table
  | _ => none

/-- Whether a statement declares the primary key of a table: on its own, or, in MySQL, inside the
table that it creates. -/
def DeclaresKey (fl : Flavor) (t : Table) : Statement → Prop
  | addPrimaryKey table key => table = t.name ∧ t.primaryKey = some key
  | createTable u => u = t ∧ t.KeyInside fl
  | _ => False

/-- Statements `xs` define the tables `ts`, and what one of them uses is defined before it. -/
structure DefineBeforeUse (fl : Flavor) (ts : List Table) (xs : List Statement) : Prop where
  /-- Each table is created once. -/
  created : ∀ t ∈ ts, xs.filter (·.creates t.name) = [.createTable t]
  /-- A table is not dropped any more once it is created. -/
  dropped : ∀ (t : Table) (i j : Nat), xs[i]? = some (.createTable t) →
    xs[j]? = some (.dropTable t.name) → j < i
  /-- Keys, indexes and defaults are added to a table that was created. -/
  altered : ∀ (j : Nat) (x : Statement) (name : String), xs[j]? = some x →
    x.altered? = some name → ∃ t ∈ ts, t.name = name ∧ ∃ i < j, xs[i]? = some (.createTable t)
  /-- A foreign key refers to a table that was created, and its primary key was declared unless it
  is empty. It is not declared any more later. -/
  referenced : ∀ (j : Nat) (name : String) (k : ForeignKey),
    xs[j]? = some (.addForeignKey name k) →
    ∃ t ∈ ts, t.name = k.referenceTable ∧ (∃ i < j, xs[i]? = some (.createTable t)) ∧
      (t.keyColumns ≠ [] → ∃ i < j, ∃ x, xs[i]? = some x ∧ x.DeclaresKey fl t) ∧
      ∀ (i : Nat) (x : Statement), xs[i]? = some x → x.DeclaresKey fl t → i < j
  /-- A default uses a sequence that was created. -/
  sequenced : ∀ (j : Nat) (name column : String) (g : KeyGenerator),
    xs[j]? = some (.setDefault name column g) → ∃ i < j, xs[i]? = some (.createSequence name g)

/-- Statements of an earlier kind rank lower. -/
theorem rank_lt_of_kind {a b : Statement} (h : a.kind.rank < b.kind.rank) : a.rank < b.rank := by
  unfold rank
  split <;> split <;> omega

/-- The statements about the schema itself rank lowest. -/
theorem rank_of_kind_schema {x : Statement} (h : x.kind = .schema) : x.rank = 0 := by
  cases x with
  | createSchema => rfl
  | setSearchPath => rfl
  | _ => cases h

/-- Of two statements in the order of a script, the second one is about a later table or does not
rank lower. -/
def InOrder (names : List String) (a b : Statement) : Prop :=
  a.position names < b.position names ∨ a.rank ≤ b.rank

/-- What alters a table is about this table. -/
theorem table?_of_altered? {x : Statement} {name : String} (h : x.altered? = some name) :
    x.table? = some name := by
  cases x with
  | addPrimaryKey => exact h
  | addForeignKey => exact h
  | createIndex => exact h
  | setDefault => exact h
  | _ => cases h

/-- A table is created before anything is added to it. -/
theorem create_lt_of_altered? {x : Statement} {name : String} (h : x.altered? = some name) :
    StatementKind.rank .create < x.kind.rank := by
  have hLater : ∀ k ∈ [StatementKind.primaryKey, .foreignKey, .index, .keyGenerator],
      StatementKind.rank .create < k.rank := by decide
  cases x with
  | addPrimaryKey => exact hLater .primaryKey (by decide)
  | addForeignKey => exact hLater .foreignKey (by decide)
  | createIndex => exact hLater .index (by decide)
  | setDefault => exact hLater .keyGenerator (by decide)
  | _ => cases h

/-- The key of a table is declared by a statement about it, before any foreign key. -/
theorem table?_of_declaresKey {fl : Flavor} {t : Table} {x : Statement} (h : x.DeclaresKey fl t) :
    x.table? = some t.name ∧ x.kind.rank < StatementKind.rank .foreignKey := by
  cases x with
  | addPrimaryKey table key =>
    obtain ⟨rfl, -⟩ := h
    exact ⟨rfl, show StatementKind.rank .primaryKey < StatementKind.rank .foreignKey by decide⟩
  | createTable u =>
    obtain ⟨rfl, -⟩ := h
    exact ⟨rfl, show StatementKind.rank .create < StatementKind.rank .foreignKey by decide⟩
  | _ => cases h

/-- What ranks lower, and is not about a later table, stands before. -/
theorem lt_of_rank_lt {names : List String} {xs : List Statement}
    (hOrder : xs.Pairwise (InOrder names)) {i j : Nat} {a b : Statement} (hi : xs[i]? = some a)
    (hj : xs[j]? = some b) (hPosition : a.position names ≤ b.position names)
    (hRank : a.rank < b.rank) : i < j := by
  -- both positions are inside of the script
  obtain ⟨hLtI, rfl⟩ := List.getElem?_eq_some_iff.1 hi
  obtain ⟨hLtJ, rfl⟩ := List.getElem?_eq_some_iff.1 hj
  rcases Nat.lt_trichotomy i j with h | rfl | h
  · exact h
  · exact absurd hRank (Nat.lt_irrefl _)
  · -- the other way round the two would break the order
    rcases List.pairwise_iff_getElem.1 hOrder j i hLtJ hLtI h with hBefore | hLe
    · omega
    · omega

end Statement

open Statement

/-! ## The statements of a table -/

namespace Flavor

variable {fl : Flavor} {t : Table} {k : StatementKind} {x : Statement}

/-- A key has a statement of its own if it is not empty and not declared inside the table. -/
theorem mem_keyStatements_iff :
    x ∈ fl.keyStatements t ↔ ∃ key, t.primaryKey = some key ∧ key.columns ≠ [] ∧
      ¬ t.KeyInside fl ∧ x = .addPrimaryKey t.name key := by
  rw [Table.keyInside_iff]
  unfold keyStatements
  cases hKey : t.primaryKey with
  | none => simp
  | some key =>
    by_cases hEmpty : key.columns = [] <;> by_cases hInline : fl = .mysql ∧ t.hasInlineKey = true
    all_goals simp_all

/-- Every statement for a table is about this table. -/
theorem table?_of_mem_tableStatements (h : x ∈ fl.tableStatements t k) :
    x.table? = some t.name := by
  cases k with
  | schema => cases h
  | drop => exact List.mem_singleton.1 h ▸ rfl
  | create => exact List.mem_singleton.1 h ▸ rfl
  -- a primary key that is declared on its own
  | primaryKey =>
    obtain ⟨key, -, -, -, rfl⟩ := mem_keyStatements_iff.1 h
    rfl
  -- one statement for each foreign key, and one for each index
  | foreignKey =>
    obtain ⟨key, -, rfl⟩ := List.mem_map.1 h
    rfl
  | index =>
    obtain ⟨i, -, rfl⟩ := List.mem_map.1 h
    rfl
  -- a sequence, or a default that takes its next value
  | keyGenerator =>
    obtain ⟨g, -, -, h⟩ := mem_tableStatements_keyGenerator_iff.1 h
    obtain ⟨-, rfl | ⟨-, c, -, rfl⟩⟩ := mem_generatorStatements_iff.1 h <;> rfl

/-- The statements of one kind for a table stand in the order of their ranks. -/
theorem pairwise_rank_tableStatements (fl : Flavor) (t : Table) (k : StatementKind) :
    (fl.tableStatements t k).Pairwise fun a b => a.rank ≤ b.rank := by
  cases k with
  | schema => exact List.Pairwise.nil
  | drop => exact List.pairwise_singleton _ _
  | create => exact List.pairwise_singleton _ _
  -- no more than one declaration of the key
  | primaryKey =>
    simp only [tableStatements, keyStatements]
    split
    · exact List.Pairwise.nil
    · split
      · exact List.Pairwise.nil
      · exact List.pairwise_singleton _ _
  -- all statements of these two kinds have the same rank
  | foreignKey => exact List.pairwise_map.2 (List.pairwise_of_forall fun _ _ => Nat.le_refl _)
  | index => exact List.pairwise_map.2 (List.pairwise_of_forall fun _ _ => Nat.le_refl _)
  | keyGenerator =>
    simp only [tableStatements, generatorStatements]
    split
    · exact List.Pairwise.nil
    · split
      · exact List.Pairwise.nil
      · split
        · -- the sequence first, then the defaults that use it
          refine List.pairwise_cons.2 ⟨fun x hx => ?_,
            List.pairwise_map.2 (List.pairwise_of_forall fun _ _ => Nat.le_refl _)⟩
          obtain ⟨c, -, rfl⟩ := List.mem_map.1 hx
          exact Nat.le_succ _
        · exact List.pairwise_singleton _ _
        · exact List.Pairwise.nil

end Flavor

/-! ## The order of a plan -/

namespace Plan

variable {fl : Flavor} {g : Grouping} {ks : List StatementKind} {ts : List Table}

/-- The kinds of a table's statements are listed by rank. -/
theorem pairwise_rank_ofTables :
    StatementKind.ofTables.Pairwise fun k l => k.rank < l.rank := by
  decide

/-- A table is found under its name where it stands. -/
theorem idxOf_name (hNodup : (ts.map (·.name)).Nodup) {i : Nat} {t : Table}
    (ht : ts[i]? = some t) : (ts.map (·.name)).idxOf t.name = i := by
  obtain ⟨hi, rfl⟩ := List.getElem?_eq_some_iff.1 ht
  have hAt := hNodup.idxOf_getElem i (by simpa using hi)
  rwa [List.getElem_map] at hAt

/-- Tables stand in the order in which their names are found. -/
theorem pairwise_position (hNodup : (ts.map (·.name)).Nodup) :
    ts.Pairwise fun t u => (ts.map (·.name)).idxOf t.name < (ts.map (·.name)).idxOf u.name := by
  refine List.pairwise_iff_getElem.2 fun i j hi hj hLt => ?_
  rw [idxOf_name hNodup (List.getElem?_eq_getElem hi),
    idxOf_name hNodup (List.getElem?_eq_getElem hj)]
  exact hLt

/-- A statement for a table has the position of this table. -/
theorem position_of_mem {names : List String} {t : Table} {k : StatementKind} {x : Statement}
    (h : x ∈ fl.tableStatements t k) : x.position names = names.idxOf t.name := by
  rw [position, Flavor.table?_of_mem_tableStatements h]
  rfl

/-- Under both groupings the statements of tables stand in order. -/
theorem pairwise_arranged (fl : Flavor) (g : Grouping)
    (hKinds : ks.Pairwise fun k l => k.rank < l.rank) (hNodup : (ts.map (·.name)).Nodup) :
    (arranged fl ks ts g).Pairwise (InOrder (ts.map (·.name))) := by
  have hTables := pairwise_position hNodup
  -- statements of one table and kind, of two kinds, and of two tables
  have hOne (t : Table) (k : StatementKind) :
      (fl.tableStatements t k).Pairwise (InOrder (ts.map (·.name))) :=
    (fl.pairwise_rank_tableStatements t k).imp Or.inr
  -- a kind that ranks lower stands before, whatever the tables are
  have hAcross {t u : Table} {k l : StatementKind} (hLt : k.rank < l.rank) :
      ∀ x ∈ fl.tableStatements t k, ∀ y ∈ fl.tableStatements u l,
        InOrder (ts.map (·.name)) x y := by
    intro x hx y hy
    refine Or.inr (Nat.le_of_lt (rank_lt_of_kind ?_))
    rwa [Flavor.kind_of_mem_tableStatements hx, Flavor.kind_of_mem_tableStatements hy]
  -- an earlier table stands before, whatever the kinds are
  have hAlong {t u : Table} {k l : StatementKind}
      (hLt : (ts.map (·.name)).idxOf t.name < (ts.map (·.name)).idxOf u.name) :
      ∀ x ∈ fl.tableStatements t k, ∀ y ∈ fl.tableStatements u l,
        InOrder (ts.map (·.name)) x y := by
    intro x hx y hy
    refine Or.inl ?_
    rwa [position_of_mem hx, position_of_mem hy]
  -- the outer list gives one half of the order, the inner lists the other one
  cases g with
  | byTable =>
    refine List.pairwise_flatMap.2 ⟨fun t _ => ?_, hTables.imp fun hLt x hx y hy => ?_⟩
    · exact List.pairwise_flatMap.2 ⟨fun k _ => hOne t k, hKinds.imp fun hLt => hAcross hLt⟩
    · obtain ⟨k, -, hx⟩ := List.mem_flatMap.1 hx
      obtain ⟨l, -, hy⟩ := List.mem_flatMap.1 hy
      exact hAlong hLt x hx y hy
  | byKind =>
    refine List.pairwise_flatMap.2 ⟨fun k _ => ?_, hKinds.imp fun hLt x hx y hy => ?_⟩
    · exact List.pairwise_flatMap.2 ⟨fun t _ => hOne t k, hTables.imp fun hLt => hAlong hLt⟩
    · obtain ⟨t, -, hx⟩ := List.mem_flatMap.1 hx
      obtain ⟨u, -, hy⟩ := List.mem_flatMap.1 hy
      exact hAcross hLt x hx y hy

/-! ## All statements of a schema -/

section All

variable {s : Schema} {t : Table} {x : Statement} {on : Toggles}

/-- With all kinds of statements, those of each kind of a table are arranged. -/
theorem statements_all (fl : Flavor) (g : Grouping) (s : Schema) :
    statements (ofSchema fl {} g s) =
      ownStatements fl {} s ++ arranged fl StatementKind.ofTables s.tables g :=
  statements_ofSchema fl {} g s

/-- A statement that is not the schema's own is one of a table. -/
theorem exists_table_of_mem (hx : x ∈ statements (ofSchema fl on g s)) (hKind : x.kind ≠ .schema) :
    ∃ t ∈ s.tables, x ∈ fl.tableStatements t x.kind := by
  rw [statements_ofSchema] at hx
  rcases List.mem_append.1 hx with hx | hx
  · exact absurd (kind_of_mem_ownStatements hx) hKind
  · obtain ⟨t, ht, k, -, hx⟩ := mem_arranged_iff.1 hx
    have hSame : x.kind = k := Flavor.kind_of_mem_tableStatements hx
    exact ⟨t, ht, hSame ▸ hx⟩

/-- Where tables have different names, a statement about a table is one of this table. -/
theorem mem_tableStatements_of_table? (hNodup : (s.tables.map (·.name)).Nodup) (ht : t ∈ s.tables)
    (hx : x ∈ statements (ofSchema fl on g s)) (hKind : x.kind ≠ .schema)
    (hTable : x.table? = some t.name) : x ∈ fl.tableStatements t x.kind := by
  obtain ⟨u, hu, hMem⟩ := exists_table_of_mem hx hKind
  have hName : some u.name = some t.name :=
    (Flavor.table?_of_mem_tableStatements hMem).symm.trans hTable
  rwa [List.inj_on_of_nodup_map hNodup hu ht (Option.some.inj hName)] at hMem

/-- A statement of any kind for a table of the schema is in the script. -/
theorem mem_statements_of_mem_tableStatements {k : StatementKind} (ht : t ∈ s.tables)
    (hk : k ∈ StatementKind.ofTables) (hx : x ∈ fl.tableStatements t k) :
    x ∈ statements (ofSchema fl {} g s) := by
  rw [statements_all]
  exact List.mem_append_right _ (mem_arranged_iff.2 ⟨t, ht, k, hk, hx⟩)

/-- The statements of a script stand in order. -/
theorem pairwise_statements (fl : Flavor) (g : Grouping)
    (hNodup : (s.tables.map (·.name)).Nodup) :
    (statements (ofSchema fl {} g s)).Pairwise (InOrder (s.tables.map (·.name))) := by
  -- the schema's own statements rank below all others
  have hFirst : ∀ x ∈ ownStatements fl {} s, ∀ y, InOrder (s.tables.map (·.name)) x y :=
    fun x hx y => Or.inr (rank_of_kind_schema (kind_of_mem_ownStatements hx) ▸ Nat.zero_le _)
  rw [statements_all]
  refine List.pairwise_append.2 ⟨?_, pairwise_arranged fl g pairwise_rank_ofTables hNodup,
    fun x hx y _ => hFirst x hx y⟩
  exact List.pairwise_iff_getElem.2 fun i j hi hj _ => hFirst _ (List.getElem_mem hi) _

/-- The statements of one kind about a table are those of this table, in their order. -/
theorem filter_about (hNodup : (s.tables.map (·.name)).Nodup) (ht : t ∈ s.tables)
    {k : StatementKind} (hk : k ∈ StatementKind.ofTables) (hOn : on.allows k = true) :
    (statements (ofSchema fl on g s)).filter
        (fun x => x.table? == some t.name && decide (x.kind = k)) = fl.tableStatements t k := by
  -- of one kind, a table has its own statements only
  have hOne (u : Table) : (fl.tableStatements u k).filter (·.table? == some t.name) =
      if u.name == t.name then fl.tableStatements u k else [] := by
    have hAll : ∀ x ∈ fl.tableStatements u k,
        (x.table? == some t.name) = (u.name == t.name) := fun x hx => by
      rw [Flavor.table?_of_mem_tableStatements hx, Option.some_beq_some]
    rw [List.filter_congr hAll]
    cases u.name == t.name <;> simp
  -- so they are left when the others are taken away
  rw [← List.filter_filter, filter_kind_statements hk, if_pos hOn, List.filter_flatMap]
  simp only [hOne, ← flatMap_filter]
  rw [filter_of_nodup_map hNodup ht, List.flatMap_singleton]

/-- Of the statements that create a table, one is about each table. -/
theorem filter_creates (hNodup : (s.tables.map (·.name)).Nodup) (ht : t ∈ s.tables) :
    (statements (ofSchema fl {} g s)).filter (·.creates t.name) = [.createTable t] := by
  have hCreates : ∀ x ∈ statements (ofSchema fl {} g s), x.creates t.name =
      (x.table? == some t.name && decide (x.kind = .create)) := fun x _ => by
    cases x <;> simp [creates, table?, kind]
  rw [List.filter_congr hCreates, filter_about hNodup ht (by decide) rfl]
  rfl

section Order

variable (hNodup : (s.tables.map (·.name)).Nodup) {j : Nat}

include hNodup

/-- A statement of an earlier kind, for the same table or an earlier one, stands before. -/
theorem exists_lt_of_kind {k l : StatementKind} {u : Table} {a : Statement}
    (hj : (statements (ofSchema fl {} g s))[j]? = some x) (hx : x ∈ fl.tableStatements t k)
    (hu : u ∈ s.tables) (ha : a ∈ fl.tableStatements u l) (hl : l ∈ StatementKind.ofTables)
    (hKind : l.rank < k.rank)
    (hTable : (s.tables.map (·.name)).idxOf u.name ≤ (s.tables.map (·.name)).idxOf t.name) :
    ∃ i < j, (statements (ofSchema fl {} g s))[i]? = some a := by
  have hMem : a ∈ statements (ofSchema fl {} g s) :=
    mem_statements_of_mem_tableStatements hu hl ha
  obtain ⟨i, hi⟩ := List.mem_iff_getElem?.1 hMem
  refine ⟨i, lt_of_rank_lt (pairwise_statements fl g hNodup) hi hj ?_ (rank_lt_of_kind ?_), hi⟩
  · rwa [position_of_mem ha, position_of_mem hx]
  · rwa [Flavor.kind_of_mem_tableStatements ha, Flavor.kind_of_mem_tableStatements hx]

/-- Before anything is added to a table, it is created. -/
theorem exists_created_of_altered {name : String}
    (hj : (statements (ofSchema fl {} g s))[j]? = some x) (hx : x.altered? = some name) :
    ∃ t ∈ s.tables, t.name = name ∧
      ∃ i < j, (statements (ofSchema fl {} g s))[i]? = some (.createTable t) := by
  -- what is added ranks behind the creation
  have hLater := create_lt_of_altered? hx
  have hKind : x.kind ≠ .schema := fun hSchema => by
    rw [hSchema] at hLater
    exact absurd hLater (by decide)
  -- the statement is one of a table, which is created as well
  obtain ⟨t, ht, hMem⟩ := exists_table_of_mem (List.mem_of_getElem? hj) hKind
  have hName : some t.name = some name :=
    (Flavor.table?_of_mem_tableStatements hMem).symm.trans (table?_of_altered? hx)
  exact ⟨t, ht, Option.some.inj hName, exists_lt_of_kind hNodup hj hMem ht
    (List.mem_singleton_self _) (by decide) hLater (Nat.le_refl _)⟩

/-- Before a foreign key is declared, the table that it refers to is created and the primary key of
this table is declared, and not after it. -/
theorem exists_declared_of_foreignKey
    (hTarget : ∀ (i : Nat) (t : Table), s.tables[i]? = some t → ∀ k ∈ t.foreignKeys,
      ∃ j ≤ i, ∃ u, s.tables[j]? = some u ∧ u.name = k.referenceTable)
    {name : String} {k : ForeignKey}
    (hj : (statements (ofSchema fl {} g s))[j]? = some (.addForeignKey name k)) :
    ∃ u ∈ s.tables, u.name = k.referenceTable ∧
      (∃ i < j, (statements (ofSchema fl {} g s))[i]? = some (.createTable u)) ∧
      (u.keyColumns ≠ [] → ∃ i < j, ∃ x,
        (statements (ofSchema fl {} g s))[i]? = some x ∧ x.DeclaresKey fl u) ∧
      ∀ (i : Nat) (x : Statement), (statements (ofSchema fl {} g s))[i]? = some x →
        x.DeclaresKey fl u → i < j := by
  -- the foreign key is that of a table
  obtain ⟨t, ht, hMem⟩ := exists_table_of_mem (List.mem_of_getElem? hj)
    (show StatementKind.foreignKey ≠ .schema by decide)
  replace hMem : .addForeignKey name k ∈ fl.tableStatements t .foreignKey := hMem
  obtain ⟨k', hk, hSame⟩ := List.mem_map.1 hMem
  cases hSame
  -- which refers to a table that stands before it, or to itself
  obtain ⟨i, hi⟩ := List.mem_iff_getElem?.1 ht
  obtain ⟨i', hLe, u, hu, hName⟩ := hTarget i t hi k hk
  have huMem : u ∈ s.tables := List.mem_of_getElem? hu
  -- the other table stands before this one, or is this one, and so do its statements of lower rank
  have hTables : (s.tables.map (·.name)).idxOf u.name ≤ (s.tables.map (·.name)).idxOf t.name := by
    rwa [idxOf_name hNodup hu, idxOf_name hNodup hi]
  have hCreated := exists_lt_of_kind hNodup hj hMem huMem
    (show .createTable u ∈ fl.tableStatements u .create from List.mem_singleton_self _)
    (by decide) (by decide) hTables
  refine ⟨u, huMem, hName, hCreated, fun hKeyed => ?_, fun n x hn hDeclares => ?_⟩
  -- no statement that declares the key comes later
  case refine_2 =>
    obtain ⟨hAbout, hEarlier⟩ := table?_of_declaresKey hDeclares
    refine lt_of_rank_lt (pairwise_statements fl g hNodup) hn hj ?_ (rank_lt_of_kind hEarlier)
    rw [position, hAbout, position_of_mem hMem]
    exact hTables
  -- and one of them comes before, inside the table or on its own
  by_cases hInside : u.KeyInside fl
  · -- the key is declared where the table is created
    obtain ⟨n, hLt, hn⟩ := hCreated
    exact ⟨n, hLt, _, hn, rfl, hInside⟩
  -- it has columns, so that it is declared after the tables
  · obtain ⟨key, hKey, hColumns⟩ : ∃ key, u.primaryKey = some key ∧ key.columns ≠ [] := by
      unfold Table.keyColumns at hKeyed
      cases hKey : u.primaryKey with
      | none => simp [hKey] at hKeyed
      | some key => exact ⟨key, rfl, by simpa [hKey] using hKeyed⟩
    have hDeclared : .addPrimaryKey u.name key ∈ fl.tableStatements u .primaryKey :=
      Flavor.mem_keyStatements_iff.2 ⟨key, hKey, hColumns, hInside, rfl⟩
    obtain ⟨n, hLt, hn⟩ := exists_lt_of_kind hNodup hj hMem huMem hDeclared (by decide)
      (by decide) hTables
    exact ⟨n, hLt, _, hn, rfl, hKey⟩

/-- Before a default uses a sequence, the sequence is created. -/
theorem exists_sequence_of_default {name column : String} {generator : KeyGenerator}
    (hj : (statements (ofSchema fl {} g s))[j]? = some (.setDefault name column generator)) :
    ∃ i < j, (statements (ofSchema fl {} g s))[i]? = some (.createSequence name generator) := by
  -- the default is one of the statements of a table with a generator
  obtain ⟨t, ht, hMem⟩ := exists_table_of_mem (List.mem_of_getElem? hj)
    (show StatementKind.keyGenerator ≠ .schema by decide)
  obtain ⟨generator', hGenerator, hUsed, hMem⟩ :=
    Flavor.mem_tableStatements_keyGenerator_iff.1 hMem
  obtain ⟨hStrategy, hSame | ⟨-, c, -, hSame⟩⟩ := Flavor.mem_generatorStatements_iff.1 hMem
  · cases hSame
  · cases hSame
    -- the same key generator of the same table gives the sequence
    have hCreate : .createSequence t.name generator ∈ fl.tableStatements t .keyGenerator :=
      Flavor.mem_tableStatements_keyGenerator_iff.2 ⟨generator, hGenerator, hUsed,
        Flavor.mem_generatorStatements_iff.2 ⟨hStrategy, .inl rfl⟩⟩
    have hIn : .createSequence t.name generator ∈ statements (ofSchema fl {} g s) :=
      mem_statements_of_mem_tableStatements ht (by decide) hCreate
    obtain ⟨i, hi⟩ := List.mem_iff_getElem?.1 hIn
    exact ⟨i, lt_of_rank_lt (pairwise_statements fl g hNodup) hi hj (Nat.le_refl _)
      (Nat.lt_succ_self _), hi⟩

/-- Tables with different names, whose foreign keys refer to tables that do not stand later, are
defined before they are used. -/
theorem defineBeforeUse (fl : Flavor) (g : Grouping)
    (hTarget : ∀ (i : Nat) (t : Table), s.tables[i]? = some t → ∀ k ∈ t.foreignKeys,
      ∃ j ≤ i, ∃ u, s.tables[j]? = some u ∧ u.name = k.referenceTable) :
    DefineBeforeUse fl s.tables (statements (ofSchema fl {} g s)) where
  created _ ht := filter_creates hNodup ht
  dropped _ _ _ hi hj :=
    lt_of_rank_lt (pairwise_statements fl g hNodup) hj hi (Nat.le_refl _)
      (rank_lt_of_kind (show StatementKind.rank .drop < StatementKind.rank .create by decide))
  altered _ _ _ hj hx := exists_created_of_altered hNodup hj hx
  referenced _ _ _ hj := exists_declared_of_foreignKey hNodup hTarget hj
  sequenced _ _ _ _ hj := exists_sequence_of_default hNodup hj

end Order

end All

end Plan

/-! ## Scripts of documents -/

/-- What a sequence and a default of a column have to do with each other in PostgreSQL: the text of
the first one creates a sequence, and that of the second one takes the next value of this very
sequence. -/
def Style.TakesNext (st : Style) (table column create default : String) : Prop :=
  ∃ (sequence : String) (increment : Option Int),
    create = "CREATE SEQUENCE IF NOT EXISTS " ++ st.path sequence ++
      (increment.elim "" fun i => " INCREMENT BY " ++ (if i < 0 then " " else "") ++ toString i) ∧
    default = "ALTER TABLE " ++ st.path table ++ " ALTER COLUMN " ++ st.flavor.named column ++
      " SET DEFAULT nextval(" ++ Text.Quoted.apostrophized (st.path sequence) ++ ")"

/-- The statements of one key generator for one table name the same sequence. -/
theorem Statement.takesNext_of_worded {st : Style} {table column create default : String}
    {g : KeyGenerator} (hFlavor : st.flavor = .postgresql)
    (hCreate : (createSequence table g).Worded st create)
    (hDefault : (setDefault table column g).Worded st default) :
    st.TakesNext table column create default := by
  obtain ⟨name, increment, hName, -, rfl⟩ := exists_of_worded_createSequence hCreate
  exact ⟨name.text, increment, if_pos hFlavor, text_of_worded_setDefault hName hDefault⟩

variable {registry : KeyGeneratorRegistry} {settings : Settings} {catalog : TypeCatalog}
  {d : Document} {s : Schema} {fl : Flavor} {sc : Script} {header : List String} {mark : String}
  {format : Formatting}

/-- **A script can be run from top to bottom.** Where the schema of a document is written with all
kinds of statements, in any dialect and under any grouping, the script consists of statements with
the words of their kinds, and each one stands behind those that define what it uses. In PostgreSQL
the text of a default takes the next value of a sequence which the text of a statement before it
creates. -/
theorem Schema.script_defines_before_use
    (hBuild : (Schema.ofDocument registry settings catalog d).outcome = .ok s)
    (hOn : settings.toggles = {})
    (hEmit : (emit fl settings s sc header mark format).trace.outcome = .ok ()) :
    ∃ xs, (emit fl settings s sc header mark format).Wrote
        (.ofSettings fl settings sc.indent format) (sc.header header mark) xs ∧
      DefineBeforeUse fl s.tables xs ∧
      (fl = .postgresql → ∀ (j : Nat) (name column : String) (g : KeyGenerator),
        xs[j]? = some (.setDefault name column g) →
        ∃ i < j, ∃ x, xs[i]? = some x ∧
          (Style.ofSettings fl settings sc.indent format).TakesNext name column
            (x.text (.ofSettings fl settings sc.indent format))
            ((Statement.setDefault name column g).text
              (.ofSettings fl settings sc.indent format))) := by
  -- each foreign key goes to a table in front of its own, or to its own
  obtain ⟨b, js, -, -, -, hBuilds⟩ := Schema.exists_builds_of_ofDocument hBuild
  obtain ⟨g, hGrouping⟩ := exists_grouping_of_emit hEmit
  have hWrote := wrote_of_emit hGrouping hEmit
  rw [hOn] at hWrote
  -- so the plan defines everything before it is used
  have hDefined : DefineBeforeUse fl s.tables (Plan.statements (Plan.ofSchema fl {} g s)) := by
    refine Plan.defineBeforeUse hBuilds.nodup_names fl g fun i t ht k hk => ?_
    obtain ⟨j, hLe, u, hu, hName, -⟩ := hBuilds.target_of_foreignKey ht hk
    exact ⟨j, hLe, u, hu, hName⟩
  refine ⟨_, hWrote, hDefined, fun hFlavor j name column generator hj => ?_⟩
  -- the texts of both statements are made from the name that the generator gives the sequence
  obtain ⟨i, hLt, hi⟩ := hDefined.sequenced j name column generator hj
  exact ⟨i, hLt, _, hi, takesNext_of_worded hFlavor
    (hWrote.worded _ (List.mem_of_getElem? hi)) (hWrote.worded _ (List.mem_of_getElem? hj))⟩

/-- In the script of orders and lines, the foreign key of the lines stands behind the creation of
the orders, and the default of each number behind its sequence. -/
theorem Schema.script_of_numbered :
    ∃ s xs, Schema.ofNumbered.outcome = .ok s ∧ s.tables.map (·.name) = ["order", "line"] ∧
      (emit .postgresql {} s {} [] "--").Wrote (.ofSettings .postgresql {} "    ")
        (Script.header {} [] "--") xs ∧
      DefineBeforeUse .postgresql s.tables xs := by
  obtain ⟨s, hs, hNames, hEmit⟩ := Schema.exists_ofNumbered
  obtain ⟨xs, hWrote, hDefined, -⟩ := Schema.script_defines_before_use hs rfl hEmit
  exact ⟨s, xs, hs, hNames, hWrote, hDefined⟩

end MappingDdl
