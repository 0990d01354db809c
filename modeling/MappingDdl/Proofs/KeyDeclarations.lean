import MappingDdl.Proofs.SequenceStatements

/-!
# Key declarations — each primary key is declared once

MySQL wants a column that it generates to be part of a key when the table is created. So a table
with such a column declares its primary key inside its creation, and any other table by a statement
of its own. Two functions decide this, each for its own text, and they are opposites: the first one
asks for a generated column and a key that is not empty, the second one for a key that is not empty
and that the first one leaves. A generated column is an identity column, and all of these are in the
key (`Table.Keyed`), so that the generated column alone tells where the key is declared.

MySQL has no sequences, and its registry never has a generator of this kind, so that a script for it
cannot fail.

Main results:

* `KeyGeneratorRegistry.strategy_mem` — a registry has the strategies of its dialect only.
* `Table.Keyed.keyDeclaration_of_not_keyInside` — which tables declare their key by a statement of
  its own, and which inside their creation.
* `Plan.filter_declaredKey?` — the declarations of one key in a plan.
* `Schema.key_declared_once` — the declarations of keys in a script.
-/

namespace MappingDdl

/-! ## Dialects and their strategies -/

namespace KeyGeneratorRegistry

variable {r : KeyGeneratorRegistry} {g : KeyGenerator}

/-- A key generator that is registered has a strategy of its dialect. -/
theorem strategy_of_ofDef {d : Dialect} {declared : KeyGeneratorDef}
    (h : KeyGenerator.ofDef d declared = .ok g) : g.strategy ∈ d.strategies := by
  unfold KeyGenerator.ofDef at h
  split at h
  · cases h
  · split at h
    · next hSupported =>
      cases h
      exact List.contains_iff_mem.1 hSupported
    · cases h

/-- What is registered has a strategy of the dialect. -/
theorem strategy_of_load {ds : List KeyGeneratorDef}
    (h : ∀ g ∈ r.generators, g.strategy ∈ r.dialect.strategies) :
    ∀ g ∈ (r.load ds).1.generators, g.strategy ∈ r.dialect.strategies := by
  -- on the declarations, with the registry that the first one leaves for the rest
  induction ds generalizing r with
  | nil => exact h
  | cons d rest ih =>
    rw [load]
    cases hDef : KeyGenerator.ofDef r.dialect d with
    | error e => exact h
    | ok made =>
      refine ih (r := r.insert made) fun g hg => ?_
      rcases List.mem_cons.1 hg with rfl | hOld
      · exact strategy_of_ofDef hDef
      · exact h g (List.mem_of_mem_filter hOld)

/-- A key generator that is known while a document is built has a strategy of the dialect. -/
theorem strategy_mem {d : Document} {name : Option String}
    (h : (d.registered r).get? name = some g) : g.strategy ∈ r.dialect.strategies := by
  refine strategy_of_load (r := r.reset) (fun g hg => ?_) g
    (List.mem_of_find?_eq_some (find?_of_get? h))
  obtain ⟨strategy, hStrategy, rfl⟩ := List.mem_map.1 hg
  exact hStrategy

end KeyGeneratorRegistry

/-- In a dialect without sequences no table has one. -/
theorem Schema.sequenceGenerator?_eq_none {registry : KeyGeneratorRegistry} {settings : Settings}
    {catalog : TypeCatalog} {d : Document} {s : Schema}
    (h : (Schema.ofDocument registry settings catalog d).outcome = .ok s)
    (hDialect : .sequence ∉ registry.dialect.strategies) :
    ∀ t ∈ s.tables, t.sequenceGenerator? = none := by
  intro t ht
  refine Option.eq_none_iff_forall_ne_some.2 fun g hSequence => hDialect ?_
  obtain ⟨hBound, hStrategy, -⟩ := Table.sequenceGenerator?_eq_some_iff.1 hSequence
  obtain ⟨o, built, js, js', hTable⟩ := Schema.exists_table_of_ofDocument h ht
  obtain ⟨name, hKnown⟩ := Blueprint.exists_get?_of_keyGenerator hTable hBound
  exact hStrategy ▸ KeyGeneratorRegistry.strategy_mem (d := d) hKnown

/-! ## Where a key is declared -/

/-- The table and the columns of the primary key that a statement declares. -/
def Statement.declaredKey? (fl : Flavor) : Statement → Option (String × List String)
  | addPrimaryKey table key => some (table, key.columns)
  | createTable t => if t.KeyInside fl then some (t.name, t.keyColumns) else none
  | _ => none

namespace Table

variable {t : Table}

/-- A column that the database generates is part of the primary key. -/
theorem Keyed.mem_keyColumns_of_isGenerated (h : t.Keyed) {column : Column}
    (hColumn : column ∈ t.columns) (hGenerated : column.isGenerated = true) :
    column.name ∈ t.keyColumns :=
  (h.mem_key column.name).2 ⟨column, hColumn, rfl, (Bool.and_eq_true_iff.1 hGenerated).1⟩

/-- The statement that declares the primary key of a table in MySQL, if there is one. -/
def keyDeclaration (t : Table) : List Statement :=
  if t.keyColumns = [] then []
  else if ∃ c ∈ t.columns, c.isGenerated = true then [.createTable t]
  else [.addPrimaryKey t.name ⟨"pk_" ++ t.name, t.keyColumns⟩]

/-- A key that is declared inside its table is declared where this is created. -/
theorem keyDeclaration_of_keyInside (h : t.KeyInside .mysql) :
    t.keyDeclaration = [.createTable t] := by
  rw [keyDeclaration, if_neg h.2.1, if_pos h.2.2]

/-- A key that is not declared inside its table has a statement of its own, unless it is empty. -/
theorem Keyed.keyDeclaration_of_not_keyInside (h : t.Keyed) (hInside : ¬ t.KeyInside .mysql) :
    t.keyDeclaration = Flavor.mysql.keyStatements t := by
  have hStatements : Flavor.mysql.keyStatements t = if t.keyColumns = [] then []
      else [.addPrimaryKey t.name ⟨"pk_" ++ t.name, t.keyColumns⟩] := by
    -- MySQL has a statement for it, as long as it has columns
    have hInline : t.hasInlineKey = false := by
      simpa [keyInside_iff] using hInside
    simp [Flavor.keyStatements, h.key, hInline]
  rw [hStatements, keyDeclaration]
  split
  · rfl
  · next hSome => rw [if_neg fun hGenerated => hInside ⟨rfl, hSome, hGenerated⟩]

end Table

namespace Plan

variable {on : Toggles} {grouping : Grouping} {s : Schema} {t : Table}

/-- A plan creates no other table of the same name. -/
theorem eq_of_createTable_mem {u : Table} (hNodup : (s.tables.map (·.name)).Nodup)
    (ht : t ∈ s.tables) (hu : .createTable u ∈ statements (ofSchema .mysql on grouping s))
    (hName : u.name = t.name) : u = t := by
  -- what is said of the table is said by its own statements
  have hMem : .createTable u ∈ Flavor.mysql.tableStatements t .create :=
    mem_tableStatements_of_table? hNodup ht hu (by simp [Statement.kind]) (congrArg some hName)
  exact Statement.createTable.inj (List.mem_singleton.1 hMem)

/-- A key that is added to a table is not inside of it. -/
theorem not_keyInside_of_addPrimaryKey_mem {key : PrimaryKey}
    (hNodup : (s.tables.map (·.name)).Nodup) (ht : t ∈ s.tables)
    (hk : .addPrimaryKey t.name key ∈ statements (ofSchema .mysql on grouping s)) :
    ¬ t.KeyInside .mysql := by
  obtain ⟨-, -, -, hNot, -⟩ := Flavor.mem_keyStatements_iff.1
    (mem_tableStatements_of_table? hNodup ht hk (by simp [Statement.kind]) rfl)
  exact hNot

/-- A key inside a table is declared by the creation of the table. -/
theorem declaredKey?_of_keyInside {x : Statement} (hNodup : (s.tables.map (·.name)).Nodup)
    (ht : t ∈ s.tables) (hInside : t.KeyInside .mysql)
    (hx : x ∈ statements (ofSchema .mysql on grouping s)) :
    (x.declaredKey? .mysql).any (·.1 == t.name) =
      (x.table? == some t.name && decide (x.kind = .create)) := by
  cases x with
  -- the creation of this table, or of another one
  | createTable u =>
    by_cases hName : u.name = t.name
    · simp [Statement.declaredKey?, Statement.kind, Statement.table?,
        eq_of_createTable_mem hNodup ht hx hName, hInside]
    · by_cases hOther : u.KeyInside .mysql <;>
        simp [Statement.declaredKey?, Statement.table?, hOther, hName]
  -- a statement for this table would be one for a key outside
  | addPrimaryKey table key =>
    have hName : table ≠ t.name := by
      rintro rfl
      exact not_keyInside_of_addPrimaryKey_mem hNodup ht hx hInside
    simp [Statement.declaredKey?, Statement.kind, hName]
  -- no other statement declares a key
  | _ => simp [Statement.declaredKey?, Statement.kind]

/-- Any other key is declared by a statement of its own. -/
theorem declaredKey?_of_not_keyInside {x : Statement} (hNodup : (s.tables.map (·.name)).Nodup)
    (ht : t ∈ s.tables) (hInside : ¬ t.KeyInside .mysql)
    (hx : x ∈ statements (ofSchema .mysql on grouping s)) :
    (x.declaredKey? .mysql).any (·.1 == t.name) =
      (x.table? == some t.name && decide (x.kind = .primaryKey)) := by
  cases x with
  -- this table is created without its key
  | createTable u =>
    by_cases hName : u.name = t.name
    · simp [Statement.declaredKey?, Statement.kind, eq_of_createTable_mem hNodup ht hx hName,
        hInside]
    · by_cases hOther : u.KeyInside .mysql <;>
        simp [Statement.declaredKey?, Statement.kind, hOther, hName]
  -- a statement for this table declares its key
  | addPrimaryKey table key => simp [Statement.declaredKey?, Statement.kind, Statement.table?]
  | _ => simp [Statement.declaredKey?, Statement.kind]

/-- A plan in MySQL declares the primary key of a table once, inside or outside. -/
theorem filter_declaredKey? (hNodup : (s.tables.map (·.name)).Nodup) (ht : t ∈ s.tables)
    (hKeyed : t.Keyed) (hCreate : on.allows .create = true) (hKey : on.allows .primaryKey = true) :
    (statements (ofSchema .mysql on grouping s)).filter
        (fun x => (x.declaredKey? .mysql).any (·.1 == t.name)) = t.keyDeclaration := by
  by_cases hInside : t.KeyInside .mysql
  · rw [List.filter_congr fun x hx => declaredKey?_of_keyInside hNodup ht hInside hx,
      filter_about hNodup ht (by decide) hCreate, Table.keyDeclaration_of_keyInside hInside]
    rfl
  · rw [List.filter_congr fun x hx => declaredKey?_of_not_keyInside hNodup ht hInside hx,
      filter_about hNodup ht (by decide) hKey, hKeyed.keyDeclaration_of_not_keyInside hInside]
    rfl

end Plan

/-! ## Scripts -/

/-- Statements `xs` declare the primary key of a table once in MySQL: not at all if it is empty,
inside the table if one of its columns is generated, and by a statement of its own otherwise. -/
structure Table.KeyDeclared (st : Style) (t : Table) (xs : List Statement) : Prop where
  once      : xs.filter (fun x => (x.declaredKey? .mysql).any (·.1 == t.name)) = t.keyDeclaration
  created   : .createTable t ∈ xs
  inside    : (Statement.createTable t).text st =
    "CREATE TABLE " ++ st.flavor.named t.name ++ " (\n" ++
      st.block (t.columns.map st.columnWords ++
        if t.keyColumns ≠ [] ∧ ∃ c ∈ t.columns, c.isGenerated = true then
          ["PRIMARY KEY (" ++ ", ".intercalate (t.keyColumns.map st.flavor.named) ++ ")"]
        else []) ++ ")" ++ st.engineClause
  outside   : (Statement.addPrimaryKey t.name ⟨"pk_" ++ t.name, t.keyColumns⟩).text st =
    "ALTER TABLE " ++ st.flavor.named t.name ++ " ADD CONSTRAINT " ++
      st.flavor.named ("pk_" ++ t.name) ++ " PRIMARY KEY (" ++
      ", ".intercalate (t.keyColumns.map st.flavor.named) ++ ")"
  generated : ∀ c ∈ t.columns, st.columnWords c =
    st.flavor.named c.name ++ " " ++ c.type.ddl ++ (if c.isNotNull then " NOT NULL" else "") ++
      (if c.isGenerated then " AUTO_INCREMENT" else "")
  inKey     : ∀ c ∈ t.columns, c.isGenerated = true → c.name ∈ t.keyColumns

/-- A plan that creates a table and declares its key once does so in these words. -/
theorem Table.Keyed.keyDeclared {st : Style} {t : Table} {xs : List Statement} (h : t.Keyed)
    (hFlavor : st.flavor = .mysql) (hPlain : st.schemaName = none) (hCreated : .createTable t ∈ xs)
    (hOnce : xs.filter (fun x => (x.declaredKey? .mysql).any (·.1 == t.name)) = t.keyDeclaration) :
    t.KeyDeclared st xs where
  once := hOnce
  created := hCreated
  inside := by
    -- the text of the creation lists what is inside
    have hInside : t.KeyInside st.flavor ↔
        t.keyColumns ≠ [] ∧ ∃ c ∈ t.columns, c.isGenerated = true := and_iff_right hFlavor
    rw [Statement.text_of_worded (.createTable t), st.path_of_schemaName hPlain, Style.tableLines,
      if_congr hInside rfl rfl]
    rfl
  outside := by
    -- that of the other statement names the key and its columns
    rw [Statement.text_of_worded (.addPrimaryKey _ _), st.path_of_schemaName hPlain]
    rfl
  generated c _ := by
    rw [Style.columnWords, if_pos hFlavor]
  -- a column that the server numbers is one of the key
  inKey _ hc := h.mem_keyColumns_of_isGenerated hc

/-- **MySQL declares each primary key once.** Where the schema of a document in MySQL is written
with the creation of tables and with primary keys, there is a script, and it declares the primary
key of each table once, if it is not empty: inside the table, exactly if one of its columns is
generated, and by a statement of its own otherwise. Every generated column belongs to the key. -/
theorem Schema.key_declared_once {registry : KeyGeneratorRegistry} {settings : Settings}
    {catalog : TypeCatalog} {d : Document} {s : Schema} {sc : Script} {header : List String}
    {mark : String} {format : Formatting} {grouping : Grouping}
    (hBuild : (Schema.ofDocument registry settings catalog d).outcome = .ok s)
    (hDialect : registry.dialect = .mysql) (hGrouping : settings.grouping = .ok grouping)
    (hCreate : settings.toggles.create = true) (hKey : settings.toggles.primaryKey = true) :
    ∃ xs, (emit .mysql settings s sc header mark format).Wrote
        (.ofSettings .mysql settings sc.indent format) (sc.header header mark) xs ∧
      ∀ t ∈ s.tables, t.KeyDeclared (.ofSettings .mysql settings sc.indent format) xs := by
  -- MySQL has no sequences, so that nothing can fail
  have hNone : ∀ t ∈ s.tables, t.sequenceGenerator? = none :=
    Schema.sequenceGenerator?_eq_none hBuild (hDialect ▸ by decide)
  have hWrote : (emit .mysql settings s sc header mark format).Wrote
      (.ofSettings .mysql settings sc.indent format) (sc.header header mark)
      (Plan.statements (Plan.ofSchema .mysql settings.toggles grouping s)) :=
    wrote_of_emit hGrouping (outcome_emit_of_no_sequence hGrouping hNone)
  obtain ⟨js, -, hBuilds⟩ := Schema.exists_junctions_of_ofDocument hBuild
  refine ⟨_, hWrote, fun t ht => ?_⟩
  -- each table was built, and its key is that of its identity
  obtain ⟨o, built, js₀, js₁, hTable⟩ := Schema.exists_table_of_ofDocument hBuild ht
  have hKeyed : t.Keyed := Blueprint.keyed_of_table hTable
  refine hKeyed.keyDeclared rfl rfl ?_
    (Plan.filter_declaredKey? hBuilds.nodup_names ht hKeyed hCreate hKey)
  have hAllowed : settings.toggles.allows .create = true := hCreate
  have hPiece : Flavor.mysql.tableStatements t .create <:+:
      Plan.statements (Plan.ofSchema .mysql settings.toggles grouping s) :=
    Plan.infix_statements (by decide) hAllowed ht
  exact hPiece.subset (List.mem_singleton_self _)

/-- Customers get their numbers from the database. An entry is identified by its own number and its
customer, and a note by nothing. -/
def Document.stored : Document where
  classes :=
    [{ name := "Customer"
       table := some "customer"
       keyGenerator := some "identity"
       fields := [{ name := "no", type := "integer", identity := true, columns := ["no"] }] },
     { name := "Entry"
       table := some "entry"
       keyGenerator := some "uuid"
       fields :=
         [{ name := "no", type := "integer", identity := true, columns := ["no"] },
          { name := "customer", type := "Customer", identity := true,
            columns := ["customer_no"] }] },
     { name := "Note"
       table := some "note"
       keyGenerator := some "identity"
       fields := [{ name := "text", type := "text", columns := ["text"] }] }]

/-- Its schema in MySQL, with default settings. -/
def Schema.ofStored : Building Schema :=
  Schema.ofDocument (.initial .mysql) {} (Dialect.mysql.catalog {}) .stored

/-- The key of customers is declared inside their table, that of entries outside, and notes have no
key to declare. -/
theorem Schema.keys_of_stored :
    ∃ s customer entry note xs, Schema.ofStored.outcome = .ok s ∧
      s.tables = [customer, entry, note] ∧
      (emit .mysql {} s {} [] "#").Wrote (.ofSettings .mysql {} "    ") (Script.header {} [] "#")
        xs ∧
      xs.filter (fun x => (x.declaredKey? .mysql).any (·.1 == customer.name)) =
        [.createTable customer] ∧
      (Statement.createTable customer).text (.ofSettings .mysql {} "    ") =
        "CREATE TABLE \x60customer\x60 (\n    \x60no\x60 INT NOT NULL AUTO_INCREMENT,\n" ++
          "    PRIMARY KEY (\x60no\x60)\n)" ∧
      xs.filter (fun x => (x.declaredKey? .mysql).any (·.1 == entry.name)) =
        [.addPrimaryKey "entry" ⟨"pk_entry", ["no", "customer_no"]⟩] ∧
      xs.filter (fun x => (x.declaredKey? .mysql).any (·.1 == note.name)) = [] := by
  -- what is computed: the keys, and the text of the first table
  let view (s : Schema) :=
    (s.tables.map fun t => (t.name, t.keyColumns, decide (∃ c ∈ t.columns, c.isGenerated = true)),
      s.tables.head?.map fun t => (Statement.createTable t).text (.ofSettings .mysql {} "    "))
  obtain ⟨s, hs, hView⟩ : ∃ s, Schema.ofStored.outcome = .ok s ∧ view s =
      ([("customer", ["no"], true), ("entry", ["no", "customer_no"], false), ("note", [], false)],
        some ("CREATE TABLE \x60customer\x60 (\n    \x60no\x60 INT NOT NULL AUTO_INCREMENT,\n" ++
          "    PRIMARY KEY (\x60no\x60)\n)")) :=
    exists_ok_of_toOption_map (by decide +kernel)
  obtain ⟨hKeys, hText⟩ := Prod.mk.inj hView
  -- there are three tables
  obtain ⟨customer, entry, note, hTables⟩ : ∃ customer entry note,
      s.tables = [customer, entry, note] :=
    List.length_eq_three.1 ((List.length_map _).symm.trans (congrArg List.length hKeys))
  -- and a script that declares their keys
  obtain ⟨xs, hWrote, hDeclared⟩ : ∃ xs, (emit .mysql {} s {} [] "#").Wrote
      (.ofSettings .mysql {} "    ") (Script.header {} [] "#") xs ∧
      ∀ t ∈ s.tables, t.KeyDeclared (.ofSettings .mysql {} "    ") xs :=
    Schema.key_declared_once hs rfl (Settings.grouping_of_text (g := .byTable) rfl) rfl rfl
  simp only [hTables, List.map_cons, List.map_nil, List.cons.injEq, Prod.mk.injEq, and_true,
    decide_eq_true_eq, decide_eq_false_iff_not] at hKeys
  obtain ⟨⟨-, hKey, hGenerated⟩, ⟨hName', hKey', hGenerated'⟩, -, hKey'', -⟩ := hKeys
  rw [hTables] at hDeclared hText
  refine ⟨s, customer, entry, note, xs, hs, hTables, hWrote, ?_, Option.some.inj hText, ?_, ?_⟩
  · rw [(hDeclared customer (by simp)).once, Table.keyDeclaration, hKey, if_pos hGenerated]
    rfl
  · rw [(hDeclared entry (by simp)).once, Table.keyDeclaration, hKey', if_neg hGenerated', hName']
    rfl
  · rw [(hDeclared note (by simp)).once, Table.keyDeclaration, hKey'', if_pos rfl]

end MappingDdl
