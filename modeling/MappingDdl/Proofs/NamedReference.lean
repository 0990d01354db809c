import MappingDdl.Proofs.ReferenceTypes

/-!
# Named references — foreign keys to columns that the field names

A reference may name the columns of the other table that it refers to. Its own columns are typed as
those of any reference are, by the identity types of the class that it refers to, one by one, and
not by the columns that it names. So the two sides agree where a named column happens to have the
type of the identity column in its place.

Main result: `Schema.namedTypes_iff` — when the two sides of such a foreign key have the same type
at a position.
-/

namespace MappingDdl

/-- The SQL type of a column with its parameters, whatever it was called. -/
def Table.sqlType? (t : Table) (name : String) : Option ColumnType :=
  (t.columnType? name).map (·.anonymous)

namespace Blueprint

variable {b : Blueprint} {ts : List Table} {t : Table} {k : ForeignKey} {js : List ClassMapping}

/-- A reference that names columns is that of a class, and its foreign key was made for it. -/
theorem Builds.reference_of_manyKey {s : Schema} (hSides : ∀ j ∈ js, j.IsJunction)
    (h : b.Builds s.tables (Origin.ofClasses b.document.classes ++ js.map Origin.ofJunction))
    (ht : t ∈ s.tables) (hk : k ∈ t.foreignKeys) {f : FieldMapping} {r : ClassMapping}
    (hField : b.document.KeyField t k f r) (hMany : f.manyKey ≠ []) :
    ∃ relation, b.Reference relation t f r k := by
  obtain ⟨f', r', relation, hField', hReference⟩ := h.exists_keyField hSides ht hk
  -- the sides of a junction name no columns
  have hOne : k.relation = .oneToOne := by
    cases hRelation : k.relation with
    | oneToOne => rfl
    | manyToMany =>
      have hSource := hField.source
      rw [hRelation] at hSource
      exact absurd hSource hMany
  obtain rfl := h.keyField_eq hOne hField hField'
  cases hField.cls.symm.trans hField'.cls
  exact ⟨relation, hReference⟩

/-- The columns of a reference have the types of the identity types of its class. -/
theorem Reference.exists_names {relation : Relation} {f : FieldMapping} {r : ClassMapping}
    (h : b.Reference relation t f r k) :
    ∃ names types, b.document.identityTypes r = .ok names ∧ b.Reads names types ∧
      names.length = k.columns.length ∧ k.columns.map t.columnType? = types.map some := by
  obtain ⟨types, hTypes, hLocal⟩ := h.types
  cases hTypes with
  | @reference _ names _ _ _ hNames hLength hReads =>
    exact ⟨names, types, hNames, hReads, h.columns ▸ hLength, h.columns ▸ hLocal⟩

end Blueprint

section Positions

variable {α β γ : Type}

/-- Equal lists are equal at each position. -/
theorem getElem?_of_map_eq {f : α → Option β} {l : List α} {l' : List β}
    (h : l.map f = l'.map some) {i : Nat} {a : α} (ha : l[i]? = some a) : f a = l'[i]? := by
  have hAt := congrArg (·[i]?) h
  simp only [List.getElem?_map, ha, Option.map_some] at hAt
  obtain ⟨b, hb, hEq⟩ := Option.map_eq_some_iff.1 hAt.symm
  rw [hb, hEq]

/-- Related lists are related at each position. -/
theorem exists_getElem?_of_forall₂ {R : α → β → Prop} {l : List α} {l' : List β}
    (h : List.Forall₂ R l l') {i : Nat} {a : α} (ha : l[i]? = some a) :
    ∃ b, l'[i]? = some b ∧ R a b := by
  induction h generalizing i with
  | nil => cases ha
  | cons hHead _ ih =>
    cases i with
    | zero => exact ⟨_, rfl, Option.some.inj ha ▸ hHead⟩
    | succ i => exact ih ha

end Positions

/-- **When a reference has the types of the columns that it names.** A foreign key of a field that
names columns refers to exactly these. At each position the two sides have the same SQL type with
the same parameters if and only if the column that is named there has that of the identity type at
this position of the class. Where the class declares its identity once, this is the type of the
identity column in the same place. -/
theorem Schema.namedTypes_iff {registry : KeyGeneratorRegistry} {settings : Settings}
    {catalog : TypeCatalog} {d : Document} {s : Schema}
    (h : (Schema.ofDocument registry settings catalog d).outcome = .ok s)
    {t : Table} (ht : t ∈ s.tables) {k : ForeignKey} (hk : k ∈ t.foreignKeys) {f : FieldMapping}
    {r : ClassMapping} (hField : d.KeyField t k f r) (hMany : f.manyKey ≠ []) :
    k.referenceColumns = f.manyKey ∧
    ∃ u names, s.table? k.referenceTable = some u ∧ d.identityTypes r = .ok names ∧
      names.length = k.columns.length ∧ f.manyKey.length = k.columns.length ∧
      ∀ (i : Nat) (column other name : String), k.columns[i]? = some column →
        f.manyKey[i]? = some other → names[i]? = some name →
        (t.sqlType? column = u.sqlType? other ↔
          ∃ type, catalog.get? name = .ok (some type) ∧
            u.sqlType? other = some type.anonymous) ∧
        ((d.lineage r).DeclaresIdentityOnce → ∃ ids id, d.identityColumns r = .ok ids ∧
          ids[i]? = some id ∧ t.columnType? column = u.columnType? id) := by
  obtain ⟨b, js, rfl, rfl, hSides, hBuilds⟩ := Schema.exists_builds_of_ofDocument h
  obtain ⟨relation, hReference⟩ := hBuilds.reference_of_manyKey hSides ht hk hField hMany
  -- the names of the identity are those of its types
  obtain ⟨names, types, hNames, hReads, hLength, hLocal⟩ := hReference.exists_names
  have hKey : k.referenceColumns = f.manyKey := by
    have := hReference.key
    rwa [if_neg hMany] at this
  -- the other table was built before, or is the same
  obtain ⟨u, built, js₀, js₁, hFind, hTable⟩ :=
    hBuilds.exists_table_of_class (List.mem_of_find?_eq_some hField.cls) hField.table
  obtain ⟨hSome, hColumns⟩ := hBuilds.columns_of_target ht hk hFind
  obtain ⟨first, hFirst⟩ := List.exists_mem_of_ne_nil _ hSome
  have hFields := Blueprint.fields_ne_nil_of_mem_columnNames hTable (hColumns first hFirst)
  have hParallel : f.manyKey.length = k.columns.length := by
    obtain ⟨i, hi⟩ := List.mem_iff_getElem?.1 ht
    rw [← hKey, (hBuilds.fits_of_foreignKey hi hk).parallel]
  refine ⟨hKey, u, names, hFind, hNames, hLength, hParallel, ?_⟩
  -- position by position: what the name is read as is the type of the local column
  intro i column other name hColumn hOther hName
  obtain ⟨type, hType, hRead⟩ := exists_getElem?_of_forall₂ hReads hName
  have hHere : t.columnType? column = some type := (getElem?_of_map_eq hLocal hColumn).trans hType
  constructor
  · -- the type of the local column is the one that the name is read as
    rw [Table.sqlType?, hHere, Option.map_some]
    constructor
    · intro hSame
      exact ⟨type, Blueprint.columnType?_eq_ok_iff.1 hRead, hSame.symm⟩
    · rintro ⟨type', hRead', hSame⟩
      cases (Blueprint.columnType?_eq_ok_iff.1 hRead).symm.trans hRead'
      exact hSame.symm
  -- the identity type at this position is that of the column there
  · intro hOnce
    have hIdentity := Blueprint.identityTypes_of_table hTable hFields hOnce hNames hReads
    have hIds := Blueprint.identityColumns_eq_of_table hTable hFields
    obtain ⟨id, hId, hThere⟩ : ∃ id, ((b.document.lineage r).identity.flatMap (·.columns))[i]? =
        some id ∧ u.columnType? id = some type := by
      have hAt := congrArg (·[i]?) hIdentity
      simp only [List.getElem?_map, hType, Option.map_some] at hAt
      exact Option.map_eq_some_iff.1 hAt
    exact ⟨_, id, hIds, hId, hHere.trans hThere.symm⟩

/-- An order names the customer that it goes to by a code, and the one that pays by a number. -/
def Document.orders : Document where
  classes :=
    [{ name := "Customer"
       table := some "customer"
       fields :=
         [{ name := "id", type := "integer", identity := true, columns := ["id"] },
          { name := "no", type := "int", columns := ["no"] },
          { name := "code", type := "varchar(20)", required := true, columns := ["code"] }] },
     { name := "Order"
       table := some "orders"
       fields :=
         [{ name := "id", type := "integer", identity := true, columns := ["id"] },
          { name := "customer", type := "Customer", columns := ["customer_id"]
            manyKey := ["code"] },
          { name := "payer", type := "Customer", columns := ["payer_no"], manyKey := ["no"] }] }]

/-- Its schema in standard SQL, with default settings. -/
def Schema.ofOrders : Building Schema :=
  Schema.ofDocument (.initial .generic) {} (Dialect.generic.catalog {}) .orders

/-- The SQL type of the numbers in that schema. -/
def ColumnType.wholeNumber : ColumnType := ⟨"", "INTEGER", .none, none, none, none⟩

/-- The SQL type of the codes in that schema. -/
def ColumnType.shortText : ColumnType := ⟨"", "VARCHAR", .length, some 20, none, none⟩

/-- The two foreign keys of orders, and the types of the columns that they are about. -/
theorem Schema.exists_ofOrders :
    ∃ s t u, Schema.ofOrders.outcome = .ok s ∧ t ∈ s.tables ∧ t.name = "orders" ∧
      s.table? "customer" = some u ∧ t.foreignKeys =
        [⟨"orders_customer", .oneToOne, ["customer_id"], "customer", ["code"]⟩,
         ⟨"orders_payer", .oneToOne, ["payer_no"], "customer", ["no"]⟩] ∧
      t.sqlType? "customer_id" = some .wholeNumber ∧ u.sqlType? "code" = some .shortText ∧
      u.sqlType? "no" = some .wholeNumber := by
  -- what is computed: the keys, and the types on both sides
  let view (s : Schema) :=
    ((s.table? "orders").map fun t => (t.foreignKeys, t.sqlType? "customer_id"),
     (s.table? "customer").map fun u => (u.sqlType? "code", u.sqlType? "no"))
  obtain ⟨s, hs, hView⟩ : ∃ s, Schema.ofOrders.outcome = .ok s ∧ view s =
      (some ([⟨"orders_customer", .oneToOne, ["customer_id"], "customer", ["code"]⟩,
         ⟨"orders_payer", .oneToOne, ["payer_no"], "customer", ["no"]⟩], some .wholeNumber),
       some (some .shortText, some .wholeNumber)) := by
    refine exists_ok_of_toOption_map ?_
    decide +kernel
  obtain ⟨hOrders, hCustomer⟩ := Prod.mk.inj hView
  obtain ⟨t, hFind, hOwn⟩ := Option.map_eq_some_iff.1 hOrders
  obtain ⟨u, hFind', hTypes⟩ := Option.map_eq_some_iff.1 hCustomer
  obtain ⟨hKeys, hLocal⟩ := Prod.mk.inj hOwn
  obtain ⟨hCode, hNo⟩ := Prod.mk.inj hTypes
  exact ⟨s, t, u, hs, List.mem_of_find?_eq_some hFind, Schema.name_of_table? hFind, hFind', hKeys,
    hLocal, hCode, hNo⟩

/-- Both foreign keys of orders were made for references to a customer. -/
theorem Document.keyField_orders {t : Table} (hName : t.name = "orders") {f : FieldMapping}
    (hf : f = orders.classes[1].fields[1] ∨ f = orders.classes[1].fields[2]) :
    orders.KeyField t ⟨"orders_" ++ f.name, .oneToOne, f.columns, "customer", f.manyKey⟩ f
      orders.classes[0] := by
  refine ⟨⟨orders.classes[1], by decide, by rw [hName]; rfl, ?_⟩, by rw [hName]; rfl, rfl, ?_, rfl⟩
  · rcases hf with rfl | rfl <;> decide
  · rcases hf with rfl | rfl <;> decide

/-- The column of the payer has the type of the number that it refers to, because a customer's
identity has this type, too. -/
theorem Schema.namedTypes_of_payer :
    ∃ s t u, Schema.ofOrders.outcome = .ok s ∧ t ∈ s.tables ∧ s.table? "customer" = some u ∧
      ⟨"orders_payer", .oneToOne, ["payer_no"], "customer", ["no"]⟩ ∈ t.foreignKeys ∧
      t.sqlType? "payer_no" = u.sqlType? "no" := by
  obtain ⟨s, t, u, hs, ht, hName, hFind, hKeys, -, -, hNo⟩ := Schema.exists_ofOrders
  have hKey : ⟨"orders_payer", .oneToOne, ["payer_no"], "customer", ["no"]⟩ ∈ t.foreignKeys := by
    simp [hKeys]
  -- the payer is referred to by columns that are named
  have hField := Document.keyField_orders hName (Or.inr rfl)
  obtain ⟨-, u', names, hFind', hNames, -, -, hTypes⟩ :=
    Schema.namedTypes_iff hs ht hKey hField (by decide)
  cases hFind.symm.trans hFind'
  -- the identity of a customer is one whole number
  have hInteger : Document.orders.identityTypes Document.orders.classes[0] = .ok ["integer"] := by
    decide +kernel
  cases hInteger.symm.trans hNames
  -- which is the type of the column that is named
  obtain ⟨o, hRead, hType⟩ : ∃ o, (Dialect.generic.catalog {}).get? "integer" = .ok o ∧
      o.map (·.anonymous) = some .wholeNumber := exists_ok_of_toOption_map (by decide +kernel)
  obtain ⟨type, rfl, hEq⟩ := Option.map_eq_some_iff.1 hType
  have hSame := (hTypes 0 "payer_no" "no" "integer" rfl rfl rfl).1.2 ⟨type, hRead, hEq ▸ hNo⟩
  exact ⟨s, t, u, hs, ht, hFind, hKey, hSame⟩

/-- The column of the customer is a whole number, as the identity of a customer is, and refers to a
code, which is a text. -/
theorem Schema.namedTypes_differ_of_customer :
    ∃ s t u, Schema.ofOrders.outcome = .ok s ∧ t ∈ s.tables ∧ s.table? "customer" = some u ∧
      ⟨"orders_customer", .oneToOne, ["customer_id"], "customer", ["code"]⟩ ∈ t.foreignKeys ∧
      Document.orders.KeyField t
        ⟨"orders_customer", .oneToOne, ["customer_id"], "customer", ["code"]⟩
        Document.orders.classes[1].fields[1] Document.orders.classes[0] ∧
      Document.orders.classes[1].fields[1].manyKey ≠ [] ∧
      t.sqlType? "customer_id" = some .wholeNumber ∧ u.sqlType? "code" = some .shortText ∧
      t.sqlType? "customer_id" ≠ u.sqlType? "code" := by
  obtain ⟨s, t, u, hs, ht, hName, hFind, hKeys, hLocal, hCode, -⟩ := Schema.exists_ofOrders
  refine ⟨s, t, u, hs, ht, hFind, by simp [hKeys], Document.keyField_orders hName (Or.inl rfl),
    by decide, hLocal, hCode, ?_⟩
  rw [hLocal, hCode]
  decide

end MappingDdl
