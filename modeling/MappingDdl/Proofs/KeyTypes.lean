import MappingDdl.Proofs.Chains
import MappingDdl.Proofs.ReferenceTypes

/-!
# Key types — classes that extend each other, each with a key of its own

A class with identity columns of its own must agree with its parent in their types. What is compared
are the type names that a walk gives (`Document.identityTypes`), by the column types that they stand
for, or by their text if one of them stands for none. The columns of the two tables were typed from
their fields. A name and the column at its position belong together (`Blueprint.StandsFor`): the
column has the type of the name, or the name is an SQL type that was passed over.

Main results:

* `Blueprint.standsFor_of_table` — the key of a table, against the identity types of its class.
* `Blueprint.checkIdentity_eq_ok` — what it takes for two classes to agree.
* `Schema.keyTypes_of_extends` — the keys of the two tables have the same types, up to columns whose
  SQL type is no column type.
-/

namespace MappingDdl

/-- Relations of lists element by element can be put together. -/
theorem forall₂_comp {α β γ : Type} {R : α → β → Prop} {S : β → γ → Prop} {T : α → γ → Prop}
    (hT : ∀ a b c, R a b → S b c → T a c) {as : List α} {bs : List β} {cs : List γ}
    (h : List.Forall₂ R as bs) (h' : List.Forall₂ S bs cs) : List.Forall₂ T as cs := by
  induction h generalizing cs with
  | nil =>
    cases h'
    exact .nil
  | cons hHead _ ih =>
    cases h' with
    | cons hHead' hRest => exact .cons (hT _ _ _ hHead hHead') (ih hRest)

/-- A class with identity fields declares its identity once: no class is below it. -/
theorem Lineage.declaresIdentityOnce_of_head {l : Lineage} (h : l.head.identityFields ≠ []) :
    l.DeclaresIdentityOnce := by
  intro c hc
  rw [belowIdentity_of_head h] at hc
  cases hc

/-- A class with identity fields has fields. -/
theorem ClassMapping.fields_ne_nil_of_identityFields {c : ClassMapping}
    (h : c.identityFields ≠ []) : c.fields ≠ [] := by
  obtain ⟨f, hf⟩ := List.exists_mem_of_ne_nil _ h
  exact List.ne_nil_of_mem (mem_identityFields_iff.1 hf).1

/-- The column belongs to an identity field of the class whose SQL type is no column type. -/
def ClassMapping.PassesOver (c : ClassMapping) (catalog : TypeCatalog) (column : String) : Prop :=
  ∃ f ∈ c.identityFields, column ∈ f.columns ∧
    ∃ q, given f.sqlType = some q ∧ catalog.get? q = .ok none

namespace Blueprint

variable {b : Blueprint}

/-! ## Names and columns -/

/-- The name stands for the column: the column has the type that the name is read as, or the name is
no column type and was passed over. -/
inductive StandsFor (b : Blueprint) (c : ClassMapping) (t : Table) (name column : String) : Prop
  | reads {type : ColumnType} (hColumn : t.columnType? column = some type)
      (hName : b.columnType? name = .ok (some type))
  | passedOver {type : ColumnType} (hColumn : t.columnType? column = some type)
      (hName : b.columnType? name = .ok none) (hOver : c.PassesOver b.catalog column)

section Fields

variable {c : ClassMapping} {t : Table}

/-- The names that the walk finds for an identity field stand for its columns. -/
theorem HasTypes.standsFor {f : FieldMapping} {ft : FieldTypes} {names : List String}
    (hf : f ∈ c.identityFields) (hTypes : b.HasTypes f ft)
    (hNames : b.document.ResolvedNames f names)
    (hTyped : f.columns.map t.columnType? = ft.types.map some) :
    List.Forall₂ (b.StandsFor c t) names f.columns := by
  -- the types were laid for the columns one by one
  rw [← List.forall₂_eq_eq_eq, List.forall₂_map_left_iff, List.forall₂_map_right_iff] at hTyped
  by_cases hOver : ∃ q, given f.sqlType = some q ∧ b.columnType? q = .ok none
  · obtain ⟨q, hGiven, hNone⟩ := hOver
    -- the walk stops at the SQL type, while the field has its types from elsewhere
    have hAll : ∀ column ∈ f.columns, b.StandsFor c t q column := by
      intro column hColumn
      obtain ⟨type, -, hType⟩ := Document.exists_of_mem_forall₂ hTyped hColumn
      exact .passedOver hType hNone ⟨f, hf, hColumn, q, hGiven, mapError_eq_ok_iff.1 hNone⟩
    cases hNames with
    | sqlType hGiven' =>
      cases hGiven.symm.trans hGiven'
      exact List.forall₂_map_left_iff.2 (List.forall₂_same.2 hAll)
    | reference hGiven' => cases hGiven.symm.trans hGiven'
    | declared hGiven' => cases hGiven.symm.trans hGiven'
  -- otherwise the field has its types from the names
  · have hReads : b.Reads names ft.types :=
      hTypes.reads_names hNames fun q hGiven hNone => hOver ⟨q, hGiven, hNone⟩
    exact forall₂_comp (fun name type column hName hType => .reads hType hName) hReads hTyped.flip

/-- The identity types of a class stand for the columns of its table's key, where the class has
identity fields of its own. -/
theorem standsFor_of_table {built : List Table} {relation : Relation} {name : String}
    {js js' : List ClassMapping} (h : (b.table built relation c name js).outcome = .ok (t, js'))
    (hSome : c.identityFields ≠ []) {names : List String}
    (hNames : b.document.identityTypes c = .ok names) :
    List.Forall₂ (b.StandsFor c t) names t.keyColumns := by
  -- with identity fields of its own the class is where the walk ends
  have hHead : (b.document.lineage c).head = c := b.document.head_lineage c
  have hOnce : (b.document.lineage c).DeclaresIdentityOnce :=
    Lineage.declaresIdentityOnce_of_head (hHead.symm ▸ hSome)
  have hIdentity : (b.document.lineage c).identity = c.identityFields :=
    Lineage.identity_of_head hHead hSome
  have hFields : c.fields ≠ [] := ClassMapping.fields_ne_nil_of_identityFields hSome
  obtain ⟨namess, hFieldNames, rfl⟩ := Document.fieldNames_of_identityTypes hNames
  have hTyped := types_of_identity h hFields hOnce
  rw [hIdentity] at hFieldNames hTyped
  -- the key is made of the columns of these fields
  rw [keyColumns_eq_of_table h hFields hOnce, hIdentity]
  -- field by field, the names stand for the columns
  have hEach : ∀ f ∈ c.identityFields, ∀ names, b.document.ResolvedNames f names →
      List.Forall₂ (b.StandsFor c t) names f.columns := by
    intro f hf names hNames
    obtain ⟨ft, hTypes, hColumns⟩ := hTyped f hf
    exact hTypes.standsFor hf hNames hColumns
  have hStands : List.Forall₂ (fun f names => List.Forall₂ (b.StandsFor c t) names f.columns)
      c.identityFields namess :=
    ((List.forall₂_and_left _ _).2 ⟨hEach, hFieldNames⟩).imp fun f names h => h.1 names h.2
  rw [List.flatMap_def]
  exact List.rel_flatten (List.forall₂_map_right_iff.2 hStands.flip)

end Fields

/-! ## The comparison -/

/-- Two names that mean the same are read as one type, up to its name, if both are read as types. -/
theorem sameType_eq_ok_true {name name' : String} (h : b.sameType name name' = .ok true) :
    (∃ type type', b.columnType? name = .ok (some type) ∧
        b.columnType? name' = .ok (some type') ∧ type.anonymous = type'.anonymous) ∨
      b.columnType? name = .ok none ∨ b.columnType? name' = .ok none := by
  obtain ⟨o, hName, h⟩ := bind_eq_ok_iff.1 h
  obtain ⟨o', hName', h⟩ := bind_eq_ok_iff.1 h
  cases o with
  -- what is no type is not compared at all
  | none => exact Or.inr (Or.inl hName)
  | some type =>
    cases o' with
    | none => exact Or.inr (Or.inr hName')
    | some type' =>
      -- of two types everything but the names is compared
      have hSame : (type.anonymous == type'.anonymous) = true := Except.ok.inj h
      exact Or.inl ⟨type, type', hName, hName', beq_iff_eq.1 hSame⟩

/-- The comparison of two lists of types is one of each pair. -/
theorem forall₂_of_sameTypes {names names' : List String} (hLength : names.length = names'.length)
    (h : b.sameTypes names names' = .ok true) :
    List.Forall₂ (fun name name' => b.sameType name name' = .ok true) names names' := by
  induction names generalizing names' with
  | nil =>
    rw [List.length_eq_zero_iff.1 hLength.symm]
    exact .nil
  | cons name rest ih =>
    cases names' with
    | nil => cases hLength
    | cons name' rest' =>
      obtain ⟨same, hSame, h⟩ := bind_eq_ok_iff.1 h
      cases same with
      -- the first pair would have been the end
      | false => cases h
      | true => exact .cons hSame (ih (Nat.succ.inj hLength) h)

/-- Two classes agree if they have equally many identity types, which mean the same. -/
theorem checkIdentity_eq_ok {c p : ClassMapping} (h : b.checkIdentity c p = .ok ()) :
    ∃ names names', b.document.identityTypes c = .ok names ∧
      b.document.identityTypes p = .ok names' ∧
      List.Forall₂ (fun name name' => b.sameType name name' = .ok true) names names' := by
  -- both identities were found
  obtain ⟨names, hNames, h⟩ := bind_eq_ok_iff.1 h
  obtain ⟨names', hNames', h⟩ := bind_eq_ok_iff.1 h
  refine ⟨names, names', mapError_eq_ok_iff.1 hNames, mapError_eq_ok_iff.1 hNames', ?_⟩
  extract_lets finish at h
  split at h
  -- their lengths are equal, so the comparison went through all pairs
  · next hLength =>
    obtain ⟨agree, hSame, h⟩ := bind_eq_ok_iff.1 h
    cases agree with
    | false => cases h
    | true => exact forall₂_of_sameTypes hLength hSame
  · cases h

/-- A merge for a class with identity columns of its own has compared it with its parent. -/
theorem checkIdentity_of_inherit {c p : ClassMapping} {t t' : Table}
    (hExtends : b.document.Extends c p) (hOwn : c.ownIdentityColumns ≠ [])
    (h : (b.inherit t (b.document.lineage c)).outcome = .ok t') : b.checkIdentity c p = .ok () := by
  rcases Document.lineageFrom_cases b.document (Document.without b.document.classes c.name) c with
    ⟨hParent, -⟩ | ⟨name, hParent, -⟩ | ⟨p', hExtends', -, hEq⟩ | ⟨p', -, -, hEq⟩
  -- without a parent there would have been no comparison
  · cases hParent.symm.trans hExtends
  · cases hParent.symm.trans hExtends
  · cases hExtends'.symm.trans hExtends
    rw [Document.lineage, hEq] at h
    -- with identity columns the comparison comes before anything else
    rcases inherit_step_eq_ok h with ⟨hNone, -⟩ | ⟨-, hCheck, -⟩
    · exact absurd hNone hOwn
    · rwa [Document.head_lineageFrom] at hCheck
  -- a circle is an error
  · rw [Document.lineage, hEq] at h
    cases h

/-- Columns of two keys that stand for names of the same meaning have types that agree. -/
theorem StandsFor.agrees {c p : ClassMapping} {t u : Table} {name name' column column' : String}
    (h : b.StandsFor c t name column) (h' : b.StandsFor p u name' column')
    (hSame : b.sameType name name' = .ok true) :
    ∃ type type', t.columnType? column = some type ∧ u.columnType? column' = some type' ∧
      (type.anonymous = type'.anonymous ∨ c.PassesOver b.catalog column ∨
        p.PassesOver b.catalog column') := by
  -- a name that was passed over says nothing about its column, so only two that are read are left
  cases h with
  | @passedOver type hColumn _ hOver =>
    obtain ⟨type', hColumn'⟩ : ∃ type', u.columnType? column' = some type' := by
      cases h' with
      | reads hColumn' => exact ⟨_, hColumn'⟩
      | passedOver hColumn' => exact ⟨_, hColumn'⟩
    exact ⟨type, type', hColumn, hColumn', Or.inr (Or.inl hOver)⟩
  | @reads type hColumn hName =>
    cases h' with
    | @passedOver type' hColumn' _ hOver =>
      exact ⟨type, type', hColumn, hColumn', Or.inr (Or.inr hOver)⟩
    | @reads type' hColumn' hName' =>
      refine ⟨type, type', hColumn, hColumn', Or.inl ?_⟩
      -- both names are read, so the comparison was one of types
      rcases sameType_eq_ok_true hSame with ⟨v, v', hRead, hRead', hEq⟩ | hNone | hNone
      · cases hName.symm.trans hRead
        cases hName'.symm.trans hRead'
        exact hEq
      · cases hName.symm.trans hNone
      · cases hName'.symm.trans hNone

end Blueprint

/-- **The keys of classes that extend each other.** Where a mapped class extends a mapped class, and
both have identity columns of their own, the primary keys of the two tables have equally many
columns. Position by position the types of these are the same up to their names, except for a column
of a field whose SQL type is no column type. -/
theorem Schema.keyTypes_of_extends {registry : KeyGeneratorRegistry} {settings : Settings}
    {catalog : TypeCatalog} {d : Document} {s : Schema}
    (h : (Schema.ofDocument registry settings catalog d).outcome = .ok s)
    {c p : ClassMapping} (hc : c ∈ d.classes) (hExtends : d.Extends c p) {name name' : String}
    (hMapped : c.mappedTable = some name) (hMapped' : p.mappedTable = some name')
    (hOwn : c.ownIdentityColumns ≠ []) (hOwn' : p.ownIdentityColumns ≠ []) :
    ∃ t u key key', s.table? name = some t ∧ s.table? name' = some u ∧
      t.primaryKey.map (·.columns) = some key ∧ u.primaryKey.map (·.columns) = some key' ∧
      List.Forall₂ (fun column column' => ∃ type type', t.columnType? column = some type ∧
        u.columnType? column' = some type' ∧ (type.anonymous = type'.anonymous ∨
          c.PassesOver catalog column ∨ p.PassesOver catalog column')) key key' := by
  obtain ⟨b, js, rfl, rfl, -, hBuilds⟩ := Schema.exists_builds_of_ofDocument h
  obtain ⟨t, built, js₀, js₁, hFind, hTable⟩ := hBuilds.exists_table_of_class hc hMapped
  obtain ⟨u, built', js₀', js₁', hFind', hTable'⟩ :=
    hBuilds.exists_table_of_class hExtends.mem_classes hMapped'
  have hSome : c.identityFields ≠ [] := mt ClassMapping.ownIdentityColumns_eq_nil_iff.2 hOwn
  have hSome' : p.identityFields ≠ [] := mt ClassMapping.ownIdentityColumns_eq_nil_iff.2 hOwn'
  have hFields : c.fields ≠ [] := ClassMapping.fields_ne_nil_of_identityFields hSome
  -- the merge for the class has compared it with its parent
  obtain ⟨g, v, w, -, hInherit, -⟩ := Blueprint.contributed_of_table hTable hFields
  obtain ⟨names, names', hNames, hNames', hSame⟩ :=
    Blueprint.checkIdentity_eq_ok (Blueprint.checkIdentity_of_inherit hExtends hOwn hInherit)
  -- in both tables the names stand for the columns of the key
  have hKey := Blueprint.standsFor_of_table hTable hSome hNames
  have hKey' := Blueprint.standsFor_of_table hTable' hSome' hNames'
  refine ⟨t, u, t.keyColumns, u.keyColumns, hFind, hFind', ?_, ?_, ?_⟩
  · rw [(Blueprint.keyed_of_table hTable).key]
    rfl
  · rw [(Blueprint.keyed_of_table hTable').key]
    rfl
  · -- from a column to its name, across to the name in the parent, and on to the column there
    have hAcross : List.Forall₂ (fun column name' => ∃ name, b.StandsFor c t name column ∧
        b.sameType name name' = .ok true) t.keyColumns names' :=
      forall₂_comp (fun _ name _ hStands hEq => ⟨name, hStands, hEq⟩) hKey.flip hSame
    refine forall₂_comp (fun column name' column' hHere hThere => ?_) hAcross hKey'
    -- what both names mean is the same, so the types of the columns are
    obtain ⟨name, hStands, hEq⟩ := hHere
    exact hStands.agrees hThere hEq

/-- Employees are persons with a key of their own, whose types have other names. -/
def Document.staffed : Document where
  classes :=
    [{ name := "Person"
       table := some "person"
       fields :=
         [{ name := "id", type := "integer", identity := true, columns := ["id"] },
          { name := "code", type := "varchar(80)", identity := true, columns := ["code"] }] },
     { name := "Employee"
       table := some "employee"
       parent := some "Person"
       fields :=
         [{ name := "no", type := "string", identity := true, columns := ["no"]
            sqlType := some "int" },
          { name := "badge", type := "longvarchar(80)", identity := true, columns := ["badge"] }] }]

/-- No column of the two keys has an SQL type that was passed over, so all types agree. -/
theorem Schema.keyTypes_of_staffed :
    ∃ s t u, (Schema.ofDocument (.initial .generic) {} (Dialect.generic.catalog {})
        .staffed).outcome = .ok s ∧
      s.table? "employee" = some t ∧ s.table? "person" = some u ∧
      t.primaryKey.map (·.columns) = some ["no", "badge"] ∧
      u.primaryKey.map (·.columns) = some ["id", "code"] ∧
      List.Forall₂ (fun column column' => (t.columnType? column).map (·.anonymous) =
        (u.columnType? column').map (·.anonymous)) ["no", "badge"] ["id", "code"] := by
  -- the two keys are computed, and the types follow from the theorem
  let keys (s : Schema) := ((s.table? "employee").map fun t => t.primaryKey.map (·.columns),
    (s.table? "person").map fun u => u.primaryKey.map (·.columns))
  obtain ⟨s, hs, hKeys⟩ : ∃ s, (Schema.ofDocument (.initial .generic) {}
      (Dialect.generic.catalog {}) .staffed).outcome = .ok s ∧
      keys s = (some (some ["no", "badge"]), some (some ["id", "code"])) := by
    refine exists_ok_of_toOption_map ?_
    decide +kernel
  have hEmployee : Document.staffed.classes[1] ∈ Document.staffed.classes := List.getElem_mem _
  have hExtends : Document.staffed.Extends Document.staffed.classes[1]
      Document.staffed.classes[0] := rfl
  obtain ⟨t, u, key, key', hFind, hFind', hKey, hKey', hTypes⟩ :=
    Schema.keyTypes_of_extends hs hEmployee hExtends rfl rfl (by decide) (by decide)
  simp only [keys, hFind, hFind', Option.map_some, Prod.mk.injEq, Option.some.injEq] at hKeys
  -- these are the columns that the theorem speaks of
  obtain rfl := Option.some.inj (hKey.symm.trans hKeys.1)
  obtain rfl := Option.some.inj (hKey'.symm.trans hKeys.2)
  refine ⟨s, t, u, hs, hFind, hFind', hKey, hKey', hTypes.imp ?_⟩
  rintro column column' ⟨type, type', hColumn, hColumn', hEq | ⟨f, hf, -, q, hGiven, hNone⟩ |
    ⟨f, hf, -, q, hGiven, -⟩⟩
  -- no SQL type was passed over at all
  · rw [hColumn, hColumn', Option.map_some, Option.map_some, hEq]
  · -- the only SQL type is one that the catalog knows
    obtain ⟨o, hInt, hSome⟩ : ∃ o, (Dialect.generic.catalog {}).get? "int" = .ok o ∧
        o.isSome = true := exists_ok_of_toOption_map (by decide +kernel)
    rcases List.mem_pair.1 hf with rfl | rfl
    · obtain rfl : "int" = q := Option.some.inj (Eq.trans (by decide) hGiven)
      cases hInt.symm.trans hNone
      cases hSome
    · cases hGiven
  -- the identity of a person has no SQL types
  · rcases List.mem_pair.1 hf with rfl | rfl
    · cases hGiven
    · cases hGiven

/-- The SQL type of both keys is no column type. -/
def Document.mistyped : Document where
  classes :=
    [{ name := "Person"
       table := some "person"
       fields :=
         [{ name := "id", type := "integer", identity := true, columns := ["id"]
            sqlType := some "weird" }] },
     { name := "Employee"
       table := some "employee"
       parent := some "Person"
       fields :=
         [{ name := "badge", type := "varchar(10)", identity := true, columns := ["badge"]
            sqlType := some "weird" }] }]

/-- The SQL types are compared as texts, while the columns have their types from the fields. -/
theorem Schema.keyTypes_of_mistyped :
    (Document.mistyped.Extends Document.mistyped.classes[1] Document.mistyped.classes[0] ∧
      ∀ c ∈ Document.mistyped.classes, c.ownIdentityColumns ≠ []) ∧
    ∃ s t u, (Schema.ofDocument (.initial .generic) {} (Dialect.generic.catalog {})
        .mistyped).outcome = .ok s ∧
      s.table? "employee" = some t ∧ s.table? "person" = some u ∧
      t.primaryKey.map (·.columns) = some ["badge"] ∧
      u.primaryKey.map (·.columns) = some ["id"] ∧
      (t.columnType? "badge").map (·.sqlType) = some "VARCHAR" ∧
      (u.columnType? "id").map (·.sqlType) = some "INTEGER" := by
  -- what is computed: both keys and the types of their columns
  let keys (s : Schema) :=
    ((s.table? "employee").map fun t => (t.primaryKey.map (·.columns),
        (t.columnType? "badge").map (·.sqlType)),
      (s.table? "person").map fun u => (u.primaryKey.map (·.columns),
        (u.columnType? "id").map (·.sqlType)))
  refine ⟨⟨rfl, by decide⟩, ?_⟩
  obtain ⟨s, hs, hKeys⟩ : ∃ s, (Schema.ofDocument (.initial .generic) {}
      (Dialect.generic.catalog {}) .mistyped).outcome = .ok s ∧
      keys s = (some (some ["badge"], some "VARCHAR"), some (some ["id"], some "INTEGER")) := by
    refine exists_ok_of_toOption_map ?_
    decide +kernel
  obtain ⟨hHere, hThere⟩ := Prod.mk.inj hKeys
  obtain ⟨t, hFind, hTable⟩ := Option.map_eq_some_iff.1 hHere
  obtain ⟨u, hFind', hTable'⟩ := Option.map_eq_some_iff.1 hThere
  obtain ⟨hKey, hType⟩ := Prod.mk.inj hTable
  obtain ⟨hKey', hType'⟩ := Prod.mk.inj hTable'
  exact ⟨s, t, u, hs, hFind, hFind', hKey, hKey', hType, hType'⟩

end MappingDdl
