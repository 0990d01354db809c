import Mathlib.Data.List.Forall2
import MappingDdl.Proofs.Table
import MappingDdl.Schema.Build

/-!
# The columns of fields — their types, and how a table gets them

A field gets one type for each of its columns, in one of three ways (`Blueprint.HasTypes`). The
columns of several fields stand one field after the other (`Blueprint.Lays`). This module states
what the functions do that find types and add columns; no later module looks into these functions
again.

Main results:

* `Blueprint.fieldTypes_eq_ok_iff` — types are found exactly in the three ways.
* `Blueprint.addColumns_eq_ok` — columns are added at the end, one step for each.
* `Blueprint.Lays.columnNames`, `Blueprint.Lays.identityNames` — the names of the columns, and of
  the identity columns, of a list of fields.
-/

namespace MappingDdl

/-! ## Opening a computation -/

section Outcome

variable {ε ε' α β : Type}

/-- A computation in two steps succeeds if both do, one after the other. -/
theorem bind_eq_ok_iff {x : Except ε α} {f : α → Except ε β} {b : β} :
    (x >>= f) = .ok b ↔ ∃ a, x = .ok a ∧ f a = .ok b := by
  cases x <;> simp [bind, Except.bind]

/-- Rewording a fault leaves successes as they are. -/
theorem mapError_eq_ok_iff {f : ε → ε'} {x : Except ε α} {a : α} :
    x.mapError f = .ok a ↔ x = .ok a := by
  cases x <;> simp [Except.mapError]

/-- A message in the log has no part in the outcome. -/
theorem outcome_debug_bind {message : String} {f : Unit → Building α} :
    (Building.debug message >>= f).outcome = (f ()).outcome := by
  rw [Traced.outcome_bind]
  rfl

end Outcome

/-! ## Stored fields -/

/-- A stored field has columns. -/
theorem FieldMapping.columns_ne_nil_of_isStored {f : FieldMapping} (h : f.isStored = true) :
    f.columns ≠ [] := by
  intro hNone
  simp [isStored, hasColumns, hNone] at h

/-- The identity fields of a class are its stored fields that belong to the identity. -/
theorem ClassMapping.mem_identityFields_iff {c : ClassMapping} {f : FieldMapping} :
    f ∈ c.identityFields ↔ f ∈ c.fields ∧ c.isIdentity f = true ∧ f.isStored = true := by
  rw [identityFields, List.mem_filter, Bool.and_eq_true]

/-- The identity fields are the stored ones among those that count as identity. -/
theorem ClassMapping.filter_isIdentity (c : ClassMapping) :
    (c.fields.filter (·.isStored)).filter c.isIdentity = c.identityFields := by
  rw [List.filter_filter]
  rfl

namespace Blueprint

variable {b : Blueprint}

/-! ## Types of columns -/

/-- The type of a column is what the catalog has. -/
theorem columnType?_eq_ok_iff {s : String} {o : Option ColumnType} :
    b.columnType? s = .ok o ↔ b.catalog.get? s = .ok o :=
  mapError_eq_ok_iff

/-- Type expressions are read as column types, one for one. -/
abbrev Reads (b : Blueprint) : List String → List ColumnType → Prop :=
  List.Forall₂ fun name t => b.columnType? name = .ok (some t)

/-- The types that the columns of a field get: from its SQL type if that is a column type, else one
for each identity column of the class that its type names, else from its type. -/
inductive HasTypes (b : Blueprint) (f : FieldMapping) : FieldTypes → Prop
  | sqlType {s : String} {t : ColumnType} (hGiven : given f.sqlType = some s)
      (hType : b.columnType? s = .ok (some t)) : HasTypes b f ⟨f.columns.map fun _ => t, none⟩
  | reference {r : ClassMapping} {names : List String} {types : List ColumnType}
      (hSqlType : ∀ s, given f.sqlType = some s → b.columnType? s = .ok none)
      (hClass : b.document.class? f.type = some r)
      (hNames : b.document.identityTypes r = .ok names)
      (hLength : names.length = f.columns.length)
      (hTypes : b.Reads names types) : HasTypes b f ⟨types, some r⟩
  | declared {t : ColumnType}
      (hSqlType : ∀ s, given f.sqlType = some s → b.columnType? s = .ok none)
      (hClass : b.document.class? f.type = none)
      (hType : b.columnType? f.type = .ok (some t)) : HasTypes b f ⟨f.columns.map fun _ => t, none⟩

/-- A field has one type for each of its columns. -/
theorem HasTypes.length_types {f : FieldMapping} {ft : FieldTypes} (h : b.HasTypes f ft) :
    ft.types.length = f.columns.length := by
  cases h with
  | sqlType => simp
  | reference _ _ _ hLength hTypes => rw [← hTypes.length_eq, hLength]
  | declared => simp

/-- A field has the class that it refers to by its type. -/
theorem HasTypes.class?_eq_some {f : FieldMapping} {types : List ColumnType} {r : ClassMapping}
    (h : b.HasTypes f ⟨types, some r⟩) : b.document.class? f.type = some r := by
  cases h with
  | reference _ hClass => exact hClass

/-- Without an SQL type that is a column type, a field refers to the class that its type names. -/
theorem HasTypes.referenced_of_unresolved {f : FieldMapping} {ft : FieldTypes} {r : ClassMapping}
    (h : b.HasTypes f ft) (hSqlType : ∀ s, given f.sqlType = some s → b.columnType? s = .ok none)
    (hClass : b.document.class? f.type = some r) : ft.referenced = some r := by
  cases h with
  | sqlType hGiven hType => cases (hSqlType _ hGiven).symm.trans hType
  | reference _ hClass' => exact hClass'.symm.trans hClass
  | declared _ hNone => cases hNone.symm.trans hClass

/-- A field with no SQL type that has the name of a class for its type refers to this class. -/
theorem HasTypes.referenced_eq_some {f : FieldMapping} {ft : FieldTypes} {r : ClassMapping}
    (h : b.HasTypes f ft) (hSqlType : given f.sqlType = none)
    (hClass : b.document.class? f.type = some r) : ft.referenced = some r :=
  h.referenced_of_unresolved (fun _ hGiven => by cases hSqlType.symm.trans hGiven) hClass

/-- The types of the identity are read one by one from their names. -/
theorem identityColumnTypes_eq_ok_iff {c : ClassMapping} {f : FieldMapping} {r : ClassMapping}
    {names : List String} {types : List ColumnType} :
    b.identityColumnTypes c f r names = .ok types ↔ b.Reads names types := by
  induction names generalizing types with
  | nil => cases types <;> simp [identityColumnTypes]
  | cons name rest ih =>
    rw [identityColumnTypes, bind_eq_ok_iff, Reads, List.forall₂_cons_left_iff]
    constructor
    -- the first name has a type, and the rest are read behind it
    · rintro ⟨_ | t, hType, h⟩
      · cases h
      · obtain ⟨ts, hRest, h⟩ := bind_eq_ok_iff.1 h
        cases h
        exact ⟨t, ts, hType, ih.1 hRest, rfl⟩
    · rintro ⟨t, ts, hType, hRest, rfl⟩
      exact ⟨some t, hType, bind_eq_ok_iff.2 ⟨ts, ih.2 hRest, rfl⟩⟩

/-- A reference has the types of the identity it refers to, if there are as many as columns. -/
theorem referenceTypes_eq_ok_iff {c : ClassMapping} {f : FieldMapping} {r : ClassMapping}
    {types : List ColumnType} :
    b.referenceTypes c f r = .ok types ↔
      ∃ names, b.document.identityTypes r = .ok names ∧ names.length = f.columns.length ∧
        b.Reads names types := by
  rw [referenceTypes, bind_eq_ok_iff]
  refine exists_congr fun names => ?_
  rw [mapError_eq_ok_iff]
  refine and_congr_right fun _ => ?_
  by_cases hLength : names.length = f.columns.length
  · simp [hLength, identityColumnTypes_eq_ok_iff]
  · simp [hLength, bind, Except.bind]

/-- Without an SQL type that is a column type, a field has the types that its type declares. -/
theorem declaredTypes_eq_ok_iff {c : ClassMapping} {f : FieldMapping} {ft : FieldTypes}
    (hSqlType : ∀ s, given f.sqlType = some s → b.columnType? s = .ok none) :
    b.declaredTypes c f = .ok ft ↔ b.HasTypes f ft := by
  unfold declaredTypes
  -- what the type names decides: a class, whose identity has types, or a column type
  constructor
  · intro h
    -- the type names a class
    split at h
    · next r hClass =>
      obtain ⟨types, hTypes, hEq⟩ := bind_eq_ok_iff.1 h
      obtain ⟨names, hNames, hLength, hForall⟩ := referenceTypes_eq_ok_iff.1 hTypes
      cases hEq
      exact .reference hSqlType hClass hNames hLength hForall
    -- it names none, so that it is a type of its own
    · next hClass =>
      obtain ⟨_ | t, hType, hEq⟩ := bind_eq_ok_iff.1 h
      · cases hEq
      · cases hEq
        exact .declared hSqlType hClass hType
  -- and back again, from each of the three ways to have types
  · rintro (⟨hGiven, hType⟩ | ⟨-, hClass, hNames, hLength, hTypes⟩ | ⟨-, hClass, hType⟩)
    · cases (hSqlType _ hGiven).symm.trans hType
    · simp only [hClass]
      exact bind_eq_ok_iff.2 ⟨_, referenceTypes_eq_ok_iff.2 ⟨_, hNames, hLength, hTypes⟩, rfl⟩
    · simp only [hClass]
      exact bind_eq_ok_iff.2 ⟨_, hType, rfl⟩

/-- The types of a field are those that `HasTypes` says it has. -/
theorem fieldTypes_eq_ok_iff {c : ClassMapping} {f : FieldMapping} {ft : FieldTypes} :
    (b.fieldTypes c f).outcome = .ok ft ↔ b.HasTypes f ft := by
  unfold fieldTypes
  -- an SQL type comes first; one that is not a column type is passed over
  cases hGiven : given f.sqlType with
  | none =>
    -- none is given
    exact declaredTypes_eq_ok_iff (by simp [hGiven])
  | some s =>
    simp only [Traced.outcome_bind_eq_ok_iff, Traced.outcome_ofExcept]
    -- one is given: it is a column type, or the type of the field decides
    constructor
    · rintro ⟨_ | t, hType, h⟩
      · refine (declaredTypes_eq_ok_iff fun s' hs' => ?_).1 (outcome_debug_bind.symm.trans h)
        rw [← Option.some.inj (hGiven.symm.trans hs')]
        exact hType
      · cases h
        exact .sqlType hGiven hType
    -- so it is the other way round
    · intro h
      by_cases hSqlType : b.columnType? s = .ok none
      · refine ⟨none, hSqlType, outcome_debug_bind.trans ((declaredTypes_eq_ok_iff ?_).2 h)⟩
        intro s' hs'
        rw [← Option.some.inj (hGiven.symm.trans hs')]
        exact hSqlType
      · -- only an SQL type that is a column type is left
        cases h with
        | @sqlType s' t hGiven' hType =>
          rw [← Option.some.inj (hGiven.symm.trans hGiven')] at hType
          exact ⟨some t, hType, rfl⟩
        | reference hNone => exact absurd (hNone s hGiven) hSqlType
        | declared hNone => exact absurd (hNone s hGiven) hSqlType

/-- A field has its types in one way only. -/
theorem HasTypes.unique {f : FieldMapping} {ft ft' : FieldTypes} (h : b.HasTypes f ft)
    (h' : b.HasTypes f ft') : ft = ft' := by
  have hOutcome := (fieldTypes_eq_ok_iff (c := default)).2 h
  exact Except.ok.inj (hOutcome.symm.trans (fieldTypes_eq_ok_iff.2 h'))

/-! ## Columns -/

end Blueprint

/-- The columns of a field with given types. Columns of a reference have no key generator. -/
def FieldTypes.columns (ft : FieldTypes) (f : FieldMapping) (identity : Bool)
    (g : Option KeyGenerator) : List Column :=
  (f.columns.zip ft.types).map fun p =>
    ⟨p.1, p.2, identity, f.required, if ft.referenced.isNone then g else none⟩

namespace Blueprint

variable {b : Blueprint}

/-- The columns `cs` are those of the fields, one field after the other. -/
inductive Lays (b : Blueprint) (identity : FieldMapping → Bool) (g : Option KeyGenerator) :
    List FieldMapping → List Column → Prop
  | nil : Lays b identity g [] []
  | cons {f : FieldMapping} {ft : FieldTypes} {rest : List FieldMapping} {cs : List Column}
      (hTypes : b.HasTypes f ft) (hRest : Lays b identity g rest cs) :
      Lays b identity g (f :: rest) (ft.columns f (identity f) g ++ cs)

/-- The columns of a field have the names that it gives, -/
theorem HasTypes.columnNames {f : FieldMapping} {ft : FieldTypes} (h : b.HasTypes f ft)
    (identity : Bool) (g : Option KeyGenerator) :
    (ft.columns f identity g).map (·.name) = f.columns := by
  simp only [FieldTypes.columns, List.map_map, Function.comp_def]
  exact List.map_fst_zip (Nat.le_of_eq h.length_types.symm)

/-- and the types that it has, in this order. -/
theorem HasTypes.columnTypes {f : FieldMapping} {ft : FieldTypes} (h : b.HasTypes f ft)
    (identity : Bool) (g : Option KeyGenerator) :
    (ft.columns f identity g).map (·.type) = ft.types := by
  simp only [FieldTypes.columns, List.map_map, Function.comp_def]
  exact List.map_snd_zip (Nat.le_of_eq h.length_types)

/-- The columns that fields lay have the names of the fields' columns, in order. -/
theorem Lays.columnNames {identity : FieldMapping → Bool} {g : Option KeyGenerator}
    {fs : List FieldMapping} {cs : List Column} (h : b.Lays identity g fs cs) :
    cs.map (·.name) = fs.flatMap (·.columns) := by
  induction h with
  | nil => rfl
  | cons hTypes _ ih => rw [List.map_append, hTypes.columnNames, ih, List.flatMap_cons]

/-- Fields in two parts lay their columns in two parts. -/
theorem Lays.append {identity : FieldMapping → Bool} {g : Option KeyGenerator}
    {fs fs' : List FieldMapping} {cs cs' : List Column} (h : b.Lays identity g fs cs)
    (h' : b.Lays identity g fs' cs') : b.Lays identity g (fs ++ fs') (cs ++ cs') := by
  induction h with
  | nil => exact h'
  | cons hTypes _ ih =>
    rw [List.cons_append, List.append_assoc]
    exact .cons hTypes ih

/-- One field lays its own columns. -/
theorem Lays.singleton {identity : FieldMapping → Bool} {g : Option KeyGenerator}
    {f : FieldMapping} {ft : FieldTypes} (hTypes : b.HasTypes f ft) :
    b.Lays identity g [f] (ft.columns f (identity f) g) :=
  List.append_nil (ft.columns f (identity f) g) ▸ .cons hTypes .nil

/-- Every column is one of a field. -/
theorem Lays.exists_field {identity : FieldMapping → Bool} {g : Option KeyGenerator}
    {fs : List FieldMapping} {cs : List Column} (h : b.Lays identity g fs cs) {column : Column}
    (hColumn : column ∈ cs) :
    ∃ f ∈ fs, ∃ ft, b.HasTypes f ft ∧ column ∈ ft.columns f (identity f) g := by
  induction h with
  | nil => cases hColumn
  | @cons f ft rest cs hTypes _ ih =>
    rcases List.mem_append.1 hColumn with hHere | hLater
    · exact ⟨f, List.mem_cons_self, ft, hTypes, hHere⟩
    · obtain ⟨f', hf', hOf⟩ := ih hLater
      exact ⟨f', List.mem_cons_of_mem _ hf', hOf⟩

/-- Every field has types, and its columns are there. -/
theorem Lays.exists_columns {identity : FieldMapping → Bool} {g : Option KeyGenerator}
    {fs : List FieldMapping} {cs : List Column} (h : b.Lays identity g fs cs) {f : FieldMapping}
    (hf : f ∈ fs) : ∃ ft, b.HasTypes f ft ∧ ft.columns f (identity f) g ⊆ cs := by
  induction h with
  | nil => cases hf
  | @cons f' ft rest cs hTypes _ ih =>
    rcases List.mem_cons.1 hf with rfl | hRest
    · exact ⟨ft, hTypes, List.subset_append_left _ _⟩
    · obtain ⟨ft', hTypes', hSub⟩ := ih hRest
      exact ⟨ft', hTypes', List.subset_append_of_subset_right _ hSub⟩

/-- Among the columns of fields, the identity columns are those of the identity fields. -/
theorem Lays.identityNames {identity : FieldMapping → Bool} {g : Option KeyGenerator}
    {fs : List FieldMapping} {cs : List Column} (h : b.Lays identity g fs cs) :
    (cs.filter (·.identity)).map (·.name) = (fs.filter identity).flatMap (·.columns) := by
  induction h with
  | nil => rfl
  | @cons f ft rest cs hTypes _ ih =>
    rw [List.filter_append, List.map_append, ih, List.filter_cons]
    -- the columns of one field are all identity columns, or none is
    have hSame : ∀ c ∈ ft.columns f (identity f) g, c.identity = identity f := by
      intro c hc
      obtain ⟨p, -, rfl⟩ := List.mem_map.1 hc
      rfl
    cases hIdentity : identity f with
    | true =>
      rw [List.filter_eq_self.2 fun c hc => (hIdentity ▸ hSame c (hIdentity ▸ hc)),
        hTypes.columnNames, if_pos rfl, List.flatMap_cons]
    | false =>
      rw [List.filter_eq_nil_iff.2 fun c hc => by
        rw [hSame c (hIdentity ▸ hc), hIdentity]
        exact Bool.false_ne_true]
      rfl

/-- Adding columns takes one step for each of them, and puts them at the end. -/
theorem addColumns_eq_ok {t t' : Table} {f : FieldMapping} {identity : Bool}
    {g : Option KeyGenerator} {ps : List (String × ColumnType)}
    (h : addColumns t f identity g ps = .ok t') :
    t.ColumnsGrow t' ∧
      t'.columns = t.columns ++ ps.map fun p => ⟨p.1, p.2, identity, f.required, g⟩ := by
  induction ps generalizing t with
  | nil =>
    cases h
    exact ⟨.refl, by simp⟩
  | cons p rest ih =>
    -- the first column is added, then the others behind it
    obtain ⟨u, hAdd, hRest⟩ := bind_eq_ok_iff.1 h
    obtain ⟨hGrow, hColumns⟩ := ih hRest
    refine ⟨Relation.ReflTransGen.head (.column _ hAdd) hGrow, ?_⟩
    obtain ⟨-, rfl⟩ := Table.addColumn_eq_ok_iff.1 hAdd
    -- joining the primary key leaves the columns as they are
    have hKept : ∀ u : Table, (if identity then u.addKeyColumn p.1 else u).columns = u.columns := by
      intro u
      split <;> rfl
    rw [hColumns, hKept]
    simp

/-- The columns of a field stand behind those that are there. -/
theorem HasTypes.columnNames_of_addColumns {t t' : Table} {f : FieldMapping} {ft : FieldTypes}
    {identity : Bool} {g : Option KeyGenerator} (hTypes : b.HasTypes f ft)
    (h : addColumns t f identity g (f.columns.zip ft.types) = .ok t') :
    t'.columnNames = t.columnNames ++ f.columns := by
  rw [Table.columnNames, (addColumns_eq_ok h).2, List.map_append, List.map_map]
  exact congrArg _ (List.map_fst_zip (Nat.le_of_eq hTypes.length_types.symm))

/-- The key stays in the order of the columns while columns are added. -/
theorem keyInOrder_of_addColumns {t t' : Table} {f : FieldMapping} {identity : Bool}
    {g : Option KeyGenerator} {ps : List (String × ColumnType)}
    (h : addColumns t f identity g ps = .ok t') (hKeyed : t.Keyed) (hOrder : t.KeyInOrder) :
    t'.KeyInOrder := by
  induction ps generalizing t with
  | nil =>
    cases h
    exact hOrder
  | cons p rest ih =>
    obtain ⟨u, hAdd, hRest⟩ := bind_eq_ok_iff.1 h
    exact ih hRest (hKeyed.of_column hAdd) (hOrder.of_column hAdd hKeyed)

end Blueprint

end MappingDdl
