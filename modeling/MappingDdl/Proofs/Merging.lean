import MappingDdl.Proofs.Chains

/-!
# Merging — what an inherited identity makes of a table

A class without identity fields gets those of the nearest class above it that has any. The merge
walks up to this class and takes its identity fields one by one. A field that is declared again is
*promoted*: the columns it has in the table become identity columns. Any other field is *added* with
its columns. Where a field is declared again is asked of one class only, the one directly below the
class with the identity fields. It is the class of the table where this class is its parent, and
else it is a class in between.

Main results:

* `Blueprint.merged_of_inherit` — the columns and the key generator of a table after the merge.
* `Blueprint.mem_keyColumns_iff_of_table` — the primary key of a class that inherits its identity.
* `Schema.promoted_iff` — when the columns of a field that is declared again become the key.
-/

namespace MappingDdl

/-! ## Fields that are declared again -/

/-- What is made of inherited identity fields: those whose columns are added, and the columns that
are promoted. -/
structure Merge where
  added    : List FieldMapping := []
  promoted : List String := []

namespace ClassMapping

/-- The columns of the stored fields of a class, in the order of their declaration. -/
def columns (c : ClassMapping) : List String :=
  (c.fields.filter (·.isStored)).flatMap (·.columns)

/-- The field with which a class declares a field again, stored in columns that are there. -/
def redeclared? (c : ClassMapping) (columns : List String) (f : FieldMapping) :
    Option FieldMapping :=
  (c.field? f.name).filter fun own => own.isStored && own.columns.all columns.contains

/-- What is made of identity fields that come into a table with the given columns. -/
def merge (c : ClassMapping) : List String → List FieldMapping → Merge
  | _, [] => {}
  | columns, f :: rest =>
    match c.redeclared? columns f with
    | some own =>
      let m := c.merge columns rest
      { m with promoted := own.columns ++ m.promoted }
    | none =>
      let m := c.merge (columns ++ f.columns) rest
      { m with added := f :: m.added }

variable {c : ClassMapping} {columns : List String} {f g own : FieldMapping}
  {fs : List FieldMapping}

/-- A class declares a field again if it has a stored field of this name, whose columns are there.
-/
theorem redeclared?_eq_some_iff :
    c.redeclared? columns f = some own ↔
      c.field? f.name = some own ∧ own.isStored = true ∧ own.columns ⊆ columns := by
  simp [redeclared?, Option.filter_eq_some_iff, List.subset_def]

/-- A field that is declared again has its columns promoted, -/
theorem merge_cons_of_some (h : c.redeclared? columns f = some own) :
    c.merge columns (f :: fs) =
      ⟨(c.merge columns fs).added, own.columns ++ (c.merge columns fs).promoted⟩ := by
  rw [merge, h]

/-- and any other one is added, so that its columns are there for those behind it. -/
theorem merge_cons_of_none (h : c.redeclared? columns f = none) :
    c.merge columns (f :: fs) =
      ⟨f :: (c.merge (columns ++ f.columns) fs).added,
        (c.merge (columns ++ f.columns) fs).promoted⟩ := by
  rw [merge, h]

/-- A field that the class does not declare again is added. -/
theorem mem_added_of_field?_eq_none (hf : f ∈ fs) (hNone : c.field? f.name = none) :
    f ∈ (c.merge columns fs).added := by
  induction fs generalizing columns with
  | nil => cases hf
  | cons f' rest ih =>
    cases hAgain : c.redeclared? columns f' with
    -- declared again, so it is not added
    | some own =>
      rw [merge_cons_of_some hAgain]
      rcases List.mem_cons.1 hf with rfl | hRest
      · cases hNone.symm.trans (redeclared?_eq_some_iff.1 hAgain).1
      · exact ih hRest
    -- a field that is added, as this one is
    | none =>
      rw [merge_cons_of_none hAgain]
      rcases List.mem_cons.1 hf with rfl | hRest
      · exact List.mem_cons_self
      · exact List.mem_cons_of_mem _ (ih hRest)

/-- A field is only added if it is not declared again in the columns that are there. -/
theorem redeclared?_eq_none_of_mem_added (h : f ∈ (c.merge columns fs).added) :
    f ∈ fs ∧ c.redeclared? columns f = none := by
  induction fs generalizing columns with
  | nil => cases h
  | cons f' rest ih =>
    cases hAgain : c.redeclared? columns f' with
    -- the first field is not added
    | some own =>
      rw [merge_cons_of_some hAgain] at h
      obtain ⟨hRest, hNone⟩ := ih h
      exact ⟨List.mem_cons_of_mem _ hRest, hNone⟩
    -- the first field is added, or a later one is
    | none =>
      rw [merge_cons_of_none hAgain] at h
      rcases List.mem_cons.1 h with rfl | hLater
      · exact ⟨List.mem_cons_self, hAgain⟩
      · -- the columns that are there when its turn comes include those from the start
        obtain ⟨hRest, hNone⟩ := ih hLater
        refine ⟨List.mem_cons_of_mem _ hRest, Option.eq_none_iff_forall_ne_some.2 ?_⟩
        intro own hSome
        obtain ⟨hField, hStored, hColumns⟩ := redeclared?_eq_some_iff.1 hSome
        have hSome' := redeclared?_eq_some_iff.2
          ⟨hField, hStored, List.subset_append_of_subset_left f'.columns hColumns⟩
        cases hNone.symm.trans hSome'

/-- The columns of a field that declares an identity field again are promoted. -/
theorem subset_promoted (hf : f ∈ fs) (h : c.redeclared? columns f = some own) :
    own.columns ⊆ (c.merge columns fs).promoted := by
  induction fs generalizing columns with
  | nil => cases hf
  | cons f' rest ih =>
    cases hAgain : c.redeclared? columns f' with
    | some own' =>
      rw [merge_cons_of_some hAgain]
      rcases List.mem_cons.1 hf with rfl | hRest
      -- the first field is the one that is declared again
      · cases hAgain.symm.trans h
        exact List.subset_append_left _ _
      · exact List.subset_append_of_subset_right _ (ih hRest h)
    | none =>
      rw [merge_cons_of_none hAgain]
      rcases List.mem_cons.1 hf with rfl | hRest
      -- a field that is added is not declared again
      · cases hAgain.symm.trans h
      · obtain ⟨hField, hStored, hColumns⟩ := redeclared?_eq_some_iff.1 h
        exact ih hRest (redeclared?_eq_some_iff.2
          ⟨hField, hStored, List.subset_append_of_subset_left f'.columns hColumns⟩)

/-- Only columns of stored fields that declare an identity field again are promoted. -/
theorem exists_field_of_mem_promoted {column : String}
    (h : column ∈ (c.merge columns fs).promoted) :
    ∃ f ∈ fs, ∃ own, c.field? f.name = some own ∧ own.isStored = true ∧ column ∈ own.columns := by
  induction fs generalizing columns with
  | nil => cases h
  | cons f' rest ih =>
    cases hAgain : c.redeclared? columns f' with
    | some own =>
      rw [merge_cons_of_some hAgain] at h
      -- a column of the first field, or of a later one
      rcases List.mem_append.1 h with hHere | hLater
      · obtain ⟨hField, hStored, -⟩ := redeclared?_eq_some_iff.1 hAgain
        exact ⟨f', List.mem_cons_self, own, hField, hStored, hHere⟩
      · obtain ⟨f, hf, hOwn⟩ := ih hLater
        exact ⟨f, List.mem_cons_of_mem _ hf, hOwn⟩
    | none =>
      -- an added field promotes nothing
      rw [merge_cons_of_none hAgain] at h
      obtain ⟨f, hf, hOwn⟩ := ih h
      exact ⟨f, List.mem_cons_of_mem _ hf, hOwn⟩

/-- Columns are promoted that were there, or have been added before. -/
theorem promoted_subset (columns : List String) (fs : List FieldMapping) :
    (c.merge columns fs).promoted ⊆
      columns ++ (c.merge columns fs).added.flatMap (·.columns) := by
  induction fs generalizing columns with
  | nil => exact List.nil_subset _
  | cons f rest ih =>
    cases hAgain : c.redeclared? columns f with
    -- its columns are there already
    | some own =>
      rw [merge_cons_of_some hAgain]
      have hOwn := (redeclared?_eq_some_iff.1 hAgain).2.2
      exact List.append_subset.2 ⟨List.subset_append_of_subset_left _ hOwn, ih columns⟩
    -- they are there for the fields behind it
    | none =>
      rw [merge_cons_of_none hAgain, List.flatMap_cons, ← List.append_assoc]
      exact ih (columns ++ f.columns)

/-- The columns of a stored field are columns of its class. -/
theorem mem_columns_of_stored (hf : f ∈ c.fields) (hStored : f.isStored = true) :
    f.columns ⊆ c.columns := by
  intro column hColumn
  exact List.mem_flatMap.2 ⟨f, List.mem_filter.2 ⟨hf, hStored⟩, hColumn⟩

end ClassMapping

/-! ## The merge along a lineage -/

namespace Lineage

/-- What is made of the identity that the first class of the chain inherits, in a table with the
given columns. Fields that are declared again are looked for in the class directly below the one
with the identity fields. -/
def merge (l : Lineage) (columns : List String) : Merge :=
  match l.belowIdentity.getLast? with
  | some below => below.merge columns l.identity
  | none => {}

/-- The key generator that a table with the generator `g` has after the merge. Each class that the
merge comes to puts in its own, if that is known. -/
def generator (registry : KeyGeneratorRegistry) : Lineage → Option KeyGenerator →
    Option KeyGenerator
  | root _, g | unknownParent _ _, g | cycle _ _, g => g
  | step c rest, g =>
    if c.identityFields.isEmpty then
      rest.generator registry ((registry.get? rest.head.keyGenerator).or g)
    else g

variable {l rest : Lineage} {c n : ClassMapping} {columns : List String}

/-- A class with identity fields inherits none. -/
theorem merge_of_head (h : l.head.identityFields ≠ []) : l.merge columns = {} := by
  rw [merge, belowIdentity_of_head h]
  rfl

/-- A class that extends nothing has nothing to merge. -/
theorem merge_root : (root c).merge columns = {} := by
  by_cases hNone : c.identityFields = []
  · have hBelow : (root c).belowIdentity = [c] := by simp [belowIdentity, toList, hNone]
    rw [merge, hBelow, identity_root, hNone]
    rfl
  · exact merge_of_head hNone

/-- The identity of the parent is merged with regard to the class itself. -/
theorem merge_step_of_head (hNone : c.identityFields = [])
    (hAbove : rest.head.identityFields ≠ []) :
    (step c rest).merge columns = c.merge columns rest.head.identityFields := by
  rw [merge, belowIdentity_step hNone, belowIdentity_of_head hAbove, identity_step hNone,
    identity_of_head rfl hAbove]
  rfl

/-- The identity of a class further above is merged as the parent would have it. -/
theorem merge_step_of_head_nil (hNone : c.identityFields = [])
    (hAbove : rest.head.identityFields = []) :
    (step c rest).merge columns = rest.merge columns := by
  have hBelow := belowIdentity_ne_nil hAbove
  rw [merge, belowIdentity_step hNone, identity_step hNone, List.getLast?_cons_of_ne_nil hBelow]
  rfl

/-- A class with identity fields keeps its key generator. -/
theorem generator_of_head {registry : KeyGeneratorRegistry} {g : Option KeyGenerator}
    (h : l.head.identityFields ≠ []) : l.generator registry g = g := by
  cases l with
  | root => rfl
  | unknownParent => rfl
  | cycle => rfl
  | step c rest =>
    have hSome : c.identityFields ≠ [] := h
    rw [generator, if_neg (by simpa using hSome)]

/-- So it is along a whole lineage. -/
theorem promoted_subset (l : Lineage) (columns : List String) :
    (l.merge columns).promoted ⊆ columns ++ (l.merge columns).added.flatMap (·.columns) := by
  unfold merge
  split
  · exact ClassMapping.promoted_subset columns _
  · exact List.nil_subset _

end Lineage

/-- What is made of the identity that a class inherits, in its own table. -/
def Document.merged (d : Document) (c : ClassMapping) : Merge :=
  (d.lineage c).merge c.columns

/-! ## Promoted columns -/

/-- The column, as an identity column if its name is among the given ones. -/
def Column.promote (names : List String) (c : Column) : Column :=
  { c with identity := c.identity || names.contains c.name }

/-- Without names nothing is promoted. -/
theorem Column.map_promote_nil (cs : List Column) : cs.map (promote []) = cs := by
  have hSame : ∀ c ∈ cs, c.promote [] = c := fun c _ => by simp [promote]
  rw [List.map_congr_left hSame, List.map_id']

/-- Columns can be promoted in two steps. -/
theorem Column.promote_promote (names others : List String) (c : Column) :
    (c.promote names).promote others = c.promote (names ++ others) := by
  simp [promote, Bool.or_assoc]

/-- An identity column stays what it is. -/
theorem Column.promote_of_identity {c : Column} (names : List String) (h : c.identity = true) :
    c.promote names = c := by
  cases c
  simp_all [promote]

/-- To make a column an identity column is to promote it. -/
theorem Table.columns_setIdentity (t : Table) (name : String) :
    (t.setIdentity name true).columns = t.columns.map (Column.promote [name]) := by
  refine List.map_congr_left fun c _ => ?_
  by_cases hName : c.name = name
  · simp [Column.promote, hName]
  · simp [Column.promote, hName]

/-- The identity columns are made identity columns one by one; the key generator stays. -/
theorem Blueprint.columns_foldl_promote (t : Table) (columns : List String) :
    let t' := columns.foldl (fun t column => (t.setIdentity column true).addKeyColumn column) t
    t'.columns = t.columns.map (Column.promote columns) ∧ t'.keyGenerator = t.keyGenerator := by
  -- promoting one after the other is promoting all at once
  induction columns generalizing t with
  | nil =>
    refine ⟨?_, rfl⟩
    rw [List.foldl_nil, Column.map_promote_nil]
  | cons column rest ih =>
    obtain ⟨hColumns, hGenerator⟩ := ih ((t.setIdentity column true).addKeyColumn column)
    refine ⟨hColumns.trans ?_, hGenerator⟩
    have hFirst : ((t.setIdentity column true).addKeyColumn column).columns =
        t.columns.map (Column.promote [column]) := t.columns_setIdentity column
    rw [hFirst, List.map_map]
    exact List.map_congr_left fun c _ => c.promote_promote [column] rest

namespace Blueprint

variable {b : Blueprint} {t t' : Table} {c parent : ClassMapping} {f : FieldMapping}
  {g : Option KeyGenerator} {l : Lineage}

/-- A field is promoted exactly if it is declared again in columns that are there. -/
theorem promote?_eq (t : Table) (c : ClassMapping) (f : FieldMapping) :
    promote? t c f = (c.redeclared? t.columnNames f).map fun own =>
      (own.columns.foldl (fun t column => (t.setIdentity column true).addKeyColumn column) t,
        own.columns) := by
  unfold promote? ClassMapping.redeclared?
  cases c.field? f.name with
  | none => rfl
  | some own =>
    simp only [Option.filter_some]
    split <;> rfl

/-- Columns leave the key generator of the table as it is, -/
theorem keyGenerator_of_addColumns {identity : Bool} {ps : List (String × ColumnType)}
    (h : addColumns t f identity g ps = .ok t') : t'.keyGenerator = t.keyGenerator := by
  induction ps generalizing t with
  | nil =>
    cases h
    rfl
  | cons p rest ih =>
    -- the table with the first column has the generator still
    obtain ⟨u, hAdd, hRest⟩ := bind_eq_ok_iff.1 h
    obtain ⟨-, rfl⟩ := Table.addColumn_eq_ok_iff.1 hAdd
    rw [ih hRest]
    split <;> rfl

/-- Identity columns stay as they are when columns are promoted. -/
theorem Lays.map_promote {fs : List FieldMapping} {cs : List Column} (names : List String)
    (h : b.Lays (fun _ => true) g fs cs) : cs.map (Column.promote names) = cs := by
  induction h with
  | nil => rfl
  | @cons f ft rest cs hTypes _ ih =>
    rw [List.map_append, ih]
    congr 1
    refine (List.map_congr_left fun c hc => ?_).trans (List.map_id' _)
    obtain ⟨p, -, rfl⟩ := List.mem_map.1 hc
    exact Column.promote_of_identity names rfl

/-- One level of the merge promotes the columns of the fields that are declared again, and puts the
columns of the others at the end. -/
theorem merged_of_inheritFields {fs : List FieldMapping}
    (h : (b.inheritFields c parent g t fs).outcome = .ok t') :
    t'.keyGenerator = t.keyGenerator ∧
      ∃ cs, b.Lays (fun _ => true) g (c.merge t.columnNames fs).added cs ∧
        t'.columns =
          t.columns.map (Column.promote (c.merge t.columnNames fs).promoted) ++ cs := by
  -- on the inherited fields, with the table that the first one leaves
  induction fs generalizing t with
  | nil =>
    cases h
    refine ⟨rfl, [], .nil, ?_⟩
    rw [ClassMapping.merge, Column.map_promote_nil, List.append_nil]
  | cons f rest ih =>
    rcases inheritFields_cons_eq_ok_iff.1 h with
      ⟨u, columns, hPromote, hRest⟩ | ⟨hPromote, ft, u, hTypes, hAdd, hRest⟩
    -- the field is declared again, and its columns are promoted
    · rw [promote?_eq, Option.map_eq_some_iff] at hPromote
      obtain ⟨own, hAgain, hEq⟩ := hPromote
      obtain ⟨hColumnsU, hGeneratorU⟩ := columns_foldl_promote t own.columns
      obtain ⟨rfl, -⟩ := Prod.mk.inj hEq
      -- a promoted column keeps its name
      have hNames := congrArg (List.map (·.name)) hColumnsU
      rw [List.map_map] at hNames
      obtain ⟨hGenerator, cs, hLays, hColumns⟩ := ih hRest
      rw [Table.columnNames, hNames] at hLays hColumns
      rw [ClassMapping.merge_cons_of_some hAgain]
      refine ⟨hGenerator.trans hGeneratorU, cs, hLays, ?_⟩
      rw [hColumns, hColumnsU, List.map_map]
      congr 1
      exact List.map_congr_left fun c _ => c.promote_promote _ _
    -- it is added, with columns that all identify
    · rw [promote?_eq, Option.map_eq_none_iff] at hPromote
      have hColumnsU := (addColumns_eq_ok hAdd).2
      have hFirst : b.Lays (fun _ => true) g [f] (ft.columns f true g) := .singleton hTypes
      have hNames : u.columnNames = t.columnNames ++ f.columns := by
        rw [Table.columnNames, hColumnsU, List.map_append]
        exact congrArg (t.columnNames ++ ·) (hTypes.columnNames true g)
      obtain ⟨hGenerator, cs, hLays, hColumns⟩ := ih hRest
      rw [hNames] at hLays hColumns
      rw [ClassMapping.merge_cons_of_none hPromote]
      refine ⟨hGenerator.trans (keyGenerator_of_addColumns hAdd), _, .cons hTypes hLays, ?_⟩
      rw [hColumns, hColumnsU, List.map_append, List.append_assoc]
      congr 2
      exact hFirst.map_promote _

/-- **The merge of an inherited identity.** The columns that are there stay, some of them promoted,
and the columns of the added fields stand behind them, with the key generator that the table has in
the end. -/
theorem merged_of_inherit (h : (b.inherit t l).outcome = .ok t') :
    t'.keyGenerator = l.generator b.registry t.keyGenerator ∧
      ∃ cs, b.Lays (fun _ => true) t'.keyGenerator (l.merge t.columnNames).added cs ∧
        t'.columns =
          t.columns.map (Column.promote (l.merge t.columnNames).promoted) ++ cs := by
  -- on the lineage, with the table that the level below leaves
  induction l generalizing t with
  | root c =>
    cases h
    rw [Lineage.merge_root]
    exact ⟨rfl, [], .nil, by rw [Column.map_promote_nil, List.append_nil]⟩
  | unknownParent => cases h
  | cycle => cases h
  | step c rest ih =>
    -- the class has no identity of its own, or the merge is at its end
    rcases inherit_step_eq_ok_iff.1 h with ⟨hOwn, u, hFields, hRest⟩ | ⟨hOwn, -, rfl⟩
    · have hNone := ClassMapping.ownIdentityColumns_eq_nil_iff.1 hOwn
      obtain ⟨hGeneratorU, cs, hLays, hColumnsU⟩ := merged_of_inheritFields hFields
      obtain ⟨hGenerator, cs', hLays', hColumns⟩ := ih hRest
      rw [hGeneratorU] at hGenerator
      rw [Lineage.generator, if_pos (List.isEmpty_iff.2 hNone)]
      refine ⟨hGenerator, ?_⟩
      by_cases hAbove : rest.head.identityFields = []
      · -- the parent has nothing to give, and the walk goes on from it
        have hKept : u.columns = t.columns := by
          rw [hAbove] at hLays hColumnsU
          cases hLays
          rw [hColumnsU, ClassMapping.merge, Column.map_promote_nil, List.append_nil]
        rw [Table.columnNames, hKept] at hLays' hColumns
        rw [Lineage.merge_step_of_head_nil hNone hAbove]
        exact ⟨cs', hLays', hColumns⟩
      · -- the parent gives its identity, and the walk ends at it
        rw [Lineage.generator_of_head hAbove] at hGenerator
        rw [Lineage.merge_of_head hAbove] at hLays' hColumns
        cases hLays'
        rw [Lineage.merge_step_of_head hNone hAbove, hGenerator]
        refine ⟨cs, hLays, ?_⟩
        rw [hColumns, hColumnsU, Column.map_promote_nil, List.append_nil]
        rfl
    -- an identity of its own ends the merge before anything is done
    · have hSome : c.identityFields ≠ [] := mt ClassMapping.ownIdentityColumns_eq_nil_iff.2 hOwn
      rw [Lineage.merge_of_head (l := .step c rest) hSome, Lineage.generator,
        if_neg (by simpa using hSome)]
      exact ⟨rfl, [], .nil, by rw [Column.map_promote_nil, List.append_nil]⟩

/-! ## The table of a class -/

variable {built : List Table} {relation : Relation} {name : String} {js js' : List ClassMapping}

/-- so does a field, -/
theorem keyGenerator_of_addField (h : (b.addField built relation c g t f).outcome = .ok t') :
    t'.keyGenerator = t.keyGenerator := by
  obtain ⟨ft, u, -, hAdd, hRest⟩ := addField_eq_ok_iff.1 h
  have hKept : u.keyGenerator = t.keyGenerator := keyGenerator_of_addColumns hAdd
  rcases hRest with ⟨-, rfl⟩ | ⟨r, k, -, -, rfl⟩
  · exact hKept
  · exact hKept

/-- and so do all fields of a class. -/
theorem keyGenerator_of_addFields {fs : List FieldMapping}
    (h : (b.addFields built relation c g t js fs).outcome = .ok (t', js')) :
    t'.keyGenerator = t.keyGenerator := by
  induction fs generalizing t js with
  | nil =>
    cases h
    rfl
  | cons f rest ih =>
    rcases addFields_cons_eq_ok_iff.1 h with
      ⟨-, queued, -, hRest⟩ | ⟨-, u, hField, hRest⟩ | ⟨-, -, hRest⟩
    -- a relation, a stored field, and a field without columns
    · exact ih hRest
    · exact (ih hRest).trans (keyGenerator_of_addField hField)
    · exact ih hRest

/-- The columns of a table are those of the stored fields of its class, some of them promoted, and
then those of the inherited identity fields that are not declared again. -/
theorem merged_of_table (h : (b.table built relation c name js).outcome = .ok (t, js'))
    (hFields : c.fields ≠ []) :
    t.keyGenerator =
        (b.document.lineage c).generator b.registry (b.registry.get? c.keyGenerator) ∧
      ∃ own added,
        b.Lays c.isIdentity (b.registry.get? c.keyGenerator) (c.fields.filter (·.isStored)) own ∧
        b.Lays (fun _ => true) t.keyGenerator (b.document.merged c).added added ∧
        t.columns = own.map (Column.promote (b.document.merged c).promoted) ++ added := by
  rcases table_eq_ok_iff.1 h with ⟨hEmpty, -⟩ | ⟨-, g, u, w, hGenerator, hAdded, hInherit, hIndexes⟩
  -- a class without fields has no columns to speak of
  · exact absurd hEmpty hFields
  -- the class has made its own columns, with the generator that it names
  · cases (outcome_keyGenerator b c).symm.trans hGenerator
    obtain ⟨own, hOwn, hColumnsU⟩ :=
      ((contributed_nil built relation c _ name).of_addFields hAdded).lays
    have hStart : u.columns = own := hColumnsU
    have hNames : u.columnNames = c.columns := by
      rw [Table.columnNames, hStart, hOwn.columnNames]
      rfl
    obtain ⟨hGeneratorW, added, hLays, hColumnsW⟩ := merged_of_inherit hInherit
    -- the indexes change neither the columns nor the key generator
    obtain rfl := (addIndexes_eq_ok built hIndexes).2
    rw [keyGenerator_of_addFields hAdded] at hGeneratorW
    rw [hNames, hStart] at hColumnsW
    rw [hNames] at hLays
    exact ⟨hGeneratorW, own, added, hOwn, hLays, hColumnsW⟩

/-- The columns of a table are those of its class and of the added fields. -/
theorem columnNames_eq_of_table (h : (b.table built relation c name js).outcome = .ok (t, js'))
    (hFields : c.fields ≠ []) :
    t.columnNames = c.columns ++ (b.document.merged c).added.flatMap (·.columns) := by
  obtain ⟨-, own, added, hOwn, hAdded, hColumns⟩ := merged_of_table h hFields
  rw [Table.columnNames, hColumns, List.map_append, List.map_map, hAdded.columnNames]
  exact congrArg (· ++ _) hOwn.columnNames

/-- A class without identity fields starts without identity columns. -/
theorem Lays.identity_eq_false {own : List Column}
    (h : b.Lays c.isIdentity g (c.fields.filter (·.isStored)) own) (hNone : c.identityFields = []) :
    ∀ x ∈ own, x.identity = false := by
  have hNames := h.identityNames
  rw [c.filter_isIdentity, hNone, List.flatMap_nil, List.map_eq_nil_iff,
    List.filter_eq_nil_iff] at hNames
  exact fun x hx => by simpa using hNames x hx

/-- The primary key of a class that has no identity columns of its own consists of the promoted
columns and of those of the added fields. -/
theorem mem_keyColumns_iff_of_table (h : (b.table built relation c name js).outcome = .ok (t, js'))
    (hFields : c.fields ≠ []) (hNone : c.identityFields = []) (column : String) :
    column ∈ t.keyColumns ↔
      column ∈ (b.document.merged c).promoted ∨
        column ∈ (b.document.merged c).added.flatMap (·.columns) := by
  have hSub : (b.document.merged c).promoted ⊆
      c.columns ++ (b.document.merged c).added.flatMap (·.columns) :=
    (b.document.lineage c).promoted_subset c.columns
  obtain ⟨-, own, added, hOwn, hAdded, hColumns⟩ := merged_of_table h hFields
  have hOwnNames : own.map (·.name) = c.columns := hOwn.columnNames
  -- no column of the class is an identity column from the start, and all added ones are
  have hPlain := hOwn.identity_eq_false hNone
  have hAddedNames := hAdded.identityNames
  rw [List.filter_true] at hAddedNames
  generalize b.document.merged c = m at *
  rw [(keyed_of_table h).mem_key, hColumns, ← hAddedNames]
  -- an identity column was promoted, or it was added as one
  constructor
  · rintro ⟨x, hx, rfl, hIdentity⟩
    rcases List.mem_append.1 hx with hHere | hNew
    · obtain ⟨y, hy, rfl⟩ := List.mem_map.1 hHere
      simp only [Column.promote, hPlain y hy, Bool.false_or] at hIdentity
      exact Or.inl (List.contains_iff_mem.1 hIdentity)
    -- an added column identifies from the start
    · exact Or.inr (List.mem_map_of_mem (List.mem_filter.2 ⟨hNew, hIdentity⟩))
  · have hNew : column ∈ (added.filter (·.identity)).map (·.name) →
        ∃ x ∈ own.map (Column.promote m.promoted) ++ added,
          x.name = column ∧ x.identity = true := by
      intro hColumn
      obtain ⟨x, hx, hName⟩ := List.mem_map.1 hColumn
      obtain ⟨hx, hIdentity⟩ := List.mem_filter.1 hx
      exact ⟨x, List.mem_append_right _ hx, hName, hIdentity⟩
    rintro (hPromoted | hAddedColumn)
    · -- a promoted column is one of the class, or has been added before
      rcases List.mem_append.1 (hSub hPromoted) with hHere | hBefore
      · rw [← hOwnNames] at hHere
        obtain ⟨y, hy, rfl⟩ := List.mem_map.1 hHere
        refine ⟨y.promote m.promoted, List.mem_append_left _ (List.mem_map_of_mem hy), rfl, ?_⟩
        rw [Column.promote, List.contains_iff_mem.2 hPromoted, Bool.or_true]
      · exact hNew (hAddedNames ▸ hBefore)
    -- an added column is in the key
    · exact hNew hAddedColumn

/-- A column of the class itself that is in the primary key has been promoted. -/
theorem mem_promoted_of_table (h : (b.table built relation c name js).outcome = .ok (t, js'))
    (hFields : c.fields ≠ []) (hNone : c.identityFields = []) {column : String}
    (hOwn : column ∈ c.columns) (hKey : column ∈ t.keyColumns) :
    column ∈ (b.document.merged c).promoted := by
  rcases (mem_keyColumns_iff_of_table h hFields hNone column).1 hKey with hPromoted | hNew
  · exact hPromoted
  · -- an added column is none of the class
    have hNodup := (keyed_of_table h).nodupNames
    rw [columnNames_eq_of_table h hFields] at hNodup
    exact absurd rfl ((List.nodup_append.1 hNodup).2.2 column hOwn column hNew)

end Blueprint

/-! ## Declaring an inherited identity again -/

section Redeclaration

variable {d : Document} {c n : ClassMapping} {f g : FieldMapping}

/-- The class directly below the one with the identity fields is the class itself if that is its
parent, and else a class in between. -/
theorem Document.merge_lineage (hNone : c.identityFields = [])
    (hNearest : (d.lineage c).identityClass? = some n) (columns : List String) :
    (d.Extends c n ∧ (d.lineage c).merge columns = c.merge columns n.identityFields) ∨
      (¬ d.Extends c n ∧ ∃ below ∈ (d.lineage c).belowIdentity.tail,
        (d.lineage c).merge columns = below.merge columns n.identityFields) := by
  obtain ⟨hIdentity, hSome⟩ := Lineage.identity_of_identityClass? hNearest
  -- a lineage of the class alone has no class with identity fields
  have hAlone : ∀ l : Lineage, l.toList = [c] → l.identityClass? = none := by
    intro l hList
    simp [Lineage.identityClass?, hList, hNone]
  -- the class extends nothing, an unknown class, a class above, or one below
  rcases d.lineageFrom_cases (without d.classes c.name) c with
    ⟨-, hEq⟩ | ⟨parent, -, hEq⟩ | ⟨p, hExtends, -, hEq⟩ | ⟨p, -, -, hEq⟩
  · rw [lineage, hEq, hAlone _ rfl] at hNearest
    cases hNearest
  · rw [lineage, hEq, hAlone _ rfl] at hNearest
    cases hNearest
  -- the class has a parent that was not met
  · rw [← lineage] at hEq
    generalize hRest : d.lineageFrom (without (without d.classes c.name) p.name) p = rest at hEq
    have hHead : rest.head = p := by rw [← hRest, head_lineageFrom]
    rw [hEq] at hNearest hIdentity ⊢
    rw [Lineage.identityClass?_step hNone] at hNearest
    by_cases hAbove : p.identityFields = []
    · -- the parent of the class is not the one with the identity fields
      refine Or.inr ⟨fun hParent => ?_, ?_⟩
      · cases hExtends.symm.trans hParent
        exact hSome hAbove
      · have hBelow := Lineage.belowIdentity_ne_nil (hHead ▸ hAbove)
        refine ⟨rest.belowIdentity.getLast hBelow, ?_, ?_⟩
        · rw [Lineage.belowIdentity_step hNone]
          exact List.getLast_mem hBelow
        · rw [Lineage.identity_step hNone] at hIdentity
          rw [Lineage.merge_step_of_head_nil hNone (hHead ▸ hAbove), Lineage.merge,
            List.getLast?_eq_getLast_of_ne_nil hBelow, hIdentity]
    -- its parent is the one with the identity fields
    · rw [Lineage.identityClass?_of_head (hHead ▸ hAbove), hHead] at hNearest
      cases hNearest
      refine Or.inl ⟨hExtends, ?_⟩
      rw [Lineage.merge_step_of_head hNone (hHead ▸ hAbove), hHead]
  -- a circle has no class with identity fields
  · rw [lineage, hEq, hAlone _ rfl] at hNearest
    cases hNearest

/-- The class `c` has no identity columns of its own and inherits those of the class `n`. It has the
identity field `g` of this class again as `f`, and no class in between does. -/
structure Document.Redeclares (d : Document) (c n : ClassMapping) (g f : FieldMapping) : Prop where
  noIdentity : c.ownIdentityColumns = []
  nearest    : (d.lineage c).identityClass? = some n
  identity   : g ∈ n.identityFields
  mem        : f ∈ c.fields
  stored     : f.isStored = true
  named      : f.isNamed g.name = true
  between    : ∀ m ∈ (d.lineage c).belowIdentity.tail, m.field? g.name = none

/-- The first field of a name does not depend on how the name is written. -/
theorem ClassMapping.field?_congr {name name' : String} (c : ClassMapping)
    (h : Text.lower name = Text.lower name') : c.field? name = c.field? name' := by
  simp only [field?, FieldMapping.isNamed, h]

/-- Where the class extends the one with the identity fields, the field that is found under the name
of an identity field is promoted. -/
theorem Document.Redeclares.promoted (h : d.Redeclares c n g f) (hExtends : d.Extends c n)
    (hField : c.field? g.name = some f) :
    f.columns ⊆ (d.merged c).promoted ∧ g ∉ (d.merged c).added := by
  -- the class inherits, and its own columns are there
  have hNone := ClassMapping.ownIdentityColumns_eq_nil_iff.1 h.noIdentity
  have hAgain : c.redeclared? c.columns g = some f :=
    ClassMapping.redeclared?_eq_some_iff.2
      ⟨hField, h.stored, ClassMapping.mem_columns_of_stored h.mem h.stored⟩
  rcases Document.merge_lineage hNone h.nearest c.columns with ⟨-, hMerge⟩ | ⟨hNot, -⟩
  -- its parent is the nearest one, so the merge is that of this parent
  · rw [merged, hMerge]
    refine ⟨ClassMapping.subset_promoted h.identity hAgain, fun hAdded => ?_⟩
    cases hAgain.symm.trans (ClassMapping.redeclared?_eq_none_of_mem_added hAdded).2
  · exact absurd hExtends hNot

/-- Where nothing is added for an identity field, its class is the parent. -/
theorem Document.Redeclares.extends (h : d.Redeclares c n g f) (hAdded : g ∉ (d.merged c).added) :
    d.Extends c n ∧ d.merged c = c.merge c.columns n.identityFields := by
  have hNone := ClassMapping.ownIdentityColumns_eq_nil_iff.1 h.noIdentity
  rcases Document.merge_lineage hNone h.nearest c.columns with
    ⟨hExtends, hMerge⟩ | ⟨-, below, hBelow, hMerge⟩
  · exact ⟨hExtends, hMerge⟩
  · -- the class in between does not declare the field, so its columns are added
    rw [merged, hMerge] at hAdded
    exact absurd (ClassMapping.mem_added_of_field?_eq_none h.identity (h.between below hBelow))
      hAdded

/-- **When a field that is declared again becomes the key.** A class without identity columns of its
own declares an identity field of the nearest class above that has any again. The columns that the
class gives this field are in its primary key, and no columns are added for the inherited field,
exactly if the class extends that class directly, and the field is the first one of its name. From
further above, the columns of the inherited field are added. -/
theorem Schema.promoted_iff {registry : KeyGeneratorRegistry} {settings : Settings}
    {catalog : TypeCatalog} {s : Schema}
    (h : (Schema.ofDocument registry settings catalog d).outcome = .ok s) (hc : c ∈ d.classes)
    {name : String} (hMapped : c.mappedTable = some name) (hAgain : d.Redeclares c n g f) :
    ∃ t, s.table? name = some t ∧
      t.columnNames = c.columns ++ (d.merged c).added.flatMap (·.columns) ∧
      (((∀ column ∈ f.columns, column ∈ t.keyColumns ∧
            ∃ x ∈ t.identityColumns, x.name = column) ∧ g ∉ (d.merged c).added) ↔
        d.Extends c n ∧ c.field? g.name = some f) := by
  obtain ⟨b, js, rfl, -, -, hBuilds⟩ := Schema.exists_builds_of_ofDocument h
  obtain ⟨t, built, js, js', hFind, hTable⟩ := hBuilds.exists_table_of_class hc hMapped
  have hFields : c.fields ≠ [] := List.ne_nil_of_mem hAgain.mem
  have hNone := ClassMapping.ownIdentityColumns_eq_nil_iff.1 hAgain.noIdentity
  refine ⟨t, hFind, Blueprint.columnNames_eq_of_table hTable hFields, ?_, ?_⟩
  · rintro ⟨hColumns, hAdded⟩
    obtain ⟨hExtends, hMerged⟩ := hAgain.extends hAdded
    refine ⟨hExtends, ?_⟩
    -- a column of the field is in the key, so it is one of a field that was promoted
    obtain ⟨column, hColumn⟩ :=
      List.exists_mem_of_ne_nil _ (FieldMapping.columns_ne_nil_of_isStored hAgain.stored)
    have hOwn := ClassMapping.mem_columns_of_stored hAgain.mem hAgain.stored hColumn
    have hPromoted :=
      Blueprint.mem_promoted_of_table hTable hFields hNone hOwn (hColumns column hColumn).1
    rw [hMerged] at hPromoted
    obtain ⟨g', -, f', hField, hStored, hShared⟩ :=
      ClassMapping.exists_field_of_mem_promoted hPromoted
    obtain ⟨hMem, hNamed⟩ : f' ∈ c.fields ∧ f'.isNamed g'.name = true :=
      ⟨List.mem_of_find?_eq_some hField, by simpa using List.find?_some hField⟩
    -- two fields of a class share no column, so it is the field itself
    have hSame : f = f' := by
      by_contra hNe
      exact Blueprint.disjoint_columns_of_table hTable hAgain.mem hAgain.stored hMem hStored hNe
        hColumn hShared
    subst hSame
    -- and it was found under the name of the identity field
    have hLower : Text.lower g.name = Text.lower g'.name := by
      have hName := hAgain.named
      simp only [FieldMapping.isNamed, beq_iff_eq] at hName hNamed
      exact hName.symm.trans hNamed
    rw [c.field?_congr hLower]
    exact hField
  · rintro ⟨hExtends, hField⟩
    -- where it is found under this name, its columns are promoted
    obtain ⟨hPromoted, hAdded⟩ := hAgain.promoted hExtends hField
    refine ⟨fun column hColumn => ?_, hAdded⟩
    have hInKey : column ∈ t.keyColumns :=
      (Blueprint.mem_keyColumns_iff_of_table hTable hFields hNone column).2
        (Or.inl (hPromoted hColumn))
    obtain ⟨x, hx, hName, hIdentity⟩ :=
      ((Blueprint.keyed_of_table hTable).mem_key column).1 hInKey
    exact ⟨hInKey, x, List.mem_filter.2 ⟨hx, hIdentity⟩, hName⟩

end Redeclaration

/-- A person extends a party and declares its identity again. A member does so too, but extends a
guest, which extends a party. -/
def Document.parties : Document where
  classes :=
    [{ name := "Party"
       fields := [{ name := "id", type := "integer", identity := true, columns := ["id"] }] },
     { name := "Person"
       table := some "person"
       parent := some "Party"
       fields := [{ name := "ID", type := "integer", columns := ["person_id"] }] },
     { name := "Guest"
       parent := some "Party" },
     { name := "Member"
       table := some "member"
       parent := some "Guest"
       fields := [{ name := "id", type := "integer", columns := ["member_id"] }] }]

/-- Its schema in standard SQL, with default settings. -/
def Schema.ofParties : Building Schema :=
  Schema.ofDocument (.initial .generic) {} (Dialect.generic.catalog {}) .parties

/-- The column of a person is its primary key, and it has no other column. -/
theorem Schema.promoted_of_person :
    ∃ s t, Schema.ofParties.outcome = .ok s ∧ s.table? "person" = some t ∧
      t.columnNames = ["person_id"] ∧ "person_id" ∈ t.keyColumns := by
  obtain ⟨s, hs, -⟩ : ∃ s, Schema.ofParties.outcome = .ok s ∧ s.tableNames = ["person", "member"] :=
    exists_ok_of_toOption_map (by decide +kernel)
  -- a person declares the identity of a party again
  have hMapped : Document.parties.classes[1].mappedTable = some "person" := by decide
  have hAgain : Document.parties.Redeclares Document.parties.classes[1] Document.parties.classes[0]
      Document.parties.classes[0].fields[0] Document.parties.classes[1].fields[0] := {
    noIdentity := by decide
    nearest := by decide +kernel
    identity := by decide
    mem := by decide
    stored := by decide
    named := by decide
    between := by decide +kernel }
  obtain ⟨t, hFind, hNames, hIff⟩ :=
    Schema.promoted_iff hs (List.getElem_mem _) hMapped hAgain
  have hExtends : Document.parties.Extends Document.parties.classes[1]
      Document.parties.classes[0] := by
    unfold Document.Extends
    decide
  -- so its column is the key
  obtain ⟨hKey, -⟩ := hIff.2 ⟨hExtends, by decide⟩
  have hAdded : (Document.parties.merged Document.parties.classes[1]).added = [] := by
    decide +kernel
  -- and no other column is added
  rw [hAdded] at hNames
  exact ⟨s, t, hs, hFind, hNames, (hKey "person_id" (by decide)).1⟩

/-- The column of a member is not in its primary key, which is an added column of the party. -/
theorem Schema.not_promoted_of_member :
    Document.parties.Redeclares Document.parties.classes[3] Document.parties.classes[0]
        Document.parties.classes[0].fields[0] Document.parties.classes[3].fields[0] ∧
      ∃ s t, Schema.ofParties.outcome = .ok s ∧ s.table? "member" = some t ∧
        t.columnNames = ["member_id", "id"] ∧ t.keyColumns = ["id"] := by
  refine ⟨⟨by decide, by decide +kernel, by decide, by decide, by decide, by decide,
    by decide +kernel⟩, ?_⟩
  -- what is computed: the columns and the key
  let view (s : Schema) := (s.table? "member").map fun t => (t.columnNames, t.keyColumns)
  obtain ⟨s, hs, hView⟩ : ∃ s, Schema.ofParties.outcome = .ok s ∧
      view s = some (["member_id", "id"], ["id"]) :=
    exists_ok_of_toOption_map (by decide +kernel)
  obtain ⟨t, hFind, hEq⟩ := Option.map_eq_some_iff.1 hView
  obtain ⟨hNames, hKey⟩ := Prod.mk.inj hEq
  exact ⟨s, t, hs, hFind, hNames, hKey⟩

end MappingDdl
