import MappingDdl.Proofs.Origin

/-!
# Inherited identity — what a table gets from the classes above

The identity of a class is that of the nearest class on its lineage that has identity fields
(`Lineage.identityClass?`). Two walks look for it: `Document.identityColumns` asks for the columns
only, `Blueprint.inherit` merges them into a table, one class after the other, and promotes a column
where a class on the way declares an identity field again. Where none does
(`Lineage.DeclaresIdentityOnce`) the two walks agree on every column, in order.

Main results:

* `Blueprint.identityColumns_eq_of_inherit` — a merge that succeeds has met the class whose columns
  the other walk finds.
* `Blueprint.lays_of_inherit` — the merge adds the columns of exactly the inherited identity fields.
* `Schema.columns_eq_of_declaresIdentityOnce` — the columns and the primary key of the table of a
  class, from the mapping alone.
-/

namespace MappingDdl

/-- A class has identity columns of its own exactly if it has identity fields. -/
theorem ClassMapping.ownIdentityColumns_eq_nil_iff {c : ClassMapping} :
    c.ownIdentityColumns = [] ↔ c.identityFields = [] := by
  rw [ownIdentityColumns, List.flatMap_eq_nil_iff]
  constructor
  · intro h
    -- an identity field has columns, as it is stored
    refine List.eq_nil_iff_forall_not_mem.2 fun f hf => ?_
    have hStored := (mem_identityFields_iff.1 hf).2.2
    exact FieldMapping.columns_ne_nil_of_isStored hStored (h f hf)
  · intro h f hf
    rw [h] at hf
    cases hf

/-! ## The identity of a lineage -/

namespace Lineage

/-- The nearest class of the chain that has identity fields. -/
def identityClass? (l : Lineage) : Option ClassMapping :=
  l.toList.find? fun c => !c.identityFields.isEmpty

/-- The classes of the chain before the first one that has identity fields. -/
def belowIdentity (l : Lineage) : List ClassMapping :=
  l.toList.takeWhile fun c => c.identityFields.isEmpty

/-- The identity fields of the nearest class that has any. -/
def identity (l : Lineage) : List FieldMapping :=
  (l.identityClass?.map (·.identityFields)).getD []

/-- The identity fields that the first class of the chain has from a class above it. -/
def inherited (l : Lineage) : List FieldMapping :=
  if l.head.identityFields.isEmpty then l.identity else []

/-- No class below the one with identity fields declares a field named like one of these, up to
case. -/
def DeclaresIdentityOnce (l : Lineage) : Prop :=
  ∀ c ∈ l.belowIdentity, ∀ own ∈ c.fields, ∀ f ∈ l.identity, own.isNamed f.name = false

instance (l : Lineage) : Decidable l.DeclaresIdentityOnce :=
  inferInstanceAs (Decidable (∀ c ∈ l.belowIdentity, ∀ own ∈ c.fields, ∀ f ∈ l.identity,
    own.isNamed f.name = false))

/-- Where no class has identity fields, there is no identity to inherit. -/
theorem identity_eq_nil_of_identityClass? {l : Lineage} (h : l.identityClass? = none) :
    l.identity = [] := by
  rw [identity, h]
  rfl

/-- The lineage of a root starts with it, -/
theorem head_root (c : ClassMapping) : (root c).head = c := rfl

/-- and so does that of a class with a parent. -/
theorem head_step (c : ClassMapping) (rest : Lineage) : (step c rest).head = c := rfl

/-- Every lineage has a first class. -/
theorem toList_eq_head_cons (l : Lineage) : ∃ cs, l.toList = l.head :: cs := by
  cases l with
  | root c => exact ⟨[], rfl⟩
  | unknownParent c _ => exact ⟨[], rfl⟩
  | cycle c _ => exact ⟨[], rfl⟩
  | step c rest => exact ⟨rest.toList, rfl⟩

/-- A class with identity fields ends the search at itself, -/
theorem identityClass?_of_head {l : Lineage} (h : l.head.identityFields ≠ []) :
    l.identityClass? = some l.head := by
  obtain ⟨cs, hList⟩ := l.toList_eq_head_cons
  rw [identityClass?, hList, List.find?_cons_of_pos (by simpa using h)]

/-- with no class below, -/
theorem belowIdentity_of_head {l : Lineage} (h : l.head.identityFields ≠ []) :
    l.belowIdentity = [] := by
  obtain ⟨cs, hList⟩ := l.toList_eq_head_cons
  rw [belowIdentity, hList, List.takeWhile_cons_of_neg (by simpa using h)]

/-- and any other class is below the end. -/
theorem belowIdentity_ne_nil {l : Lineage} (h : l.head.identityFields = []) :
    l.belowIdentity ≠ [] := by
  obtain ⟨cs, hList⟩ := l.toList_eq_head_cons
  rw [belowIdentity, hList, List.takeWhile_cons_of_pos (by simpa using h)]
  exact List.cons_ne_nil _ _

/-- The class where the search ends has the identity fields of the lineage. -/
theorem identity_of_identityClass? {l : Lineage} {n : ClassMapping}
    (h : l.identityClass? = some n) : l.identity = n.identityFields ∧ n.identityFields ≠ [] := by
  refine ⟨by rw [identity, h]; rfl, ?_⟩
  simpa using List.find?_some h

/-- A class with identity fields keeps the walk from going further. -/
theorem identity_of_head {l : Lineage} {c : ClassMapping} (hHead : l.head = c)
    (h : c.identityFields ≠ []) : l.identity = c.identityFields := by
  subst hHead
  exact (identity_of_identityClass? (identityClass?_of_head h)).1

/-- A class with identity fields inherits none, -/
theorem inherited_of_head {l : Lineage} {c : ClassMapping} (hHead : l.head = c)
    (h : c.identityFields ≠ []) : l.inherited = [] := by
  rw [inherited, hHead, if_neg (by simpa using h)]

/-- and any other class inherits all there are. -/
theorem inherited_eq_identity {l : Lineage} {c : ClassMapping} (hHead : l.head = c)
    (h : c.identityFields = []) : l.inherited = l.identity := by
  rw [inherited, hHead, if_pos (List.isEmpty_iff.2 h)]

/-- Own and inherited identity fields together are the identity: one of the two is empty. -/
theorem append_inherited {l : Lineage} {c : ClassMapping} (hHead : l.head = c) :
    c.identityFields ++ l.inherited = l.identity := by
  by_cases hNone : c.identityFields = []
  · rw [hNone, List.nil_append, inherited_eq_identity hHead hNone]
  · rw [inherited_of_head hHead hNone, List.append_nil, identity_of_head hHead hNone]

/-- A root has no identity but its own, -/
theorem identity_root {c : ClassMapping} : (root c).identity = c.identityFields := by
  by_cases hNone : c.identityFields = []
  · simp [identity, identityClass?, toList, hNone]
  · exact identity_of_head (head_root c) hNone

/-- and inherits nothing. -/
theorem inherited_root {c : ClassMapping} : (root c).inherited = [] := by
  have h := append_inherited (head_root c)
  rw [identity_root] at h
  exact List.append_right_eq_self.1 h

/-- Without identity fields a class leaves the search to its parent, -/
theorem identityClass?_step {c : ClassMapping} {rest : Lineage} (h : c.identityFields = []) :
    (step c rest).identityClass? = rest.identityClass? := by
  rw [identityClass?, toList, List.find?_cons_of_neg (by simpa using h)]
  rfl

/-- which has the identity of both, -/
theorem identity_step {c : ClassMapping} {rest : Lineage} (h : c.identityFields = []) :
    (step c rest).identity = rest.identity := by
  rw [identity, identityClass?_step h, identity]

/-- with one class more below. -/
theorem belowIdentity_step {c : ClassMapping} {rest : Lineage} (h : c.identityFields = []) :
    (step c rest).belowIdentity = c :: rest.belowIdentity := by
  simp [belowIdentity, toList, h]

/-- What is declared once from a class on is declared once from its parent on. -/
theorem DeclaresIdentityOnce.of_step {c : ClassMapping} {rest : Lineage}
    (hNone : c.identityFields = []) (h : (step c rest).DeclaresIdentityOnce) :
    rest.DeclaresIdentityOnce := by
  intro c' hc' own hOwn f hf
  refine h c' ?_ own hOwn f ?_
  · rw [belowIdentity_step hNone]
    exact List.mem_cons_of_mem _ hc'
  · rw [identity_step hNone]
    exact hf

/-- A class below the one with identity fields has no field of the name of one of these. -/
theorem DeclaresIdentityOnce.field?_eq_none {c : ClassMapping} {rest : Lineage}
    (hNone : c.identityFields = []) (h : (step c rest).DeclaresIdentityOnce) :
    ∀ f ∈ rest.identity, c.field? f.name = none := by
  intro f hf
  -- the class is one below the identity
  have hBelow : c ∈ (step c rest).belowIdentity := by
    rw [belowIdentity_step hNone]
    exact List.mem_cons_self
  have hIdentity : f ∈ (step c rest).identity := by
    rw [identity_step hNone]
    exact hf
  -- so no field of it has the name of an inherited one
  refine List.find?_eq_none.2 fun own hOwn => ?_
  rw [h c hBelow own hOwn f hIdentity]
  exact Bool.false_ne_true

end Lineage

/-! ## The two walks -/

namespace Blueprint

variable {b : Blueprint} {t t' : Table} {l : Lineage}

/-- A merge that succeeds has met the class whose identity columns the other walk gives. -/
theorem identityColumns_eq_of_inherit (origin : String) (h : (b.inherit t l).outcome = .ok t') :
    l.identityColumns origin = .ok (l.identity.flatMap (·.columns)) := by
  -- on the lineage, with the table that the level below leaves
  induction l generalizing t with
  -- at the root the identity is that of the class, or empty
  | root c =>
    rw [Lineage.identity_root]
    rfl
  | unknownParent => cases h
  | cycle => cases h
  | step c rest ih =>
    rw [Lineage.identityColumns]
    rcases inherit_step_eq_ok h with ⟨hOwn, g, u, -, hRest⟩ | ⟨hOwn, -, -⟩
    · -- without identity columns of its own, both walks leave the class behind
      rw [if_pos (List.isEmpty_iff.2 hOwn), ih hRest,
        Lineage.identity_step (ClassMapping.ownIdentityColumns_eq_nil_iff.1 hOwn)]
    -- with its own columns the walk is at its end
    · have hHead : c.identityFields ≠ [] := mt ClassMapping.ownIdentityColumns_eq_nil_iff.2 hOwn
      rw [if_neg (by simpa using hOwn), Lineage.identity_of_head (Lineage.head_step c rest) hHead]
      rfl

/-- Where the identity is declared once, the merge adds the columns of exactly the inherited
identity fields, and they join the primary key in order. -/
theorem lays_of_inherit (hKeyed : t.Keyed) (hOrder : t.KeyInOrder)
    (hOnce : l.DeclaresIdentityOnce) (h : (b.inherit t l).outcome = .ok t') :
    t'.KeyInOrder ∧
      ∃ g cs, b.Lays (fun _ => true) g l.inherited cs ∧ t'.columns = t.columns ++ cs := by
  induction l generalizing t with
  -- nothing is above the root
  | root c =>
    cases h
    rw [Lineage.inherited_root]
    exact ⟨hOrder, none, [], .nil, (List.append_nil _).symm⟩
  | unknownParent => cases h
  | cycle => cases h
  | step c rest ih =>
    -- the class inherits, or it has an identity of its own
    rcases inherit_step_eq_ok h with ⟨hOwn, g, u, hFields, hRest⟩ | ⟨hOwn, -, rfl⟩
    · have hNone := ClassMapping.ownIdentityColumns_eq_nil_iff.1 hOwn
      have hInherited : (Lineage.step c rest).inherited = rest.identity :=
        (Lineage.inherited_eq_identity (Lineage.head_step c rest) hNone).trans
          (Lineage.identity_step hNone)
      -- the level above has identity fields to give, or it has none and the walk goes on
      have hOnceAbove : ∀ f ∈ rest.head.identityFields, c.field? f.name = none := by
        intro f hf
        refine hOnce.field?_eq_none hNone f ?_
        rw [Lineage.identity_of_head rfl (List.ne_nil_of_mem hf)]
        exact hf
      have hStart : Table.Keyed { t with keyGenerator := g } :=
        hKeyed.of_columnStep (.keyGenerator g)
      obtain ⟨hOrderU, cs, hLays, hColumnsU⟩ :=
        lays_of_inheritFields hStart hOrder hOnceAbove hFields
      obtain ⟨hOrderT, g', cs', hLays', hColumnsT⟩ :=
        ih (hStart.of_columnsGrow (columnsGrow_of_inheritFields hFields)) hOrderU
          (hOnce.of_step hNone) hRest
      rw [hInherited]
      -- only one of the two levels contributes: where the first gives columns, the second ends
      by_cases hAbove : rest.head.identityFields = []
      · rw [hAbove] at hLays
        cases hLays
        rw [Lineage.inherited_eq_identity rfl hAbove] at hLays'
        exact ⟨hOrderT, g', cs', hLays', by rw [hColumnsT, hColumnsU, List.append_nil]⟩
      · rw [Lineage.inherited_of_head rfl hAbove] at hLays'
        cases hLays'
        rw [Lineage.identity_of_head rfl hAbove]
        exact ⟨hOrderT, g, cs, hLays, by rw [hColumnsT, hColumnsU, List.append_nil]⟩
    -- with an identity of its own it takes nothing from above
    · have hSome : c.identityFields ≠ [] := mt ClassMapping.ownIdentityColumns_eq_nil_iff.2 hOwn
      rw [Lineage.inherited_of_head (Lineage.head_step c rest) hSome]
      exact ⟨hOrder, none, [], .nil, (List.append_nil _).symm⟩

/-! ## The table of a class -/

variable {built : List Table} {relation : Relation} {c : ClassMapping} {name : String}
  {js js' : List ClassMapping}

/-- The columns of a table are those of the stored fields of its class and then the inherited
ones. -/
theorem lays_of_table (h : (b.table built relation c name js).outcome = .ok (t, js'))
    (hFields : c.fields ≠ []) (hOnce : (b.document.lineage c).DeclaresIdentityOnce) :
    t.KeyInOrder ∧ ∃ g g' own inherited,
      b.Lays c.isIdentity g (c.fields.filter (·.isStored)) own ∧
      b.Lays (fun _ => true) g' (b.document.lineage c).inherited inherited ∧
      t.columns = own ++ inherited := by
  -- the fields of the class, the merge and the indexes
  obtain ⟨g, u, w, hContributed, hInherit, hIndexes⟩ := contributed_of_table h hFields
  obtain ⟨hOrder, g', inherited, hLays, hColumns⟩ :=
    lays_of_inherit hContributed.keyed hContributed.inOrder hOnce hInherit
  obtain ⟨own, hOwn, hStart⟩ := hContributed.lays
  have hKept := (addIndexes_eq_ok built hIndexes).2
  refine ⟨hKept ▸ hOrder, g, g', own, inherited, hOwn, hLays, ?_⟩
  -- the class starts from an empty table
  have hOwnColumns : u.columns = own := hStart
  rw [hKept, ← hOwnColumns]
  exact hColumns

/-- A table with columns shows that the identity columns of its class are found. -/
theorem identityColumns_eq_of_table
    (h : (b.table built relation c name js).outcome = .ok (t, js')) (hFields : c.fields ≠ []) :
    b.document.identityColumns c =
      .ok ((b.document.lineage c).identity.flatMap (·.columns)) := by
  obtain ⟨g, u, w, -, hInherit, -⟩ := contributed_of_table h hFields
  exact identityColumns_eq_of_inherit c.name hInherit

end Blueprint

/-- The primary key of a table consists of the identity columns of its class, in their order. -/
theorem Blueprint.keyColumns_eq_of_table {b : Blueprint} {built : List Table} {relation : Relation}
    {c : ClassMapping} {name : String} {js js' : List ClassMapping} {t : Table}
    (h : (b.table built relation c name js).outcome = .ok (t, js')) (hFields : c.fields ≠ [])
    (hOnce : (b.document.lineage c).DeclaresIdentityOnce) :
    t.keyColumns = (b.document.lineage c).identity.flatMap (·.columns) := by
  obtain ⟨hOrder, g, g', own, inherited, hOwn, hInherited, hColumns⟩ :=
    lays_of_table h hFields hOnce
  calc t.keyColumns
      = t.identityColumns.map (·.name) := hOrder
    _ = (own.filter (·.identity)).map (·.name) ++
          (inherited.filter (·.identity)).map (·.name) := by
        rw [Table.identityColumns, hColumns, List.filter_append, List.map_append]
    _ = (c.identityFields ++ (b.document.lineage c).inherited).flatMap (·.columns) := by
        rw [hOwn.identityNames, hInherited.identityNames, c.filter_isIdentity, List.filter_true,
          List.flatMap_append]
    _ = (b.document.lineage c).identity.flatMap (·.columns) := by
        rw [Lineage.append_inherited (b.document.head_lineage c)]

/-- The stored fields have the columns of all fields that are no associations. -/
theorem FieldMapping.flatMap_columns_filter_isStored (fs : List FieldMapping) :
    (fs.filter (·.isStored)).flatMap (·.columns) =
      (fs.filter (!·.isManyToMany)).flatMap (·.columns) := by
  induction fs with
  | nil => rfl
  | cons f rest ih =>
    rw [List.filter_cons, List.filter_cons]
    by_cases hColumns : f.columns = []
    · -- a field without columns adds none, stored or not
      have hStored : f.isStored = false := by simp [isStored, hasColumns, hColumns]
      rw [hStored, if_neg Bool.false_ne_true, ih]
      split
      · rw [List.flatMap_cons, hColumns, List.nil_append]
      · rfl
    -- with columns a field is stored unless it is an association
    · have hStored : f.isStored = !f.isManyToMany := by simp [isStored, hasColumns, hColumns]
      rw [hStored]
      split
      · rw [List.flatMap_cons, List.flatMap_cons, ih]
      · exact ih

/-- **The merge of an inherited identity is exact.** The table of a class with fields has the
columns of these in the order of their declaration, and then those of the inherited identity fields.
Its primary key consists of the identity columns of the class, in their order. -/
theorem Schema.columns_eq_of_declaresIdentityOnce {registry : KeyGeneratorRegistry}
    {settings : Settings} {catalog : TypeCatalog} {d : Document} {s : Schema}
    (h : (Schema.ofDocument registry settings catalog d).outcome = .ok s)
    {c : ClassMapping} (hc : c ∈ d.classes) {name : String} (hMapped : c.mappedTable = some name)
    (hFields : c.fields ≠ []) (hOnce : (d.lineage c).DeclaresIdentityOnce) :
    ∃ t columns, s.table? name = some t ∧
      t.columnNames = (c.fields.filter (!·.isManyToMany)).flatMap (·.columns) ++
        (d.lineage c).inherited.flatMap (·.columns) ∧
      t.columnNames.Nodup ∧
      d.identityColumns c = .ok columns ∧
      t.primaryKey.map (·.columns) = some columns ∧
      ((d.lineage c).identityClass? = none → columns = []) := by
  -- the class has its table in the schema
  obtain ⟨b, js, rfl, -, -, hBuilds⟩ := Schema.exists_builds_of_ofDocument h
  obtain ⟨t, built, js, js', hFind, hTable⟩ := hBuilds.exists_table_of_class hc hMapped
  have hKeyed : t.Keyed := Blueprint.keyed_of_table hTable
  refine ⟨t, t.keyColumns, hFind, ?_, hKeyed.nodupNames, ?_, ?_, fun hNone => ?_⟩
  -- the columns, then the key, each from what was laid
  · obtain ⟨-, g, g', own, inherited, hOwn, hInherited, hColumns⟩ :=
      Blueprint.lays_of_table hTable hFields hOnce
    rw [Table.columnNames, hColumns, List.map_append, hOwn.columnNames, hInherited.columnNames,
      FieldMapping.flatMap_columns_filter_isStored]
  -- both walks end at the class that declares the identity
  · rw [Blueprint.keyColumns_eq_of_table hTable hFields hOnce]
    exact Blueprint.identityColumns_eq_of_table hTable hFields
  · rw [hKeyed.key]
    rfl
  -- without such a class the key is empty
  · rw [Blueprint.keyColumns_eq_of_table hTable hFields hOnce,
      Lineage.identity_eq_nil_of_identityClass? hNone]
    rfl

/-- The item of the sample has the identity column of a class two levels above it. -/
theorem Schema.columns_of_sample_item :
    ∃ s t, Schema.ofSample.outcome = .ok s ∧ s.table? "item" = some t ∧
      t.columnNames = ["title", "id"] ∧ t.primaryKey.map (·.columns) = some ["id"] := by
  obtain ⟨s, -, -, -, hs, -⟩ := Schema.exists_ofSample
  -- the item declares no identity, and extends a class that extends another one
  have hItem : Document.sample.classes[2] ∈ Document.sample.classes := List.getElem_mem _
  have hOnce : (Document.sample.lineage Document.sample.classes[2]).DeclaresIdentityOnce := by
    decide +kernel
  obtain ⟨t, columns, hFind, hNames, -, hIdentity, hKey, -⟩ :=
    Schema.columns_eq_of_declaresIdentityOnce hs hItem rfl (by decide) hOnce
  have hColumns : Document.sample.identityColumns Document.sample.classes[2] = .ok ["id"] := by
    decide +kernel
  cases hColumns.symm.trans hIdentity
  refine ⟨s, t, hs, hFind, hNames.trans ?_, hKey⟩
  decide +kernel

end MappingDdl
