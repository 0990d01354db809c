import MappingDdl.Proofs.IdentityTypes

/-!
# Documents that agree — a class is treated alike in both

Building a table asks the document for the classes that a class extends and refers to. Another
document may find these under their names as they are, or revised in a way that keeps what other
classes ask of them (`Revision`). Where it does (`Document.Follows`), the walks over classes give
the same, errors included.

Where two documents find the same classes (`Document.Agrees`), the tables that are made from a class
of both are equal as well. The tables that are there already may differ, as long as those of the
classes of the smaller document are found in both. The functions of the schema builder are followed
in the order in which they call each other. For the larger document they run on `b.on d'`.

Main results:

* `Document.Follows.lineage_eq`, `Document.Follows.identityTypes_eq` — the two walks over classes.
* `Blueprint.table_on` — the table of a class that both documents treat alike.
* `Blueprint.addClasses_on`, `Blueprint.addJunctions_on` — the tables of the classes of the smaller
  document, and of its junctions.
* `Blueprint.exists_addJunctions_on` — the tables of junctions, where another table has come in
  before them.
-/

namespace MappingDdl

/-! ## Revised classes -/

/-- A change to classes that keeps all that other classes ask of them. -/
structure Revision (φ : ClassMapping → ClassMapping) : Prop where
  name           : ∀ c, (φ c).name = c.name
  mappedTable    : ∀ c, (φ c).mappedTable = c.mappedTable
  parent         : ∀ c, (φ c).parent = c.parent
  keyGenerator   : ∀ c, (φ c).keyGenerator = c.keyGenerator
  identityFields : ∀ c, (φ c).identityFields = c.identityFields

/-- To leave all classes as they are is a revision. -/
theorem Revision.id : Revision id :=
  ⟨fun _ => rfl, fun _ => rfl, fun _ => rfl, fun _ => rfl, fun _ => rfl⟩

/-- The identity columns of a revised class are those of the class. -/
theorem Revision.ownIdentityColumns {φ : ClassMapping → ClassMapping} (h : Revision φ)
    (c : ClassMapping) : (φ c).ownIdentityColumns = c.ownIdentityColumns := by
  rw [ClassMapping.ownIdentityColumns, h.identityFields, ClassMapping.ownIdentityColumns]

namespace Lineage

variable {φ : ClassMapping → ClassMapping}

/-- The lineage with all classes revised. -/
def map (φ : ClassMapping → ClassMapping) : Lineage → Lineage
  | root c => root (φ c)
  | unknownParent c parent => unknownParent (φ c) parent
  | cycle c parent => cycle (φ c) parent
  | step c rest => step (φ c) (rest.map φ)

/-- A lineage is its own revision by the identity. -/
@[simp] theorem map_id (l : Lineage) : l.map id = l := by
  induction l with
  | root => rfl
  | unknownParent => rfl
  | cycle => rfl
  | step c rest ih => rw [map, ih, id]

/-- The first class of a revised lineage is the first class, revised. -/
@[simp] theorem head_map (l : Lineage) : (l.map φ).head = φ l.head := by
  cases l <;> rfl

/-- The classes of a revised lineage are its classes, revised. -/
theorem toList_map (l : Lineage) : (l.map φ).toList = l.toList.map φ := by
  induction l with
  | root => rfl
  | unknownParent => rfl
  | cycle => rfl
  | step c rest ih => rw [map, toList, toList, ih, List.map_cons]

/-- The revised lineage has the same identity fields. -/
theorem identity_map (h : Revision φ) (l : Lineage) : (l.map φ).identity = l.identity := by
  have hKept : (fun c : ClassMapping => !c.identityFields.isEmpty) ∘ φ =
      fun c => !c.identityFields.isEmpty := by
    -- a class with identity fields keeps these, so the search stops at the same place
    funext c
    rw [Function.comp_apply, h.identityFields]
  rw [identity, identityClass?, toList_map, List.find?_map, hKept, Option.map_map, identity,
    identityClass?]
  congr 2
  -- and the class that is found there has the same identity fields
  funext c
  exact h.identityFields c

/-- The revised lineage has the same identity columns, or the same fault. -/
theorem identityColumns_map (h : Revision φ) (origin : String) (l : Lineage) :
    (l.map φ).identityColumns origin = l.identityColumns origin := by
  induction l with
  | root c => rw [map, identityColumns, h.ownIdentityColumns]; rfl
  | unknownParent c parent => rw [map, identityColumns, h.ownIdentityColumns, h.name]; rfl
  | cycle c parent => rw [map, identityColumns, h.ownIdentityColumns]; rfl
  | step c rest ih => rw [map, identityColumns, h.ownIdentityColumns, ih]; rfl

end Lineage

namespace Document

/-! ## Walks over classes -/

/-- Of the names of the classes of `d`, both lists have the same. -/
def SameNames (d : Document) (unmet unmet' : List ClassMapping) : Prop :=
  ∀ c ∈ d.classes, unmet'.any (·.name == c.name) = unmet.any (·.name == c.name)

/-- Under the names that a class of the kind `P` extends and refers to, `d'` finds what `d` finds
there, revised. All classes of `d` are of this kind. -/
structure Follows (d d' : Document) (φ : ClassMapping → ClassMapping) (P : ClassMapping → Prop) :
    Prop where
  revision : Revision φ
  mem      : ∀ c ∈ d.classes, P c
  names    : d.SameNames d.classes d'.classes
  parent   : ∀ c, P c → ∀ name, given c.parent = some name →
               d'.class? name = (d.class? name).map φ
  type     : ∀ c, P c → ∀ f ∈ c.fields, d'.class? f.type = (d.class? f.type).map φ

variable {d d' : Document} {φ : ClassMapping → ClassMapping} {P : ClassMapping → Prop}

/-- Classes that are met in both walks are left out of both. -/
theorem SameNames.without {unmet unmet' : List ClassMapping} {name : String}
    (h : d.SameNames unmet unmet') :
    d.SameNames (without unmet name) (without unmet' name) := by
  intro c hc
  rw [Bool.eq_iff_iff, any_without_iff, any_without_iff, h c hc]

/-- A class that is found under a name is of the kind that is followed. -/
theorem Follows.mem_of_class? (h : d.Follows d' φ P) {name : String} {c : ClassMapping}
    (hClass : d.class? name = some c) : P c :=
  h.mem c (List.mem_of_find?_eq_some hClass)

/-- From a revised class the walk over parents goes through the revised classes. -/
theorem Follows.lineageFrom_eq (h : d.Follows d' φ P) {unmet unmet' : List ClassMapping}
    (hSame : d.SameNames unmet unmet') {c : ClassMapping} (hc : P c) :
    d'.lineageFrom unmet' (φ c) = (d.lineageFrom unmet c).map φ := by
  rw [lineageFrom, lineageFrom, h.revision.parent]
  cases hGiven : given c.parent with
  | none => rfl
  | some name =>
    -- both documents find the same parent, which is met in both or in neither
    simp only [h.parent c hc name hGiven]
    cases hClass : d.class? name with
    -- no class has the name, in neither document
    | none => rfl
    | some p =>
      simp only [Option.map_some, h.revision.name, hSame p (List.mem_of_find?_eq_some hClass)]
      by_cases hMet : unmet.any (·.name == p.name) = true
      -- a parent that is still to be met: one step of the walk in both
      · rw [dif_pos hMet, dif_pos hMet, Lineage.map,
          h.lineageFrom_eq hSame.without (h.mem_of_class? hClass)]
      -- one that was met before: a circle in both
      · rw [dif_neg hMet, dif_neg hMet, Lineage.map]
termination_by unmet.length
decreasing_by exact length_without_lt hMet

/-- A revised class has the revised lineage. -/
theorem Follows.lineage_eq (h : d.Follows d' φ P) {c : ClassMapping} (hc : P c) :
    d'.lineage (φ c) = (d.lineage c).map φ := by
  rw [lineage, h.revision.name]
  exact h.lineageFrom_eq h.names.without hc

/-- A revised class has the same identity columns. -/
theorem Follows.identityColumns_eq (h : d.Follows d' φ P) {c : ClassMapping} (hc : P c) :
    d'.identityColumns (φ c) = d.identityColumns c := by
  rw [identityColumns, h.lineage_eq hc, h.revision.name,
    Lineage.identityColumns_map h.revision, identityColumns]

/-- Functions that agree on a list give the same concatenation, or the same first fault. -/
theorem concatMap_congr {α β ε : Type} {f g : α → Except ε (List β)} {l : List α}
    (h : ∀ a ∈ l, f a = g a) : concatMap f l = concatMap g l := by
  induction l with
  | nil => rfl
  | cons a rest ih =>
    rw [concatMap, concatMap, h a List.mem_cons_self,
      ih fun a' ha' => h a' (List.mem_cons_of_mem _ ha')]

/-- The walk that collects the identity types is the same from a revised class. -/
theorem Follows.identityTypesFrom_eq (h : d.Follows d' φ P) {unmet unmet' : List ClassMapping}
    {path : List String} (hSame : d.SameNames unmet unmet') {c : ClassMapping} (hc : P c) :
    d'.identityTypesFrom unmet' path (φ c) = d.identityTypesFrom unmet path c := by
  -- what is found at a class that the walk comes to
  have hVisit : ∀ r ∈ d.classes, d'.visit unmet' path (φ r) = d.visit unmet path r := by
    intro r hr
    rw [visit, visit]
    simp only [h.revision.name, hSame r hr]
    by_cases hMet : unmet.any (·.name == r.name) = true
    · rw [dif_pos hMet, dif_pos hMet, h.identityTypesFrom_eq hSame.without (h.mem r hr)]
    · rw [dif_neg hMet, dif_neg hMet]
  rw [Document.identityTypesFrom_eq, Document.identityTypesFrom_eq, h.revision.identityFields]
  by_cases hNone : c.identityFields.isEmpty = true
  · -- without identity fields the walk goes on to the parent, which is a class of `d`
    rw [if_pos hNone, if_pos hNone, Document.parent, Document.parent, h.revision.parent,
      h.revision.name]
    cases hGiven : given c.parent with
    | none => rfl
    | some name =>
      simp only [h.parent c hc name hGiven]
      cases hClass : d.class? name with
      | none => rfl
      | some p => exact hVisit p (List.mem_of_find?_eq_some hClass)
  · rw [if_neg hNone, if_neg hNone]
    -- otherwise each of its identity fields gives its own types
    refine concatMap_congr fun f hf => ?_
    rw [fieldNames, fieldNames, h.type c hc f (List.mem_of_mem_filter hf)]
    cases given f.sqlType with
    -- an SQL type is taken as it stands
    | some s => rfl
    | none =>
      -- any other type may be a class, to which the walk goes on
      cases hClass : d.class? f.type with
      | none => rfl
      | some r => exact hVisit r (List.mem_of_find?_eq_some hClass)
termination_by unmet.length
decreasing_by exact length_without_lt hMet

/-- A revised class has the same identity types. -/
theorem Follows.identityTypes_eq (h : d.Follows d' φ P) {c : ClassMapping} (hc : P c) :
    d'.identityTypes (φ c) = d.identityTypes c := by
  rw [identityTypes, h.revision.name]
  exact h.identityTypesFrom_eq h.names.without hc

/-! ## Documents that agree -/

/-- The document `d'` has the classes of `d`. Under the names that these have, extend and refer to,
it finds what `d` finds there. -/
structure Agrees (d d' : Document) : Prop where
  subset : d.classes ⊆ d'.classes
  name   : ∀ c ∈ d.classes, d'.class? c.name = d.class? c.name
  parent : ∀ c ∈ d.classes, ∀ name, given c.parent = some name → d'.class? name = d.class? name
  type   : ∀ c ∈ d.classes, ∀ f ∈ c.fields, d'.class? f.type = d.class? f.type

/-- Documents that agree follow each other with no class revised. -/
theorem Agrees.follows (h : d.Agrees d') : d.Follows d' id (· ∈ d.classes) where
  revision := .id
  mem _ hc := hc
  names c hc := by
    -- a class of the smaller document is in both, so its name is found in both
    have hHere : d.classes.any (·.name == c.name) = true :=
      List.any_eq_true.2 ⟨c, hc, beq_self_eq_true _⟩
    rw [hHere]
    exact List.any_eq_true.2 ⟨c, h.subset hc, beq_self_eq_true _⟩
  parent c hc name hGiven := by
    rw [h.parent c hc name hGiven, Option.map_id_fun, id]
  type c hc f hf := by
    rw [h.type c hc f hf, Option.map_id_fun, id]

/-- A class has the same lineage in both documents. -/
theorem Agrees.lineage_eq (h : d.Agrees d') {c : ClassMapping} (hc : c ∈ d.classes) :
    d'.lineage c = d.lineage c :=
  (h.follows.lineage_eq hc).trans (Lineage.map_id _)

/-- A class has the same identity columns in both documents. -/
theorem Agrees.identityColumns_eq (h : d.Agrees d') {c : ClassMapping} (hc : c ∈ d.classes) :
    d'.identityColumns c = d.identityColumns c :=
  h.follows.identityColumns_eq hc

/-- A class has the same identity types in both documents. -/
theorem Agrees.identityTypes_eq (h : d.Agrees d') {c : ClassMapping} (hc : c ∈ d.classes) :
    d'.identityTypes c = d.identityTypes c :=
  h.follows.identityTypes_eq hc

/-- The lineage of a class of the document stays in the document. -/
theorem toList_lineageFrom_subset {unmet : List ClassMapping} {c : ClassMapping}
    (hc : c ∈ d.classes) : (d.lineageFrom unmet c).toList ⊆ d.classes := by
  rw [lineageFrom]
  -- a root, a parent that is unknown, or one more step of the walk
  split
  -- the class itself is all there is
  · simpa [Lineage.toList] using hc
  · split
    · simpa [Lineage.toList] using hc
    · next p hClass =>
      by_cases hMet : unmet.any (·.name == p.name) = true
      -- a parent that is still to be met is a class of the document
      · rw [dif_pos hMet]
        refine List.cons_subset.2 ⟨hc, ?_⟩
        exact toList_lineageFrom_subset (List.mem_of_find?_eq_some hClass)
      · rw [dif_neg hMet]
        simpa [Lineage.toList] using hc
termination_by unmet.length
decreasing_by exact length_without_lt hMet

end Document

namespace Blueprint

/-- The blueprint with another document. -/
def on (b : Blueprint) (d' : Document) : Blueprint :=
  { b with document := d' }

variable {b : Blueprint} {d' : Document} {c r : ClassMapping} {f : FieldMapping}

@[simp] theorem document_on : (b.on d').document = d' := rfl

/-! ## Types -/

/-- The column types that a reference gives do not depend on the document. -/
theorem identityColumnTypes_on {names : List String} :
    (b.on d').identityColumnTypes c f r names = b.identityColumnTypes c f r names := by
  induction names with
  | nil => rfl
  | cons name rest ih =>
    rw [identityColumnTypes, identityColumnTypes, ih]
    rfl

/-- The types that a field declares are the same in both documents. -/
theorem declaredTypes_on (h : b.document.Agrees d')
    (hType : d'.class? f.type = b.document.class? f.type) :
    (b.on d').declaredTypes c f = b.declaredTypes c f := by
  rw [declaredTypes, declaredTypes, document_on, hType]
  cases hFind : b.document.class? f.type with
  | none => rfl
  | some r =>
    have hr := List.mem_of_find?_eq_some hFind
    simp only [referenceTypes, document_on, h.identityTypes_eq hr, identityColumnTypes_on]

/-- The types of a field are the same in both documents, and so is the class it refers to. -/
theorem fieldTypes_on (h : b.document.Agrees d')
    (hType : d'.class? f.type = b.document.class? f.type) :
    (b.on d').fieldTypes c f = b.fieldTypes c f := by
  rw [fieldTypes, fieldTypes, declaredTypes_on h hType]
  rfl

/-- Whether two lists of types are the same does not depend on the document. -/
theorem sameTypes_on {ss ts : List String} : (b.on d').sameTypes ss ts = b.sameTypes ss ts := by
  induction ss generalizing ts with
  | nil => rfl
  | cons s rest ih =>
    cases ts with
    | nil => rfl
    | cons t ts =>
      rw [sameTypes, sameTypes, ih]
      rfl

/-- Two classes of the smaller document have compatible identities in both or in neither. -/
theorem checkIdentity_on (h : b.document.Agrees d') (hc : c ∈ b.document.classes)
    (hr : r ∈ b.document.classes) : (b.on d').checkIdentity c r = b.checkIdentity c r := by
  simp only [checkIdentity, document_on, h.identityTypes_eq hc, h.identityTypes_eq hr, sameTypes_on]

/-! ## Inherited identity -/

/-- Inherited fields come in alike if their types are found alike. -/
theorem inheritFields_on (h : b.document.Agrees d') {parent : ClassMapping}
    {g : Option KeyGenerator} {t : Table} {fs : List FieldMapping}
    (hTypes : ∀ f ∈ fs, d'.class? f.type = b.document.class? f.type) :
    (b.on d').inheritFields c parent g t fs = b.inheritFields c parent g t fs := by
  induction fs generalizing t with
  | nil => rfl
  | cons f rest ih =>
    have hRest (u : Table) :
        (b.on d').inheritFields c parent g u rest = b.inheritFields c parent g u rest :=
      ih fun f' hf' => hTypes f' (List.mem_cons_of_mem _ hf')
    rw [inheritFields, inheritFields, fieldTypes_on h (hTypes f List.mem_cons_self)]
    simp only [hRest]

/-- The merge is the same along a lineage of classes of the smaller document. -/
theorem inherit_on (h : b.document.Agrees d') {t : Table} {l : Lineage}
    (hl : l.toList ⊆ b.document.classes) : (b.on d').inherit t l = b.inherit t l := by
  induction l generalizing t with
  | root => rfl
  | unknownParent => rfl
  | cycle => rfl
  | step c rest ih =>
    obtain ⟨hc, hRest⟩ := List.cons_subset.1 hl
    -- the fields that come in are those of the parent, so it is their types that count
    have hParent : rest.head ∈ b.document.classes := hRest rest.head_mem_toList
    have hFields (u : Table) (g : Option KeyGenerator) :
        (b.on d').inheritFields c rest.head g u rest.head.identityFields =
          b.inheritFields c rest.head g u rest.head.identityFields :=
      inheritFields_on h fun f hf => h.type rest.head hParent f (List.mem_of_mem_filter hf)
    rw [inherit, inherit]
    simp only [hFields, ih hRest, checkIdentity_on h hc hParent]
    rfl

end Blueprint

/-! ## Fields -/

/-- The tables of the classes of `d` are found in both lists. -/
def Document.SameTables (d : Document) (built built' : List Table) : Prop :=
  ∀ r ∈ d.classes, ∀ name, r.mappedTable = some name →
    built'.find? (·.name == name) = built.find? (·.name == name)

/-- A table makes no difference that no class is mapped to. -/
theorem Document.SameTables.of_insert {d : Document} {t : Table} (before after : List Table)
    (h : ∀ r ∈ d.classes, r.mappedTable ≠ some t.name) :
    d.SameTables (before ++ after) (before ++ t :: after) := by
  intro r hr name hMapped
  have hOther : ¬ (t.name == name) = true := by
    rw [beq_iff_eq]
    intro hName
    exact h r hr (hName ▸ hMapped)
  have hSkip : (t :: after).find? (·.name == name) = after.find? (·.name == name) :=
    List.find?_cons_of_neg hOther
  rw [List.find?_append, List.find?_append, hSkip]

namespace Blueprint

section Fields

variable {b : Blueprint} {d' : Document} {c r : ClassMapping} {f : FieldMapping}
variable {built built' : List Table} {relation : Relation} {g : Option KeyGenerator} {t : Table}
  {js : List ClassMapping}

/-- A reference gives the same foreign key where the table of its class is the same. -/
theorem foreignKey_on (h : b.document.Agrees d') (hBuilt : b.document.SameTables built built')
    (hr : r ∈ b.document.classes) :
    (b.on d').foreignKey built' t c f r relation = b.foreignKey built t c f r relation := by
  -- the name of the other table is all that a foreign key takes from the tables built before
  have hTable : referenceTable built' t c f r = referenceTable built t c f r := by
    rw [referenceTable, referenceTable]
    cases hMapped : r.mappedTable with
    | none => rfl
    | some name => simp only [hBuilt r hr name hMapped]
  simp only [foreignKey, hTable, document_on, h.identityColumns_eq hr]

/-- A field adds the same to a table in both documents. -/
theorem addField_on (h : b.document.Agrees d') (hBuilt : b.document.SameTables built built')
    (hType : d'.class? f.type = b.document.class? f.type) :
    (b.on d').addField built' relation c g t f = b.addField built relation c g t f := by
  rw [addField, addField, fieldTypes_on h hType]
  refine Traced.bind_congr fun ft hTypes => ?_
  obtain ⟨types, referenced⟩ := ft
  cases referenced with
  | none => rfl
  | some r =>
    -- the field refers to a class of the smaller document
    have hClass := (fieldTypes_eq_ok_iff.1 hTypes).class?_eq_some
    have hKey (u : Table) : (b.on d').foreignKey built' u c f r relation =
        b.foreignKey built u c f r relation :=
      foreignKey_on h hBuilt (List.mem_of_find?_eq_some hClass)
    simp only [hKey]

/-- A junction gets the same side if the class of this side has the same identity columns. -/
theorem addSide_on (hIdentity : d'.identityColumns c = b.document.identityColumns c)
    {j : ClassMapping} {side : String} {columns : List String} :
    (b.on d').addSide j side c columns = b.addSide j side c columns := by
  simp only [addSide, sideColumns, document_on, hIdentity]

/-- A relation queues the same junction in both documents. -/
theorem addRelation_on (h : b.document.Agrees d')
    (hIdentity : d'.identityColumns c = b.document.identityColumns c)
    (hType : d'.class? f.type = b.document.class? f.type) {table : String} :
    (b.on d').addRelation js c table f = b.addRelation js c table f := by
  rw [addRelation, addRelation, document_on, hType]
  cases hFind : b.document.class? f.type with
  | none => rfl
  | some r =>
    -- the columns of either side come from the identity of a class of the smaller document
    have hOpposite := h.identityColumns_eq (List.mem_of_find?_eq_some hFind)
    simp only [addSide_on hIdentity, addSide_on hOpposite]

/-- The fields of a class are added alike in both documents. -/
theorem addFields_on (h : b.document.Agrees d') (hBuilt : b.document.SameTables built built')
    (hIdentity : d'.identityColumns c = b.document.identityColumns c) {fs : List FieldMapping}
    (hTypes : ∀ f ∈ fs, d'.class? f.type = b.document.class? f.type) :
    (b.on d').addFields built' relation c g t js fs = b.addFields built relation c g t js fs := by
  induction fs generalizing t js with
  | nil => rfl
  | cons f rest ih =>
    -- the class of the first field is the same, and so is what the rest does
    have hType := hTypes f List.mem_cons_self
    have hRest (u : Table) (queue : List ClassMapping) :
        (b.on d').addFields built' relation c g u queue rest =
          b.addFields built relation c g u queue rest :=
      ih fun f' hf' => hTypes f' (List.mem_cons_of_mem _ hf')
    rw [addFields, addFields]
    simp only [addRelation_on h hIdentity hType, addField_on h hBuilt hType, hRest]

end Fields

/-! ## Tables -/

/-- Both documents treat a class alike: its fields refer to the same classes, and it has the same
lineage, with the same identity to inherit. -/
structure Treats (b : Blueprint) (d' : Document) (c : ClassMapping) : Prop where
  types   : ∀ f ∈ c.fields, d'.class? f.type = b.document.class? f.type
  lineage : d'.lineage c = b.document.lineage c
  inherit : ∀ t, (b.on d').inherit t (b.document.lineage c) = b.inherit t (b.document.lineage c)

variable {b : Blueprint} {d' : Document} {c : ClassMapping}

/-- A class of the smaller document is treated alike. -/
theorem Treats.of_class (h : b.document.Agrees d') (hc : c ∈ b.document.classes) :
    b.Treats d' c where
  types := h.type c hc
  lineage := h.lineage_eq hc
  inherit _ := inherit_on h (Document.toList_lineageFrom_subset hc)

/-- A junction extends nothing, and its sides refer to classes of the document by their names. -/
theorem Treats.of_junction (h : b.document.Agrees d') (hParent : c.parent = none)
    (hTypes : ∀ f ∈ c.fields, ∃ r ∈ b.document.classes, f.type = r.name) : b.Treats d' c := by
  have hRoot (d : Document) : d.lineage c = .root c :=
    Document.lineage_root (hParent ▸ given_none)
  -- the types, the lineage and what is inherited along it
  refine ⟨fun f hf => ?_, ?_, fun t => ?_⟩
  · obtain ⟨r, hr, hType⟩ := hTypes f hf
    rw [hType, h.name r hr]
  · rw [hRoot, hRoot]
  · rw [hRoot]
    rfl

/-- The junctions of the smaller document are treated alike: their sides are classes of it. -/
theorem Treats.of_queues (h : b.document.Agrees d') {js : List ClassMapping}
    (hQueues : b.Queues b.document.associations js) : ∀ j ∈ js, b.Treats d' j := by
  intro j hj
  refine .of_junction h (hQueues.isJunction j hj).parent fun f hf => ?_
  obtain ⟨side, hSide, hType⟩ := (hQueues.holds j hj).exists_side hf
  exact ⟨side.cls, Document.cls_mem_of_mem_sides (List.mem_of_find?_eq_some hSide), hType⟩

section Tables

variable {built built' : List Table} {relation : Relation} {name : String} {js : List ClassMapping}

/-- Both documents give the same table for a class that they treat alike. -/
theorem table_on (h : b.document.Agrees d') (hBuilt : b.document.SameTables built built')
    (hc : b.Treats d' c) :
    (b.on d').table built' relation c name js = b.table built relation c name js := by
  -- the columns of a relation come from the lineage
  have hIdentity : d'.identityColumns c = b.document.identityColumns c := by
    rw [Document.identityColumns, Document.identityColumns, hc.lineage]
  have hFields (g : Option KeyGenerator) (t : Table) :
      (b.on d').addFields built' relation c g t js c.fields =
        b.addFields built relation c g t js c.fields :=
    addFields_on h hBuilt hIdentity hc.types
  simp only [table, hFields, document_on, hc.lineage, hc.inherit]
  rfl

/-- The classes of the smaller document get the same tables in both. -/
theorem addClasses_on (h : b.document.Agrees d') {s : Schema} {cs : List ClassMapping}
    (hcs : cs ⊆ b.document.classes) : (b.on d').addClasses s js cs = b.addClasses s js cs := by
  induction cs generalizing s js with
  | nil => rfl
  -- on the classes, with the schema and the queue that the first one leaves
  | cons c rest ih =>
    obtain ⟨hc, hSub⟩ := List.cons_subset.1 hcs
    have hRest (s : Schema) (js : List ClassMapping) :
        (b.on d').addClasses s js rest = b.addClasses s js rest := ih hSub
    have hTable (name : String) : (b.on d').table s.tables .oneToOne c name js =
        b.table s.tables .oneToOne c name js :=
      table_on h (fun _ _ _ _ => rfl) (.of_class h hc)
    rw [addClasses, addClasses]
    simp only [hTable, hRest]

/-- The junctions of the smaller document get the same tables in both. -/
theorem addJunctions_on (h : b.document.Agrees d') {s : Schema}
    (hTreats : ∀ j ∈ js, b.Treats d' j) :
    (b.on d').addJunctions s js = b.addJunctions s js := by
  induction js generalizing s with
  | nil => rfl
  | cons j rest ih =>
    -- the rest finds the same tables, since the first junction has the same
    have hRest (s : Schema) : (b.on d').addJunctions s rest = b.addJunctions s rest :=
      ih fun k hk => hTreats k (List.mem_cons_of_mem _ hk)
    have hTable : (b.on d').table s.tables .manyToMany j j.name [] =
        b.table s.tables .manyToMany j j.name [] :=
      table_on h (fun _ _ _ _ => rfl) (hTreats j List.mem_cons_self)
    rw [addJunctions, addJunctions]
    simp only [hTable, hRest]

/-- A table with a name of its own comes in at the end. -/
theorem outcome_addTable {s : Schema} {t : Table} (h : t.name ∉ s.tables.map (·.name)) :
    (addTable s t).outcome = .ok { s with tables := s.tables ++ [t] } := by
  have hNew : ¬ s.tableNames.contains t.name = true := by simpa [Schema.tableNames] using h
  rw [addTable, Traced.outcome_ofExcept, Schema.addTable, if_neg hNew]
  rfl

/-- Junctions get the same tables where another table has come in before them, as long as it has a
name of its own. -/
theorem exists_addJunctions_on (h : b.document.Agrees d') {s s' u : Schema} {t : Table}
    {before after : List Table} (hTreats : ∀ j ∈ js, b.Treats d' j)
    (hClasses : ∀ r ∈ b.document.classes, r.mappedTable ≠ some t.name)
    (hNew : t.name ∉ s'.tables.map (·.name)) (hTables : s.tables = before ++ after)
    (hInserted : u.tables = before ++ t :: after)
    (hJunctions : (b.addJunctions s js).outcome = .ok s') :
    ∃ u' more, ((b.on d').addJunctions u js).outcome = .ok u' ∧
      s'.tables = before ++ (after ++ more) ∧ u'.tables = before ++ t :: (after ++ more) := by
  -- on the junctions; what was after the inserted table grows at its end
  induction js generalizing s u after with
  | nil =>
    cases hJunctions
    refine ⟨u, [], rfl, ?_, ?_⟩
    · rw [hTables, List.append_nil]
    · rw [hInserted, List.append_nil]
  | cons j rest ih =>
    obtain ⟨v, js', s₁, hTable, hAdd, hRest⟩ := addJunctions_cons_eq_ok_iff.1 hJunctions
    -- the junction was new among the tables that were there
    obtain ⟨hNext, hApart⟩ := addTable_eq_ok hAdd
    have hSame : b.document.SameTables s.tables u.tables := by
      rw [hTables, hInserted]
      exact .of_insert before after hClasses
    -- it is built from the same tables as far as it looks at them
    have hTable' : ((b.on d').table u.tables .manyToMany j j.name []).outcome = .ok (v, js') := by
      rw [table_on h hSame (hTreats j List.mem_cons_self)]
      exact hTable
    -- the next one stands behind it in both schemas
    have hTables₁ : s₁.tables = before ++ (after ++ [v]) := by
      rw [hNext, hTables, List.append_assoc]
    have hInserted₁ : u.tables ++ [v] = before ++ t :: (after ++ [v]) := by
      rw [hInserted, List.append_assoc, List.cons_append]
    obtain ⟨u', more, hMore, hSplit, hSplit'⟩ :=
      ih (u := ⟨u.name, u.tables ++ [v]⟩) (fun k hk => hTreats k (List.mem_cons_of_mem _ hk))
        hTables₁ hInserted₁ hRest
    -- the junction has a name of its own, as the other table is none of those in the end
    have hOther : v.name ≠ t.name := by
      intro hName
      refine hNew (hName ▸ List.mem_map_of_mem ?_)
      rw [hSplit]
      simp
    -- so it is new in the larger schema too
    have hFresh : v.name ∉ u.tables.map (·.name) := by
      rw [hTables, List.map_append, List.mem_append] at hApart
      rw [hInserted, List.map_append, List.map_cons, List.mem_append, List.mem_cons]
      rintro (hBefore | hSame | hAfter)
      · exact hApart (Or.inl hBefore)
      · exact hOther hSame
      · exact hApart (Or.inr hAfter)
    refine ⟨u', v :: more, ?_, ?_, ?_⟩
    · exact addJunctions_cons_eq_ok_iff.2 ⟨v, js', _, hTable', outcome_addTable hFresh, hMore⟩
    · rw [hSplit, List.append_assoc, List.singleton_append]
    · rw [hSplit', List.append_assoc, List.singleton_append]

end Tables

end Blueprint

end MappingDdl
