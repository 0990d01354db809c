import MappingDdl.Proofs.Building

/-!
# Associations — from many-to-many fields to queued junctions

A many-to-many field of a mapped class is an *association*. It enters two *sides* into the junction
that it names: the class that declares it, and the class that its type names. A side whose name, up
to case, is in the junction already is passed over.

* `Document.associations` — the associations of a document, in order.
* `Document.sides` — what they enter into a junction, whether or not it is passed over.
* `Blueprint.Queues` — the junctions that associations make, one association after the other. It is
  all that later modules need to know of the functions that queue junctions.

Main results:

* `Blueprint.Queues.of_table` — building a table queues the associations of its class.
* `Blueprint.Queues.names_eq` — the queue has one junction for each name, in the order in which the
  names first occur.
* `Blueprint.Queues.holds` — under each name a junction has the first side that was entered.
* `Blueprint.Queues.isJunction` — a junction consists of sides, and of nothing else.
-/

namespace MappingDdl

/-! ## What a document asks for -/

/-- A many-to-many field, with the class that declares it. -/
structure Association where
  cls : ClassMapping
  field : FieldMapping

/-- A side of a junction: its name, and the class that it stands for. -/
structure Side where
  name : String
  cls : ClassMapping

/-- Whether a side has a given name, without regard to case. -/
def Side.isNamed (s : Side) (name : String) : Bool :=
  Text.lower s.name == Text.lower name

/-- The many-to-many fields of a class. -/
def ClassMapping.associations (c : ClassMapping) : List Association :=
  (c.fields.filter (·.isManyToMany)).map fun f => ⟨c, f⟩

/-- The many-to-many fields of mapped classes, in the order of the document. -/
def Document.associations (d : Document) : List Association :=
  (d.classes.filter (·.mappedTable.isSome)).flatMap (·.associations)

/-- The two sides of an association. The declaring class has the name of its table; the class that
the field's type names has the name of its own table, or of the field if it is the same class. -/
def Association.sides (d : Document) (a : Association) : List Side :=
  match a.cls.mappedTable, d.class? a.field.type with
  | some table, some r =>
    [⟨table, a.cls⟩,
      ⟨if r.name = a.cls.name then a.field.name else r.mappedTable.getD "", r⟩]
  | _, _ => []

/-- The sides that associations enter into a junction, in order. -/
def Document.sidesOf (d : Document) (as : List Association) (junction : String) : List Side :=
  (as.filter (·.field.manyTable == some junction)).flatMap (·.sides d)

/-- The sides that the associations of a document enter into a junction, in order. -/
def Document.sides (d : Document) (junction : String) : List Side :=
  d.sidesOf d.associations junction

/-- The sides of a junction are those that the associations give in their order. -/
theorem Document.sidesOf_append (d : Document) (as as' : List Association) (junction : String) :
    d.sidesOf (as ++ as') junction = d.sidesOf as junction ++ d.sidesOf as' junction := by
  rw [sidesOf, List.filter_append, List.flatMap_append]
  rfl

/-- The associations of a document are the many-to-many fields of its mapped classes. -/
theorem Document.mem_associations_iff {d : Document} {a : Association} :
    a ∈ d.associations ↔ a.cls ∈ d.classes ∧ a.cls.mappedTable.isSome = true ∧
      a.field ∈ a.cls.fields ∧ a.field.isManyToMany = true := by
  simp only [associations, ClassMapping.associations, List.mem_flatMap, List.mem_filter,
    List.mem_map]
  constructor
  · rintro ⟨c, ⟨hc, hMapped⟩, f, ⟨hf, hMany⟩, rfl⟩
    exact ⟨hc, hMapped, hf, hMany⟩
  · rintro ⟨hc, hMapped, hf, hMany⟩
    exact ⟨a.cls, ⟨hc, hMapped⟩, a.field, ⟨hf, hMany⟩, rfl⟩

/-- Both classes of an association are classes of the document. -/
theorem Document.cls_mem_of_mem_sides {d : Document} {junction : String} {s : Side}
    (h : s ∈ d.sides junction) : s.cls ∈ d.classes := by
  obtain ⟨a, ha, hs⟩ := List.mem_flatMap.1 h
  -- the association is of a class of the document
  have hMem := (mem_associations_iff.1 (List.mem_filter.1 ha).1).1
  unfold Association.sides at hs
  split at hs
  -- the other class is looked up there
  · next r hClass =>
    rcases List.mem_cons.1 hs with rfl | hOther
    · exact hMem
    · rw [List.mem_singleton.1 hOther]
      exact List.mem_of_find?_eq_some hClass
  · cases hs

/-- In a sound document every class is found under its name. -/
theorem Document.class?_eq_some {d : Document} (hSound : d.structureProblems = [])
    {c : ClassMapping} (hc : c ∈ d.classes) : d.class? c.name = some c :=
  find?_of_nodup_map (structureProblems_eq_nil_iff.1 hSound).1 hc

/-! ## Junctions and their sides -/

/-- A field that is a side of a junction: an identity field with columns, which refers to the
identity of a class. -/
structure FieldMapping.IsSide (f : FieldMapping) : Prop where
  identity  : f.identity = true
  isStored  : f.isStored = true
  sqlType   : f.sqlType = none
  manyKey   : f.manyKey = []

/-- A queued junction has sides, and nothing else that could show in its table, which has its
name. -/
structure ClassMapping.IsJunction (j : ClassMapping) : Prop where
  table   : j.table = some j.name
  parent  : j.parent = none
  indexes : j.indexes = []
  sides   : ∀ f ∈ j.fields, f.IsSide

/-- The junction has a field for each name that one of the sides has, of the class of the first side
with this name. Names are told apart without regard to case. -/
structure ClassMapping.Holds (j : ClassMapping) (sides : List Side) : Prop where
  distinct : (j.fields.map fun f => Text.lower f.name).Nodup
  first    : ∀ name, (j.field? name).map (·.type) =
               (sides.find? (·.isNamed name)).map (·.cls.name)

/-- A field of a junction is the one that is found under its name. -/
theorem ClassMapping.Holds.field?_eq_some {j : ClassMapping} {sides : List Side}
    (h : j.Holds sides) {f : FieldMapping} (hf : f ∈ j.fields) : j.field? f.name = some f :=
  find?_of_nodup_map h.distinct hf

/-- Every field of the junction stands for the class of a side. -/
theorem ClassMapping.Holds.exists_side {j : ClassMapping} {sides : List Side}
    (h : j.Holds sides) {f : FieldMapping} (hf : f ∈ j.fields) :
    ∃ s, sides.find? (·.isNamed f.name) = some s ∧ f.type = s.cls.name := by
  have hFirst := h.first f.name
  rw [h.field?_eq_some hf, Option.map_some] at hFirst
  obtain ⟨s, hs, hType⟩ := Option.map_eq_some_iff.1 hFirst.symm
  exact ⟨s, hs, hType.symm⟩

namespace Blueprint

variable {b : Blueprint}

/-- The columns of a side that names none are never no columns. -/
theorem sideColumns_ne_nil {c : ClassMapping} {side : String} {columns : List String}
    (h : b.sideColumns c side = .ok columns) : columns ≠ [] := by
  obtain ⟨identity, -, h⟩ := bind_eq_ok_iff.1 h
  split at h
  · cases h
  · cases h
    exact List.cons_ne_nil _ _
  · next hNonempty _ =>
    cases h
    simpa using hNonempty

/-- A side is added once; one that is there stays as it is. -/
theorem addSide_eq_ok {j j' c : ClassMapping} {side : String} {columns : List String}
    (h : b.addSide j side c columns = .ok j') :
    ((j.field? side).isSome = true ∧ j' = j) ∨
      (j.field? side = none ∧ ∃ own, own ≠ [] ∧
        j' = { j with fields := j.fields ++
          [{ name := side, type := c.name, identity := true, columns := own }] }) := by
  unfold addSide at h
  split at h
  -- a side of this name is there
  · next hSome =>
    cases h
    exact Or.inl ⟨hSome, rfl⟩
  -- a new one takes the columns that are declared, or those of the identity
  · next hNone =>
    extract_lets enter at h
    refine Or.inr ⟨by simpa using hNone, ?_⟩
    split at h
    · obtain ⟨own, hOwn, h⟩ := bind_eq_ok_iff.1 h
      cases h
      exact ⟨own, sideColumns_ne_nil hOwn, rfl⟩
    · next hNonempty =>
      cases h
      exact ⟨columns, by simpa using hNonempty, rfl⟩

/-- A side leaves the name of the junction as it is. -/
theorem name_of_addSide {j j' c : ClassMapping} {side : String} {columns : List String}
    (h : b.addSide j side c columns = .ok j') : j'.name = j.name := by
  rcases addSide_eq_ok h with ⟨-, rfl⟩ | ⟨-, own, -, rfl⟩
  · rfl
  · rfl

/-- A junction with one more side is a junction. -/
theorem isJunction_of_addSide {j j' c : ClassMapping} {side : String} {columns : List String}
    (hj : j.IsJunction) (h : b.addSide j side c columns = .ok j') : j'.IsJunction := by
  rcases addSide_eq_ok h with ⟨-, rfl⟩ | ⟨-, own, hOwn, rfl⟩
  · exact hj
  · refine ⟨hj.table, hj.parent, hj.indexes, fun f hf => ?_⟩
    rcases List.mem_append.1 hf with hOld | hNew
    · exact hj.sides f hOld
    · rw [List.mem_singleton.1 hNew]
      refine ⟨rfl, ?_, rfl, rfl⟩
      simp [FieldMapping.isStored, FieldMapping.hasColumns, FieldMapping.isManyToMany, hOwn]

/-- A junction that has the first sides of a list has those of the list with the side entered. -/
theorem holds_of_addSide {j j' c : ClassMapping} {side : String} {columns : List String}
    {sides : List Side} (hj : j.Holds sides) (h : b.addSide j side c columns = .ok j') :
    j'.Holds (sides ++ [⟨side, c⟩]) := by
  rcases addSide_eq_ok h with ⟨hSome, rfl⟩ | ⟨hNone, own, -, rfl⟩
  -- the side is there already, and the junction stays as it is
  · refine ⟨hj.distinct, fun name => ?_⟩
    rw [hj.first, List.find?_append, List.find?_singleton]
    by_cases hName : Text.lower side = Text.lower name
    · -- an earlier side has this name, and the search ends there
      have hSame : j'.field? side = j'.field? name := by
        simp only [ClassMapping.field?, FieldMapping.isNamed, hName]
      -- it is among the sides, for the junction has fields for nothing else
      have hFound : (sides.find? (·.isNamed name)).isSome = true := by
        rw [← Option.isSome_map (f := (·.cls.name)), ← hj.first, Option.isSome_map, ← hSame]
        exact hSome
      rw [Option.or_of_isSome hFound]
    · rw [if_neg (by simpa [Side.isNamed] using hName), Option.or_none]
  · -- the new side has a name that no other side has, so it is the first of this name
    refine ⟨?_, fun name => ?_⟩
    -- the names of the sides stay different
    · rw [List.map_append, List.map_singleton, ← List.concat_eq_append]
      refine hj.distinct.concat fun hMem => ?_
      obtain ⟨f, hf, hName⟩ := List.mem_map.1 hMem
      have hOther := List.find?_eq_none.1 hNone f hf
      exact hOther (by simpa [FieldMapping.isNamed] using hName)
    -- under its own name it is found, and under any other name nothing has changed
    · have hFirst := hj.first name
      unfold ClassMapping.field? at hFirst ⊢
      rw [List.find?_append, List.find?_append, Option.map_or, Option.map_or, hFirst,
        List.find?_singleton, List.find?_singleton]
      by_cases hName : Text.lower side = Text.lower name
      · rw [if_pos (by simpa [FieldMapping.isNamed] using hName),
          if_pos (by simpa [Side.isNamed] using hName)]
        rfl
      · rw [if_neg (by simpa [FieldMapping.isNamed] using hName),
          if_neg (by simpa [Side.isNamed] using hName)]
        rfl

/-! ## The queue -/

/-- A junction is found in the queue, or it enters the queue at its end without sides. -/
theorem queued_eq_ok {js js' : List ClassMapping} {table : String} {g : Option String}
    {j : ClassMapping} (h : (queued js table g).outcome = .ok (j, js')) :
    (js.find? (·.name == table) = some j ∧ js' = js) ∨
      (js.find? (·.name == table) = none ∧
        j = { name := table, table := some table, keyGenerator := g } ∧ js' = js ++ [j]) := by
  unfold queued at h
  split at h
  -- it is there, and the queue stays
  · next hFind =>
    cases h
    exact Or.inl ⟨hFind, rfl⟩
  -- it is not there, and no name is looked up for it
  · next hNone =>
    split at h
    · cases h
    · cases outcome_debug_bind.symm.trans h
      exact Or.inr ⟨hNone, rfl, rfl⟩

/-- A many-to-many field enters two sides into one junction of the queue. -/
theorem addRelation_eq_ok {js js' : List ClassMapping} {c : ClassMapping} {table : String}
    {f : FieldMapping} (h : (b.addRelation js c table f).outcome = .ok js') :
    ∃ r related j j₁ j₂ js₁, b.document.class? f.type = some r ∧ r.mappedTable = some related ∧
      (queued js (f.manyTable.getD "") c.keyGenerator).outcome = .ok (j, js₁) ∧
      b.addSide j table c f.manyKey = .ok j₁ ∧
      b.addSide j₁ (if r.name = c.name then f.name else related) r f.columns = .ok j₂ ∧
      js' = js₁.map fun k => if k.name == j₂.name then j₂ else k := by
  unfold addRelation at h
  split at h
  · cases h
  -- the other class is known
  · next r hClass =>
    split at h
    · cases h
    -- and has a table of its own
    · next related hMapped =>
      -- the junction, its own side, and the opposite one
      obtain ⟨⟨j, js₁⟩, hQueued, h⟩ := Traced.outcome_bind_eq_ok_iff.1 h
      obtain ⟨j₁, hSide, h⟩ := Traced.outcome_bind_eq_ok_iff.1 h
      obtain ⟨j₂, hOpposite, h⟩ := Traced.outcome_bind_eq_ok_iff.1 h
      cases h
      exact ⟨r, related, j, j₁, j₂, js₁, hClass, hMapped, hQueued, hSide, hOpposite, rfl⟩

/-- Only the junction that the field names changes. It is taken from the queue, or it is new there
and has no sides yet. -/
theorem entered_of_addRelation {js js' : List ClassMapping} {c : ClassMapping}
    {table junction : String} {f : FieldMapping} (hJunction : f.manyTable = some junction)
    (h : (b.addRelation js c table f).outcome = .ok js') :
    ∃ r related j j₁ j₂, b.document.class? f.type = some r ∧ r.mappedTable = some related ∧
      (j ∈ js ∨ junction ∉ js.map (·.name) ∧
        j = { name := junction, table := some junction, keyGenerator := c.keyGenerator }) ∧
      j.name = junction ∧
      b.addSide j table c f.manyKey = .ok j₁ ∧
      b.addSide j₁ (if r.name = c.name then f.name else related) r f.columns = .ok j₂ ∧
      js'.map (·.name) = (if junction ∈ js.map (·.name) then js.map (·.name)
        else js.map (·.name) ++ [junction]) ∧
      ∀ k ∈ js', k = j₂ ∨ k ∈ js ∧ k.name ≠ junction := by
  obtain ⟨r, related, j, j₁, j₂, js₁, hClass, hRelated, hQueued, hSide, hOpposite, rfl⟩ :=
    addRelation_eq_ok h
  rw [hJunction, Option.getD_some] at hQueued
  have hQueue := queued_eq_ok hQueued
  -- whether it was there or not, the junction is the one that the field names
  have hName : j.name = junction := by
    rcases hQueue with ⟨hFind, -⟩ | ⟨-, rfl, -⟩
    · simpa using List.find?_some hFind
    · rfl
  have hName₂ : j₂.name = junction :=
    (name_of_addSide hOpposite).trans ((name_of_addSide hSide).trans hName)
  -- replacing a junction by one of its name leaves the names as they are
  have hKept : (js₁.map fun k => if k.name == j₂.name then j₂ else k).map (·.name) =
      js₁.map (·.name) := by
    rw [List.map_map]
    refine List.map_congr_left fun k _ => ?_
    simp only [Function.comp_apply, beq_iff_eq]
    split
    · next hSame => exact hSame.symm
    · rfl
  -- the junctions of other names are not touched
  have hMem : ∀ k ∈ js₁.map (fun k => if k.name == j₂.name then j₂ else k),
      k = j₂ ∨ k ∈ js₁ ∧ k.name ≠ junction := by
    intro k hk
    obtain ⟨k', hk', rfl⟩ := List.mem_map.1 hk
    split
    · exact Or.inl rfl
    · next hOther => exact Or.inr ⟨hk', by simpa [hName₂] using hOther⟩
  refine ⟨r, related, j, j₁, j₂, hClass, hRelated, ?_, hName, hSide, hOpposite, ?_, ?_⟩
  -- it was in the queue, or it has just been made
  · rcases hQueue with ⟨hFind, -⟩ | ⟨hNone, hEmpty, -⟩
    · exact Or.inl (List.mem_of_find?_eq_some hFind)
    · exact Or.inr ⟨by simpa using hNone, hEmpty⟩
  · -- only a junction that was queued just now adds a name
    rw [hKept]
    rcases hQueue with ⟨hFind, rfl⟩ | ⟨hNone, -, rfl⟩
    · rw [if_pos (List.mem_map.2 ⟨j, List.mem_of_find?_eq_some hFind, hName⟩)]
    · rw [if_neg (by simpa using hNone), List.map_append, List.map_singleton, hName]
  · intro k hk
    rcases hMem k hk with hNew | ⟨hOld, hOther⟩
    · exact Or.inl hNew
    · refine Or.inr ⟨?_, hOther⟩
      rcases hQueue with ⟨-, rfl⟩ | ⟨-, -, rfl⟩
      · exact hOld
      · -- the new junction has the name that is excluded
        rcases List.mem_append.1 hOld with hOld | hLast
        · exact hOld
        · exact absurd (List.mem_singleton.1 hLast ▸ hName) hOther

/-- The junctions `js` are what the associations made of the empty queue, one after the other. -/
inductive Queues (b : Blueprint) : List Association → List ClassMapping → Prop
  | nil : Queues b [] []
  | snoc {as : List Association} {js js' : List ClassMapping} {c : ClassMapping} {f : FieldMapping}
      {table junction : String} (h : Queues b as js) (hMapped : c.mappedTable = some table)
      (hJunction : f.manyTable = some junction)
      (hAdd : (b.addRelation js c table f).outcome = .ok js') : Queues b (as ++ [⟨c, f⟩]) js'

section Building

variable {built : List Table} {relation : Relation} {c : ClassMapping} {g : Option KeyGenerator}
  {t t' : Table} {as : List Association} {js js' : List ClassMapping}

/-- A field leaves the name of the table as it is. -/
theorem name_of_addField {f : FieldMapping}
    (h : (b.addField built relation c g t f).outcome = .ok t') : t'.name = t.name := by
  obtain ⟨ft, u, -, hAdd, ⟨-, rfl⟩ | ⟨r, k, -, -, rfl⟩⟩ := addField_eq_ok_iff.1 h
  · exact (addColumns_eq_ok hAdd).1.name_eq
  · exact (addColumns_eq_ok hAdd).1.name_eq

/-- The fields of a class queue its associations, in their order. -/
theorem Queues.of_addFields {fs : List FieldMapping} (hQueues : b.Queues as js)
    (hMapped : c.mappedTable = some t.name)
    (h : (b.addFields built relation c g t js fs).outcome = .ok (t', js')) :
    b.Queues (as ++ (fs.filter (·.isManyToMany)).map fun f => ⟨c, f⟩) js' := by
  -- on the fields, with the table and the queue that the first one leaves
  induction fs generalizing t js as with
  | nil =>
    cases h
    rw [List.filter_nil, List.map_nil, List.append_nil]
    exact hQueues
  | cons f rest ih =>
    rw [List.filter_cons]
    rcases addFields_cons_eq_ok_iff.1 h with
      ⟨hMany, queue, hRelation, hRest⟩ | ⟨hStored, u, hField, hRest⟩ | ⟨hNotMany, -, hRest⟩
    -- a many-to-many field is one more association
    · obtain ⟨junction, hJunction⟩ := Option.isSome_iff_exists.1 hMany
      rw [if_pos hMany, List.map_cons, ← List.singleton_append, ← List.append_assoc]
      exact ih (.snoc hQueues hMapped hJunction hRelation) hMapped hRest
    -- a stored field queues nothing
    · have hNotMany : f.isManyToMany = false := by
        simp only [FieldMapping.isStored, Bool.and_eq_true, Bool.not_eq_true'] at hStored
        exact hStored.2
      rw [hNotMany, if_neg Bool.false_ne_true]
      exact ih hQueues (name_of_addField hField ▸ hMapped) hRest
    -- and neither does a field without columns
    · rw [hNotMany, if_neg Bool.false_ne_true]
      exact ih hQueues hMapped hRest

/-- Building the table of a class queues its associations in order. -/
theorem Queues.of_table {name : String} (hQueues : b.Queues as js)
    (hMapped : c.mappedTable = some name)
    (h : (b.table built relation c name js).outcome = .ok (t, js')) :
    b.Queues (as ++ c.associations) js' := by
  rcases table_eq_ok_iff.1 h with ⟨hEmpty, -, rfl⟩ | ⟨-, g, u, w, -, hAdded, -, -⟩
  · rw [ClassMapping.associations, hEmpty, List.filter_nil, List.map_nil, List.append_nil]
    exact hQueues
  · exact hQueues.of_addFields hMapped hAdded

end Building

/-! ## What the queue holds -/

section Queue

variable {as : List Association} {js js' : List ClassMapping}

/-- Junctions, once entered, are sides only. -/
theorem Queues.isJunction (h : b.Queues as js) : ∀ j ∈ js, j.IsJunction := by
  induction h with
  | nil =>
    intro j hj
    cases hj
  | @snoc as js js' c f table junction _ _ hJunction hAdd ih =>
    obtain ⟨r, related, j, j₁, j₂, -, -, hFrom, -, hSide, hOpposite, -, hMem⟩ :=
      entered_of_addRelation hJunction hAdd
    -- a junction is entered without sides, and a side is all that an association adds
    have hFound : j.IsJunction := by
      rcases hFrom with hOld | ⟨-, rfl⟩
      · exact ih j hOld
      · exact ⟨rfl, rfl, rfl, fun f hf => absurd hf List.not_mem_nil⟩
    -- the others are junctions as they were
    intro k hk
    rcases hMem k hk with rfl | ⟨hOld, -⟩
    · exact isJunction_of_addSide (isJunction_of_addSide hFound hSide) hOpposite
    · exact ih k hOld

/-- Both classes of a queued association have tables. -/
theorem Queues.exists_related (h : b.Queues as js) {a : Association} (ha : a ∈ as) :
    ∃ r related, b.document.class? a.field.type = some r ∧ r.mappedTable = some related := by
  induction h with
  | nil => cases ha
  | snoc _ _ _ hAdd ih =>
    rcases List.mem_append.1 ha with hOld | hNew
    · exact ih hOld
    · obtain ⟨r, related, -, -, -, -, hClass, hRelated, -⟩ := addRelation_eq_ok hAdd
      rw [List.mem_singleton.1 hNew]
      exact ⟨r, related, hClass, hRelated⟩

/-- A last element counts as a new one only if it is not there before. -/
theorem eraseDups_concat (l : List String) (s : String) :
    (l ++ [s]).eraseDups = if s ∈ l then l.eraseDups else l.eraseDups ++ [s] := by
  rw [List.eraseDups_append]
  split
  · next hMem => simp [List.removeAll, hMem]
  · next hNew => simp [List.removeAll, hNew, List.eraseDups_cons]

/-- The queue has one junction for each name, in the order in which the names first occur. -/
theorem Queues.names_eq (h : b.Queues as js) :
    js.map (·.name) = (as.filterMap (·.field.manyTable)).eraseDups := by
  induction h with
  | nil => rfl
  | @snoc as js js' c f table junction _ _ hJunction hAdd ih =>
    obtain ⟨r, related, j, j₁, j₂, -, -, -, -, -, -, hNames, -⟩ :=
      entered_of_addRelation hJunction hAdd
    -- the new association adds its name, unless this is there already
    have hLast : (as ++ [(⟨c, f⟩ : Association)]).filterMap (·.field.manyTable) =
        as.filterMap (·.field.manyTable) ++ [junction] := by
      rw [List.filterMap_append]
      simp [hJunction]
    rw [hNames, hLast, eraseDups_concat, ih]
    simp only [List.mem_eraseDups]

/-- A junction that no association names has no sides. -/
theorem sidesOf_eq_nil {d : Document} {junction : String}
    (h : junction ∉ as.filterMap (·.field.manyTable)) : d.sidesOf as junction = [] := by
  rw [Document.sidesOf, List.flatMap_eq_nil_iff]
  intro a ha
  obtain ⟨hMem, hSame⟩ := List.mem_filter.1 ha
  exact absurd (List.mem_filterMap.2 ⟨a, hMem, by simpa using hSame⟩) h

/-- Under each name a junction of the queue has the first side that was entered. -/
theorem Queues.holds (h : b.Queues as js) :
    ∀ j ∈ js, j.Holds (b.document.sidesOf as j.name) := by
  -- on the associations in the order in which they were queued
  induction h with
  | nil =>
    intro j hj
    cases hj
  | @snoc as js js' c f table junction hQueues hMapped hJunction hAdd ih =>
    obtain ⟨r, related, j, j₁, j₂, hClass, hRelated, hFrom, hName, hSide, hOpposite, -, hMem⟩ :=
      entered_of_addRelation hJunction hAdd
    -- the junction as it was found has the sides of the associations before
    have hFound : j.Holds (b.document.sidesOf as junction) := by
      rcases hFrom with hOld | ⟨hNew, rfl⟩
      · exact hName ▸ ih j hOld
      · rw [hQueues.names_eq, List.mem_eraseDups] at hNew
        rw [sidesOf_eq_nil hNew]
        exact ⟨List.nodup_nil, fun name => rfl⟩
    -- the association itself contributes the two sides that are entered
    have hSides : b.document.sidesOf [⟨c, f⟩] junction =
        [⟨table, c⟩, ⟨if r.name = c.name then f.name else related, r⟩] := by
      rw [Document.sidesOf, List.filter_cons_of_pos (by simp [hJunction])]
      simp [Association.sides, hMapped, hClass, hRelated]
    intro k hk
    rw [Document.sidesOf_append]
    rcases hMem k hk with rfl | ⟨hOld, hOther⟩
    · -- the junction of the association has both of its sides entered
      rw [name_of_addSide hOpposite, name_of_addSide hSide, hName, hSides, List.append_cons]
      exact holds_of_addSide (holds_of_addSide hFound hSide) hOpposite
    -- any other junction has no part in it
    · have hNone : b.document.sidesOf [⟨c, f⟩] k.name = [] := by
        refine sidesOf_eq_nil ?_
        simpa [hJunction] using hOther
      rw [hNone, List.append_nil]
      exact ih k hOld

end Queue

end Blueprint

end MappingDdl
