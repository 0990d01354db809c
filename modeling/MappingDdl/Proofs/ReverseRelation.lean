import MappingDdl.Proofs.FurtherField
import MappingDdl.Proofs.Junction

/-!
# Reverse relations — a junction that both classes declare

A many-to-many field of a class queues a junction with two sides, its own and that of the class that
it is related to. If this class comes later and declares the relation from its end, both sides are
there under their names, whatever these are, and the junction stays as it is. The field of this
declaration takes no column, so it does not show in the table of its class either. Only a class
without any fields shows the difference: its table leaves out what a class extends, its key
generator and its indexes.

Main results:

* `Blueprint.addRelation_of_isMet` — a relation that is declared from the other end leaves the
  queue as it is.
* `Schema.ofDocument_reverse` — a document with such a declaration has the same schema.
-/

namespace MappingDdl

/-- The field `g` declares the many-to-many relation of the field `f`, which is one of the class
`a`, from the other end. It names no columns. -/
structure FieldMapping.Reverses (g f : FieldMapping) (a : ClassMapping) : Prop where
  type      : g.type = a.name
  manyTable : g.manyTable = f.manyTable
  identity  : g.identity = false
  columns   : g.columns = []
  manyKey   : g.manyKey = []

/-- In a document the field `g` of the class `r` enters an association into its junction once more,
from the other end. -/
structure Association.IsMet (x : Association) (d : Document) (r : ClassMapping)
    (g : FieldMapping) : Prop where
  declaring : x.cls.mappedTable.isSome = true
  related   : d.class? x.field.type = some r
  other     : x.cls.name ≠ r.name
  back      : d.class? g.type = some x.cls
  junction  : x.field.isManyToMany = true
  same      : g.manyTable = x.field.manyTable

/-- The class has nothing that its table would leave out if it had no fields. -/
structure ClassMapping.LeavesNothingOut (c : ClassMapping) : Prop where
  parent       : given c.parent = none
  keyGenerator : given c.keyGenerator = none
  indexes      : c.indexes = []

namespace Blueprint

variable {b : Blueprint} {as : List Association} {js : List ClassMapping} {x : Association}
  {c r : ClassMapping} {g : FieldMapping} {related junction : String}

/-! ## The queue -/

/-- No two junctions of the queue have the same name. -/
theorem Queues.nodup_names (h : b.Queues as js) : (js.map (·.name)).Nodup := by
  induction h with
  | nil => exact List.nodup_nil
  | snoc _ _ hJunction hAdd ih =>
    obtain ⟨-, -, -, -, -, -, -, -, -, -, -, hNames, -⟩ := entered_of_addRelation hJunction hAdd
    rw [hNames]
    split
    · exact ih
    · next hNew =>
      rw [← List.concat_eq_append]
      exact ih.concat hNew

/-- The junction of an association is in the queue, with a field under the name of each of its two
sides. -/
theorem Queues.exists_junction (h : b.Queues as js) (hx : x ∈ as)
    (hJunction : x.field.manyTable = some junction) :
    ∃ j, js.find? (·.name == junction) = some j ∧ j ∈ js ∧ j.name = junction ∧
      ∀ side ∈ x.sides b.document, (j.field? side.name).isSome = true := by
  have hMem : junction ∈ js.map (·.name) := by
    rw [h.names_eq, List.mem_eraseDups]
    exact List.mem_filterMap.2 ⟨x, hx, hJunction⟩
  obtain ⟨j, hj, rfl⟩ := List.mem_map.1 hMem
  refine ⟨j, find?_of_nodup_map h.nodup_names hj, hj, rfl, fun side hSide => ?_⟩
  have hEntered : side ∈ b.document.sidesOf as j.name :=
    List.mem_flatMap.2 ⟨x, List.mem_filter.2 ⟨hx, by simp [hJunction]⟩, hSide⟩
  -- the side itself has the name, so some side is the first with it
  rw [← Option.isSome_map (f := (·.type)), (h.holds j hj).first, Option.isSome_map]
  exact List.find?_isSome.2 ⟨side, hEntered, by simp [Side.isNamed]⟩

/-- A side that a junction has already is not added to it again. -/
theorem addSide_of_isSome {j : ClassMapping} {side : String} (h : (j.field? side).isSome = true)
    (c : ClassMapping) (columns : List String) : b.addSide j side c columns = .ok j := by
  rw [addSide, if_pos h]
  rfl

/-- A relation that is declared from the other end leaves the queue as it is. -/
theorem addRelation_of_isMet (h : b.Queues as js) (hx : x ∈ as) (hMet : x.IsMet b.document r g)
    (hRelated : r.mappedTable = some related) :
    (b.addRelation js r related g).outcome = .ok js := by
  -- the first declaration has queued a junction, which has both sides
  obtain ⟨table, hDeclaring⟩ := Option.isSome_iff_exists.1 hMet.declaring
  obtain ⟨junction, hJunction⟩ := Option.isSome_iff_exists.1 hMet.junction
  obtain ⟨j, hFind, hj, rfl, hSides⟩ := h.exists_junction hx hJunction
  have hEntered : x.sides b.document = [⟨table, x.cls⟩, ⟨related, r⟩] := by
    simp [Association.sides, hDeclaring, hMet.related, hRelated, hMet.other.symm]
  rw [hEntered] at hSides
  have hOwn := hSides _ (List.mem_cons_of_mem _ List.mem_cons_self)
  have hOpposite := hSides _ List.mem_cons_self
  -- it is found under its name
  have hQueued : queued js j.name r.keyGenerator = pure (j, js) := by
    rw [queued, hFind]
  -- the junction takes the place of itself
  have hKept : js.map (fun k => if k.name == j.name then j else k) = js := by
    refine (List.map_congr_left fun k hk => ?_).trans (List.map_id' js)
    split
    · next hName => exact List.inj_on_of_nodup_map h.nodup_names hj hk (eq_of_beq hName).symm
    · rfl
  -- what is left is to go through the second declaration step by step
  unfold addRelation
  simp only [hMet.back, hDeclaring, hMet.same, hJunction, Option.getD_some, hQueued,
    if_neg hMet.other]
  refine Traced.outcome_bind_eq_ok_iff.2 ⟨(j, js), rfl, ?_⟩
  refine Traced.outcome_bind_eq_ok_iff.2 ⟨j, addSide_of_isSome hOwn r g.manyKey, ?_⟩
  refine Traced.outcome_bind_eq_ok_iff.2 ⟨j, addSide_of_isSome hOpposite x.cls g.columns, ?_⟩
  rw [hKept]
  rfl

/-- So does its field, and it leaves the table of its class as it is. -/
theorem addFields_of_isMet {φ : ClassMapping → ClassMapping} (hφ : Revision φ)
    (h : b.Queues as js) (hx : x ∈ as) (hMet : x.IsMet b.document r g) {t : Table}
    (hRelated : r.mappedTable = some t.name) (built : List Table) (relation : Relation)
    (gen : Option KeyGenerator) :
    ((b.revise φ).addFields built relation (φ r) gen t js [g]).outcome = .ok (t, js) := by
  have hMany : g.isManyToMany = true := by
    rw [FieldMapping.isManyToMany, hMet.same]
    exact hMet.junction
  refine addFields_cons_eq_ok_iff.2 (Or.inl ⟨hMany, js, ?_, rfl⟩)
  rw [addRelation_revise hφ]
  exact addRelation_of_isMet h hx hMet hRelated

end Blueprint

/-- A class that has nothing to leave out has the table of a class without fields, if its only field
leaves this as it is. -/
theorem Blueprint.table_of_leavesNothingOut {b : Blueprint} {built : List Table}
    {relation : Relation} {c : ClassMapping} {g : FieldMapping} {name : String}
    {js : List ClassMapping} (hBare : c.LeavesNothingOut) (hFields : c.fields = [g])
    (hField : (b.addFields built relation c none ({ name } : Table).withPrimaryKey js [g]).outcome =
      .ok (({ name } : Table).withPrimaryKey, js)) :
    (b.table built relation c name js).outcome = .ok (({ name } : Table).withPrimaryKey, js) := by
  have hSome : c.fields ≠ [] := hFields ▸ List.cons_ne_nil g []
  refine table_eq_ok_iff.2 (Or.inr ⟨hSome, none, ({ name } : Table).withPrimaryKey,
    ({ name } : Table).withPrimaryKey, ?_, hFields ▸ hField, ?_, ?_⟩)
  -- a class without a generator has no key generator
  · rw [outcome_keyGenerator, KeyGeneratorRegistry.get?, hBare.keyGenerator]
    rfl
  -- a class without a parent inherits nothing
  · rw [Document.lineage_root hBare.parent]
    rfl
  -- and there are no indexes to add
  · rw [hBare.indexes]
    rfl

/-! ## The schema -/

/-- Of two that stand in a list in this order, the first stands in what is in front of the second.
-/
theorem exists_split_of_sublist {α : Type} {l : List α} {a b : α} (h : [a, b].Sublist l) :
    ∃ first last, l = first ++ b :: last ∧ a ∈ first := by
  obtain ⟨before, after, rfl, ha, hb⟩ := List.cons_sublist_iff.1 h
  obtain ⟨middle, last, rfl⟩ := List.append_of_mem (List.singleton_sublist.1 hb)
  exact ⟨before ++ middle, last, by simp, List.mem_append_left _ ha⟩

section Schema

variable {registry : KeyGeneratorRegistry} {settings : Settings} {catalog : TypeCatalog}
  {d : Document} {s : Schema} {a b : ClassMapping} {f g : FieldMapping}
  {first last : List ClassMapping}

/-- In a sound document a field that reverses one of a class further up enters its association once
more. -/
theorem FieldMapping.Reverses.isMet (hg : g.Reverses f a) (hSound : d.structureProblems = [])
    (hSplit : d.classes = first ++ b :: last) (hFirst : a ∈ first)
    (hA : a.mappedTable.isSome = true) (hMany : f.isManyToMany = true) (hType : f.type = b.name) :
    (⟨a, f⟩ : Association).IsMet d b g where
  declaring := hA
  -- the field goes to the class itself
  related := by
    rw [hType]
    exact Document.class?_eq_some hSound (hSplit ▸ List.mem_append_right _ List.mem_cons_self)
  -- names are different in a sound document
  other := by
    have hNodup := (Document.structureProblems_eq_nil_iff.1 hSound).1
    rw [hSplit, List.map_append, List.nodup_append] at hNodup
    exact hNodup.2.2 _ (List.mem_map_of_mem hFirst) _ (List.mem_map_of_mem List.mem_cons_self)
  -- it is of the class that was further up
  back := by
    rw [hg.type]
    exact Document.class?_eq_some hSound (hSplit ▸ List.mem_append_left _ hFirst)
  junction := hMany
  same := hg.manyTable

/-- A field that reverses a relation takes no column. -/
theorem FieldMapping.Reverses.isStored (hg : g.Reverses f a) (hMany : f.isManyToMany = true) :
    g.isStored = false := by
  obtain ⟨junction, hJunction⟩ := Option.isSome_iff_exists.1 hMany
  simp [FieldMapping.isStored, FieldMapping.isManyToMany, hg.manyTable, hJunction]

/-- A reverse relation is no identity and is not stored, so the identity of its class stays. -/
theorem FieldMapping.Reverses.keepsIdentity (hg : g.Reverses f a) (hMany : f.isManyToMany = true) :
    b.KeepsIdentity g :=
  ⟨hg.identity, fun hStored => absurd hStored (hg.isStored hMany ▸ Bool.false_ne_true)⟩

/-- A reverse relation is not stored, so it declares no field of a parent again. -/
theorem FieldMapping.Reverses.declaresAgainAlike (hg : g.Reverses f a)
    (hMany : f.isManyToMany = true) :
    d.DeclaresAgainAlike (b.swap (b.insertField b.fields.length g)) :=
  Document.declaresAgainAlike_swap fun _ _ _ _ _ _ =>
    ClassMapping.redeclared?_insertField_length (hg.isStored hMany)

/-- Where a class has fields, one more that reverses a relation is the last of them, and leaves the
table of the others as it is. -/
theorem Schema.ofDocument_reverse_of_fields
    (h : (Schema.ofDocument registry settings catalog d).outcome = .ok s)
    (hSplit : d.classes = first ++ b :: last)
    {x : Association} (hx : x ∈ (first.filter (·.mappedTable.isSome)).flatMap (·.associations))
    (hMet : x.IsMet d b g) {related : String} (hRelated : b.mappedTable = some related)
    (hKeeps : b.KeepsIdentity g)
    (hAgain : d.DeclaresAgainAlike (b.swap (b.insertField b.fields.length g)))
    (hFields : b.fields ≠ []) :
    (Schema.ofDocument registry settings catalog (d.insertField b b.fields.length g)).outcome =
      .ok s := by
  -- the fields in front have made a table, and have queued what the first declaration queued
  obtain ⟨before, t, after, js, gen, v, queued, hTables, -, hQueues, hTake, hNext⟩ :=
    Schema.exists_ofDocument_insertField hKeeps hAgain hFields h hSplit hRelated
  have hName := (Blueprint.columnNames_of_addFields hTake).1
  -- the new field finds its relation in the queue, and changes neither
  have hField := Blueprint.addFields_of_isMet (hKeeps.revision b.fields.length)
    (hQueues.of_addFields hRelated hTake) (List.mem_append_left _ hx) hMet (t := v)
    (hName ▸ hRelated) before .oneToOne gen
  rw [ClassMapping.swap_self] at hField
  -- so nothing is inserted into the table
  obtain ⟨u, hs', hInserts⟩ := hNext v [] [] hField (.refl v)
    (fun _ _ _ => List.disjoint_nil_right _) (fun _ _ _ _ _ _ => List.disjoint_nil_right _)
  rw [hs', hInserts.eq_of_nil, ← hTables]

/-- Where a class has no fields, one that reverses a relation is its only one. It leaves the empty
table as it is, and there is nothing else that this table had left out. -/
theorem Schema.ofDocument_reverse_of_leavesNothingOut
    (h : (Schema.ofDocument registry settings catalog d).outcome = .ok s)
    (hSplit : d.classes = first ++ b :: last)
    {x : Association} (hx : x ∈ (first.filter (·.mappedTable.isSome)).flatMap (·.associations))
    (hMet : x.IsMet d b g) {related : String} (hRelated : b.mappedTable = some related)
    (hKeeps : b.KeepsIdentity g)
    (hAgain : d.DeclaresAgainAlike (b.swap (b.insertField b.fields.length g)))
    (hNone : b.fields = []) (hBare : b.LeavesNothingOut) :
    (Schema.ofDocument registry settings catalog (d.insertField b b.fields.length g)).outcome =
      .ok s := by
  have hφ := hKeeps.revision b.fields.length
  obtain ⟨before, t, after, js, js', hTables, hQueues, hOld, hNext⟩ :=
    -- a class without fields takes none of the other steps
    Schema.exists_ofDocument_revise hφ hAgain (fun x hx => ClassMapping.swap_of_ne hx) h hSplit
      hRelated
  obtain ⟨-, rfl, rfl⟩ := (Blueprint.table_eq_ok_iff.1 hOld).resolve_right
    fun hSome => hSome.1 hNone
  -- with the field it takes all of them, and none does anything
  have hField := Blueprint.addFields_of_isMet hφ hQueues hx hMet
    (t := ({ name := related } : Table).withPrimaryKey) hRelated before .oneToOne none
  rw [ClassMapping.swap_self] at hField
  have hOnly : (b.insertField b.fields.length g).fields = [g] := by
    rw [ClassMapping.insertField, hNone]
    rfl
  have hSchema := hNext _ (List.Subset.refl _) (by
    rw [ClassMapping.swap_self]
    exact Blueprint.table_of_leavesNothingOut
      ⟨hBare.parent, hBare.keyGenerator, hBare.indexes⟩ hOnly hField)
  rw [← hTables] at hSchema
  exact hSchema

/-- **A reverse relation changes nothing.** Let a class of a document that has a schema declare a
many-to-many relation to a class that stands behind it, both mapped. If the latter declares the
relation as well, at the end of its fields, the document has the same schema. It must have other
fields, or nothing that the table of a class without fields leaves out. -/
theorem Schema.ofDocument_reverse
    (h : (Schema.ofDocument registry settings catalog d).outcome = .ok s)
    (hOrder : [a, b].Sublist d.classes) (hA : a.mappedTable.isSome = true)
    (hB : b.mappedTable.isSome = true) (hf : f ∈ a.fields) (hMany : f.isManyToMany = true)
    (hType : f.type = b.name) (hg : g.Reverses f a)
    (hFields : b.fields ≠ [] ∨ b.LeavesNothingOut) :
    (Schema.ofDocument registry settings catalog (d.insertField b b.fields.length g)).outcome =
      .ok s := by
  have hSound := (Schema.ofDocument_eq_ok_iff.1 h).1
  obtain ⟨related, hRelated⟩ := Option.isSome_iff_exists.1 hB
  -- the first declaration has been entered when the second one comes
  obtain ⟨first, last, hSplit, hFirst⟩ := exists_split_of_sublist hOrder
  have hEntered : (⟨a, f⟩ : Association) ∈
      (first.filter (·.mappedTable.isSome)).flatMap (·.associations) :=
    List.mem_flatMap.2 ⟨a, List.mem_filter.2 ⟨hFirst, hA⟩,
      List.mem_map.2 ⟨f, List.mem_filter.2 ⟨hf, hMany⟩, rfl⟩⟩
  have hMet := hg.isMet hSound hSplit hFirst hA hMany hType
  by_cases hNone : b.fields = []
  · exact ofDocument_reverse_of_leavesNothingOut h hSplit hEntered hMet hRelated
      (hg.keepsIdentity hMany) (hg.declaresAgainAlike hMany) hNone
      (hFields.resolve_left (not_not.2 hNone))
  · exact ofDocument_reverse_of_fields h hSplit hEntered hMet hRelated (hg.keepsIdentity hMany)
      (hg.declaresAgainAlike hMany) hNone

end Schema

/-- Posts declare their relation to tags once more. -/
def FieldMapping.labels : FieldMapping :=
  { name := "labels", type := "Tag", manyTable := some "post_tag" }

/-- Tags have posts. So posts can have tags, a third time. -/
theorem Schema.labels_of_linked :
    ∃ s, Schema.ofLinked.outcome = .ok s ∧
      (Schema.ofDocument (.initial .generic) {} (Dialect.generic.catalog {})
        (Document.linked.insertField Document.linked.classes[2] 3 .labels)).outcome = .ok s := by
  obtain ⟨s, -, -, hs, -⟩ := Schema.exists_ofLinked
  have hOrder : [Document.linked.classes[1], Document.linked.classes[2]].Sublist
      Document.linked.classes := .cons _ (.refl _)
  have hPosts : Document.linked.classes[1].fields[1] ∈ Document.linked.classes[1].fields :=
    List.getElem_mem _
  exact ⟨s, hs, Schema.ofDocument_reverse hs hOrder rfl rfl hPosts rfl rfl
    ⟨rfl, rfl, rfl, rfl, rfl⟩ (Or.inl (List.cons_ne_nil _ _))⟩

/-! ## A class without fields -/

/-- Items have parts, which extend them and declare nothing. The names of the two tables differ by
case only, so the junction has one side. -/
def Document.dismantled : Document where
  classes :=
    [{ name := "Item"
       table := some "item"
       fields :=
         [{ name := "id", type := "integer", identity := true, columns := ["id"] },
          { name := "parts", type := "Part", manyTable := some "item_part" }] },
     { name := "Part", table := some "ITEM", parent := some "Item" }]

/-- Parts declare their relation to items. -/
def FieldMapping.wholes : FieldMapping :=
  { name := "wholes", type := "Item", manyTable := some "item_part" }

/-- Parts have no fields, so their table leaves out the identity of items. With a field that
declares their relation to items it has this identity. -/
theorem Schema.wholes_change_dismantled :
    ∃ s s', (Schema.ofDocument (.initial .generic) {} (Dialect.generic.catalog {})
        .dismantled).outcome = .ok s ∧
      [Document.dismantled.classes[0], Document.dismantled.classes[1]].Sublist
        Document.dismantled.classes ∧
      Document.dismantled.classes[0].mappedTable.isSome = true ∧
      Document.dismantled.classes[1].mappedTable.isSome = true ∧
      Document.dismantled.classes[0].fields[1].isManyToMany = true ∧
      Document.dismantled.classes[0].fields[1].type = Document.dismantled.classes[1].name ∧
      FieldMapping.wholes.Reverses Document.dismantled.classes[0].fields[1]
        Document.dismantled.classes[0] ∧
      (Schema.ofDocument (.initial .generic) {} (Dialect.generic.catalog {})
        (Document.dismantled.insertField Document.dismantled.classes[1]
          Document.dismantled.classes[1].fields.length .wholes)).outcome = .ok s' ∧
      (s.table? "ITEM").map (·.columnNames) = some [] ∧
      (s'.table? "ITEM").map (·.columnNames) = some ["id"] := by
  let view (s : Schema) := (s.table? "ITEM").map (·.columnNames)
  obtain ⟨s, hs, hOld⟩ : ∃ s, (Schema.ofDocument (.initial .generic) {}
      (Dialect.generic.catalog {}) .dismantled).outcome = .ok s ∧ view s = some [] := by
    refine exists_ok_of_toOption_map ?_
    decide +kernel
  obtain ⟨s', hs', hNew⟩ : ∃ s', (Schema.ofDocument (.initial .generic) {}
      (Dialect.generic.catalog {})
      (Document.dismantled.insertField Document.dismantled.classes[1]
        Document.dismantled.classes[1].fields.length .wholes)).outcome = .ok s' ∧
      view s' = some ["id"] := by
    refine exists_ok_of_toOption_map ?_
    decide +kernel
  exact ⟨s, s', hs, .refl _, rfl, rfl, rfl, rfl, ⟨rfl, rfl, rfl, rfl, rfl⟩, hs', hOld, hNew⟩

end MappingDdl
