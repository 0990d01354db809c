import MappingDdl.Proofs.Failures

/-!
# Kinds of errors — what a build can fail for

A mapping that has no schema has a fault: a type cannot be found, or its structure is wrong. Two
errors are of another kind. A junction table has to have a name, and a type expression has to have
numbers as its parameters; both are asked for by functions that refuse them in their own way. What
leads to either of the two stands in the document, and it stops every build that comes to it.

Main results:

* `Schema.error_kinds` — an error is a fault of the mapping, or one of the two others with its
  cause.
-/

namespace MappingDdl

/-- The error is a fault of the mapping: a type that cannot be found, or its structure. -/
def SchemaErrorKind.IsMappingFault : SchemaErrorKind → Prop
  | .type _ _ _ | .structure _ => True
  | .validation _ | .conversion _ => False

namespace Blueprint

variable {b : Blueprint}

/-- A junction that is queued has a name. -/
theorem ne_blank_of_queued {js : List ClassMapping} {table : String} {g : Option String}
    {p : ClassMapping × List ClassMapping} (hNames : "" ∉ js.map (·.name))
    (h : (queued js table g).outcome = .ok p) : table ≠ "" := by
  rintro rfl
  unfold queued at h
  split at h
  · next j hFind =>
    have hName : j.name = "" := by simpa using List.find?_some hFind
    exact hNames (List.mem_map.2 ⟨j, List.mem_of_find?_eq_some hFind, hName⟩)
  · cases h

/-- No junction of the queue is without a name. -/
theorem Queues.blank_notMem {as : List Association} {js : List ClassMapping} (h : b.Queues as js) :
    "" ∉ js.map (·.name) := by
  induction h with
  | nil => exact List.not_mem_nil
  | @snoc as js js' c f table junction _ _ hJunction hAdd ih =>
    obtain ⟨r, related, j, j₁, j₂, js₁, -, -, hQueued, -, -, -⟩ := addRelation_eq_ok hAdd
    obtain ⟨-, -, -, -, -, -, -, -, -, -, -, hNames, -⟩ := entered_of_addRelation hJunction hAdd
    rw [hJunction] at hQueued
    -- the new junction could be queued, so it has a name
    have hNew : junction ≠ "" := ne_blank_of_queued ih hQueued
    rw [hNames]
    split
    · exact ih
    · rw [List.mem_append, List.mem_singleton]
      exact not_or.2 ⟨ih, hNew.symm⟩

end Blueprint

/-! ## Type expressions that stop a build -/

/-- A text that the types of a field are looked for under: its SQL type, or without one its type,
where that names no class. -/
inductive Document.LooksUp (d : Document) (f : FieldMapping) (q : String) : Prop
  | sqlType (hGiven : given f.sqlType = some q)
  | type (hGiven : given f.sqlType = none) (hClass : d.class? f.type = none) (hType : f.type = q)

namespace Blueprint

variable {b : Blueprint}

/-- A field has no types where a text cannot be read that they are looked for under. -/
theorem HasTypes.not_isUnreadable {f : FieldMapping} {ft : FieldTypes} {q : String}
    (h : b.HasTypes f ft) (hLook : b.document.LooksUp f q) : ¬ TypeExpression.IsUnreadable q := by
  intro hUnreadable
  have hError : b.columnType? q = .error (.unreadableType .malformed) := by
    rw [columnType?, TypeCatalog.get?_eq_error_iff.2 ⟨rfl, hUnreadable⟩]
    rfl
  -- either text is looked up before the field can have any other types
  -- the SQL type itself, which has to be a column type or be passed over
  cases hLook with
  | sqlType hGiven =>
    cases h with
    | sqlType hGiven' hType =>
      cases hGiven.symm.trans hGiven'
      cases hError.symm.trans hType
    | reference hNone => cases hError.symm.trans (hNone q hGiven)
    | declared hNone => cases hError.symm.trans (hNone q hGiven)
  -- the type, where no SQL type is given and no class has the name
  | type hGiven hClass hName =>
    cases h with
    | sqlType hGiven' => cases hGiven.symm.trans hGiven'
    | reference _ hClass' => cases hClass.symm.trans hClass'
    | declared _ _ hType => cases hError.symm.trans (hName ▸ hType)

/-- Every stored field of a class with a table has types. -/
theorem exists_hasTypes_of_table {built : List Table} {relation : Relation} {c : ClassMapping}
    {name : String} {js js' : List ClassMapping} {t : Table}
    (h : (b.table built relation c name js).outcome = .ok (t, js')) {f : FieldMapping}
    (hf : f ∈ c.fields) (hStored : f.isStored = true) : ∃ ft, b.HasTypes f ft := by
  obtain ⟨g, u, w, hContributed, -, -⟩ := contributed_of_table h (List.ne_nil_of_mem hf)
  obtain ⟨cs, hLays, -⟩ := hContributed.lays
  obtain ⟨ft, hTypes, -⟩ := hLays.exists_columns (List.mem_filter.2 ⟨hf, hStored⟩)
  exact ⟨ft, hTypes⟩

end Blueprint

/-! ## Documents with errors of both other kinds -/

/-- A price has a type with a parameter that is no number. -/
def Document.priced : Document where
  classes :=
    [{ name := "Item"
       table := some "item"
       fields :=
         [{ name := "id", type := "integer", identity := true, columns := ["id"] },
          { name := "price", type := "numeric[1 2]", columns := ["price"] }] }]

/-- Its schema in standard SQL, with default settings. -/
def Schema.ofPriced : Building Schema :=
  Schema.ofDocument (.initial .generic) {} (Dialect.generic.catalog {}) .priced

/-- Items are related by a junction without a name. -/
def Document.related : Document where
  classes :=
    [{ name := "Item"
       table := some "item"
       fields :=
         [{ name := "id", type := "integer", identity := true, columns := ["id"] },
          { name := "others", type := "Item", manyTable := some "" }] }]

/-- Their schema in standard SQL, with default settings. -/
def Schema.ofRelated : Building Schema :=
  Schema.ofDocument (.initial .generic) {} (Dialect.generic.catalog {}) .related

/-- The price has parameters that are no numbers. -/
theorem Schema.outcome_ofPriced :
    Schema.ofPriced.outcome = .error (.unreadableType .malformed) :=
  error?_eq_some_iff.1 (by decide +kernel)

/-- The junction of the relation has no name. -/
theorem Schema.outcome_ofRelated :
    Schema.ofRelated.outcome = .error (.invalidJunction .blankClass) :=
  error?_eq_some_iff.1 (by decide +kernel)

/-! ## Schemas -/

section Schema

variable {registry : KeyGeneratorRegistry} {settings : Settings} {catalog : TypeCatalog}
  {d : Document} {s : Schema}

/-- A document with a schema names every junction. -/
theorem Schema.manyTable_ne_blank
    (h : (Schema.ofDocument registry settings catalog d).outcome = .ok s) :
    ∀ a ∈ d.associations, a.field.manyTable ≠ some "" := by
  intro a ha hBlank
  obtain ⟨b, js, rfl, -, hQueues, -⟩ := Schema.exists_queues_of_ofDocument h
  refine hQueues.blank_notMem ?_
  rw [hQueues.names_eq, List.mem_eraseDups]
  exact List.mem_filterMap.2 ⟨a, ha, hBlank⟩

/-- In a document with a schema, the type of every stored field of a mapped class can be read. -/
theorem Schema.not_isUnreadable
    (h : (Schema.ofDocument registry settings catalog d).outcome = .ok s)
    {c : ClassMapping} (hc : c ∈ d.classes) (hMapped : c.mappedTable.isSome = true)
    {f : FieldMapping} (hf : f ∈ c.fields) (hStored : f.isStored = true) {q : String}
    (hLook : d.LooksUp f q) : ¬ TypeExpression.IsUnreadable q := by
  obtain ⟨name, hName⟩ := Option.isSome_iff_exists.1 hMapped
  obtain ⟨b, js, rfl, -, -, hBuilds⟩ := Schema.exists_builds_of_ofDocument h
  obtain ⟨t, built, js₀, js₁, -, hTable⟩ := hBuilds.exists_table_of_class hc hName
  obtain ⟨ft, hTypes⟩ := Blueprint.exists_hasTypes_of_table hTable hf hStored
  exact hTypes.not_isUnreadable hLook

/-- **What a build can fail for.** An error is a fault of the mapping, or an association names a
junction without a name, or a field asks for a type expression with parameters that are no numbers.
The last two keep a document from having a schema, the second one where a stored field of a mapped
class looks for its types under this expression. -/
theorem Schema.error_kinds :
    (∀ e, (Schema.ofDocument registry settings catalog d).outcome = .error e →
      e.kind.IsMappingFault ∨
        (e = .invalidJunction .blankClass ∧ ∃ a ∈ d.associations, a.field.manyTable = some "") ∨
        (e = .unreadableType .malformed ∧ ∃ q, d.Names q ∧ TypeExpression.IsUnreadable q)) ∧
    ((∃ a ∈ d.associations, a.field.manyTable = some "") →
      ∀ s, (Schema.ofDocument registry settings catalog d).outcome ≠ .ok s) ∧
    ((∃ c ∈ d.classes, c.mappedTable.isSome = true ∧ ∃ f ∈ c.fields, f.isStored = true ∧
        ∃ q, d.LooksUp f q ∧ TypeExpression.IsUnreadable q) →
      ∀ s, (Schema.ofDocument registry settings catalog d).outcome ≠ .ok s) := by
  refine ⟨fun e h => ?_, ?_, ?_⟩
  · have hExplained := Schema.explained_of_error h
    cases e with
    -- a junction without a name
    | invalidJunction e =>
      obtain ⟨rfl, hBlank⟩ := hExplained
      exact Or.inr (Or.inl ⟨rfl, hBlank⟩)
    -- a text that is no type expression
    | unreadableType f =>
      obtain ⟨q, hNames, hGet⟩ := hExplained
      obtain ⟨rfl, hUnreadable⟩ := TypeCatalog.get?_eq_error_iff.1 hGet
      exact Or.inr (Or.inr ⟨rfl, q, hNames, hUnreadable⟩)
    -- all other errors are faults of the mapping
    | _ => exact Or.inl trivial
  -- an association without a name for its junction could not have been built
  · rintro ⟨a, ha, hBlank⟩ s h
    exact Schema.manyTable_ne_blank h a ha hBlank
  -- and neither could a field with such a text
  · rintro ⟨c, hc, hMapped, f, hf, hStored, q, hLook, hUnreadable⟩ s h
    exact Schema.not_isUnreadable h hc hMapped hf hStored hLook hUnreadable

/-- The price cannot be read, and the junction of the items has no name. -/
theorem Schema.error_kinds_of_priced :
    (∃ q, Document.priced.Names q ∧ TypeExpression.IsUnreadable q) ∧
      (∀ s, Schema.ofPriced.outcome ≠ .ok s) ∧ ∀ s, Schema.ofRelated.outcome ≠ .ok s := by
  obtain ⟨hKinds, -, hLooked⟩ := @Schema.error_kinds (.initial .generic) {}
    (Dialect.generic.catalog {}) .priced
  obtain ⟨-, hBlank, -⟩ := @Schema.error_kinds (.initial .generic) {}
    (Dialect.generic.catalog {}) .related
  refine ⟨?_, hLooked ?_, hBlank ?_⟩
  -- the price is what this build fails for
  · rcases hKinds _ Schema.outcome_ofPriced with hFault | ⟨hJunction, -⟩ | ⟨-, hUnreadable⟩
    · cases hFault
    · cases hJunction
    · exact hUnreadable
  -- the price is looked up, as no class has this name
  · refine ⟨Document.priced.classes[0], List.getElem_mem _, rfl,
      Document.priced.classes[0].fields[1], List.getElem_mem _, rfl, "numeric[1 2]",
      .type ?_ ?_ rfl, "numeric".toList, "1 2".toList, ?_, "1 2", ?_, ?_⟩
    · decide
    · decide
    · decide
    · decide
    · decide
  · refine ⟨⟨Document.related.classes[0], Document.related.classes[0].fields[1]⟩, ?_, rfl⟩
    exact Document.mem_associations_iff.2
      ⟨List.getElem_mem _, rfl, List.getElem_mem _, rfl⟩

/-- Neither error is a fault of the mapping. -/
theorem Schema.errors_beside_faults :
    (∃ e, Schema.ofPriced.outcome = .error e ∧ e.kind = .conversion .malformed ∧
      ¬ e.kind.IsMappingFault) ∧
    ∃ e, Schema.ofRelated.outcome = .error e ∧ e.kind = .validation .blankClass ∧
      ¬ e.kind.IsMappingFault :=
  ⟨⟨_, Schema.outcome_ofPriced, rfl, id⟩, ⟨_, Schema.outcome_ofRelated, rfl, id⟩⟩

end Schema

end MappingDdl
