import MappingDdl.Proofs.Agreement
import MappingDdl.Proofs.Chains

/-!
# Failures — what an error of a build says about its document

A build stops at its first error. `FailsOnly` says that every error of a computation has a property;
it is shown step by step, and a later step may use what the steps before it gave. The property of
interest is `SchemaError.Explained`: where an error is not a plain fault of the mapping, the
document has what leads to it.

Main results:

* `TypeCatalog.get?_eq_error_iff` — a type expression is refused exactly for its parameters.
* `Blueprint.inherit_failsOnly` — a merge fails for a circle only where its walk comes to it.
* `Schema.explained_of_error` — every error of a build is explained by the document.
-/

namespace MappingDdl

/-! ## Errors of a computation -/

/-- The error of a computation that fails. -/
def error? {ε α : Type} : Except ε α → Option ε
  | .error e => some e
  | .ok _ => none

/-- A computation has an error exactly if it fails with it. -/
theorem error?_eq_some_iff {ε α : Type} {x : Except ε α} {e : ε} :
    error? x = some e ↔ x = .error e := by
  cases x <;> simp [error?]

/-- Every error of the computation has the property. -/
def FailsOnly {ε α : Type} (P : ε → Prop) (x : Except ε α) : Prop :=
  ∀ e, x = .error e → P e

namespace FailsOnly

variable {ε ε' α β : Type} {P : ε → Prop}

/-- What succeeds has no fault at all. -/
theorem ok (a : α) : FailsOnly P (.ok a : Except ε α) := by
  intro e h
  cases h

/-- A fault of its own has to have the property. -/
theorem error {e : ε} (h : P e) : FailsOnly P (.error e : Except ε α) := by
  intro e' h'
  cases h'
  exact h

/-- A second step is asked only where the first one succeeds. -/
theorem bind {x : Except ε α} {f : α → Except ε β} (hx : FailsOnly P x)
    (hf : ∀ a, x = .ok a → FailsOnly P (f a)) : FailsOnly P (x >>= f) := by
  cases x with
  | error e => exact error (hx e rfl)
  | ok a => exact hf a rfl

/-- The same with a log. -/
theorem bind_traced {x : Traced ε α} {f : α → Traced ε β} (hx : FailsOnly P x.outcome)
    (hf : ∀ a, x.outcome = .ok a → FailsOnly P (f a).outcome) : FailsOnly P (x >>= f).outcome := by
  rw [Traced.outcome_bind]
  exact bind hx hf

/-- Faults that are reworded have the property in their new words. -/
theorem mapError {f : ε' → ε} {x : Except ε' α} (h : FailsOnly (fun e => P (f e)) x) :
    FailsOnly P (x.mapError f) := by
  cases x with
  | error e => exact error (h e rfl)
  | ok a => exact ok a

/-- A list is gone through up to the first fault. -/
theorem concatMap {f : α → Except ε (List β)} {l : List α} (h : ∀ a ∈ l, FailsOnly P (f a)) :
    FailsOnly P (Document.concatMap f l) := by
  induction l with
  | nil => exact ok []
  | cons a rest ih =>
    rw [Document.concatMap]
    refine bind (h a List.mem_cons_self) fun _ _ => ?_
    refine bind (ih fun a' ha' => h a' (List.mem_cons_of_mem _ ha')) fun _ _ => ?_
    exact ok _

end FailsOnly

/-! ## Type expressions that cannot be read -/

namespace TypeExpression

/-- The text splits into a base name and a group of parameters, but one of the parameters is no
number. -/
def IsUnreadable (s : String) : Prop :=
  ∃ base group, read s.toList = some (base, some group) ∧
    ∃ item ∈ items group, Text.Integer.ofText? item = none

/-- Parameters cannot be read exactly if one of them is no number. -/
theorem readParams_eq_error_iff {texts : List String} {f : Fault} :
    readParams texts = .error f ↔
      f = .malformed ∧ ∃ item ∈ texts, Text.Integer.ofText? item = none := by
  induction texts with
  | nil => simp [readParams]
  | cons text rest ih =>
    rw [readParams, List.exists_mem_cons_iff]
    cases hText : Text.Integer.ofText? text with
    -- the first parameter is no number
    | none => simp [eq_comm]
    -- it is one, so that another one has to fail
    | some n =>
      simp only [reduceCtorEq, false_or, ← ih]
      cases readParams rest <;> simp [Except.map]

/-- Of a type expression only the parameters can be unreadable. -/
theorem ofText_eq_error_iff {s : String} {f : Fault} :
    ofText s = .error f ↔ f = .malformed ∧ IsUnreadable s := by
  unfold ofText IsUnreadable
  cases hRead : read s.toList with
  | none => simp
  | some p =>
    obtain ⟨base, group⟩ := p
    -- the base name cannot fail
    have hParams : (readParams (items (group.getD []))).map
          (fun params => some ⟨Text.lower (String.ofList base), params⟩) =
        (.error f : Except Fault (Option TypeExpression)) ↔
          readParams (items (group.getD [])) = .error f := by
      cases readParams (items (group.getD [])) <;> simp [Except.map]
    simp only [hParams, readParams_eq_error_iff]
    cases group with
    | none =>
      -- without a group there are no parameters
      have hNone : items [] = [] := rfl
      simp [hNone]
    | some group => simp

end TypeExpression

/-- A catalog fails only for texts that cannot be read. -/
theorem TypeCatalog.get?_eq_error_iff {catalog : TypeCatalog} {s : String} {f : Fault} :
    catalog.get? s = .error f ↔ f = .malformed ∧ TypeExpression.IsUnreadable s := by
  rw [← TypeExpression.ofText_eq_error_iff, get?]
  cases TypeExpression.ofText s <;> simp [Except.map]

/-! ## Explained errors -/

/-- The field asks for a text as a type. -/
inductive FieldMapping.Names (f : FieldMapping) (s : String) : Prop
  | sqlType (hGiven : given f.sqlType = some s)
  | type (hType : f.type = s)

/-- A field of the document asks for a text as a type. -/
def Document.Names (d : Document) (s : String) : Prop :=
  ∃ c ∈ d.classes, ∃ f ∈ c.fields, f.Names s

/-- The refusal of a class without a name. -/
def ValidationError.blankClass : ValidationError :=
  ⟨"ClassMapping", [⟨[.name "name"], .textTooShort⟩]⟩

/-- Where an error is more than a plain fault of the mapping, the document has what leads to it. -/
def SchemaError.Explained (d : Document) (catalog : TypeCatalog) : SchemaError → Prop
  | .mapping (.circularExtends _ _) => ∃ c ∈ d.classes, (d.lineage c).ReachesCircle
  | .invalidJunction e =>
    e = .blankClass ∧ ∃ a ∈ d.associations, a.field.manyTable = some ""
  | .unreadableType f => ∃ s, d.Names s ∧ catalog.get? s = .error f
  | _ => True

/-- The types that a field asks for are asked for by fields of the document, apart from the names of
classes. -/
structure Document.Asks (d : Document) (f : FieldMapping) : Prop where
  sqlType : ∀ s, given f.sqlType = some s → d.Names s
  type    : d.class? f.type = none → d.Names f.type

/-- A field of a class of the document asks for types that the document names. -/
theorem Document.asks_of_mem {d : Document} {c : ClassMapping} (hc : c ∈ d.classes)
    {f : FieldMapping} (hf : f ∈ c.fields) : d.Asks f where
  sqlType _ hGiven := ⟨c, hc, f, hf, .sqlType hGiven⟩
  type _ := ⟨c, hc, f, hf, .type rfl⟩

/-! ## Identity -/

/-- The error is of another kind than a circle of extending. -/
def MappingError.OtherThanCircle (e : MappingError) : Prop :=
  ∀ through cls, e ≠ .circularExtends through cls

namespace Document

variable {d : Document}

/-- The walk over identity types finds only types that fields of the document ask for. -/
theorem names_of_identityTypesFrom {unmet : List ClassMapping} {path : List String}
    {c : ClassMapping} {names : List String} (hc : c ∈ d.classes)
    (h : d.identityTypesFrom unmet path c = .ok names) : ∀ s ∈ names, d.Names s := by
  -- the names of the parent, or of each identity field: an SQL type, a class further on, or a type
  cases identityTypesFrom_eq_ok_iff.1 h with
  -- no identity at all
  | none =>
    intro s hs
    cases hs
  -- the identity of the parent
  | parent _ hParent hNames =>
    obtain ⟨hMet, hFound⟩ := visit_eq_ok_iff.1 hNames
    exact names_of_identityTypesFrom (Extends.mem_classes hParent) hFound
  | @own namess _ hFields =>
    -- a name is one of those of an identity field
    intro s hs
    obtain ⟨names, hMem, hName⟩ := List.mem_flatten.1 hs
    obtain ⟨f, hf, hField⟩ : ∃ f ∈ c.identityFields,
        d.FieldNames (fun r names => d.visit unmet path r = .ok names) f names :=
      exists_of_mem_forall₂ hFields.flip hMem
    have hAsks : d.Asks f := asks_of_mem hc (ClassMapping.mem_identityFields_iff.1 hf).1
    cases hField with
    | sqlType hGiven =>
      obtain ⟨-, -, rfl⟩ := List.mem_map.1 hName
      exact hAsks.sqlType _ hGiven
    | reference _ hClass hNames =>
      obtain ⟨hMet, hFound⟩ := visit_eq_ok_iff.1 hNames
      exact names_of_identityTypesFrom (List.mem_of_find?_eq_some hClass) hFound s hName
    | declared _ hClass =>
      obtain ⟨-, -, rfl⟩ := List.mem_map.1 hName
      exact hAsks.type hClass
termination_by unmet.length
decreasing_by all_goals exact length_without_lt hMet

/-- A parent can be unknown, and this is no circle. -/
theorem parent_failsOnly (d : Document) (c : ClassMapping) :
    FailsOnly MappingError.OtherThanCircle (d.parent c) := by
  unfold parent
  split
  · exact .ok none
  · split
    · exact .error (by simp [MappingError.OtherThanCircle])
    · exact .ok _

/-- The walk over identity types does not look for circles of extending. -/
theorem identityTypesFrom_failsOnly (unmet : List ClassMapping) (path : List String)
    (c : ClassMapping) :
    FailsOnly MappingError.OtherThanCircle (d.identityTypesFrom unmet path c) := by
  -- on the way the walk can only come back to a class
  have hVisit (r : ClassMapping) :
      FailsOnly MappingError.OtherThanCircle (d.visit unmet path r) := by
    unfold visit
    split
    · next hMet => exact identityTypesFrom_failsOnly _ _ r
    · exact .error (by simp [MappingError.OtherThanCircle])
  rw [identityTypesFrom_eq]
  -- without an identity the parent is visited
  split
  · split
    · next e hParent => exact .error (parent_failsOnly d c e hParent)
    · exact .ok []
    · exact hVisit _
  -- otherwise each class that an identity field refers to
  · refine .concatMap fun f _ => ?_
    unfold fieldNames
    split
    · exact .ok _
    · split
      · exact hVisit _
      · exact .ok _
termination_by unmet.length
decreasing_by exact length_without_lt ‹_›

end Document

/-- The search for identity columns fails for a circle only where it reaches it. -/
theorem Lineage.reachesCircle_of_identityColumns {l : Lineage} {origin through cls : String}
    (h : l.identityColumns origin = .error (.circularExtends through cls)) : l.ReachesCircle := by
  induction l with
  | root => cases h
  | unknownParent c parent =>
    rw [identityColumns] at h
    -- what fails here is the name of the parent
    split at h <;> cases h
  | cycle c parent => exact reachesCircle_cycle c parent
  | step c rest ih =>
    rw [identityColumns] at h
    split at h
    -- only a class without identity columns asks the one above it
    · next hNone => exact reachesCircle_step_iff.2 ⟨List.isEmpty_iff.1 hNone, ih h⟩
    · cases h

namespace Blueprint

variable {b : Blueprint}

/-- The error is explained by the document of the blueprint. -/
def Explains (b : Blueprint) (e : SchemaError) : Prop :=
  e.Explained b.document b.catalog

/-- The identity types fail for a fault that is explained. -/
theorem identityTypes_failsOnly (b : Blueprint) (c : ClassMapping) :
    FailsOnly b.Explains ((b.document.identityTypes c).mapError .mapping) := by
  refine .mapError fun e h => ?_
  have hOther := Document.identityTypesFrom_failsOnly _ _ c e h
  cases e with
  | circularExtends through cls => exact absurd rfl (hOther through cls)
  | unknownParent => trivial
  | circularIdentity => trivial
  | unknownClass => trivial

/-- So do the identity columns: a circle is one that the class reaches. -/
theorem identityColumns_failsOnly {c : ClassMapping} (hc : c ∈ b.document.classes) :
    FailsOnly b.Explains ((b.document.identityColumns c).mapError .mapping) := by
  refine .mapError fun e h => ?_
  cases e with
  | circularExtends => exact ⟨c, hc, Lineage.reachesCircle_of_identityColumns h⟩
  | unknownParent => trivial
  | circularIdentity => trivial
  | unknownClass => trivial

/-! ## Types of columns -/

/-- A column type fails for a text that the document names. -/
theorem columnType?_failsOnly {s : String} (hs : b.document.Names s) :
    FailsOnly b.Explains (b.columnType? s) :=
  .mapError fun _ h => ⟨s, hs, h⟩

/-- So do the types of an identity, -/
theorem identityColumnTypes_failsOnly {c : ClassMapping} {f : FieldMapping} {r : ClassMapping}
    {names : List String} (hNames : ∀ s ∈ names, b.document.Names s) :
    FailsOnly b.Explains (b.identityColumnTypes c f r names) := by
  induction names with
  | nil => exact .ok []
  | cons name rest ih =>
    rw [identityColumnTypes]
    -- the name is looked up as a type, and the rest after it
    refine .bind (columnType?_failsOnly (hNames name List.mem_cons_self)) fun o _ => ?_
    cases o with
    | none => exact .error trivial
    | some t =>
      refine .bind (ih fun s hs => hNames s (List.mem_cons_of_mem _ hs)) fun _ _ => ?_
      exact .ok _

/-- those of a reference, -/
theorem referenceTypes_failsOnly {c r : ClassMapping} {f : FieldMapping}
    (hr : r ∈ b.document.classes) : FailsOnly b.Explains (b.referenceTypes c f r) := by
  unfold referenceTypes
  refine .bind (identityTypes_failsOnly b r) fun names hFound => ?_
  have hNames := Document.names_of_identityTypesFrom hr (mapError_eq_ok_iff.1 hFound)
  split
  · exact .error trivial
  · exact identityColumnTypes_failsOnly hNames

/-- the types that a field declares, -/
theorem declaredTypes_failsOnly {c : ClassMapping} {f : FieldMapping} (hf : b.document.Asks f) :
    FailsOnly b.Explains (b.declaredTypes c f) := by
  unfold declaredTypes
  split
  -- a class, whose identity is read
  · next r hClass =>
    exact .bind (referenceTypes_failsOnly (List.mem_of_find?_eq_some hClass)) fun _ _ => .ok _
  -- a type, which may be unknown
  · next hClass =>
    refine .bind (columnType?_failsOnly (hf.type hClass)) fun o _ => ?_
    cases o with
    | none => exact .error trivial
    | some t => exact .ok _

/-- and the types of a field. -/
theorem fieldTypes_failsOnly {c : ClassMapping} {f : FieldMapping} (hf : b.document.Asks f) :
    FailsOnly b.Explains (b.fieldTypes c f).outcome := by
  unfold fieldTypes
  split
  -- no SQL type is given
  · exact declaredTypes_failsOnly hf
  · next s hGiven =>
    refine .bind_traced (columnType?_failsOnly (hf.sqlType s hGiven)) fun o _ => ?_
    cases o with
    -- the SQL type is no column type, so the type decides
    | none =>
      rw [outcome_debug_bind]
      exact declaredTypes_failsOnly hf
    | some t => exact .ok _

/-- To compare types one by one fails as reading them does. -/
theorem sameTypes_failsOnly {names names' : List String}
    (hNames : ∀ s ∈ names, b.document.Names s) (hNames' : ∀ s ∈ names', b.document.Names s) :
    FailsOnly b.Explains (b.sameTypes names names') := by
  induction names generalizing names' with
  | nil => exact .ok true
  | cons name rest ih =>
    cases names' with
    | nil => exact .ok true
    | cons name' rest' =>
      rw [sameTypes]
      refine .bind ?_ fun same _ => ?_
      -- two names are compared when both are types
      · unfold sameType
        refine .bind (columnType?_failsOnly (hNames name List.mem_cons_self)) fun _ _ => ?_
        refine .bind (columnType?_failsOnly (hNames' name' List.mem_cons_self)) fun _ _ => ?_
        split <;> exact .ok _
      -- the rest is only compared if these are the same
      · split
        · exact ih (fun s hs => hNames s (List.mem_cons_of_mem _ hs))
            fun s hs => hNames' s (List.mem_cons_of_mem _ hs)
        · exact .ok false

/-- Two identities are compared by types of classes of the document. -/
theorem checkIdentity_failsOnly {c p : ClassMapping} (hc : c ∈ b.document.classes)
    (hp : p ∈ b.document.classes) : FailsOnly b.Explains (b.checkIdentity c p) := by
  unfold checkIdentity
  refine .bind (identityTypes_failsOnly b c) fun own hOwn => ?_
  refine .bind (identityTypes_failsOnly b p) fun inherited hInherited => ?_
  -- both identities were found, so their names are of the document
  have hNames := Document.names_of_identityTypesFrom hc (mapError_eq_ok_iff.1 hOwn)
  have hNames' := Document.names_of_identityTypesFrom hp (mapError_eq_ok_iff.1 hInherited)
  extract_lets finish
  have hFinish (agree : Bool) : FailsOnly b.Explains (finish agree) := by
    dsimp only [finish]
    split
    · exact .ok ()
    · exact .error trivial
  split
  · exact .bind (sameTypes_failsOnly hNames hNames') fun agree _ => hFinish agree
  · exact hFinish false

/-! ## Fields -/

section Fields

variable {built : List Table} {relation : Relation} {c : ClassMapping} {g : Option KeyGenerator}

/-- A column that is there twice is a fault of the mapping. -/
theorem addColumns_failsOnly {t : Table} {f : FieldMapping} {identity : Bool}
    {ps : List (String × ColumnType)} :
    FailsOnly b.Explains ((addColumns t f identity g ps).mapError .conflict) :=
  .mapError fun _ _ => trivial

/-- A foreign key fails for the table that it refers to, or for its columns. -/
theorem foreignKey_failsOnly {t : Table} {f : FieldMapping} {r : ClassMapping}
    (hr : r ∈ b.document.classes) :
    FailsOnly b.Explains (b.foreignKey built t c f r relation) := by
  unfold foreignKey
  -- first the other table
  refine .bind ?_ fun u _ => ?_
  · unfold referenceTable
    split
    · exact .error trivial
    · split
      · exact .ok t
      · split
        · exact .ok _
        · exact .error trivial
  -- then its columns: each is there, and there are as many
  · extract_lets check
    have hCheck (columns : List String) : FailsOnly b.Explains (check columns) := by
      dsimp only [check]
      split
      · exact .error trivial
      · split
        · exact .error trivial
        · exact .ok _
    split
    -- they are those of the identity, or named by the field
    · exact .bind (identityColumns_failsOnly hr) fun columns _ => hCheck columns
    · exact hCheck f.manyKey

/-- A field fails for its types, its columns or its foreign key. -/
theorem addField_failsOnly {t : Table} {f : FieldMapping} (hf : b.document.Asks f) :
    FailsOnly b.Explains (b.addField built relation c g t f).outcome := by
  unfold addField
  refine .bind_traced (fieldTypes_failsOnly hf) fun ft hTypes => ?_
  -- the types are known, and the columns go into the table
  obtain ⟨types, referenced⟩ := ft
  refine .bind_traced addColumns_failsOnly fun u _ => ?_
  cases referenced with
  | none => exact .ok u
  -- a class that is referred to has its foreign key made
  | some r =>
    have hClass := (fieldTypes_eq_ok_iff.1 hTypes).class?_eq_some
    refine .bind_traced (foreignKey_failsOnly (List.mem_of_find?_eq_some hClass)) fun _ _ => ?_
    exact .ok _

/-! ## Many-to-many relations -/

/-- A side of a junction fails for the identity that it refers to. -/
theorem addSide_failsOnly {j s : ClassMapping} {side : String} {columns : List String}
    (hs : s ∈ b.document.classes) : FailsOnly b.Explains (b.addSide j side s columns) := by
  unfold addSide
  split
  -- the side is there already
  · exact .ok j
  · extract_lets enter
    split
    -- without columns it takes those of the identity
    · refine .bind ?_ fun columns _ => .ok _
      unfold sideColumns
      refine .bind (identityColumns_failsOnly hs) fun identity _ => ?_
      split
      · exact .error trivial
      · exact .ok _
      · exact .ok _
    -- with columns it cannot fail
    · exact .ok _

/-- A relation fails for its classes, its sides, or a junction without a name. -/
theorem addRelation_failsOnly {js : List ClassMapping} {table : String} {f : FieldMapping}
    (ha : (⟨c, f⟩ : Association) ∈ b.document.associations) :
    FailsOnly b.Explains (b.addRelation js c table f).outcome := by
  obtain ⟨hc, -, -, hMany⟩ := Document.mem_associations_iff.1 ha
  unfold addRelation
  split
  -- the other class is not known
  · exact .error trivial
  · next r hClass =>
    split
    -- it has no table
    · exact .error trivial
    · refine .bind_traced ?_ fun queue _ => ?_
      · unfold queued
        split
        · exact .ok _
        · split
          · next hBlank =>
            -- the junction that the field names has no name
            obtain ⟨junction, hJunction⟩ := Option.isSome_iff_exists.1 hMany
            rw [hJunction, Option.getD_some] at hBlank
            exact .error ⟨rfl, _, ha, hBlank ▸ hJunction⟩
          · rw [outcome_debug_bind]
            exact .ok _
      -- both sides are entered
      · refine .bind_traced (addSide_failsOnly hc) fun j _ => ?_
        refine .bind_traced (addSide_failsOnly (List.mem_of_find?_eq_some hClass)) fun j' _ => ?_
        exact .ok _

/-- The fields of a class fail one after the other. -/
theorem addFields_failsOnly {t : Table} {js : List ClassMapping} {fs : List FieldMapping}
    (hAsks : ∀ f ∈ fs, b.document.Asks f)
    (hMany : ∀ f ∈ fs, f.isManyToMany = true →
      (⟨c, f⟩ : Association) ∈ b.document.associations) :
    FailsOnly b.Explains (b.addFields built relation c g t js fs).outcome := by
  induction fs generalizing t js with
  | nil => exact .ok _
  | cons f rest ih =>
    -- whatever the first field leaves, the others go on with
    have hRest (u : Table) (queue : List ClassMapping) :
        FailsOnly b.Explains (b.addFields built relation c g u queue rest).outcome :=
      ih (fun f' hf' => hAsks f' (List.mem_cons_of_mem _ hf'))
        fun f' hf' => hMany f' (List.mem_cons_of_mem _ hf')
    rw [addFields]
    split
    -- a many-to-many field
    · next hHere =>
      have hRelation := hMany f List.mem_cons_self hHere
      exact .bind_traced (addRelation_failsOnly hRelation) fun queue _ => hRest t queue
    · split
      -- a stored one
      · exact .bind_traced (addField_failsOnly (hAsks f List.mem_cons_self)) fun u _ => hRest u js
      -- one without columns
      · exact hRest t js

/-! ## Inherited identity -/

/-- So do those that are inherited. -/
theorem inheritFields_failsOnly {p : ClassMapping} {t : Table} {fs : List FieldMapping}
    (hAsks : ∀ f ∈ fs, b.document.Asks f) :
    FailsOnly b.Explains (b.inheritFields c p g t fs).outcome := by
  induction fs generalizing t with
  | nil => exact .ok t
  | cons f rest ih =>
    have hRest (u : Table) : FailsOnly b.Explains (b.inheritFields c p g u rest).outcome :=
      ih fun f' hf' => hAsks f' (List.mem_cons_of_mem _ hf')
    rw [inheritFields]
    split
    -- declared again, so that nothing is read for it
    · rw [outcome_debug_bind]
      exact hRest _
    -- added, with types and columns
    · refine .bind_traced (fieldTypes_failsOnly (hAsks f List.mem_cons_self)) fun ft _ => ?_
      refine .bind_traced addColumns_failsOnly fun u _ => ?_
      rw [outcome_debug_bind]
      exact hRest u

/-- A merge fails for a circle only where it reaches it. -/
theorem inherit_failsOnly {t : Table} {l : Lineage} (hl : ∀ c ∈ l.toList, c ∈ b.document.classes)
    (hCircle : l.ReachesCircle → ∃ c ∈ b.document.classes, (b.document.lineage c).ReachesCircle) :
    FailsOnly b.Explains (b.inherit t l).outcome := by
  -- on the lineage; from a class without identity columns the merge goes on towards the circle
  induction l generalizing t with
  -- a root gives nothing more
  | root => exact .ok t
  | unknownParent => exact .error trivial
  | cycle c parent => exact .error (hCircle (Lineage.reachesCircle_cycle c parent))
  | step c rest ih =>
    have hc : c ∈ b.document.classes := hl c List.mem_cons_self
    have hAbove : ∀ c' ∈ rest.toList, c' ∈ b.document.classes :=
      fun c' hc' => hl c' (List.mem_cons_of_mem _ hc')
    have hp : rest.head ∈ b.document.classes := hAbove _ rest.head_mem_toList
    rw [inherit]
    split
    -- the fields of the parent come in
    · next hNone =>
      have hReach (h : rest.ReachesCircle) : (Lineage.step c rest).ReachesCircle :=
        Lineage.reachesCircle_step_iff.2 ⟨List.isEmpty_iff.1 hNone, h⟩
      refine .bind_traced (inheritFields_failsOnly fun f hf => ?_) fun u _ => ?_
      · exact Document.asks_of_mem hp (ClassMapping.mem_identityFields_iff.1 hf).1
      · exact ih hAbove fun h => hCircle (hReach h)
    -- an identity of its own is compared with that of the parent
    · exact .bind_traced (checkIdentity_failsOnly hc hp) fun _ _ => .ok t

end Fields

/-! ## Tables -/

section Tables

variable {built : List Table} {relation : Relation} {c : ClassMapping} {name : String}
  {js : List ClassMapping}

/-- An index fails for a column that is not there. -/
theorem addIndexes_failsOnly {t : Table} {is : List IndexDef} :
    FailsOnly b.Explains (addIndexes t is) := by
  induction is generalizing t with
  | nil => exact .ok t
  | cons i rest ih =>
    rw [addIndexes]
    split
    · exact .error trivial
    · exact ih

/-- A table fails in one of its stages. -/
theorem table_failsOnly (hAsks : ∀ f ∈ c.fields, b.document.Asks f)
    (hMany : ∀ f ∈ c.fields, f.isManyToMany = true →
      (⟨c, f⟩ : Association) ∈ b.document.associations)
    (hInherit : ∀ t, FailsOnly b.Explains (b.inherit t (b.document.lineage c)).outcome) :
    FailsOnly b.Explains (b.table built relation c name js).outcome := by
  rw [table, Traced.outcome_inContext]
  dsimp only
  split
  -- a class without fields
  · rw [outcome_debug_bind]
    exact .ok _
  · refine .bind_traced ?_ fun g _ => ?_
    -- an unknown key generator is no failure
    · unfold keyGenerator
      split
      · exact .ok none
      · split
        · exact .ok _
        · exact .bind_traced (.ok ()) fun _ _ => .ok none
    -- fields, merge and indexes, one after the other
    · refine .bind_traced (addFields_failsOnly hAsks hMany) fun p _ => ?_
      refine .bind_traced (hInherit _) fun u _ => ?_
      refine .bind_traced addIndexes_failsOnly fun t _ => ?_
      rw [outcome_debug_bind]
      exact .ok _

/-- The table of a class fails for faults that its document explains. -/
theorem table_failsOnly_of_class (hc : c ∈ b.document.classes)
    (hMapped : c.mappedTable.isSome = true) :
    FailsOnly b.Explains (b.table built relation c name js).outcome := by
  refine table_failsOnly (fun f hf => Document.asks_of_mem hc hf) (fun f hf hMany => ?_) fun t => ?_
  · exact Document.mem_associations_iff.2 ⟨hc, hMapped, hf, hMany⟩
  · have hAbove : (b.document.lineage c).toList ⊆ b.document.classes :=
      Document.toList_lineageFrom_subset hc
    exact inherit_failsOnly (fun _ hMem => hAbove hMem) fun h => ⟨c, hc, h⟩

/-- A junction extends nothing, and its sides are classes of the document. -/
theorem table_failsOnly_of_junction (hSound : b.document.structureProblems = [])
    {j : ClassMapping} (hj : j.IsJunction) (hHolds : j.Holds (b.document.sides j.name)) :
    FailsOnly b.Explains (b.table built relation j name js).outcome := by
  refine table_failsOnly (fun f hf => ⟨fun q hGiven => ?_, fun hNone => ?_⟩)
    (fun f hf hMany => ?_) fun t => ?_
  -- a side has no SQL type, and its type is a class, so that it asks for no names
  · rw [(hj.sides f hf).sqlType] at hGiven
    cases hGiven
  · obtain ⟨s, hFirst, hType⟩ := hHolds.exists_side hf
    have hMem := Document.cls_mem_of_mem_sides (List.mem_of_find?_eq_some hFirst)
    rw [hType, Document.class?_eq_some hSound hMem] at hNone
    cases hNone
  -- a side is stored, so it is no relation itself
  · have hStored := (hj.sides f hf).isStored
    rw [FieldMapping.isStored, hMany, Bool.not_true, Bool.and_false] at hStored
    cases hStored
  -- a junction extends nothing
  · have hRoot : b.document.lineage j = .root j := Document.lineage_root (hj.parent ▸ given_none)
    rw [hRoot]
    exact .ok t

/-- A name that two tables have is a fault of the mapping. -/
theorem addTable_failsOnly {s : Schema} {t : Table} :
    FailsOnly b.Explains (addTable s t).outcome :=
  .mapError fun _ _ => trivial

/-- The classes of a document fail one after the other, -/
theorem addClasses_failsOnly {s : Schema} {cs : List ClassMapping}
    (hcs : cs ⊆ b.document.classes) : FailsOnly b.Explains (b.addClasses s js cs).outcome := by
  induction cs generalizing s js with
  | nil => exact .ok _
  | cons c rest ih =>
    obtain ⟨hc, hRest⟩ := List.cons_subset.1 hcs
    rw [addClasses]
    split
    -- a class without a table is skipped
    · rw [outcome_debug_bind]
      exact ih hRest
    · next name hMapped =>
      -- any other one has its table made and entered
      have hSome : c.mappedTable.isSome = true := by rw [hMapped, Option.isSome_some]
      refine .bind_traced (table_failsOnly_of_class hc hSome) fun p _ => ?_
      exact .bind_traced addTable_failsOnly fun _ _ => ih hRest

/-- and so do its junctions. -/
theorem addJunctions_failsOnly {s : Schema} (hSound : b.document.structureProblems = [])
    (hjs : ∀ j ∈ js, j.IsJunction) (hHolds : ∀ j ∈ js, j.Holds (b.document.sides j.name)) :
    FailsOnly b.Explains (b.addJunctions s js).outcome := by
  induction js generalizing s with
  | nil => exact .ok s
  | cons j rest ih =>
    -- a junction is made with the tables that are there
    have hTable : FailsOnly b.Explains (b.table s.tables .manyToMany j j.name []).outcome :=
      table_failsOnly_of_junction hSound (hjs j List.mem_cons_self) (hHolds j List.mem_cons_self)
    rw [addJunctions, outcome_debug_bind]
    refine .bind_traced hTable fun p _ => .bind_traced addTable_failsOnly fun _ _ => ?_
    exact ih (fun k hk => hjs k (List.mem_cons_of_mem _ hk))
      fun k hk => hHolds k (List.mem_cons_of_mem _ hk)

end Tables

end Blueprint

/-! ## Schemas -/

section Schema

variable {registry : KeyGeneratorRegistry} {settings : Settings} {catalog : TypeCatalog}
  {d : Document} {s : Schema}

/-- Every error of a build is explained by the document. -/
theorem Schema.explained_of_error {e : SchemaError}
    (h : (Schema.ofDocument registry settings catalog d).outcome = .error e) :
    e.Explained d catalog := by
  let b := d.blueprint registry catalog
  suffices hBuild : FailsOnly b.Explains
      (Schema.ofDocument registry settings catalog d).outcome from hBuild e h
  unfold Schema.ofDocument
  split
  · next hSound =>
    -- the key generators are registered, and then the classes are built
    refine .bind_traced (.mapError fun _ _ => trivial) fun _ _ => ?_
    refine .bind_traced (Blueprint.addClasses_failsOnly (List.Subset.refl _)) fun p hClasses => ?_
    -- the junctions that the classes queued have sides of the document
    have hQueues : b.Queues d.associations p.2 :=
      (Blueprint.builds_of_addClasses .nil .nil hClasses).2
    -- the junctions follow, and the schema is there
    refine .bind_traced ?_ fun _ _ => .bind_traced (.ok ()) fun _ _ => .ok _
    exact Blueprint.addJunctions_failsOnly hSound hQueues.isJunction hQueues.holds
  -- a document with structure problems is not built
  · exact .error trivial

end Schema

end MappingDdl
