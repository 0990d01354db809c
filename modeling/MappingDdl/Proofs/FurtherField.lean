import MappingDdl.Proofs.Revising

/-!
# Further fields — a class with one more field

A class gets one more field behind the first `i`. If this is no identity field, other classes do not
see it, as long as it does not change which identity fields are declared again. In the table of the
class it comes behind what the first `i` fields have made. What it adds there is all that is added,
if the columns of all fields around it have other names.

Main results:

* `ClassMapping.KeepsIdentity.revision` — one more field that is no identity field changes nothing
  that other classes ask of a class.
* `Blueprint.exists_table_insertField` — the table of the class with the field.
* `Schema.exists_ofDocument_insertField` — the schema with the field.
-/

namespace MappingDdl

/-! ## One more field -/

/-- The class with one more field, behind the first `i`. -/
def ClassMapping.insertField (c : ClassMapping) (i : Nat) (f : FieldMapping) : ClassMapping :=
  { c with fields := c.fields.take i ++ f :: c.fields.drop i }

/-- Puts the class `c'` in the place of `c`. -/
def ClassMapping.swap (c c' x : ClassMapping) : ClassMapping :=
  if x = c then c' else x

/-- The document with one more field in one of its classes. -/
def Document.insertField (d : Document) (c : ClassMapping) (i : Nat) (f : FieldMapping) :
    Document :=
  d.revise (c.swap (c.insertField i f))

namespace ClassMapping

variable {c c' x : ClassMapping} {i : Nat} {f g : FieldMapping}

/-- The class itself is exchanged, -/
@[simp] theorem swap_self (c c' : ClassMapping) : c.swap c' c = c' := if_pos rfl

/-- and any other class stays as it is. -/
theorem swap_of_ne (h : x ≠ c) : c.swap c' x = x := if_neg h

/-- The further field is a field of the class. -/
theorem mem_insertField : f ∈ (c.insertField i f).fields :=
  List.mem_append_right _ List.mem_cons_self

/-- A field that is not marked leaves the identity of the other fields as it is. -/
theorem isIdentity_insertField (h : f.identity = false) (i : Nat) (g : FieldMapping) :
    (c.insertField i f).isIdentity g = c.isIdentity g := by
  -- no more and no fewer fields are marked
  have hMarks : (c.insertField i f).marksIdentity = c.marksIdentity := by
    rw [marksIdentity, insertField, List.any_append, List.any_cons, h, Bool.false_or,
      ← List.any_append, List.take_append_drop]
    rfl
  rw [isIdentity, isIdentity, hMarks]
  rfl

/-- A class that gets the field has the identity that it had: the field is not marked as identity,
and if it is stored, the class does not list it either. -/
structure KeepsIdentity (c : ClassMapping) (f : FieldMapping) : Prop where
  unmarked : f.identity = false
  unlisted : f.isStored = true → c.isIdentity f = false

/-- A field that is no identity field of the class that gets it is not marked as one. -/
theorem keepsIdentity_of_isIdentity (h : (c.insertField i f).isIdentity f = false) :
    c.KeepsIdentity f := by
  have hUnmarked : f.identity = false := by
    rw [isIdentity] at h
    split at h
    · exact h
    · next hMarks =>
      -- no field of the class is marked
      rw [marksIdentity, List.any_eq_true] at hMarks
      simpa using fun hMarked => hMarks ⟨f, mem_insertField, hMarked⟩
  exact ⟨hUnmarked, fun _ => (isIdentity_insertField hUnmarked i f).symm.trans h⟩

/-- The identity fields are the same with a field that keeps them. -/
theorem KeepsIdentity.identityFields_insertField (h : c.KeepsIdentity f) (i : Nat) :
    (c.insertField i f).identityFields = c.identityFields := by
  -- whether another field is one of the identity has not changed
  have hSame : (fun g => (c.insertField i f).isIdentity g && g.isStored) =
      fun g => c.isIdentity g && g.isStored := by
    funext g
    rw [isIdentity_insertField h.unmarked]
  -- the further field itself is left out, as it is no identity field
  have hSkip : (f :: c.fields.drop i).filter (fun g => c.isIdentity g && g.isStored) =
      (c.fields.drop i).filter fun g => c.isIdentity g && g.isStored := by
    refine List.filter_cons_of_neg ?_
    cases hStored : f.isStored with
    | true => simp [h.unlisted hStored]
    | false => simp
  rw [identityFields, hSame, insertField, List.filter_append, hSkip, ← List.filter_append,
    List.take_append_drop]
  rfl

/-- Of a class that gets another field other classes do not see this, if it keeps its identity. -/
theorem KeepsIdentity.revision (h : c.KeepsIdentity f) (i : Nat) :
    Revision (c.swap (c.insertField i f)) := by
  -- all that other classes look at stays
  have hKept {α : Type} (p : ClassMapping → α) (hp : p (c.insertField i f) = p c) :
      ∀ x, p (c.swap (c.insertField i f) x) = p x := by
    intro x
    rw [swap]
    split
    · next hEq => rw [hp, hEq]
    · rfl
  exact ⟨hKept _ rfl, hKept _ rfl, hKept _ rfl, hKept _ rfl,
    hKept _ (h.identityFields_insertField i)⟩

end ClassMapping

/-! ## Fields that are declared again -/

namespace ClassMapping

variable {c : ClassMapping} {i : Nat} {f own : FieldMapping} {columns : List String}

/-- A field of another name is declared again as before. -/
theorem redeclared?_insertField (h : f.isNamed own.name = false) :
    (c.insertField i f).redeclared? columns own = c.redeclared? columns own := by
  have hField : (c.insertField i f).field? own.name = c.field? own.name := by
    rw [field?, insertField, List.find?_append, List.find?_cons_of_neg (by simp [h]),
      ← List.find?_append, List.take_append_drop]
    rfl
  rw [redeclared?, redeclared?, hField]

/-- A field at the end that is not stored declares nothing again. -/
theorem redeclared?_insertField_length (h : f.isStored = false) :
    (c.insertField c.fields.length f).redeclared? columns own = c.redeclared? columns own := by
  have hField : (c.insertField c.fields.length f).field? own.name =
      (c.field? own.name).or (if f.isNamed own.name then some f else none) := by
    rw [field?, insertField, List.take_length, List.drop_length, List.find?_append,
      List.find?_singleton]
    rfl
  rw [redeclared?, redeclared?, hField]
  -- a field of this name that was there is found first
  cases hOwn : c.field? own.name with
  | some own' => rw [Option.some_or]
  | none =>
    -- otherwise it is the new one, which has no column to declare
    rw [Option.none_or]
    split
    · simp [h]
    · rfl

end ClassMapping

/-- It is enough to look at the class that is exchanged. -/
theorem Document.declaresAgainAlike_swap {d : Document} {c c' : ClassMapping}
    (h : c.identityFields = [] → ∀ p ∈ d.classes, ∀ f ∈ p.identityFields, ∀ columns,
      c'.redeclared? columns f = c.redeclared? columns f) :
    d.DeclaresAgainAlike (c.swap c') := by
  intro x hNone p hp f hf columns
  by_cases hx : x = c
  · subst hx
    rw [ClassMapping.swap_self]
    exact h hNone p hp f hf columns
  · rw [ClassMapping.swap_of_ne hx]

namespace Blueprint

variable {b : Blueprint} {built : List Table} {relation : Relation} {c : ClassMapping}
  {f : FieldMapping} {fs : List FieldMapping} {g : Option KeyGenerator} {t t' t₀ : Table}
  {name : String} {js js' : List ClassMapping} {i : Nat}

/-! ## Columns -/

/-- The fields done so far make the columns of the stored ones among them. -/
theorem columnNames_of_addFields
    (h : (b.addFields built relation c g
      { ({ name } : Table).withPrimaryKey with keyGenerator := g } js fs).outcome = .ok (t, js')) :
    t.name = name ∧ t.columnNames = (fs.filter (·.isStored)).flatMap (·.columns) ∧
      t.columnNames.Nodup := by
  have hDone := (contributed_nil built relation c g name).of_addFields h
  obtain ⟨cs, hLays, hColumns⟩ := hDone.lays
  refine ⟨hDone.grows.name_eq, ?_, hDone.keyed.nodupNames⟩
  rw [← List.nil_append (fs.filter _), ← hLays.columnNames, Table.columnNames, hColumns]
  rfl

/-- Columns that are no identity columns change nothing but the columns. -/
theorem addColumns_plain {ps : List (String × ColumnType)}
    (h : addColumns t f false g ps = .ok t') :
    t' = { t with columns := t.columns ++ ps.map fun p => ⟨p.1, p.2, false, f.required, g⟩ } := by
  induction ps generalizing t with
  | nil =>
    cases h
    simp
  | cons p rest ih =>
    -- the first column goes to the end, and the others behind it
    obtain ⟨u, hAdd, hRest⟩ := bind_eq_ok_iff.1 h
    obtain ⟨-, rfl⟩ := Table.addColumn_eq_ok_iff.1 hAdd
    rw [ih hRest]
    simp

/-! ## The table with the field -/

/-- The field is added to the table that the first `i` fields have made. What it adds, and nothing
else, is added to the table that all fields make. -/
theorem exists_addFields_insertField (hKeeps : c.KeepsIdentity f)
    (h : (b.addFields built relation c g t₀ js c.fields).outcome = .ok (t, js')) :
    ∃ v queued,
      (b.addFields built relation c g t₀ js (c.fields.take i)).outcome = .ok (v, queued) ∧
      ∀ w cs ks, ((b.revise (c.swap (c.insertField i f))).addFields built relation
          (c.insertField i f) g v queued [f]).outcome = .ok (w, queued) →
        v.Inserts cs ks w →
        (∀ own ∈ c.fields, own.isStored = true → own.columns.Disjoint (cs.map (·.name))) →
        ∃ t', ((b.revise (c.swap (c.insertField i f))).addFields built relation
            (c.insertField i f) g t₀ js (c.insertField i f).fields).outcome = .ok (t', js') ∧
          t.Inserts cs ks t' := by
  have hφ := hKeeps.revision i
  have hSwap := ClassMapping.swap_self c (c.insertField i f)
  have hIs : ∀ own, (c.swap (c.insertField i f) c).isIdentity own = c.isIdentity own :=
    fun own => by rw [hSwap, ClassMapping.isIdentity_insertField hKeeps.unmarked]
  have hSplit := List.take_append_drop i c.fields
  rw [← hSplit] at h
  obtain ⟨v, queued, hTake, hDrop⟩ := addFields_append_eq_ok_iff.1 h
  refine ⟨v, queued, hTake, fun w cs ks hField hInserts hApart => ?_⟩
  -- the fields before are added as they were
  obtain ⟨v', hTake', hSame⟩ := exists_addFields_revise hφ (Table.Covers.refl built) (.refl _)
    (fun own _ => hIs own) (fun _ _ _ => List.disjoint_nil_right _) hTake
  rw [hSwap, hSame.eq_of_nil] at hTake'
  -- and the fields behind are added to a table that has more
  obtain ⟨t', hDrop', hInserts'⟩ := exists_addFields_revise hφ (Table.Covers.refl built) hInserts
    (fun own _ => hIs own) (fun own hOwn => hApart own (List.mem_of_mem_drop hOwn)) hDrop
  rw [hSwap] at hDrop'
  refine ⟨t', addFields_append_eq_ok_iff.2 ⟨v, queued, hTake', ?_⟩, hInserts'⟩
  rw [← List.singleton_append]
  exact addFields_append_eq_ok_iff.2 ⟨w, queued, hField, hDrop'⟩

/-- The table of a class with one more field. What the field adds to the table that the first `i`
fields have made, and nothing else, is added to the table of the class. -/
theorem exists_table_insertField (hKeeps : c.KeepsIdentity f)
    (hAgain : b.document.DeclaresAgainAlike (c.swap (c.insertField i f))) (hFields : c.fields ≠ [])
    (h : (b.table built relation c name js).outcome = .ok (t, js')) :
    ∃ g v queued, (b.addFields built relation c g
        { ({ name } : Table).withPrimaryKey with keyGenerator := g } js (c.fields.take i)).outcome =
          .ok (v, queued) ∧
      ∀ w cs ks, ((b.revise (c.swap (c.insertField i f))).addFields built relation
          (c.insertField i f) g v queued [f]).outcome = .ok (w, queued) →
        v.Inserts cs ks w →
        (∀ own ∈ c.fields, own.isStored = true → own.columns.Disjoint (cs.map (·.name))) →
        (c.identityFields = [] → ∀ p ∈ (b.document.lineage c).toList, ∀ own ∈ p.fields,
          own.isStored = true → own.columns.Disjoint (cs.map (·.name))) →
        ∃ u, ((b.revise (c.swap (c.insertField i f))).table built relation (c.insertField i f) name
            js).outcome = .ok (u, js') ∧ t.Inserts cs ks u := by
  -- the stages of the table, of which only the fields see the new one
  rcases table_eq_ok_iff.1 h with
    ⟨hNone, -⟩ | ⟨-, g, own, u, hGenerator, hAdded, hInherit, hIndexes⟩
  · exact absurd hNone hFields
  obtain ⟨v, queued, hTake, hNext⟩ := exists_addFields_insertField hKeeps hAdded
  refine ⟨g, v, queued, hTake, fun w cs ks hField hInserts hOwn hAbove => ?_⟩
  -- the fields behind it are added to both tables
  obtain ⟨own', hAdded', hInserts'⟩ := hNext w cs ks hField hInserts hOwn
  have hSwap := ClassMapping.swap_self c (c.insertField i f)
  have hTable : ∃ u, ((b.revise (c.swap (c.insertField i f))).table built relation
      (c.swap (c.insertField i f) c) name js).outcome = .ok (u, js') ∧ t.Inserts cs ks u := by
    -- so are the inherited identity and the indexes
    refine exists_table_of_inserts (hKeeps.revision i) hAgain ?_ ?_ hAbove hGenerator ?_ hInserts'
      hInherit hIndexes
    · rw [hSwap]
      exact List.ne_nil_of_mem ClassMapping.mem_insertField
    · rw [hSwap]
      rfl
    · rw [hSwap]
      exact hAdded'
  rwa [hSwap] at hTable

end Blueprint

/-! ## The schema with the field -/

/-- The schema of a document with one more field in one of its classes. What the field adds to the
table that the first `i` fields have made, and nothing else, is added to the table of the class. -/
theorem Schema.exists_ofDocument_insertField {registry : KeyGeneratorRegistry}
    {settings : Settings} {catalog : TypeCatalog} {d : Document} {s : Schema} {c : ClassMapping}
    {name : String} {i : Nat} {f : FieldMapping}
    (hKeeps : c.KeepsIdentity f)
    (hAgain : d.DeclaresAgainAlike (c.swap (c.insertField i f))) (hFields : c.fields ≠ [])
    (h : (Schema.ofDocument registry settings catalog d).outcome = .ok s)
    {first last : List ClassMapping} (hSplit : d.classes = first ++ c :: last)
    (hMapped : c.mappedTable = some name) :
    ∃ before t after js g v queued, s.tables = before ++ t :: after ∧ t.name = name ∧
      (d.blueprint registry catalog).Queues
        ((first.filter (·.mappedTable.isSome)).flatMap (·.associations)) js ∧
      ((d.blueprint registry catalog).addFields before .oneToOne c g
        { ({ name } : Table).withPrimaryKey with keyGenerator := g } js (c.fields.take i)).outcome =
          .ok (v, queued) ∧
      ∀ w cs ks, (((d.insertField c i f).blueprint registry catalog).addFields before .oneToOne
          (c.insertField i f) g v queued [f]).outcome = .ok (w, queued) →
        v.Inserts cs ks w →
        (∀ own ∈ c.fields, own.isStored = true → own.columns.Disjoint (cs.map (·.name))) →
        (c.identityFields = [] → ∀ p ∈ (d.lineage c).toList, ∀ own ∈ p.fields,
          own.isStored = true → own.columns.Disjoint (cs.map (·.name))) →
        ∃ u, (Schema.ofDocument registry settings catalog (d.insertField c i f)).outcome =
            .ok ⟨s.name, before ++ u :: after⟩ ∧ t.Inserts cs ks u := by
  -- only the table of this class is another one
  obtain ⟨before, t, after, js, js', hTables, hQueues, hTable, hRevised⟩ :=
    Schema.exists_ofDocument_revise (hKeeps.revision i) hAgain
      (fun x hx => ClassMapping.swap_of_ne hx) h hSplit hMapped
  obtain ⟨g, v, queued, hTake, hNext⟩ :=
    Blueprint.exists_table_insertField hKeeps hAgain hFields hTable
  refine ⟨before, t, after, js, g, v, queued, hTables, Blueprint.name_of_table hTable, hQueues,
    hTake, fun w cs ks hField hInserts hOwn hAbove => ?_⟩
  obtain ⟨u, hTable', hInserts'⟩ := hNext w cs ks hField hInserts hOwn hAbove
  refine ⟨u, hRevised u hInserts'.subset_columnNames ?_, hInserts'⟩
  rw [ClassMapping.swap_self]
  exact hTable'

end MappingDdl
