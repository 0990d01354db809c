import MappingDdl.Proofs.Appending
import MappingDdl.Proofs.ErrorKinds

/-!
# Unmentioned classes — a class that a build does not see

A class without a table gets no table, and what it declares is looked at only on the way from
another class: as the class that a field refers to, or as one that is extended. A document that does
neither (`Document.Ignores`) is built with the class as it is built without it, and where the build
fails, it fails for the same reason.

Main results:

* `Document.Ignores.structureProblems_insert` — the class brings in no structure problem.
* `Blueprint.outcome_addClasses_filter` — classes without a table are passed over.
* `Schema.outcome_ofDocument_insert` — the build gives the same schema, or the same error.
-/

namespace MappingDdl

/-! ## A class among the others -/

namespace Document

/-- The document with the class `u` at position `i`, or at the end if there are fewer classes. -/
def insert (d : Document) (i : Nat) (u : ClassMapping) : Document :=
  { d with classes := d.classes.take i ++ u :: d.classes.drop i }

/-- No class of the document has the name of `u`, refers to it or extends it. -/
structure Ignores (d : Document) (u : ClassMapping) : Prop extends d.IsFresh u.name where
  parents : ∀ c ∈ d.classes, given c.parent ≠ some u.name

variable {d : Document} {u : ClassMapping} {i : Nat}

/-- The larger document has the class and those of the document. -/
theorem classes_insert_perm : (d.insert i u).classes.Perm (u :: d.classes) := by
  have hMiddle : (d.classes.take i ++ u :: d.classes.drop i).Perm
      (u :: (d.classes.take i ++ d.classes.drop i)) := List.perm_middle
  rwa [List.take_append_drop] at hMiddle

/-- A class that is filtered out is not missed. -/
theorem filter_classes_insert {p : ClassMapping → Bool} (h : p u = false) :
    (d.insert i u).classes.filter p = d.classes.filter p := by
  have hSkip : (u :: d.classes.drop i).filter p = (d.classes.drop i).filter p :=
    List.filter_cons_of_neg (by simp [h])
  show (d.classes.take i ++ u :: d.classes.drop i).filter p = _
  rw [List.filter_append, hSkip, ← List.filter_append, List.take_append_drop]

/-- Another name is found as before. -/
theorem class?_insert {name : String} (h : name ≠ u.name) :
    (d.insert i u).class? name = d.class? name := by
  have hOther : (u.name == name) = false := by simpa using h.symm
  -- the first class of a name is the head of those that have it
  show (d.insert i u).classes.find? _ = d.classes.find? _
  rw [← List.head?_filter, ← List.head?_filter, filter_classes_insert hOther]

/-- The two documents agree on the classes that were there. -/
theorem Ignores.agrees (h : d.Ignores u) : d.Agrees (d.insert i u) where
  subset _ hc := classes_insert_perm.mem_iff.2 (List.mem_cons_of_mem _ hc)
  name c hc := class?_insert (h.names c hc)
  parent c hc _ hGiven := class?_insert fun hName => h.parents c hc (hName ▸ hGiven)
  type c hc f hf := class?_insert (h.types c hc f hf)

/-! ## Structure problems -/

/-- The problems of classes are found one after the other. Those behind have passed the names of
those in front. -/
theorem classProblems_append {names seen : List String} {cs cs' : List ClassMapping} :
    classProblems names seen (cs ++ cs') = classProblems names seen cs ++
      classProblems names ((cs.map (·.name)).reverse ++ seen) cs' := by
  induction cs generalizing seen with
  | nil => rfl
  | cons c rest ih =>
    rw [List.cons_append, classProblems, classProblems, ih]
    simp only [List.map_cons, List.reverse_cons, List.append_assoc, List.singleton_append]

/-- Of the names that are taken and of those passed, the problems of classes depend on the names
that these classes have and extend. -/
theorem classProblems_congr {names names' seen seen' : List String} {cs : List ClassMapping}
    (hNames : ∀ c ∈ cs, ∀ p, given c.parent = some p → (p ∈ names' ↔ p ∈ names))
    (hSeen : ∀ c ∈ cs, c.name ∈ seen' ↔ c.name ∈ seen) :
    classProblems names' seen' cs = classProblems names seen cs := by
  induction cs generalizing seen seen' with
  | nil => rfl
  | cons c rest ih =>
    -- the first class has the same problems
    have hFirst : seen'.contains c.name = seen.contains c.name := by
      rw [Bool.eq_iff_iff, List.contains_iff_mem, List.contains_iff_mem]
      exact hSeen c List.mem_cons_self
    -- the rest passes one name more in both cases
    have hRest : classProblems names' (c.name :: seen') rest =
        classProblems names (c.name :: seen) rest := by
      refine ih (fun c' hc' => hNames c' (List.mem_cons_of_mem _ hc')) fun c' hc' => ?_
      rw [List.mem_cons, List.mem_cons, hSeen c' (List.mem_cons_of_mem _ hc')]
    rw [classProblems, classProblems, hFirst, hRest]
    cases hGiven : given c.parent with
    | none => rfl
    -- its parent is known in both cases, or in none
    | some p =>
      have hTaken : names'.contains p = names.contains p := by
        rw [Bool.eq_iff_iff, List.contains_iff_mem, List.contains_iff_mem]
        exact hNames c List.mem_cons_self p hGiven
      simp only [hTaken]

/-- A class brings in no problem, and hides none, where its name is new and its parent is known. -/
theorem classProblems_insert {names seen : List String} {before after : List ClassMapping}
    (hNew : ∀ c ∈ before ++ after, c.name ≠ u.name) (hSeen : u.name ∉ seen)
    (hParent : ∀ p, given u.parent = some p → p ∈ names) :
    classProblems names seen (before ++ u :: after) =
      classProblems names seen (before ++ after) := by
  -- the class itself has no problem
  have hOwn : classProblems names ((before.map (·.name)).reverse ++ seen) [u] = [] := by
    refine classProblems_eq_nil_iff.2 ⟨List.nodup_singleton _, ?_, ?_⟩
    · intro c hc hMem
      rw [List.mem_singleton.1 hc, List.mem_append, List.mem_reverse] at hMem
      rcases hMem with hBefore | hEarlier
      · obtain ⟨c', hc', hName⟩ := List.mem_map.1 hBefore
        exact hNew c' (List.mem_append_left _ hc') hName
      · exact hSeen hEarlier
    · intro c hc p hGiven
      exact hParent p (List.mem_singleton.1 hc ▸ hGiven)
  -- those behind the class pass its name, which none of them has
  have hBehind : classProblems names
      (([u].map (·.name)).reverse ++ ((before.map (·.name)).reverse ++ seen)) after =
        classProblems names ((before.map (·.name)).reverse ++ seen) after := by
    refine classProblems_congr (fun _ _ _ _ => Iff.rfl) fun c hc => ?_
    have hOther : c.name ≠ u.name := hNew c (List.mem_append_right _ hc)
    simp [hOther]
  rw [List.append_cons, List.append_assoc, classProblems_append, classProblems_append, hOwn,
    hBehind, List.nil_append, classProblems_append]

/-- An ignored class that extends nothing, or a class of the document, changes no structure problem
of the document. -/
theorem Ignores.structureProblems_insert (h : d.Ignores u)
    (hParent : ∀ p, given u.parent = some p → p ∈ d.classes.map (·.name)) :
    (d.insert i u).structureProblems = d.structureProblems := by
  have hMem (name : String) : name ∈ (d.insert i u).classes.map (·.name) ↔
      name = u.name ∨ name ∈ d.classes.map (·.name) := by
    rw [(classes_insert_perm.map _).mem_iff, List.map_cons, List.mem_cons]
  have hSplit : d.classes.take i ++ d.classes.drop i = d.classes := List.take_append_drop i _
  calc (d.insert i u).structureProblems
      -- the class itself brings no problem
      = classProblems ((d.insert i u).classes.map (·.name)) [] d.classes := by
        refine (classProblems_insert ?_ List.not_mem_nil ?_).trans (by rw [hSplit])
        · rw [hSplit]
          exact h.names
        · intro p hGiven
          exact (hMem p).2 (Or.inr (hParent p hGiven))
    _ = d.structureProblems := by
        -- and the others extend it as little as it has their names
        refine classProblems_congr (fun c hc p hGiven => ?_) fun _ _ => Iff.rfl
        rw [hMem]
        exact or_iff_right fun hName => h.parents c hc (hName ▸ hGiven)

end Document

/-! ## Tables -/

namespace Blueprint

variable {b : Blueprint} {d' : Document} {u : ClassMapping}

/-- Classes without a table are passed over. -/
theorem outcome_addClasses_filter {s : Schema} {js cs : List ClassMapping} :
    (b.addClasses s js (cs.filter (·.mappedTable.isSome))).outcome =
      (b.addClasses s js cs).outcome := by
  induction cs generalizing s js with
  | nil => rfl
  | cons c rest ih =>
    cases hMapped : c.mappedTable with
    | none =>
      rw [List.filter_cons_of_neg (by simp [hMapped]), ih, addClasses, hMapped]
      simp only [outcome_debug_bind]
    | some name =>
      rw [List.filter_cons_of_pos (by simp [hMapped]), addClasses, addClasses, hMapped]
      -- the table is the same, and so is the schema that the rest is added to
      simp only [Traced.outcome_bind, ih]

/-- A schema has the tables of the classes, and then those of the junctions that they queue. -/
theorem outcome_schema {name : Option String} :
    (b.schema name).outcome = (b.addClasses ⟨name, []⟩ [] b.document.classes).outcome.bind
      fun p => (b.addJunctions p.1 p.2).outcome := by
  rw [schema, Traced.outcome_bind]
  congr 1
  funext ⟨s, js⟩
  rw [Traced.outcome_bind]
  cases (b.addJunctions s js).outcome <;> rfl

/-- Where the documents agree, and the larger one has only more classes without a table, they have
the same schema. -/
theorem outcome_schema_on {name : Option String} (h : b.document.Agrees d')
    (hMapped : d'.classes.filter (·.mappedTable.isSome) =
      b.document.classes.filter (·.mappedTable.isSome)) :
    ((b.on d').schema name).outcome = (b.schema name).outcome := by
  -- the classes with a table are the same, and the rest is passed by
  have hClasses : ((b.on d').addClasses ⟨name, []⟩ [] d'.classes).outcome =
      (b.addClasses ⟨name, []⟩ [] b.document.classes).outcome := by
    rw [← outcome_addClasses_filter, hMapped, outcome_addClasses_filter,
      addClasses_on h (List.Subset.refl _)]
  rw [outcome_schema, outcome_schema, document_on, hClasses]
  cases hOutcome : (b.addClasses ⟨name, []⟩ [] b.document.classes).outcome with
  | error e => simp only [Except.bind]
  | ok p =>
    -- the junctions are those that the classes have queued
    have hQueues : b.Queues b.document.associations p.2 :=
      (builds_of_addClasses .nil .nil hOutcome).2
    show ((b.on d').addJunctions p.1 p.2).outcome = (b.addJunctions p.1 p.2).outcome
    rw [addJunctions_on h (Treats.of_queues h hQueues)]

end Blueprint

/-! ## Schemas -/

section Schema

variable {registry : KeyGeneratorRegistry} {settings : Settings} {catalog : TypeCatalog}
  {d : Document} {u : ClassMapping}

/-- A document with structure problems fails with these. -/
theorem Schema.ofDocument_of_problems {p : StructureProblem} {ps : List StructureProblem}
    (h : d.structureProblems = p :: ps) :
    Schema.ofDocument registry settings catalog d = .fail (.invalidMapping (p :: ps)) := by
  unfold Schema.ofDocument
  rw [h]

/-- A sound document registers its key generators, and is built. -/
theorem Schema.ofDocument_of_sound (h : d.structureProblems = []) :
    Schema.ofDocument registry settings catalog d =
      (registry.reset.load d.keyGenerators).2.mapError .keyGenerator >>= fun _ =>
        (d.blueprint registry catalog).schema (given (some settings.schemaName)) := by
  unfold Schema.ofDocument
  rw [h]
  rfl

/-- **An unmentioned class without a table is invisible.** Wherever it comes into a document, the
build gives the same schema, or the same error. What the class declares does not matter. -/
theorem Schema.outcome_ofDocument_insert (hUnmapped : u.mappedTable = none) (hIgnores : d.Ignores u)
    (hParent : ∀ p, given u.parent = some p → p ∈ d.classes.map (·.name)) (i : Nat) :
    (Schema.ofDocument registry settings catalog (d.insert i u)).outcome =
      (Schema.ofDocument registry settings catalog d).outcome := by
  have hProblems : (d.insert i u).structureProblems = d.structureProblems :=
    hIgnores.structureProblems_insert hParent
  -- and in the build it is never asked for
  have hSchema (name : Option String) :
      (((d.insert i u).blueprint registry catalog).schema name).outcome =
        ((d.blueprint registry catalog).schema name).outcome :=
    Blueprint.outcome_schema_on (b := d.blueprint registry catalog) hIgnores.agrees
      (Document.filter_classes_insert (by rw [hUnmapped]; rfl))
  cases hSound : d.structureProblems with
  -- both documents fail with the same problems
  | cons p rest =>
    rw [ofDocument_of_problems (hProblems.trans hSound), ofDocument_of_problems hSound]
  | nil =>
    -- the key generators are those of the document, with the class and without it
    have hKeys : (d.insert i u).keyGenerators = d.keyGenerators := rfl
    rw [ofDocument_of_sound (hProblems.trans hSound), ofDocument_of_sound hSound, hKeys]
    simp only [Traced.outcome_bind, hSchema]

/-- A stray class extends an item. It has an identity that no type is known for, and a junction
without a name. -/
def ClassMapping.stray : ClassMapping where
  name := "Stray"
  parent := some "Item"
  identity := ["self"]
  fields :=
    [{ name := "self", type := "Stray", columns := ["self_id"] },
     { name := "others", type := "Nowhere", manyTable := some "" }]

/-- It shows neither in a schema nor in an error. -/
theorem Schema.outcome_insert_stray :
    (∃ s, Schema.ofSample.outcome = .ok s ∧
      (Schema.ofDocument (.initial .generic) {} (Dialect.generic.catalog {})
        (Document.sample.insert 2 .stray)).outcome = .ok s) ∧
    (Schema.ofDocument (.initial .generic) {} (Dialect.generic.catalog {})
      (Document.priced.insert 0 .stray)).outcome = .error (.unreadableType .malformed) := by
  obtain ⟨s, -, -, -, hSample, -⟩ := Schema.exists_ofSample
  have hIgnored : Document.sample.Ignores .stray := ⟨⟨by decide, by decide⟩, by decide⟩
  have hIgnored' : Document.priced.Ignores .stray := ⟨⟨by decide, by decide⟩, by decide⟩
  refine ⟨⟨s, hSample, ?_⟩, ?_⟩
  · rw [Schema.outcome_ofDocument_insert rfl hIgnored (by decide) 2]
    exact hSample
  · rw [Schema.outcome_ofDocument_insert rfl hIgnored' (by decide) 0]
    exact Schema.outcome_ofPriced

end Schema

end MappingDdl
