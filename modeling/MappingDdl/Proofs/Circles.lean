import MappingDdl.Proofs.Failures

/-!
# Circles — classes that extend each other

The merge of an inherited identity is what finds out that classes extend each other in a circle. It
walks up the chain from each mapped class with fields, and ends at the first class with identity
columns of its own. So it comes to the circle exactly where no class of the chain before the last
one has any (`Lineage.ReachesCircle`); a class that has some keeps the circle from being seen.

Main results:

* `Schema.circle_stops_build` — a circle that a walk comes to stops the build, and nothing else is
  taken for one.
-/

namespace MappingDdl

/-- A merge that succeeds has come to no circle. -/
theorem Blueprint.not_reachesCircle_of_inherit {b : Blueprint} {t t' : Table} {l : Lineage}
    (h : (b.inherit t l).outcome = .ok t') : ¬ l.ReachesCircle := by
  induction l generalizing t with
  | root =>
    rintro ⟨hCircular, -⟩
    cases hCircular
  | unknownParent => cases h
  | cycle => cases h
  | step c rest ih =>
    intro hReaches
    obtain ⟨hOwn, hAbove⟩ := Lineage.reachesCircle_step_iff.1 hReaches
    -- the merge went on to the parent, or it stopped at an identity of the class
    rcases inherit_step_eq_ok h with ⟨-, g, u, -, hRest⟩ | ⟨hSome, -, -⟩
    · exact ih hRest hAbove
    · exact hSome hOwn

section Schema

variable {registry : KeyGeneratorRegistry} {settings : Settings} {catalog : TypeCatalog}
  {d : Document}

/-- Where the build of a document fails for anything but its structure, the structure is sound. -/
theorem Schema.structureProblems_eq_nil_of_error {e : SchemaError}
    (h : (Schema.ofDocument registry settings catalog d).outcome = .error e)
    (hOther : ∀ problems, e ≠ .invalidMapping problems) : d.structureProblems = [] := by
  unfold Schema.ofDocument at h
  split at h
  · next hSound => exact hSound
  · next problems _ =>
    cases h
    exact absurd rfl (hOther _)

/-- **Circles of extending.** A document has no schema where a mapped class with fields comes back
to a class of its chain, and no class of the chain before the last one has identity columns of its
own. A build fails for a circle only where a class comes back in this way. -/
theorem Schema.circle_stops_build :
    (∀ c ∈ d.classes, c.mappedTable.isSome = true → c.fields ≠ [] → d.ComesBack c →
      (∀ above ∈ (d.lineage c).inner, above.ownIdentityColumns = []) →
      ∀ s, (Schema.ofDocument registry settings catalog d).outcome ≠ .ok s) ∧
    ∀ through cls, (Schema.ofDocument registry settings catalog d).outcome =
        .error (.mapping (.circularExtends through cls)) →
      ∃ c ∈ d.classes, d.ComesBack c ∧
        ∀ above ∈ (d.lineage c).inner, above.ownIdentityColumns = [] := by
  refine ⟨fun c hc hMapped hFields hBack hNone s h => ?_, fun through cls h => ?_⟩
  -- a table would have taken the walk up to the circle
  · have hSound := (Schema.ofDocument_eq_ok_iff.1 h).1
    obtain ⟨name, hName⟩ := Option.isSome_iff_exists.1 hMapped
    obtain ⟨b, js, rfl, -, -, hBuilds⟩ := Schema.exists_builds_of_ofDocument h
    obtain ⟨t, built, js₀, js₁, -, hTable⟩ := hBuilds.exists_table_of_class hc hName
    obtain ⟨g, u, w, -, hInherit, -⟩ := Blueprint.contributed_of_table hTable hFields
    have hCircular := (Document.isCircular_lineage_iff hSound hc).2 hBack
    exact Blueprint.not_reachesCircle_of_inherit hInherit ⟨hCircular, hNone⟩
  -- an error that speaks of a circle comes from a walk, and not from the structure
  · have hSound : d.structureProblems = [] :=
      Schema.structureProblems_eq_nil_of_error h fun problems hEq => by cases hEq
    obtain ⟨c, hc, hCircular, hNone⟩ := Schema.explained_of_error h
    exact ⟨c, hc, (Document.isCircular_lineage_iff hSound hc).1 hCircular, hNone⟩

/-- A leaf extends a node, which is in a circle with a branch. Only the branch has an identity. -/
def Document.circled : Document where
  classes :=
    [{ name := "Leaf"
       table := some "leaf"
       parent := some "Node"
       fields := [{ name := "label", type := "integer", columns := ["label"] }] },
     { name := "Node"
       parent := some "Branch" },
     { name := "Branch"
       parent := some "Node"
       fields := [{ name := "id", type := "integer", identity := true, columns := ["id"] }] }]

/-- The walk from the leaf comes to the circle at the branch, whose identity does not end it. -/
theorem Schema.circle_stops_circled :
    (∀ s, (Schema.ofDocument (.initial .generic) {} (Dialect.generic.catalog {})
      .circled).outcome ≠ .ok s) ∧
    ∃ c ∈ Document.circled.classes, Document.circled.ComesBack c ∧
      ∀ above ∈ (Document.circled.lineage c).inner, above.ownIdentityColumns = [] := by
  have hLeaf : Document.circled.classes[0] ∈ Document.circled.classes := List.getElem_mem _
  have hBack : Document.circled.ComesBack Document.circled.classes[0] :=
    (Document.isCircular_lineage_iff (by decide) hLeaf).1 (by decide +kernel)
  have hError : (Schema.ofDocument (.initial .generic) {} (Dialect.generic.catalog {})
      .circled).outcome = .error (.mapping (.circularExtends "Node" "Branch")) :=
    error?_eq_some_iff.1 (by decide +kernel)
  refine ⟨?_, Schema.circle_stops_build.2 _ _ hError⟩
  exact Schema.circle_stops_build.1 _ hLeaf rfl (List.cons_ne_nil _ _) hBack (by decide +kernel)

/-- Two classes extend each other, and each of them has an identity of its own. -/
def Document.entangled : Document where
  classes :=
    [{ name := "A"
       table := some "a"
       parent := some "B"
       fields := [{ name := "id", type := "integer", identity := true, columns := ["id"] }] },
     { name := "B"
       table := some "b"
       parent := some "A"
       fields := [{ name := "id", type := "integer", identity := true, columns := ["id"] }] }]

/-- The identity of either class ends the walk before the circle, so both get their tables. -/
theorem Schema.entangled_has_tables :
    (∀ c ∈ Document.entangled.classes,
      c.mappedTable.isSome = true ∧ c.fields ≠ [] ∧ Document.entangled.ComesBack c) ∧
    ∃ s, (Schema.ofDocument (.initial .generic) {} (Dialect.generic.catalog {})
      .entangled).outcome = .ok s ∧ s.tableNames = ["a", "b"] := by
  refine ⟨fun c hc => ?_, ?_⟩
  -- either class comes back to itself
  · have hCircular : (Document.entangled.lineage c).isCircular = true := by
      revert c
      decide +kernel
    have hBack := (Document.isCircular_lineage_iff (by decide) hc).1 hCircular
    rcases List.mem_pair.1 hc with rfl | rfl
    · exact ⟨rfl, List.cons_ne_nil _ _, hBack⟩
    · exact ⟨rfl, List.cons_ne_nil _ _, hBack⟩
  · refine exists_ok_of_toOption_map ?_
    decide +kernel

end Schema

end MappingDdl
