import MappingDdl.Mapping.Document

/-!
# Structure — checks of a document that need no types

Class names are unique, and a class that extends another one names a class of the document. The
problems are listed class by class.
-/

namespace MappingDdl

/-- A fault in the structure of a document. -/
inductive StructureProblem
  | duplicateClass (name : String)
  | unknownParent (name parent : String)
  deriving Repr, DecidableEq, Inhabited

/-- The wording of a structure problem. -/
def StructureProblem.message : StructureProblem → String
  | duplicateClass name => s!"Duplicate class name: {name}"
  | unknownParent name parent => s!"Class '{name}' extends unknown class '{parent}'"

namespace Document

/-- The problems of classes, given the names of all classes and of those already passed. -/
def classProblems (names : List String) : List String → List ClassMapping → List StructureProblem
  | _, [] => []
  | seen, c :: rest =>
    (if seen.contains c.name then [.duplicateClass c.name] else []) ++
    (match given c.parent with
      | some p => if names.contains p then [] else [.unknownParent c.name p]
      | none => []) ++
    classProblems names (c.name :: seen) rest

/-- The structure problems of a document. -/
def structureProblems (d : Document) : List StructureProblem :=
  classProblems (d.classes.map (·.name)) [] d.classes

theorem classProblems_eq_nil_iff {names seen : List String} {cs : List ClassMapping} :
    classProblems names seen cs = [] ↔
      (cs.map (·.name)).Nodup ∧ (∀ c ∈ cs, c.name ∉ seen) ∧
        ∀ c ∈ cs, ∀ p, given c.parent = some p → p ∈ names := by
  induction cs generalizing seen with
  | nil => simp [classProblems]
  | cons c rest ih =>
    have hSeen : (if seen.contains c.name then [StructureProblem.duplicateClass c.name] else []) =
        [] ↔ c.name ∉ seen := by
      split <;> simp_all
    have hParent : (match given c.parent with
        | some p => if names.contains p then [] else [StructureProblem.unknownParent c.name p]
        | none => []) = [] ↔ ∀ p, given c.parent = some p → p ∈ names := by
      cases given c.parent <;> simp
    rw [classProblems, List.append_eq_nil_iff, List.append_eq_nil_iff, hSeen, hParent, ih,
      List.forall_mem_cons, List.forall_mem_cons]
    simp only [List.map_cons, List.nodup_cons, List.mem_map, List.mem_cons, not_or, not_exists,
      not_and]
    -- a name that is met again is one of those seen by then
    constructor
    · rintro ⟨⟨hNew, hFirst⟩, hNodup, hOthers, hRest⟩
      exact ⟨⟨fun c' hc' => (hOthers c' hc').1, hNodup⟩,
        ⟨hNew, fun c' hc' => (hOthers c' hc').2⟩, hFirst, hRest⟩
    · rintro ⟨⟨hApart, hNodup⟩, ⟨hNew, hOthers⟩, hFirst, hRest⟩
      exact ⟨⟨hNew, hFirst⟩, hNodup, fun c' hc' => ⟨hApart c' hc', hOthers c' hc'⟩, hRest⟩

/-- A document is sound if class names are distinct and every parent is a class of it. -/
theorem structureProblems_eq_nil_iff {d : Document} :
    d.structureProblems = [] ↔ (d.classes.map (·.name)).Nodup ∧
      ∀ c ∈ d.classes, ∀ p, given c.parent = some p → p ∈ d.classes.map (·.name) := by
  simp [structureProblems, classProblems_eq_nil_iff]

end Document

end MappingDdl
