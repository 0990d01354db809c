import MappingDdl.Mapping.Document

/-!
# Lineages — a class with the classes it extends

The lineage of a class lists the class, its parent, its parent's parent and so on, and says how the
chain ends: at a class that extends nothing, at the name of an unknown class, or at a class that is
already in the chain. Everything that walks up a chain is a recursion on this list.

Classes are told apart by name. The chain ends because every step takes one name off the names that
have not been met.
-/

namespace MappingDdl

/-- A class with the classes it extends, nearest first. -/
inductive Lineage
  /-- The class extends nothing. -/
  | root (c : ClassMapping)
  /-- The class extends a name that no class has. -/
  | unknownParent (c : ClassMapping) (parent : String)
  /-- The class extends a class that is already in the chain. -/
  | cycle (c : ClassMapping) (parent : String)
  | step (c : ClassMapping) (rest : Lineage)
  deriving Repr, Inhabited

namespace Lineage

/-- The first class of the chain. -/
def head : Lineage → ClassMapping
  | root c | unknownParent c _ | cycle c _ | step c _ => c

/-- The classes of the chain. -/
def toList : Lineage → List ClassMapping
  | root c | unknownParent c _ | cycle c _ => [c]
  | step c rest => c :: rest.toList

@[simp] theorem head_mem_toList (l : Lineage) : l.head ∈ l.toList := by
  cases l <;> simp [head, toList]

end Lineage

namespace Document

/-- The classes without those of one name. -/
def without (cs : List ClassMapping) (name : String) : List ClassMapping :=
  cs.filter (·.name != name)

theorem length_without_lt {cs : List ClassMapping} {name : String}
    (h : cs.any (·.name == name) = true) : (without cs name).length < cs.length := by
  rw [without]
  obtain ⟨c, hc, hn⟩ := List.any_eq_true.1 h
  exact List.length_filter_lt_length_iff_exists.2 ⟨c, hc, by simpa using hn⟩

/-- The chain from a class up, given the classes whose names have not been met. -/
def lineageFrom (d : Document) (unmet : List ClassMapping) (c : ClassMapping) : Lineage :=
  match given c.parent with
  | none => .root c
  | some name =>
    match d.class? name with
    | none => .unknownParent c name
    | some p =>
      -- a name that was met before closes a cycle
      if _h : unmet.any (·.name == p.name) = true then
        .step c (d.lineageFrom (without unmet p.name) p)
      else .cycle c p.name
termination_by unmet.length
decreasing_by exact length_without_lt _h

/-- The lineage of a class. -/
def lineage (d : Document) (c : ClassMapping) : Lineage :=
  d.lineageFrom (without d.classes c.name) c

theorem lineageFrom_root {d : Document} {unmet : List ClassMapping} {c : ClassMapping}
    (h : given c.parent = none) : d.lineageFrom unmet c = .root c := by
  rw [lineageFrom, h]

theorem lineage_root {d : Document} {c : ClassMapping} (h : given c.parent = none) :
    d.lineage c = .root c :=
  lineageFrom_root h

@[simp] theorem head_lineageFrom (d : Document) (unmet : List ClassMapping) (c : ClassMapping) :
    (d.lineageFrom unmet c).head = c := by
  unfold lineageFrom
  split
  · rfl
  · split
    · rfl
    · split <;> rfl

@[simp] theorem head_lineage (d : Document) (c : ClassMapping) : (d.lineage c).head = c :=
  head_lineageFrom d _ c

end Document

end MappingDdl
